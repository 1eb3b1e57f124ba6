import EntitySql.Binary64.Layout
import EntitySql.Decimal.Text
import EntitySql.Value
/-!
# Numeric literals

A numeric value is written into SQL as a numeral. The server accepts at most 38 digits, so a float
with more of them is written with an exponent.
-/

namespace EntitySql

/-- The greatest number of digits of a numeric literal. -/
def maxLiteralDigits : Nat := 38

/-- The number of decimal digits in a text. -/
def digitCount (cs : List Char) : Nat := (cs.filter fun c => (Numeral.digit? c).isSome).length

/-- Literals have no point after a whole number and no plus sign in an exponent, and of two equally
near shortest decimals they take the greater. -/
def literalLayout : FloatLayout := ⟨.up, false, false⟩

/-- The literal of a finite float. -/
def Dyadic.literalChars (d : Dyadic) : List Char :=
  let digits := d.shortest literalLayout.tie
  let plain := digits.positional literalLayout
  signChars d.negative ++
    if maxLiteralDigits < digitCount plain then digits.scientific literalLayout else plain

/-- The numeral of a numeric value, `none` for a value that has to be bound. -/
def Value.literal? : Value → Option String
  | .bool b => some (if b then "1" else "0")
  | .int n => some (Numeral.ofInt n.toInt)
  | .uint n => some (Numeral.ofNat n.toNat)
  | .float x => (Binary64.dyadic? x).map fun d => String.ofList d.literalChars
  | .decimal d => some d.toText
  | _ => none

end EntitySql
