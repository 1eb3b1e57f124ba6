import EntitySql.Binary64.Shortest
/-!
# Layout of floating point numbers

A shortest decimal is written positionally or with an exponent. What a text may choose freely
stands in one record, `FloatLayout`.
-/

namespace EntitySql

/-- The choices of a text for floating point numbers. -/
structure FloatLayout where
  /-- Which of two equally near shortest decimals is written. -/
  tie : Tie
  /-- A whole number in positional form ends in a point and a zero. -/
  wholePoint : Bool
  /-- A positive exponent is written with a plus sign. -/
  exponentPlus : Bool

namespace ScaledDigits

/-- The exponent of the first digit. -/
def leading (d : ScaledDigits) : Int := d.exponent + (Numeral.digits d.digits).length - 1

/-- The number without an exponent: zeros fill the places up to the point. -/
def positional (layout : FloatLayout) (d : ScaledDigits) : List Char :=
  let cs := Numeral.digits d.digits
  if 0 ≤ d.exponent then
    cs ++ List.replicate d.exponent.toNat '0' ++ (if layout.wholePoint then ['.', '0'] else [])
  else
    let places := d.exponent.natAbs
    if places < cs.length then
      cs.take (cs.length - places) ++ '.' :: cs.drop (cs.length - places)
    else
      '0' :: '.' :: (List.replicate (places - cs.length) '0' ++ cs)

/-- The number with one digit before the point and an exponent. -/
def scientific (layout : FloatLayout) (d : ScaledDigits) : List Char :=
  let fraction := (Numeral.digits d.digits).drop 1
  (Numeral.digits d.digits).take 1 ++ (if fraction.isEmpty then [] else '.' :: fraction) ++
    'e' :: ((if d.leading < 0 then ['-'] else if layout.exponentPlus then ['+'] else []) ++
      Numeral.digits d.leading.natAbs)

end ScaledDigits

/-- The sign that is written before a magnitude. -/
def signChars (negative : Bool) : List Char := if negative then ['-'] else []

end EntitySql
