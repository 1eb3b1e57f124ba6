import EntitySql.Decimal
import EntitySql.Text.Numeral
/-!
# Decimal text

A decimal is written with all its places. It is read from a plain numeral, or from a numeral with a
power of ten behind the letter e. Digits beyond what a decimal can hold are rounded away once the
point has been passed.
-/

namespace EntitySql.Decimal

/-! ## Writing -/

/-- The digits of the magnitude, at least one of them before the point. -/
def magnitudeChars (d : Decimal) : List Char :=
  let cs := Numeral.paddedDigits (d.scale + 1) d.mantissa
  if d.scale = 0 then cs else cs.take (cs.length - d.scale) ++ '.' :: cs.drop (cs.length - d.scale)

/-- The text of a decimal as characters. -/
def toChars (d : Decimal) : List Char := (if d.negative then ['-'] else []) ++ d.magnitudeChars

/-- The text of a decimal. -/
def toText (d : Decimal) : String := String.ofList d.toChars

/-! ## Reading a plain numeral -/

/-- What has been read of a numeral. -/
structure Partial where
  negative : Bool
  mantissa : Nat
  /-- The digits after the point so far. -/
  scale : Nat
  seenDigit : Bool
  seenPoint : Bool

/-- Ends a numeral at the first digit that is not kept: `c` decides the rounding, and a mantissa
that overflows by it gives up one more place. Nothing after `c` matters. -/
def Partial.round? (p : Partial) (c : Char) : Option Decimal :=
  let next? := if c = '_' ∨ c = '.' then some 0 else Numeral.digit? c
  next?.bind fun next =>
    if next < 5 then ofParts? p.negative p.mantissa p.scale
    else if p.mantissa + 1 < mantissaBound then ofParts? p.negative (p.mantissa + 1) p.scale
    else if p.scale = 0 then none
    else ofParts? p.negative ((p.mantissa + 5) / 10) (p.scale - 1)

/-- Reads the rest of a numeral. Digits may be grouped by underscores after the first. -/
def Partial.read? : Partial → List Char → Option Decimal
  | p, [] => if p.seenDigit then ofParts? p.negative p.mantissa p.scale else none
  | p, c :: cs =>
    if p.seenPoint ∧ maxScale ≤ p.scale then p.round? c
    else
      match Numeral.digit? c with
      | some digit =>
        if 10 * p.mantissa + digit < mantissaBound then
          Partial.read?
            { p with
              mantissa := 10 * p.mantissa + digit
              scale := if p.seenPoint then p.scale + 1 else 0
              seenDigit := true } cs
        -- digits may be given up behind the point only
        else if p.seenPoint then p.round? c
        else none
      | none =>
        if c = '.' ∧ !p.seenPoint then Partial.read? { p with seenPoint := true } cs
        else if c = '_' ∧ p.seenDigit then Partial.read? p cs
        else none

/-- Reads a numeral with at most one sign and at most one point. -/
def readPlain? : List Char → Option Decimal
  | '-' :: cs => Partial.read? ⟨true, 0, 0, false, false⟩ cs
  | '+' :: cs => Partial.read? ⟨false, 0, 0, false, false⟩ cs
  | cs => Partial.read? ⟨false, 0, 0, false, false⟩ cs

/-! ## Reading a power of ten -/

/-- The text before the first letter e of either case, and the text after it. -/
def splitExponent? : List Char → Option (List Char × List Char)
  | [] => none
  | c :: cs =>
    if c = 'e' ∨ c = 'E' then some ([], cs)
    else (splitExponent? cs).map fun (base, exponent) => (c :: base, exponent)

/-- Divides by `10 ^ k`: the places grow, and those beyond the greatest scale are rounded away. -/
def shiftRight? (d : Decimal) (k : Nat) : Option Decimal :=
  if d.scale + k ≤ maxScale then make? d.negative d.mantissa (d.scale + k)
  else make? d.negative (dropDigits d.mantissa (d.scale + k - maxScale)) maxScale

/-- Multiplies by `10 ^ k`: the places shrink, and with none left the mantissa grows. -/
def shiftLeft? (d : Decimal) (k : Nat) : Option Decimal :=
  if k ≤ d.scale then make? d.negative d.mantissa (d.scale - k)
  else ofParts? d.negative (d.mantissa * Nat.pow 10 (k - d.scale)) 0

/-- Reads an exponent of at most 28, without its minus sign. -/
def readExponent? (cs : List Char) : Option Nat :=
  match Numeral.readUnsigned 4294967296 cs with
  | .ok k => if k ≤ maxScale then some k else none
  | .error _ => none

/-- Reads a numeral followed by a power of ten. -/
def readScientific? (cs : List Char) : Option Decimal :=
  match splitExponent? cs with
  | none => none
  | some (base, exponent) =>
    (readPlain? base).bind fun d =>
      match exponent with
      | '-' :: magnitude => (readExponent? magnitude).bind d.shiftRight?
      | magnitude => (readExponent? magnitude).bind d.shiftLeft?

/-- Reads a decimal: a plain numeral, or one with a power of ten. -/
def ofChars? (cs : List Char) : Option Decimal := (readPlain? cs).orElse fun _ => readScientific? cs

/-- The decimal that a text denotes. -/
def ofText? (text : String) : Option Decimal := ofChars? text.toList

end EntitySql.Decimal
