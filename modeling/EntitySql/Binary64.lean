/-!
# Floating point numbers as exact numbers

A finite 64-bit float is an integer times a power of two. `dyadic?` decodes its bits into that
number, and `ofNat` rounds a natural number to the nearest float, a tie to the even neighbour.
-/

namespace EntitySql

/-- The number `mantissa * 2 ^ exponent`, with a sign that a zero keeps too. -/
structure Dyadic where
  negative : Bool
  mantissa : Nat
  exponent : Int
  deriving DecidableEq, Repr

namespace Binary64

/-- The number of fraction bits. -/
def fractionBits : Nat := 52

/-- The number of fractions, `2 ^ 52`. -/
def fractionCount : Nat := 4503599627370496

/-- The number that 64 bits stand for: a sign bit, eleven exponent bits, and the fraction, to
which a normal number adds a leading one. Bits of an infinity or of no number give `none`. -/
def ofBits? (bits : Nat) : Option Dyadic :=
  let negative : Bool := bits / 9223372036854775808 % 2 == 1
  let field : Nat := bits / fractionCount % 2048
  let fraction : Nat := bits % fractionCount
  if field = 2047 then none
  else if field = 0 then some ⟨negative, fraction, -1074⟩
  else some ⟨negative, fractionCount + fraction, (field : Int) - 1075⟩

/-- The exact value of a finite float. -/
def dyadic? (x : Float) : Option Dyadic := ofBits? x.toBits.toNat

/-- The quotient `n / unit` rounded to the nearest integer, a tie going to the even neighbour. -/
def roundedQuotient (unit n : Nat) : Nat :=
  let below := n / unit
  let rest := n % unit
  if unit < 2 * rest || (unit == 2 * rest && below % 2 == 1) then below + 1 else below

/-- The bits of the positive float nearest to `n`, a tie going to the even neighbour; a carry out
of the fraction raises the exponent. -/
def bitsOfNat (n : Nat) : Nat :=
  if n = 0 then 0
  else
    let length := n.log2
    if length ≤ fractionBits then
      -- the leading one of the number adds one to the exponent field
      (length + 1022) * fractionCount + n * Nat.pow 2 (fractionBits - length)
    else
      let unit := Nat.pow 2 (length - fractionBits)
      (length + 1022) * fractionCount + roundedQuotient unit n

/-- The float nearest to a natural number below `2 ^ 1023`. -/
def ofNat (n : Nat) : Float := Float.ofBits (UInt64.ofNat (bitsOfNat n))

/-- The float nearest to an integer of magnitude below `2 ^ 1023`. -/
def ofInt (n : Int) : Float := if n < 0 then -ofNat n.natAbs else ofNat n.natAbs

end Binary64

end EntitySql
