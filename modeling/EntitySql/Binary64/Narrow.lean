import EntitySql.Binary64
/-!
# Narrowing to 32 bits

A 64-bit float is rounded to the nearest 32-bit one, a tie going to the even neighbour, and is
widened again. A 32-bit float has 24 bits of mantissa and powers of two from `2 ^ -149` on; a number
that rounds to `2 ^ 128` or more becomes an infinity.
-/

namespace EntitySql.Binary64

/-- The number of low bits of a mantissa that a 32-bit float has no place for. -/
def surplusBits (d : Dyadic) : Nat := max (d.mantissa.log2 - 23) (-149 - d.exponent).toNat

/-- The mantissa rounded to what a 32-bit float has a place for, in the units that it had. -/
def narrowMantissa (d : Dyadic) : Nat :=
  let unit := Nat.pow 2 (surplusBits d)
  roundedQuotient unit d.mantissa * unit

/-- The bits of a number rounded to 32 bits, without its sign. The exponent field of `2 ^ 128` is
1151, and that of an infinity 2047. -/
def narrowMagnitude (d : Dyadic) : Nat :=
  let mantissa := narrowMantissa d
  -- the leading one of the mantissa adds one to the exponent field
  let magnitude :=
    if mantissa = 0 then 0 else (d.exponent + 1074).toNat * fractionCount + mantissa
  if 1151 * fractionCount ≤ magnitude then 2047 * fractionCount else magnitude

/-- The float rounded to 32 bits and widened again. What is not finite stays as it is. -/
def narrow (x : Float) : Float :=
  match dyadic? x with
  | none => x
  | some d =>
    let sign := if d.negative then 9223372036854775808 else 0
    Float.ofBits (UInt64.ofNat (sign + narrowMagnitude d))

end EntitySql.Binary64
