import EntitySql.Decimal
import EntitySql.Binary64
/-!
# Decimals and binary floats

A float becomes a decimal in 96-bit integer arithmetic: `m * 2 ^ e` is `m * 5 ^ (-e) * 10 ^ e`, so
the power of five is worked into the mantissa step by step, and then the places are cut down to
what a decimal holds and to the precision of a float. A decimal becomes a float by rounding its
whole part and its fraction apart.
-/

namespace EntitySql.Decimal

/-! ## From a float -/

/-- Multiplies by a power of five, halving and moving a ten out where the product would not fit. -/
def multiplyFives : (fives : Nat) → (mantissa : Nat) → (tens : Int) → Nat × Int
  | 0, m, tens => (m, tens)
  | k + 1, m, tens =>
    if m % 2 = 0 then multiplyFives k (m / 2) (tens + 1)
    else if 5 * m < mantissaBound then multiplyFives k (5 * m) tens
    else multiplyFives k (m / 2) (tens + 1)

/-- Divides by a power of five, doubling and moving a ten in as long as there is room for it. -/
def divideFives : (fives : Nat) → (mantissa : Nat) → (tens : Int) → Option (Nat × Int)
  | 0, m, tens => some (m, tens)
  | k + 1, m, tens =>
    if 2 * m < mantissaBound then divideFives k (2 * m) (tens - 1)
    -- too many tens are left for the fives to come: the number is out of range
    else if 2 * tens > k + 1 then none
    else divideFives k (m / 5) tens

/-- Multiplies by a power of ten, if the product fits. -/
def multiplyTens : (tens : Nat) → (mantissa : Nat) → Option Nat
  | 0, m => some m
  | k + 1, m => if 10 * m < mantissaBound then multiplyTens k (10 * m) else none

/-- Divides by ten and rounds a half up. -/
def roundTenth (m : Nat) : Nat := if 5 ≤ m % 10 then m / 10 + 1 else m / 10

/-- Removes `excess` places beyond the greatest scale; nothing left is a zero without places. -/
def limitScale : (excess : Nat) → (mantissa : Nat) → Nat × Nat
  | 0, m => (m, maxScale)
  | k + 1, m => if m / 10 = 0 then (0, 0) else limitScale k (roundTenth m)

/-- Removes places as long as the mantissa has more digits than a float vouches for. -/
def limitPrecision : (places : Nat) → (mantissa : Nat) → Nat × Nat
  | 0, m => (m, 0)
  | k + 1, m => if Binary64.fractionCount ≤ m then limitPrecision k (roundTenth m) else (m, k + 1)

/-- Removes places that hold a zero. -/
def trimPlaces : (places : Nat) → (mantissa : Nat) → Nat × Nat
  | 0, m => (m, 0)
  | k + 1, m => if m % 10 = 0 then trimPlaces k (m / 10) else (m, k + 1)

/-- The decimal of a non-zero `mantissa * 10 ^ tens`. -/
def ofTens? (negative : Bool) (mantissa : Nat) (tens : Int) : Option Decimal :=
  (multiplyTens tens.toNat mantissa).bind fun m =>
    let places := (-tens).toNat
    let (m, places) := if maxScale < places then limitScale (places - maxScale) m else (m, places)
    let (m, places) := limitPrecision places m
    let (m, places) := trimPlaces places m
    make? negative m places

/-- The decimal of an exact binary number, if it is in range. A zero keeps its sign. -/
def ofDyadic? (x : Dyadic) : Option Decimal :=
  if x.mantissa = 0 then make? x.negative 0 0
  else if x.exponent ≤ 0 then
    let (m, tens) := multiplyFives x.exponent.natAbs x.mantissa x.exponent
    ofTens? x.negative m tens
  else
    (divideFives x.exponent.natAbs x.mantissa x.exponent).bind fun (m, tens) =>
      ofTens? x.negative m tens

/-- The decimal of a finite float in range. -/
def ofFloat? (x : Float) : Option Decimal := (Binary64.dyadic? x).bind ofDyadic?

/-! ## To a float -/

/-- The product `r * a ^ n` in float arithmetic, by repeated squaring. -/
def floatPower (r a : Float) (n : Nat) : Float :=
  let r := if n % 2 = 1 then r * a else r
  if h : n / 2 = 0 then r else floatPower r (a * a) (n / 2)
termination_by n
decreasing_by omega

/-- The float of a decimal: exact parts are rounded to floats, added, and the sum is rounded to the
decimal's own places. -/
def toFloat (d : Decimal) : Float :=
  if d.scale = 0 then Binary64.ofInt d.signed
  else
    let whole := Binary64.ofNat (d.mantissa / Nat.pow 10 d.scale)
    let fraction :=
      Binary64.ofNat (d.mantissa % Nat.pow 10 d.scale) / Binary64.ofNat (Nat.pow 10 d.scale)
    let magnitude :=
      if fraction == 0 then whole
      else
        let power := floatPower 1 10 d.scale
        ((whole + fraction) * power).round / power
    if d.negative then -magnitude else magnitude

end EntitySql.Decimal
