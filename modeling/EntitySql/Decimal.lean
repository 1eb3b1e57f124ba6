/-!
# Decimal numbers

A decimal is a signed integer of at most 96 bits divided by a power of ten with at most 28 places.
The places are part of the number's identity: `1.0` and `1.00` are different decimals of one value.
-/

namespace EntitySql

/-- The first mantissa that does not fit, `2 ^ 96`. -/
abbrev Decimal.mantissaBound : Nat := 79228162514264337593543950336

/-- The greatest number of places. -/
abbrev Decimal.maxScale : Nat := 28

/-- The number `mantissa / 10 ^ scale`, with a sign that a zero may keep. -/
structure Decimal where
  negative : Bool
  mantissa : Nat
  scale : Nat
  mantissa_lt : mantissa < Decimal.mantissaBound
  scale_le : scale ≤ Decimal.maxScale
  deriving DecidableEq

namespace Decimal

/-- The decimal of these parts, if both are in range. -/
def make? (negative : Bool) (mantissa scale : Nat) : Option Decimal :=
  if h : mantissa < mantissaBound ∧ scale ≤ maxScale then
    some ⟨negative, mantissa, scale, h.1, h.2⟩
  else none

/-- As `make?`, but a zero loses its sign. -/
def ofParts? (negative : Bool) (mantissa scale : Nat) : Option Decimal :=
  make? (negative && mantissa != 0) mantissa scale

/-- The decimal of an integer of at most 96 bits. -/
def ofInt? (n : Int) : Option Decimal := make? (n < 0) n.natAbs 0

/-- The decimal zero. -/
def zero : Decimal := ⟨false, 0, 0, by decide, by decide⟩

/-- The mantissa with its sign. -/
def signed (d : Decimal) : Int := if d.negative then -(d.mantissa : Int) else d.mantissa

/-- The integer that the decimal is, if it has no fraction. -/
def toInt? (d : Decimal) : Option Int :=
  if d.mantissa % Nat.pow 10 d.scale = 0 then
    let magnitude := d.mantissa / Nat.pow 10 d.scale
    some (if d.negative then -(magnitude : Int) else magnitude)
  else none

/-- Drops the last `k` digits of `n` and rounds by the greatest of them. -/
def dropDigits (n k : Nat) : Nat :=
  if k = 0 then n else n / Nat.pow 10 k + if 5 ≤ n / Nat.pow 10 (k - 1) % 10 then 1 else 0

end Decimal

end EntitySql
