import EntitySql.Value.IntegerType
import Mathlib

/-! # The numbers of values

A decimal denotes a rational number, and with it booleans, integers and decimals all have a number.
An integer is taken out of a value exactly when it is the value's number.

Main statement: `Value.toInt?_eq_some_iff`.
-/

namespace EntitySql

/-- The number that a decimal denotes. -/
def Decimal.number (d : Decimal) : ℚ := d.signed / 10 ^ d.scale

/-- The number that a value denotes, where a boolean counts as zero or one. The numbers of floats
are not meant here. -/
def Value.number? : Value → Option ℚ
  | .bool b => some (if b then 1 else 0)
  | .int n => some n.toInt
  | .uint n => some n.toNat
  | .decimal d => some d.number
  | _ => none

theorem Decimal.number_eq_iff {d : Decimal} {n : Int} :
    d.number = n ↔ d.signed = n * 10 ^ d.scale := by
  have hne : (10 : ℚ) ^ d.scale ≠ 0 := by positivity
  rw [number, div_eq_iff hne]
  norm_cast

/-- A decimal without a fraction is the integer that it denotes, and no other decimal is one. -/
theorem Decimal.toInt?_eq_some_iff {d : Decimal} {n : Int} : d.toInt? = some n ↔ d.number = n := by
  have hpos : 0 < 10 ^ d.scale := by positivity
  have hne : (10 : Int) ^ d.scale ≠ 0 := by positivity
  rw [number_eq_iff]
  unfold toInt? signed
  rw [Nat.pow_eq]
  by_cases hdvd : 10 ^ d.scale ∣ d.mantissa
  · rcases hdvd with ⟨q, hq⟩
    rw [hq, if_pos (Nat.mul_mod_right _ _), Nat.mul_div_cancel_left q hpos, Option.some.injEq]
    push_cast
    split
    · rw [← mul_neg, mul_comm, mul_left_inj' hne]
    · rw [mul_comm, mul_left_inj' hne]
  · -- a fraction is left over, and the mantissa of an integer would leave none
    rw [if_neg (mt Nat.dvd_of_mod_eq_zero hdvd)]
    constructor
    · intro h
      cases h
    · intro h
      have hmantissa : (10 : Int) ^ d.scale ∣ d.mantissa := by
        split at h
        · exact ⟨-n, by linarith⟩
        · exact ⟨n, by linarith⟩
      exact absurd (by exact_mod_cast hmantissa) hdvd

/-- An integer is taken out of a value exactly when it is the value's number. -/
theorem Value.toInt?_eq_some_iff {v : Value} {n : Int} :
    v.toInt? = some n ↔ v.number? = some (n : ℚ) := by
  unfold toInt? number?
  cases v with
  | bool b => cases b <;> simp only [Option.some.injEq] <;> norm_cast
  | int m => simp only [Option.some.injEq, Int.cast_inj]
  | uint m =>
      simp only [Option.some.injEq]
      norm_cast
  | decimal d =>
      simp only [Option.some.injEq]
      exact Decimal.toInt?_eq_some_iff
  | _ => simp

end EntitySql
