import EntitySql.Binary64.Narrow
import Mathlib

/-! # Floats of 32 bits

A finite float has 32 bits when it is an integer of 24 bits times a power of two from `2 ^ -149` to
`2 ^ 104`. Rounding such a float to 32 bits changes nothing.

Main statement: `narrow_of_isSingle`.
-/

namespace EntitySql.Binary64

/-- A float that 32 bits hold. -/
def IsSingle (x : Float) : Prop :=
  ∀ d, dyadic? x = some d → ∃ m k : Nat,
    d.mantissa = m * 2 ^ k ∧ m < 2 ^ 24 ∧ -149 ≤ d.exponent + k ∧ d.exponent + k ≤ 104

/-- What is a multiple of the unit is not rounded. -/
theorem roundedQuotient_mul {unit : Nat} (hunit : 0 < unit) (q : Nat) :
    roundedQuotient unit (q * unit) = q := by
  have hne : unit ≠ 0 := hunit.ne'
  simp [roundedQuotient, Nat.mul_div_cancel q hunit, hne]

/-- A finite float is one below the normal ones, or has a mantissa with a leading one. -/
theorem ofBits?_cases {bits : Nat} {d : Dyadic} (h : ofBits? bits = some d) :
    d.negative = (bits / 9223372036854775808 % 2 == 1) ∧
      (bits / fractionCount % 2048 = 0 ∧ d.mantissa = bits % fractionCount ∧
          d.exponent = -1074 ∨
        bits / fractionCount % 2048 ≠ 0 ∧ d.mantissa = fractionCount + bits % fractionCount ∧
          d.exponent = (bits / fractionCount % 2048 : Nat) - 1075) := by
  unfold ofBits? at h
  simp only at h
  split at h
  · cases h
  · split at h
    · rename_i hfield
      obtain rfl := Option.some.inj h
      exact ⟨rfl, Or.inl ⟨hfield, rfl, rfl⟩⟩
    · rename_i hfield
      obtain rfl := Option.some.inj h
      exact ⟨rfl, Or.inr ⟨hfield, rfl, rfl⟩⟩

/-- The bits of a finite float are its sign, its exponent field and its fraction, in that order; a
mantissa with a leading one adds one to the exponent field. -/
theorem bits_of_ofBits? {bits : Nat} {d : Dyadic} (hbits : bits < 18446744073709551616)
    (h : ofBits? bits = some d) :
    (if d.negative then 9223372036854775808 else 0) +
      ((d.exponent + 1074).toNat * fractionCount + d.mantissa) = bits := by
  rcases ofBits?_cases h with ⟨hnegative, hform⟩
  simp only [hnegative, beq_iff_eq]
  unfold fractionCount at hform ⊢
  rcases hform with ⟨hfield, hmantissa, hexponent⟩ | ⟨hfield, hmantissa, hexponent⟩
  · have hnone : (d.exponent + 1074).toNat = 0 := by omega
    rw [hnone, Nat.zero_mul, Nat.zero_add]
    split <;> omega
  · split <;> omega

/-- A number with room for its mantissa keeps it. -/
theorem narrowMantissa_eq {d : Dyadic} {m k : Nat} (hmantissa : d.mantissa = m * 2 ^ k)
    (hm : m < 2 ^ 24) (hlow : -149 ≤ d.exponent + k) : narrowMantissa d = d.mantissa := by
  have hlog : d.mantissa.log2 - 23 ≤ k := by
    by_cases hzero : d.mantissa = 0
    · simp [hzero]
    · have hlt : d.mantissa < 2 ^ (24 + k) := by
        rw [hmantissa, Nat.pow_add]
        exact Nat.mul_lt_mul_of_pos_right hm (Nat.two_pow_pos k)
      have hlog2 := (Nat.log2_lt hzero).mpr hlt
      omega
  have hsurplus : surplusBits d ≤ k := by
    unfold surplusBits
    omega
  have hdvd : 2 ^ surplusBits d ∣ d.mantissa := by
    rw [hmantissa]
    exact (Nat.pow_dvd_pow 2 hsurplus).mul_left m
  rcases hdvd with ⟨q, hq⟩
  have hpos : 0 < 2 ^ surplusBits d := Nat.two_pow_pos _
  change roundedQuotient (2 ^ surplusBits d) d.mantissa * 2 ^ surplusBits d = d.mantissa
  rw [hq, Nat.mul_comm (2 ^ surplusBits d) q, roundedQuotient_mul hpos]

/-- A number below the normal ones is too small for a 32-bit float, unless it is zero. -/
theorem eq_zero_of_lt {n m k : Nat} (h : n = m * 2 ^ k) (hk : 925 ≤ k)
    (hn : n < fractionCount) : n = 0 := by
  by_contra hne
  have hm : 0 < m := by
    rcases Nat.eq_zero_or_pos m with rfl | hpos
    · exact absurd (h.trans (Nat.zero_mul _)) hne
    · exact hpos
  have hpow : 2 ^ 52 ≤ 2 ^ k := Nat.pow_le_pow_right (by decide) (by omega)
  have hle : 2 ^ k ≤ m * 2 ^ k := Nat.le_mul_of_pos_left _ hm
  unfold fractionCount at hn
  omega

/-- A mantissa with a leading one that 24 bits hold ends in 29 zeros. -/
theorem le_of_fractionCount_le {n m k : Nat} (h : n = m * 2 ^ k) (hm : m < 2 ^ 24)
    (hn : fractionCount ≤ n) : 29 ≤ k := by
  by_contra hk
  have hpow : 2 ^ k ≤ 2 ^ 28 := Nat.pow_le_pow_right (by decide) (by omega)
  have hlt : m * 2 ^ k < 2 ^ 24 * 2 ^ 28 := Nat.mul_lt_mul_of_lt_of_le hm hpow (by decide)
  unfold fractionCount at hn
  omega

theorem narrowMagnitude_eq {bits : Nat} {d : Dyadic} {m k : Nat} (hbits : ofBits? bits = some d)
    (hmantissa : d.mantissa = m * 2 ^ k) (hm : m < 2 ^ 24) (hlow : -149 ≤ d.exponent + k)
    (hhigh : d.exponent + k ≤ 104) :
    narrowMagnitude d = (d.exponent + 1074).toNat * fractionCount + d.mantissa := by
  have hfraction : bits % fractionCount < fractionCount := Nat.mod_lt _ (by decide)
  unfold narrowMagnitude
  rw [narrowMantissa_eq hmantissa hm hlow]
  rcases (ofBits?_cases hbits).2 with ⟨-, hvalue, hexponent⟩ | ⟨-, hvalue, hexponent⟩
  · have hzero : d.mantissa = 0 := eq_zero_of_lt hmantissa (by omega) (by omega)
    simp [hzero, hexponent, fractionCount]
  · -- the zeros that the mantissa ends in bound its power of two by that of the last 32-bit float
    have hk : 29 ≤ k := le_of_fractionCount_le hmantissa hm (by omega)
    have hpos : 0 < fractionCount := by decide
    have hne : d.mantissa ≠ 0 := by omega
    simp only [if_neg hne]
    unfold fractionCount at hvalue hfraction ⊢
    rw [if_neg (by omega)]

/-- A float of 32 bits is not changed by rounding to 32 bits. -/
theorem narrow_of_isSingle {x : Float} (h : IsSingle x) : narrow x = x := by
  unfold narrow
  cases hd : dyadic? x with
  | none => rfl
  | some d =>
      rcases h d hd with ⟨m, k, hmantissa, hm, hlow, hhigh⟩
      have hmagnitude := narrowMagnitude_eq hd hmantissa hm hlow hhigh
      have hbits := bits_of_ofBits? x.toBits.toNat_lt hd
      simp only
      rw [hmagnitude, hbits, UInt64.ofNat_toNat, Float.ofBits_toBits]

end EntitySql.Binary64
