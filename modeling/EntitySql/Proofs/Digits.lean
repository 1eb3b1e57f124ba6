import EntitySql.Proofs.Numeral
import EntitySql.Value.Literal
import Mathlib

/-! # Counting digits

A number below a power of ten has at most as many digits as the exponent. Digits that are written
one behind another denote what the first ones denote, moved by the places of the others, and zeros
in front change nothing.
-/

namespace EntitySql.Numeral

theorem length_digits (n : Nat) : (digits n).length = Nat.log 10 n + 1 := by
  induction n using digits.induct with
  | case1 n hn => rw [digits, if_pos hn, Nat.log_of_lt hn, List.length_singleton]
  | case2 n hn ih =>
      rw [digits, if_neg hn, List.length_append, ih, List.length_singleton,
        Nat.log_of_one_lt_of_le (by omega) (not_lt.mp hn)]

/-- A number below a power of ten has at most as many digits as the exponent. -/
theorem length_digits_le {n k : Nat} (hk : k ≠ 0) (h : n < 10 ^ k) : (digits n).length ≤ k := by
  rw [length_digits]
  exact Nat.log_lt_of_lt_pow' hk h

theorem length_paddedDigits_le {width n k : Nat} (hk : k ≠ 0) (hwidth : width ≤ k)
    (h : n < 10 ^ k) : (paddedDigits width n).length ≤ k := by
  have hdigits := length_digits_le hk h
  rw [paddedDigits, List.length_append, List.length_replicate]
  omega

theorem value_append (cs ds : List Char) :
    value (cs ++ ds) = value cs * 10 ^ ds.length + value ds := by
  induction ds using List.reverseRecOn with
  | nil => simp [value]
  | append_singleton ds c ih =>
      rw [← List.append_assoc, value_append_singleton, value_append_singleton, ih,
        List.length_append, List.length_singleton, pow_succ]
      ring

theorem value_cons (c : Char) (cs : List Char) :
    value (c :: cs) = (c.toNat - 48) * 10 ^ cs.length + value cs := by
  have hone : value [c] = c.toNat - 48 := by simp [value]
  rw [← hone, ← value_append, List.singleton_append]

theorem value_paddedDigits (width n : Nat) : value (paddedDigits width n) = n := by
  have hzeros : ∀ k, value (List.replicate k '0') = 0 := by
    intro k
    induction k with
    | zero => rfl
    | succ k ih =>
        rw [List.replicate_succ', value_append_singleton, ih]
        rfl
  rw [paddedDigits, value_append, hzeros, zero_mul, zero_add, value_digits]

theorem digit?_eq (c : Char) :
    digit? c = if c.isDigit = true then some (c.toNat - 48) else none := by
  unfold digit? Char.isDigit
  simp [Char.le_def, UInt32.le_iff_toNat_le]

theorem isSome_digit? (c : Char) : (digit? c).isSome = c.isDigit := by
  rw [digit?_eq]
  cases c.isDigit <;> rfl

end EntitySql.Numeral

namespace EntitySql

theorem digitCount_eq (cs : List Char) : digitCount cs = cs.countP Char.isDigit := by
  rw [digitCount, List.countP_eq_length_filter]
  simp only [Numeral.isSome_digit?]

/-- Of characters that are all digits each one counts. -/
theorem countP_isDigit_of_forall {cs : List Char} (h : ∀ c ∈ cs, c.isDigit = true) :
    cs.countP Char.isDigit = cs.length := List.countP_eq_length.mpr h

end EntitySql
