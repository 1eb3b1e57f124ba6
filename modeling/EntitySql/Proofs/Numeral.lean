import EntitySql.Text.Numeral
import EntitySql.Placeholder

/-! # Numerals

The written digits of a number are decimal digits and determine the number, so the placeholders of
different numbers have different names.
-/

namespace EntitySql.Numeral

/-- The number that digits denote. -/
def value (cs : List Char) : Nat := cs.foldl (fun n c => 10 * n + (c.toNat - 48)) 0

theorem value_append_singleton (cs : List Char) (c : Char) :
    value (cs ++ [c]) = 10 * value cs + (c.toNat - 48) := by
  simp [value]

theorem isDigit_digitChar {d : Nat} (h : d < 10) : (digitChar d).isDigit = true := by
  have hall : ∀ d < 10, (digitChar d).isDigit = true := by decide
  exact hall d h

theorem toNat_digitChar {d : Nat} (h : d < 10) : (digitChar d).toNat - 48 = d := by
  have hall : ∀ d < 10, (digitChar d).toNat - 48 = d := by decide
  exact hall d h

/-- Reading the digits of a number gives the number. -/
theorem value_digits (n : Nat) : value (digits n) = n := by
  induction n using digits.induct with
  | case1 n hn =>
      rw [digits, if_pos hn]
      simp [value, toNat_digitChar hn]
  | case2 n hn ih =>
      -- the last digit is the remainder by ten, and the ones before it denote the quotient
      have hmod : n % 10 < 10 := Nat.mod_lt n (by omega)
      rw [digits, if_neg hn, value_append_singleton, ih, toNat_digitChar hmod]
      omega

/-- Different numbers are written differently. -/
theorem digits_injective {m n : Nat} (h : digits m = digits n) : m = n := by
  rw [← value_digits m, ← value_digits n, h]

theorem isDigit_of_mem_digits {n : Nat} {c : Char} (h : c ∈ digits n) : c.isDigit = true := by
  induction n using digits.induct with
  | case1 n hn =>
      rw [digits, if_pos hn, List.mem_singleton] at h
      rw [h]
      exact isDigit_digitChar hn
  | case2 n hn ih =>
      rw [digits, if_neg hn, List.mem_append, List.mem_singleton] at h
      rcases h with h | rfl
      · exact ih h
      · exact isDigit_digitChar (Nat.mod_lt n (by omega))

theorem digits_ne_nil (n : Nat) : digits n ≠ [] := by
  rw [digits]
  split <;> simp

theorem isDigit_of_mem_paddedDigits {width n : Nat} {c : Char} (h : c ∈ paddedDigits width n) :
    c.isDigit = true := by
  rw [paddedDigits, List.mem_append] at h
  rcases h with h | h
  · rw [List.eq_of_mem_replicate h]
    decide
  · exact isDigit_of_mem_digits h

theorem length_paddedDigits (width n : Nat) : width ≤ (paddedDigits width n).length := by
  rw [paddedDigits, List.length_append, List.length_replicate]
  omega

end EntitySql.Numeral

namespace EntitySql

theorem toList_placeholder (n : Nat) :
    (placeholder n).toList = "@param_".toList ++ Numeral.digits n := by
  simp [placeholder, Numeral.ofNat]

/-- Placeholders of different numbers have different names. -/
theorem placeholder_injective {m n : Nat} (h : placeholder m = placeholder n) : m = n := by
  have hlist := congrArg String.toList h
  rw [toList_placeholder, toList_placeholder] at hlist
  exact Numeral.digits_injective (List.append_cancel_left hlist)

end EntitySql
