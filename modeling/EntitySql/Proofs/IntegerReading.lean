import EntitySql.Proofs.Number
import EntitySql.Proofs.OwnForm

/-! # Reading integers

A value is read as a number of an integer type exactly when the number that it denotes is an integer
that the bits of the type hold, and then that integer is what is read. Nothing is rounded, cut off
or wrapped, so a number also survives the way through another type that holds it.

Main statement: `integer_read_exactly`.
-/

namespace EntitySql

namespace IntegerType

/-- The width of a type. -/
def bits : IntegerType → Nat
  | i8 | u8 => 8
  | i16 | u16 => 16
  | i32 | u32 => 32
  | i64 | u64 => 64

/-- The numbers that the bits of a type hold, in two's complement where the type is signed. -/
def InRange (t : IntegerType) (n : Int) : Prop :=
  if t.signed then -2 ^ (t.bits - 1) ≤ n ∧ n < 2 ^ (t.bits - 1) else 0 ≤ n ∧ n < 2 ^ t.bits

theorem inRange_iff {t : IntegerType} {n : Int} : t.InRange n ↔ t.low ≤ n ∧ n ≤ t.high := by
  unfold InRange
  cases t <;> simp only [signed, bits, low, high] <;> norm_num <;> omega

instance (t : IntegerType) (n : Int) : Decidable (t.InRange n) :=
  decidable_of_iff _ inRange_iff.symm

theorem read?_eq_some_iff {t : IntegerType} {v : Value} {n : Int} :
    t.read? v = some n ↔ v.number? = some (n : ℚ) ∧ t.InRange n := by
  rw [← Value.toInt?_eq_some_iff, inRange_iff, read?, Option.bind_eq_some_iff]
  constructor
  · rintro ⟨m, hm, hrange⟩
    split at hrange
    · obtain rfl := Option.some.inj hrange
      exact ⟨hm, ‹_›⟩
    · cases hrange
  · rintro ⟨hn, hrange⟩
    exact ⟨n, hn, if_pos hrange⟩

theorem number?_toValue {t : IntegerType} {n : Int} (h : t.InRange n) :
    (t.toValue n).number? = some (n : ℚ) := by
  rcases inRange_iff.mp h with ⟨hlow, hhigh⟩
  exact Value.toInt?_eq_some_iff.mp (toInt?_toValue hlow hhigh)

/-- A number that two types hold is read as the first one also from its form in the second. -/
theorem read?_toValue_of_inRange {t u : IntegerType} {n : Int} (ht : t.InRange n)
    (hu : u.InRange n) : t.read? (u.toValue n) = some n :=
  read?_eq_some_iff.mpr ⟨number?_toValue hu, ht⟩

/-- A value is read as an integer of a type exactly when that integer is its number and in the range
of the type. The number of a type denotes itself in its value form and is read back from it, and
reading a value through another type that holds its number gives the same number. -/
theorem integer_read_exactly (t : IntegerType) (v : Value) :
    (∀ n, t.read? v = some n ↔ v.number? = some (n : ℚ) ∧ t.InRange n) ∧
    (∀ n, t.InRange n →
      (t.toValue n).number? = some (n : ℚ) ∧ t.read? (t.toValue n) = some n) ∧
    ∀ (u : IntegerType) (n : Int), t.read? v = some n → u.InRange n →
      ((u.read? v).bind fun m => t.read? (u.toValue m)) = some n := by
  refine ⟨fun n => read?_eq_some_iff, ?_, ?_⟩
  · intro n h
    exact ⟨number?_toValue h, read?_toValue_of_inRange h h⟩
  · intro u n hread hu
    rcases read?_eq_some_iff.mp hread with ⟨hnumber, ht⟩
    rw [read?_eq_some_iff.mpr ⟨hnumber, hu⟩, Option.bind_some]
    exact read?_toValue_of_inRange ht hu

/-- A decimal with two zeros behind the point is read as a byte, also by way of a type of 16 signed
bits. A decimal of more than 64 bits is not read as a byte. -/
theorem integer_read_exactly_hundredths :
    u8.read? (.decimal ⟨false, 25500, 2, by decide, by decide⟩) = some 255 ∧
    ((i16.read? (.decimal ⟨false, 25500, 2, by decide, by decide⟩)).bind fun m =>
      u8.read? (i16.toValue m)) = some 255 ∧
    u8.read? (u8.toValue 255) = some 255 ∧
    u8.read? (.decimal ⟨false, 18446744073709551871, 0, by decide, by decide⟩) ≠ some 255 := by
  rcases integer_read_exactly u8 (.decimal ⟨false, 25500, 2, by decide, by decide⟩) with
    ⟨hread, hform, hthrough⟩
  have hbyte : u8.read? (.decimal ⟨false, 25500, 2, by decide, by decide⟩) = some 255 := by
    refine (hread 255).mpr ⟨?_, by decide⟩
    norm_num [Value.number?, Decimal.number, Decimal.signed]
  refine ⟨hbyte, hthrough i16 255 hbyte (by decide), (hform 255 (by decide)).2, ?_⟩
  intro hwrapped
  have hnumber := (((integer_read_exactly u8 _).1 255).mp hwrapped).1
  norm_num [Value.number?, Decimal.number, Decimal.signed] at hnumber

end IntegerType

end EntitySql
