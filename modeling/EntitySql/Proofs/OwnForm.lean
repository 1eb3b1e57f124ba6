import EntitySql.Proofs.Narrow
import EntitySql.Record

/-! # Values in the form of their type

What a field of a type can hold: every number of an integer type, every float of 32 bits, every
value of the other scalar types, and for an optional type the absent value besides. Reading such a
value as the type gives it back unchanged.

Main statement: `ValueType.Holds.read?_eq`.
-/

namespace EntitySql

/-- The values of a scalar type. Numbers of every width are held with 64 bits. -/
inductive ScalarType.Holds : ScalarType → Value → Prop where
  | integer {t : IntegerType} {n : Int} (hlow : t.low ≤ n) (hhigh : n ≤ t.high) :
      Holds (.integer t) (t.toValue n)
  | float32 {x : Float} (h : Binary64.IsSingle x) : Holds .float32 (.float x)
  | float64 (x : Float) : Holds .float64 (.float x)
  | bool (b : Bool) : Holds .bool (.bool b)
  | string (s : String) : Holds .string (.text s)
  | char (c : Char) : Holds .char (.char c)
  | decimal (d : Decimal) : Holds .decimal (.decimal d)
  | uuid (u : Uuid) : Holds .uuid (.uuid u)
  | dateTime (t : DateTime) : Holds .dateTime (.dateTime t)
  | bytes (bs : List UInt8) : Holds .bytes (.bytes bs)

/-- The values of a field's type. A type that no value converts to has none here, and neither has an
option of an option, which writes two of its values alike. -/
inductive ValueType.Holds : ValueType → Value → Prop where
  | plain {t : ScalarType} {v : Value} (h : t.Holds v) : Holds (.plain t) v
  | absent (t : ScalarType) : Holds (.optional t) .null
  | present {t : ScalarType} {v : Value} (h : t.Holds v) : Holds (.optional t) v

/-! ## Integers -/

namespace IntegerType

/-- The numbers of a type fit into its value form. -/
theorem bounds (t : IntegerType) :
    if t.signed then -2 ^ 63 ≤ t.low ∧ t.high < 2 ^ 63 else 0 ≤ t.low ∧ t.high < 2 ^ 64 := by
  cases t <;> decide

theorem toInt?_toValue {t : IntegerType} {n : Int} (hlow : t.low ≤ n) (hhigh : n ≤ t.high) :
    (t.toValue n).toInt? = some n := by
  have hbounds := t.bounds
  unfold toValue
  split at hbounds
  · rename_i hsigned
    rw [if_pos hsigned]
    exact congrArg some (Int64.toInt_ofInt_of_le (by omega) (by omega))
  · rename_i hunsigned
    have hnat : (UInt64.ofNat n.toNat).toNat = n.toNat :=
      UInt64.toNat_ofNat_of_lt' (by
        change n.toNat < 2 ^ 64
        omega)
    rw [if_neg hunsigned, Value.toInt?, hnat, Int.toNat_of_nonneg (by omega)]

theorem read?_toValue {t : IntegerType} {n : Int} (hlow : t.low ≤ n) (hhigh : n ≤ t.high) :
    t.read? (t.toValue n) = some n := by
  rw [read?, toInt?_toValue hlow hhigh, Option.bind_some, if_pos ⟨hlow, hhigh⟩]

end IntegerType

/-! ## Reading -/

/-- The absent value is read as no scalar type. -/
theorem ScalarType.read?_null (t : ScalarType) : t.read? .null = none := by
  cases t <;> rfl

/-- A value of a scalar type is read as it is. -/
theorem ScalarType.Holds.read?_eq {t : ScalarType} {v : Value} (h : t.Holds v) :
    t.read? v = some v := by
  cases h with
  | integer hlow hhigh => rw [read?, IntegerType.read?_toValue hlow hhigh, Option.map_some]
  | float32 h => rw [read?, Value.toFloat?, Option.map_some, Binary64.narrow_of_isSingle h]
  | float64 x => rfl
  | bool b => rfl
  | string s => rfl
  | char c => rfl
  | decimal d => rfl
  | uuid u => rfl
  | dateTime t => rfl
  | bytes bs => rfl

/-- A value of a field's type is read as it is. -/
theorem ValueType.Holds.read?_eq {t : ValueType} {v : Value} (h : t.Holds v) :
    t.read? v = some v := by
  cases h with
  | plain h => exact h.read?_eq
  | absent t => rfl
  | @present t v h =>
      -- an optional type looks for the absent value first, which no scalar type has
      have hne : v ≠ .null := by
        rintro rfl
        have hnone := t.read?_null
        rw [h.read?_eq] at hnone
        cases hnone
      rw [read?]
      · exact h.read?_eq
      · exact hne

end EntitySql
