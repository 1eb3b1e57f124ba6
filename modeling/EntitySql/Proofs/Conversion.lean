import EntitySql.Proofs.IntegerReading

/-! # Conversions

Which values a type reads, and as what, with a rule for each kind of value that it takes. An integer
type takes the numbers of its range, a float type takes numbers, a decimal takes numbers and the
texts of numbers; a truth value may be a zero or a one, a character may be a text of its own and a
text a character. An option takes the absent value besides what its type takes, and no scalar type
takes the absent value. The default of a type that takes numbers is what it makes of a zero.

Main statements: `ScalarType.read?_eq_some_iff`, `ValueType.read?_eq_some_iff`,
`ValueType.isDefault_iff`.
-/

namespace EntitySql

/-! ## Rules -/

/-- The decimal is the integer, without places. A zero has no sign. -/
def Decimal.IsInteger (d : Decimal) (n : Int) : Prop :=
  d.scale = 0 ∧ d.signed = n ∧ (d.negative = true ↔ n < 0)

/-- The float of a number is the number itself where it is a float, and else what rounding makes of
it. -/
inductive Value.RoundsTo : Value → Float → Prop where
  | float (x : Float) : RoundsTo (.float x) x
  | int (n : Int64) : RoundsTo (.int n) (Binary64.ofInt n.toInt)
  | uint (n : UInt64) : RoundsTo (.uint n) (Binary64.ofNat n.toNat)
  | decimal (d : Decimal) : RoundsTo (.decimal d) d.toFloat

/-- A value is read as a scalar type, in the form that the type gives it. -/
inductive ScalarType.Reads : ScalarType → Value → Value → Prop where
  | integer {t : IntegerType} {v : Value} {n : Int} (hnumber : v.number? = some (n : ℚ))
      (hrange : t.InRange n) : Reads (.integer t) v (t.toValue n)
  | float32 {v : Value} {x : Float} (h : v.RoundsTo x) :
      Reads .float32 v (.float (Binary64.narrow x))
  | float64 {v : Value} {x : Float} (h : v.RoundsTo x) : Reads .float64 v (.float x)
  | bool (b : Bool) : Reads .bool (.bool b) (.bool b)
  | boolOfInt (b : Bool) : Reads .bool (.int (if b then 1 else 0)) (.bool b)
  | boolOfUInt (b : Bool) : Reads .bool (.uint (if b then 1 else 0)) (.bool b)
  | string (s : String) : Reads .string (.text s) (.text s)
  | stringOfChar (c : Char) : Reads .string (.char c) (.text (String.singleton c))
  | char (c : Char) : Reads .char (.char c) (.char c)
  | charOfString (c : Char) : Reads .char (.text (String.singleton c)) (.char c)
  | decimal (d : Decimal) : Reads .decimal (.decimal d) (.decimal d)
  | decimalOfInt {n : Int64} {d : Decimal} (h : d.IsInteger n.toInt) :
      Reads .decimal (.int n) (.decimal d)
  | decimalOfUInt {n : UInt64} {d : Decimal} (h : d.IsInteger n.toNat) :
      Reads .decimal (.uint n) (.decimal d)
  | decimalOfFloat {x : Float} {d : Decimal} (h : Decimal.ofFloat? x = some d) :
      Reads .decimal (.float x) (.decimal d)
  | decimalOfText {s : String} {d : Decimal} (h : Decimal.ofText? s = some d) :
      Reads .decimal (.text s) (.decimal d)
  | uuid (u : Uuid) : Reads .uuid (.uuid u) (.uuid u)
  | uuidOfText {s : String} {u : Uuid} (h : Uuid.ofText? s = some u) :
      Reads .uuid (.text s) (.uuid u)
  | dateTime (t : DateTime) : Reads .dateTime (.dateTime t) (.dateTime t)
  | dateTimeOfText {s : String} {t : DateTime} (h : DateTime.ofText? s = some t) :
      Reads .dateTime (.text s) (.dateTime t)
  | bytes (bs : List UInt8) : Reads .bytes (.bytes bs) (.bytes bs)

/-- A value is read as the type of a field. A type that no value converts to has no rule. -/
inductive ValueType.Reads : ValueType → Value → Value → Prop where
  | plain {t : ScalarType} {v result : Value} (h : t.Reads v result) : Reads (.plain t) v result
  | absent (t : ValueType) : Reads (.option t) .null .null
  | present {t : ValueType} {v result : Value} (h : t.Reads v result) : Reads (.option t) v result

/-- The default of a scalar type: zero as the type reads it, the empty text, the character of code
zero, the identifier without a bit, the first moment of 1970, no bytes. -/
inductive ScalarType.IsDefault : ScalarType → Value → Prop where
  | zero {t : ScalarType} {v : Value} (h : t.Reads (.uint 0) v) : IsDefault t v
  | string : IsDefault .string (.text "")
  | char : IsDefault .char (.char (Char.ofNat 0))
  | uuid {u : Uuid} (h : Uuid.ofText? "00000000-0000-0000-0000-000000000000" = some u) :
      IsDefault .uuid (.uuid u)
  | dateTime {t : DateTime} (h : DateTime.ofText? "1970-01-01T00:00:00" = some t) :
      IsDefault .dateTime (.dateTime t)
  | bytes : IsDefault .bytes (.bytes [])

/-- The default of the type of a field. An option is absent, and for a type of the program's own,
whose default is not known here, the absent value stands in. -/
inductive ValueType.IsDefault : ValueType → Value → Prop where
  | plain {t : ScalarType} {v : Value} (h : t.IsDefault v) : IsDefault (.plain t) v
  | option (t : ValueType) : IsDefault (.option t) .null
  | custom (name : String) : IsDefault (.custom name) .null

/-! ## Kinds of values -/

/-- An integer of at most 96 bits is made a decimal, and the only one that it is. -/
theorem Decimal.ofInt?_eq_some_iff {n : Int} {d : Decimal} :
    ofInt? n = some d ↔ d.IsInteger n := by
  rcases d with ⟨negative, mantissa, scale, hmantissa, hscale⟩
  simp only [ofInt?, make?, IsInteger, signed]
  constructor
  · intro h
    split at h
    · cases h
      refine ⟨rfl, ?_, by simp⟩
      simp only [decide_eq_true_eq]
      split <;> omega
    · cases h
  · rintro ⟨rfl, hsigned, hnegative⟩
    have hnatAbs : n.natAbs = mantissa := by
      split at hsigned <;> omega
    have hsign : decide (n < 0) = negative := by
      rw [Bool.eq_iff_iff, decide_eq_true_eq]
      exact hnegative.symm
    subst hnatAbs hsign
    rw [dif_pos ⟨hmantissa, hscale⟩]

namespace Value

variable {v : Value}

theorem toFloat?_eq_some_iff {x : Float} : v.toFloat? = some x ↔ v.RoundsTo x := by
  constructor
  · intro h
    cases v with
    | float x =>
        cases h
        exact .float _
    | int n =>
        cases h
        exact .int n
    | uint n =>
        cases h
        exact .uint n
    | decimal d =>
        cases h
        exact .decimal d
    | _ => cases h
  · intro h
    cases h with
    | float x => rfl
    | int n => rfl
    | uint n => rfl
    | decimal d => rfl

end Value

namespace ScalarType

variable {v result : Value}

theorem reads_bool {b : Bool} (h : v.toBool? = some b) : ScalarType.bool.Reads v (.bool b) := by
  cases v with
  | bool c =>
      cases h
      exact .bool _
  | int n =>
      rw [Value.toBool?] at h
      split_ifs at h with hzero hone
      · cases h
        rw [hzero]
        exact .boolOfInt false
      · cases h
        rw [hone]
        exact .boolOfInt true
  | uint n =>
      rw [Value.toBool?] at h
      split_ifs at h with hzero hone
      · cases h
        rw [hzero]
        exact .boolOfUInt false
      · cases h
        rw [hone]
        exact .boolOfUInt true
  | _ => cases h

theorem reads_string {s : String} (h : v.toString? = some s) :
    ScalarType.string.Reads v (.text s) := by
  cases v with
  | text s =>
      cases h
      exact .string s
  | char c =>
      cases h
      exact .stringOfChar c
  | _ => cases h

theorem reads_char {c : Char} (h : v.toChar? = some c) : ScalarType.char.Reads v (.char c) := by
  cases v with
  | char c =>
      cases h
      exact .char c
  | text s =>
      rw [Value.toChar?] at h
      split at h
      · rename_i c' hlist
        cases h
        -- a text of one character is that character's own
        obtain rfl : s = String.singleton c :=
          String.toList_injective (hlist.trans (String.toList_singleton c).symm)
        exact .charOfString c
      · cases h
  | _ => cases h

theorem reads_decimal {d : Decimal} (h : v.toDecimal? = some d) :
    ScalarType.decimal.Reads v (.decimal d) := by
  cases v with
  | decimal d =>
      cases h
      exact .decimal d
  | int n => exact .decimalOfInt (Decimal.ofInt?_eq_some_iff.mp h)
  | uint n => exact .decimalOfUInt (Decimal.ofInt?_eq_some_iff.mp h)
  | float x => exact .decimalOfFloat h
  | text s => exact .decimalOfText h
  | _ => cases h

theorem reads_uuid {u : Uuid} (h : v.toUuid? = some u) : ScalarType.uuid.Reads v (.uuid u) := by
  cases v with
  | uuid u =>
      cases h
      exact .uuid u
  | text s => exact .uuidOfText h
  | _ => cases h

theorem reads_dateTime {t : DateTime} (h : v.toDateTime? = some t) :
    ScalarType.dateTime.Reads v (.dateTime t) := by
  cases v with
  | dateTime t =>
      cases h
      exact .dateTime t
  | text s => exact .dateTimeOfText h
  | _ => cases h

theorem reads_bytes {bs : List UInt8} (h : v.toBytes? = some bs) :
    ScalarType.bytes.Reads v (.bytes bs) := by
  cases v with
  | bytes bs =>
      cases h
      exact .bytes bs
  | _ => cases h

/-! ## Types -/

/-- What is read is read by a rule. -/
theorem reads_of_read? {t : ScalarType} (h : t.read? v = some result) : t.Reads v result := by
  cases t with
  | integer t =>
      rcases Option.map_eq_some_iff.mp h with ⟨n, hread, rfl⟩
      rcases IntegerType.read?_eq_some_iff.mp hread with ⟨hnumber, hrange⟩
      exact .integer hnumber hrange
  | float32 =>
      rcases Option.map_eq_some_iff.mp h with ⟨x, hread, rfl⟩
      exact .float32 (Value.toFloat?_eq_some_iff.mp hread)
  | float64 =>
      rcases Option.map_eq_some_iff.mp h with ⟨x, hread, rfl⟩
      exact .float64 (Value.toFloat?_eq_some_iff.mp hread)
  | bool =>
      rcases Option.map_eq_some_iff.mp h with ⟨b, hread, rfl⟩
      exact reads_bool hread
  | string =>
      rcases Option.map_eq_some_iff.mp h with ⟨s, hread, rfl⟩
      exact reads_string hread
  | char =>
      rcases Option.map_eq_some_iff.mp h with ⟨c, hread, rfl⟩
      exact reads_char hread
  | decimal =>
      rcases Option.map_eq_some_iff.mp h with ⟨d, hread, rfl⟩
      exact reads_decimal hread
  | uuid =>
      rcases Option.map_eq_some_iff.mp h with ⟨u, hread, rfl⟩
      exact reads_uuid hread
  | dateTime =>
      rcases Option.map_eq_some_iff.mp h with ⟨t, hread, rfl⟩
      exact reads_dateTime hread
  | bytes =>
      rcases Option.map_eq_some_iff.mp h with ⟨bs, hread, rfl⟩
      exact reads_bytes hread

theorem Reads.read?_eq {t : ScalarType} (h : t.Reads v result) : t.read? v = some result := by
  cases h with
  | integer hnumber hrange =>
      rw [read?, IntegerType.read?_eq_some_iff.mpr ⟨hnumber, hrange⟩, Option.map_some]
  | float32 h => rw [read?, Value.toFloat?_eq_some_iff.mpr h, Option.map_some]
  | float64 h => rw [read?, Value.toFloat?_eq_some_iff.mpr h, Option.map_some]
  | bool b => rfl
  | boolOfInt b => cases b <;> rfl
  | boolOfUInt b => cases b <;> rfl
  | string s => rfl
  | stringOfChar c => rfl
  | char c => rfl
  | charOfString c => simp [read?, Value.toChar?]
  | decimal d => rfl
  | decimalOfInt h =>
      rw [read?, Value.toDecimal?, Decimal.ofInt?_eq_some_iff.mpr h, Option.map_some]
  | decimalOfUInt h =>
      rw [read?, Value.toDecimal?, Decimal.ofInt?_eq_some_iff.mpr h, Option.map_some]
  | decimalOfFloat h => rw [read?, Value.toDecimal?, h, Option.map_some]
  | decimalOfText h => rw [read?, Value.toDecimal?, h, Option.map_some]
  | uuid u => rfl
  | uuidOfText h => rw [read?, Value.toUuid?, h, Option.map_some]
  | dateTime t => rfl
  | dateTimeOfText h => rw [read?, Value.toDateTime?, h, Option.map_some]
  | bytes bs => rfl

/-- A value is read as a scalar type exactly by the rules of the type. -/
theorem read?_eq_some_iff {t : ScalarType} : t.read? v = some result ↔ t.Reads v result :=
  ⟨reads_of_read?, Reads.read?_eq⟩

theorem not_reads_null (t : ScalarType) (result : Value) : ¬ t.Reads .null result := by
  intro h
  have hread := h.read?_eq
  rw [read?_null] at hread
  cases hread

/-! ## Defaults -/

/-- A type that takes numbers reads zero as its default. -/
theorem read?_zero (t : ScalarType) :
    t.read? (.uint 0) = some t.default ∨ t.read? (.uint 0) = none := by
  cases t with
  | integer t =>
      left
      cases t <;> rfl
  | float32 =>
      have hzero : Binary64.narrow (Binary64.ofNat 0) = 0 := by decide +kernel
      left
      change some (Value.float (Binary64.narrow (Binary64.ofNat 0))) = _
      rw [hzero]
      rfl
  | float64 =>
      have hzero : Binary64.ofNat 0 = 0 := by decide +kernel
      left
      change some (Value.float (Binary64.ofNat 0)) = _
      rw [hzero]
      rfl
  | bool => exact Or.inl rfl
  | decimal => exact Or.inl rfl
  | _ => exact Or.inr rfl

/-- A scalar type has one default. -/
theorem isDefault_iff {t : ScalarType} : t.IsDefault v ↔ v = t.default := by
  have huuid : Uuid.ofText? "00000000-0000-0000-0000-000000000000" = some Uuid.nil := by
    decide +kernel
  have hepoch : DateTime.ofText? "1970-01-01T00:00:00" = some DateTime.epoch := by decide +kernel
  constructor
  · intro h
    cases h with
    | zero h =>
        have hread := h.read?_eq
        rcases t.read?_zero with hdefault | hnone
        · rw [hdefault] at hread
          exact (Option.some.inj hread).symm
        · rw [hnone] at hread
          cases hread
    | string => rfl
    | char => rfl
    | uuid h =>
        rw [huuid] at h
        cases h
        rfl
    | dateTime h =>
        rw [hepoch] at h
        cases h
        rfl
    | bytes => rfl
  · rintro rfl
    rcases t.read?_zero with hdefault | hnone
    · exact .zero (read?_eq_some_iff.mp hdefault)
    · cases t with
      | string => exact .string
      | char => exact .char
      | uuid => exact .uuid huuid
      | dateTime => exact .dateTime hepoch
      | bytes => exact .bytes
      | integer t => cases t <;> cases hnone
      | _ => cases hnone

end ScalarType

namespace ValueType

variable {t : ValueType} {v result : Value}

/-- The absent value is read as itself only. -/
theorem Reads.eq_null (h : t.Reads .null result) : result = .null := by
  induction t with
  | plain t =>
      cases h with
      | plain h => exact absurd h (t.not_reads_null result)
  | option t ih =>
      cases h with
      | absent => rfl
      | present h => exact ih h
  | custom name => cases h

/-- A value is read as the type of a field exactly by the rules of the type. -/
theorem read?_eq_some_iff : t.read? v = some result ↔ t.Reads v result := by
  induction t with
  | plain t =>
      refine ScalarType.read?_eq_some_iff.trans ⟨.plain, fun h => ?_⟩
      cases h with
      | plain h => exact h
  | option t ih =>
      by_cases hnull : v = .null
      · subst hnull
        constructor
        · intro h
          cases h
          exact .absent t
        · intro h
          rw [h.eq_null]
          rfl
      · rw [read?]
        · refine ih.trans ⟨.present, fun h => ?_⟩
          cases h with
          | absent => exact absurd rfl hnull
          | present h => exact h
        · exact hnull
  | custom name =>
      constructor
      · intro h
        cases h
      · intro h
        cases h

theorem read?_eq_none_iff : t.read? v = none ↔ ∀ result, ¬ t.Reads v result := by
  simp only [← read?_eq_some_iff]
  exact Option.eq_none_iff_forall_ne_some

/-- The type of a field has one default. -/
theorem isDefault_iff : t.IsDefault v ↔ v = t.default := by
  constructor
  · intro h
    cases h with
    | plain h => exact ScalarType.isDefault_iff.mp h
    | option t => rfl
    | custom name => rfl
  · rintro rfl
    cases t with
    | plain t => exact .plain (ScalarType.isDefault_iff.mpr rfl)
    | option t => exact .option t
    | custom name => exact .custom name

/-- Only an option reads the absent value. -/
theorem exists_reads_null_iff : (∃ result, t.Reads .null result) ↔ ∃ type, t = .option type := by
  constructor
  · rintro ⟨result, h⟩
    cases h with
    | plain h => exact absurd h (ScalarType.not_reads_null _ result)
    | absent type => exact ⟨type, rfl⟩
    | @present type v result h => exact ⟨type, rfl⟩
  · rintro ⟨type, rfl⟩
    exact ⟨.null, .absent type⟩

end ValueType

end EntitySql
