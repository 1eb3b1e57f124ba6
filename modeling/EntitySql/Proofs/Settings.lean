import EntitySql.Proofs.Checked
import EntitySql.Proofs.Digits
import EntitySql.Settings

/-! # Settings from texts

A text spells a number when it consists of decimal digits, behind at most one plus sign, and the
number fits into 64 bits. A setting is wrong when its text spells no number, and the row limit is
looked at before the depth limit. The depth limit is removed by the empty text and by the text `0`
alone: other spellings of zero, such as `00`, set a limit of zero.

Main statement: `settings_decided_by_texts`.
-/

namespace EntitySql

/-! ## Spelled numbers -/

namespace Numeral

/-- Digits that denote a number below a bound. -/
structure DigitsOf (bound : Nat) (cs : List Char) (n : Nat) : Prop where
  ne_nil : cs ≠ []
  isDigit : ∀ c ∈ cs, c.isDigit = true
  value_eq : value cs = n
  lt : n < bound

/-- A text that spells a number below a bound: digits, maybe behind a plus sign. -/
inductive Spells (bound : Nat) : List Char → Nat → Prop where
  | plain {cs : List Char} {n : Nat} (h : DigitsOf bound cs n) : Spells bound cs n
  | plus {cs : List Char} {n : Nat} (h : DigitsOf bound cs n) : Spells bound ('+' :: cs) n

/-- Digits continue a number `n` to the number that they denote behind its digits. -/
theorem readDigits_eq_ok_iff {bound n m : Nat} {cs : List Char} (hn : n < bound) :
    readDigits bound n cs = .ok m ↔
      (∀ c ∈ cs, c.isDigit = true) ∧ n * 10 ^ cs.length + value cs = m ∧ m < bound := by
  induction cs generalizing n with
  | nil =>
      have hnil : value [] = 0 := rfl
      simp only [readDigits, Except.ok.injEq, List.not_mem_nil, false_implies, implies_true,
        true_and, List.length_nil, pow_zero, mul_one, hnil, add_zero]
      constructor
      · rintro rfl
        exact ⟨rfl, hn⟩
      · exact fun h => h.1
  | cons c cs ih =>
      -- the number grows with every digit, so it is too large for good once it is too large
      have hvalue : n * 10 ^ (c :: cs).length + value (c :: cs) =
          (10 * n + (c.toNat - 48)) * 10 ^ cs.length + value cs := by
        rw [value_cons, List.length_cons, pow_succ]
        ring
      rw [readDigits, digit?_eq, hvalue]
      by_cases hdigit : c.isDigit = true
      · rw [if_pos hdigit]
        simp only
        split
        · rename_i hlt
          rw [ih hlt, List.forall_mem_cons]
          tauto
        · rename_i hge
          constructor
          · intro h
            cases h
          · rintro ⟨-, hm, hlt⟩
            have hgrows : 10 * n + (c.toNat - 48) ≤ (10 * n + (c.toNat - 48)) * 10 ^ cs.length :=
              Nat.le_mul_of_pos_right _ (by positivity)
            omega
      · rw [if_neg hdigit]
        constructor
        · intro h
          cases h
        · rintro ⟨hall, -⟩
          exact absurd (hall c List.mem_cons_self) hdigit

theorem readDigits_zero_eq_ok_iff {bound n : Nat} {cs : List Char} (hbound : 0 < bound)
    (hne : cs ≠ []) : readDigits bound 0 cs = .ok n ↔ DigitsOf bound cs n := by
  rw [readDigits_eq_ok_iff hbound, Nat.zero_mul, Nat.zero_add]
  constructor
  · rintro ⟨hall, hvalue, hlt⟩
    exact ⟨hne, hall, hvalue, hlt⟩
  · rintro ⟨-, hall, hvalue, hlt⟩
    exact ⟨hall, hvalue, hlt⟩

/-- A text is read as a number exactly when it spells that number. -/
theorem readUnsigned_eq_ok_iff {bound n : Nat} {cs : List Char} (hbound : 0 < bound) :
    readUnsigned bound cs = .ok n ↔ Spells bound cs n := by
  constructor
  · intro h
    unfold readUnsigned at h
    split at h
    · cases h
    · cases h
    · rename_i cs hne
      exact .plus ((readDigits_zero_eq_ok_iff hbound (by simpa using hne)).mp h)
    · rename_i hnil _ _
      exact .plain ((readDigits_zero_eq_ok_iff hbound hnil).mp h)
  · intro h
    cases h with
    | plain h =>
        -- a plus sign is no digit
        have hplus : ∀ ds, cs ≠ '+' :: ds := by
          rintro ds rfl
          exact absurd (h.isDigit '+' List.mem_cons_self) (by decide)
        rw [readUnsigned]
        · exact (readDigits_zero_eq_ok_iff hbound h.ne_nil).mpr h
        · exact h.ne_nil
        · exact hplus []
        · exact hplus
    | plus h =>
        rw [readUnsigned]
        · exact (readDigits_zero_eq_ok_iff hbound h.ne_nil).mpr h
        · simpa using h.ne_nil

end Numeral

/-! ## One setting -/

/-- The row limit that is given, or the default. -/
inductive GivesSelectLimit : Option String → Nat → Prop where
  | absent : GivesSelectLimit none 1000
  | given {text : String} {n : Nat} (h : Numeral.Spells (2 ^ 64) text.toList n) :
      GivesSelectLimit (some text) n

/-- The depth limit that is given, if any. -/
inductive GivesMaxDepth : Option String → Option Nat → Prop where
  | absent : GivesMaxDepth none none
  | empty : GivesMaxDepth (some "") none
  | zero : GivesMaxDepth (some "0") none
  | given {text : String} {n : Nat} (hne : text ≠ "0")
      (h : Numeral.Spells (2 ^ 64) text.toList n) : GivesMaxDepth (some text) (some n)

/-- A setting is wrong: its text spells no number, and for the depth limit it is not empty. -/
inductive SettingKey.Wrong : SettingKey → Option String → Prop where
  | selectLimit {text : String} (h : ¬ ∃ n, Numeral.Spells (2 ^ 64) text.toList n) :
      Wrong .selectLimit (some text)
  | maxDepth {text : String} (hne : text ≠ "") (h : ¬ ∃ n, Numeral.Spells (2 ^ 64) text.toList n) :
      Wrong .maxDepth (some text)

theorem readSetting_eq_ok_iff {key : SettingKey} {text : String} {n : Nat} :
    readSetting key text = .ok n ↔ Numeral.Spells (2 ^ 64) text.toList n := by
  have hbound : Numeral.wordBound = 2 ^ 64 := by decide
  rw [readSetting, mapError_eq_ok, hbound]
  exact Numeral.readUnsigned_eq_ok_iff (by decide)

/-- A text that spells no number is reported under the key of its setting. -/
theorem exists_readSetting_eq_error_iff {key key' : SettingKey} {text : String} :
    (∃ e, readSetting key text = .error e ∧ e.key = key') ↔
      key = key' ∧ ¬ ∃ n, Numeral.Spells (2 ^ 64) text.toList n := by
  simp only [← @readSetting_eq_ok_iff key]
  unfold readSetting
  cases Numeral.readUnsigned Numeral.wordBound text.toList <;> simp [Except.mapError]

theorem readSelectLimit_eq_ok_iff {given : Option String} {n : Nat} :
    readSelectLimit given = .ok n ↔ GivesSelectLimit given n := by
  constructor
  · intro h
    cases given with
    | none =>
        obtain rfl := Except.ok.inj h
        exact .absent
    | some text => exact .given (readSetting_eq_ok_iff.mp h)
  · intro h
    cases h with
    | absent => rfl
    | given h => exact readSetting_eq_ok_iff.mpr h

theorem exists_readSelectLimit_eq_error_iff {given : Option String} {key : SettingKey} :
    (∃ e, readSelectLimit given = .error e ∧ e.key = key) ↔
      .selectLimit = key ∧ SettingKey.selectLimit.Wrong given := by
  constructor
  · intro h
    cases given with
    | none =>
        rcases h with ⟨e, h, -⟩
        cases h
    | some text =>
        rcases exists_readSetting_eq_error_iff.mp h with ⟨hkey, hspells⟩
        exact ⟨hkey, .selectLimit hspells⟩
  · rintro ⟨hkey, hwrong⟩
    cases hwrong with
    | selectLimit h => exact exists_readSetting_eq_error_iff.mpr ⟨hkey, h⟩

/-- A row limit is given unless it is wrong. -/
theorem exists_givesSelectLimit_iff {given : Option String} :
    (∃ n, GivesSelectLimit given n) ↔ ¬ SettingKey.selectLimit.Wrong given := by
  constructor
  · rintro ⟨n, hgives⟩ hwrong
    cases hwrong with
    | selectLimit hnone =>
        cases hgives with
        | given h => exact hnone ⟨n, h⟩
  · intro hright
    cases given with
    | none => exact ⟨1000, .absent⟩
    | some text =>
        by_contra hnone
        exact hright (.selectLimit fun ⟨n, h⟩ => hnone ⟨n, .given h⟩)

/-- The empty text spells no number. -/
theorem Numeral.Spells.ne_nil {bound n : Nat} {cs : List Char} (h : Spells bound cs n) :
    cs ≠ [] := by
  cases h with
  | plain h => exact h.ne_nil
  | plus h => exact List.cons_ne_nil _ _

theorem Numeral.spells_zero : Spells (2 ^ 64) "0".toList 0 := by
  apply Spells.plain
  constructor
  · decide
  · simp
  · decide
  · exact Nat.two_pow_pos 64

theorem readMaxDepth_eq_ok_iff {given : Option String} {limit : Option Nat} :
    readMaxDepth given = .ok limit ↔ GivesMaxDepth given limit := by
  constructor
  · intro h
    cases given with
    | none =>
        obtain rfl := Except.ok.inj h
        exact .absent
    | some text =>
        rw [readMaxDepth] at h
        split at h
        · rename_i hnone
          obtain rfl := Except.ok.inj h
          rcases hnone with rfl | rfl
          · exact .empty
          · exact .zero
        · rename_i hsome
          rcases map_eq_ok.mp h with ⟨n, hn, rfl⟩
          exact .given (fun hzero => hsome (Or.inr hzero)) (readSetting_eq_ok_iff.mp hn)
  · intro h
    cases h with
    | absent => rfl
    | empty => rfl
    | zero => rfl
    | @given text n hne h =>
        have hempty : text ≠ "" := by
          rintro rfl
          exact h.ne_nil rfl
        rw [readMaxDepth, if_neg (by tauto)]
        exact map_eq_ok.mpr ⟨n, readSetting_eq_ok_iff.mpr h, rfl⟩

theorem exists_readMaxDepth_eq_error_iff {given : Option String} {key : SettingKey} :
    (∃ e, readMaxDepth given = .error e ∧ e.key = key) ↔
      .maxDepth = key ∧ SettingKey.maxDepth.Wrong given := by
  constructor
  · rintro ⟨e, h, rfl⟩
    cases given with
    | none => cases h
    | some text =>
        rw [readMaxDepth] at h
        split at h
        · cases h
        · rename_i hsome
          rcases exists_readSetting_eq_error_iff.mp ⟨e, map_eq_error.mp h, rfl⟩ with ⟨hkey, hspells⟩
          exact ⟨hkey, .maxDepth (fun hempty => hsome (Or.inl hempty)) hspells⟩
  · rintro ⟨rfl, hwrong⟩
    cases hwrong with
    | @maxDepth text hne h =>
        -- the text `0` does spell a number
        have hzero : text ≠ "0" := by
          rintro rfl
          exact h ⟨0, Numeral.spells_zero⟩
        rcases exists_readSetting_eq_error_iff.mpr ⟨rfl, h⟩ with ⟨e, he, hkey⟩
        refine ⟨e, ?_, hkey⟩
        rw [readMaxDepth, if_neg (by tauto)]
        exact map_eq_error.mpr he

/-! ## All settings -/

theorem Settings.ofLookup_eq_ok_iff {lookup : String → Option String} {s : Settings} :
    ofLookup lookup = .ok s ↔
      GivesSelectLimit (lookup "DORM_DEFAULT_SELECT_LIMIT") s.selectLimit ∧
      GivesMaxDepth (lookup "DORM_MAX_PREDICATE_DEPTH") s.maxDepth ∧
      s.logFilter = (lookup "DORM_LOG").getD "dorm=info" := by
  rw [← readSelectLimit_eq_ok_iff, ← readMaxDepth_eq_ok_iff]
  unfold ofLookup
  constructor
  · intro h
    rcases bind_eq_ok.mp h with ⟨n, hn, h⟩
    rcases bind_eq_ok.mp h with ⟨limit, hlimit, h⟩
    obtain rfl := Except.ok.inj h
    exact ⟨hn, hlimit, rfl⟩
  · rintro ⟨hn, hlimit, hlog⟩
    refine bind_eq_ok.mpr ⟨s.selectLimit, hn, bind_eq_ok.mpr ⟨s.maxDepth, hlimit, ?_⟩⟩
    exact congrArg (fun log => Except.ok (Settings.mk s.selectLimit s.maxDepth log)) hlog.symm

theorem Settings.ofLookup_eq_error_iff {lookup : String → Option String} {e : SettingsError} :
    ofLookup lookup = .error e ↔
      readSelectLimit (lookup "DORM_DEFAULT_SELECT_LIMIT") = .error e ∨
      (∃ n, readSelectLimit (lookup "DORM_DEFAULT_SELECT_LIMIT") = .ok n) ∧
        readMaxDepth (lookup "DORM_MAX_PREDICATE_DEPTH") = .error e := by
  unfold ofLookup
  rw [bind_eq_error]
  apply or_congr_right
  constructor
  · rintro ⟨n, hn, h⟩
    rcases bind_eq_error.mp h with h | ⟨limit, -, h⟩
    · exact ⟨⟨n, hn⟩, h⟩
    · cases h
  · rintro ⟨⟨n, hn⟩, h⟩
    exact ⟨n, hn, bind_eq_error.mpr (Or.inl h)⟩

/-- A wrong row limit is reported whatever the depth limit is, and a wrong depth limit only when the
row limit is right. -/
theorem Settings.exists_ofLookup_eq_error_iff {lookup : String → Option String} {key : SettingKey} :
    (∃ e, ofLookup lookup = .error e ∧ e.key = key) ↔
      SettingKey.selectLimit = key ∧
        SettingKey.selectLimit.Wrong (lookup "DORM_DEFAULT_SELECT_LIMIT") ∨
      SettingKey.maxDepth = key ∧
        ¬ SettingKey.selectLimit.Wrong (lookup "DORM_DEFAULT_SELECT_LIMIT") ∧
        SettingKey.maxDepth.Wrong (lookup "DORM_MAX_PREDICATE_DEPTH") := by
  simp only [ofLookup_eq_error_iff, or_and_right, exists_or, exists_readSelectLimit_eq_error_iff,
    and_assoc, exists_and_left, exists_readMaxDepth_eq_error_iff, readSelectLimit_eq_ok_iff,
    exists_givesSelectLimit_iff]
  tauto

/-- Settings are wrong exactly when the row limit or the depth limit spells no number, the depth
limit also being allowed to be empty, and the row limit is reported first. Otherwise they hold the
numbers that are given, or the defaults. A depth limit of zero comes from spelling zero in any other
way than as `0`. -/
theorem settings_decided_by_texts (lookup : String → Option String) :
    (∀ key, (∃ e, Settings.ofLookup lookup = .error e ∧ e.key = key) ↔
      SettingKey.selectLimit = key ∧
        SettingKey.selectLimit.Wrong (lookup "DORM_DEFAULT_SELECT_LIMIT") ∨
      SettingKey.maxDepth = key ∧
        ¬ SettingKey.selectLimit.Wrong (lookup "DORM_DEFAULT_SELECT_LIMIT") ∧
        SettingKey.maxDepth.Wrong (lookup "DORM_MAX_PREDICATE_DEPTH")) ∧
    (∀ s, Settings.ofLookup lookup = .ok s ↔
      GivesSelectLimit (lookup "DORM_DEFAULT_SELECT_LIMIT") s.selectLimit ∧
      GivesMaxDepth (lookup "DORM_MAX_PREDICATE_DEPTH") s.maxDepth ∧
      s.logFilter = (lookup "DORM_LOG").getD "dorm=info") ∧
    ((∃ s, Settings.ofLookup lookup = .ok s ∧ s.maxDepth = some 0) ↔
      ¬ SettingKey.selectLimit.Wrong (lookup "DORM_DEFAULT_SELECT_LIMIT") ∧
      ∃ text, lookup "DORM_MAX_PREDICATE_DEPTH" = some text ∧ text ≠ "0" ∧
        Numeral.Spells (2 ^ 64) text.toList 0) := by
  refine ⟨fun key => Settings.exists_ofLookup_eq_error_iff,
    fun s => Settings.ofLookup_eq_ok_iff, ?_⟩
  rw [← exists_givesSelectLimit_iff]
  simp only [Settings.ofLookup_eq_ok_iff]
  constructor
  · rintro ⟨s, ⟨hselect, hdepth, -⟩, hzero⟩
    rw [hzero] at hdepth
    refine ⟨⟨_, hselect⟩, ?_⟩
    cases hgiven : lookup "DORM_MAX_PREDICATE_DEPTH" with
    | none =>
        rw [hgiven] at hdepth
        cases hdepth
    | some text =>
        rw [hgiven] at hdepth
        cases hdepth with
        | given hne h => exact ⟨text, rfl, hne, h⟩
  · rintro ⟨⟨n, hselect⟩, text, hgiven, hne, h⟩
    refine ⟨⟨n, some 0, _⟩, ⟨hselect, ?_, rfl⟩, rfl⟩
    rw [hgiven]
    exact .given hne h

/-- The text `00` spells zero, but it sets a depth limit of zero instead of removing the limit. -/
theorem zero_depth_spelled_otherwise :
    Numeral.Spells (2 ^ 64) "00".toList 0 ∧
    Settings.ofLookup (fun key => if key = "DORM_MAX_PREDICATE_DEPTH" then some "00" else none) =
      .ok ⟨1000, some 0, "dorm=info"⟩ := by
  constructor
  · apply Numeral.Spells.plain
    constructor
    · decide
    · simp
    · decide
    · exact Nat.two_pow_pos 64
  · decide

end EntitySql
