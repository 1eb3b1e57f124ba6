import EntitySql.Proofs.Numeral
import EntitySql.Proofs.Token
import EntitySql.Value.Literal

/-! # Numerals in SQL text

A numeric value is written as a numeral: digits and a point behind an optional minus sign, and for
some floats an exponent. A numeral is one word, it begins like a number, and no comment can begin in
it, because every minus sign in it stands before a digit.
-/

namespace EntitySql

/-- The characters of numerals. -/
def isNumeralChar (c : Char) : Bool := c.isDigit || c == '.' || c == 'e' || c == '-'

/-- A numeral: a digit, and then more characters of numerals, behind an optional minus sign. -/
def isNumeral : List Char → Bool
  | '-' :: c :: cs => c.isDigit && cs.all isNumeralChar
  | c :: cs => c.isDigit && cs.all isNumeralChar
  | [] => false

/-! ## Comments -/

theorem hasComment_cons {c : Char} {cs : List Char} (hminus : c ≠ '-') (hslash : c ≠ '/') :
    hasComment (c :: cs) = hasComment cs := by
  rw [hasComment]
  · rintro cs' rfl
    exact absurd rfl hminus
  · rintro cs' rfl
    exact absurd rfl hslash

/-- No comment begins in characters that are neither minus signs nor slashes. -/
theorem hasComment_append {cs ds : List Char} (h : ∀ c ∈ cs, c ≠ '-' ∧ c ≠ '/') :
    hasComment (cs ++ ds) = hasComment ds := by
  induction cs with
  | nil => rfl
  | cons c cs ih =>
      rcases h c List.mem_cons_self with ⟨hminus, hslash⟩
      rw [List.cons_append, hasComment_cons hminus hslash]
      exact ih fun d hd => h d (List.mem_cons_of_mem c hd)

/-- No comment begins at a minus sign before a digit. -/
theorem hasComment_minus {c : Char} {cs : List Char} (h : c.isDigit = true) :
    hasComment ('-' :: c :: cs) = hasComment (c :: cs) := by
  rw [hasComment]
  · rintro cs' - heq
    rcases List.cons.inj heq with ⟨rfl, -⟩
    exact absurd h (by decide)
  · rintro cs' heq -
    exact absurd heq (by decide)

/-! ## Numerals are words -/

/-- The characters of a magnitude without an exponent. -/
structure IsMagnitude (cs : List Char) : Prop where
  head : ∃ c rest, cs = c :: rest ∧ c.isDigit = true
  plain : ∀ c ∈ cs, c.isDigit = true ∨ c = '.'

theorem IsMagnitude.not_mark {cs : List Char} (h : IsMagnitude cs) :
    ∀ c ∈ cs, c ≠ '-' ∧ c ≠ '/' := by
  intro c hc
  rcases h.plain c hc with hdigit | rfl
  · constructor <;> rintro rfl <;> exact absurd hdigit (by decide)
  · decide

theorem IsMagnitude.isNumeralChar {cs : List Char} (h : IsMagnitude cs) :
    ∀ c ∈ cs, isNumeralChar c = true := by
  intro c hc
  rcases h.plain c hc with hdigit | rfl
  · simp [EntitySql.isNumeralChar, hdigit]
  · decide

theorem isWordChar_of_isNumeralChar {c : Char} (h : isNumeralChar c = true) :
    isWordChar c = true := by
  simp only [isNumeralChar, Bool.or_eq_true, beq_iff_eq] at h
  rcases h with ((hdigit | rfl) | rfl) | rfl
  · have hnum : c.isAlphanum = true := by simp [Char.isAlphanum, hdigit]
    simp [isWordChar, hnum]
  all_goals decide

/-- A magnitude begins with a digit, so a minus sign before it begins no comment. -/
theorem IsMagnitude.hasComment_sign {cs : List Char} (h : IsMagnitude cs) (negative : Bool)
    (rest : List Char) :
    hasComment (signChars negative ++ (cs ++ rest)) = hasComment rest := by
  have happend : hasComment (cs ++ rest) = hasComment rest := hasComment_append h.not_mark
  rcases h.head with ⟨c, tail, rfl, hdigit⟩
  cases negative with
  | false => exact happend
  | true => exact (hasComment_minus hdigit).trans happend

/-- A numeral is both a numeral to the reader of expressions and a word to the lexer. -/
structure IsNumeralWord (cs : List Char) : Prop where
  numeral : isNumeral cs = true
  word : isWord cs = true

/-- A magnitude behind an optional sign and before a harmless rest is a numeral. -/
theorem IsMagnitude.isNumeralWord {cs rest : List Char} (h : IsMagnitude cs) (negative : Bool)
    (hrest : ∀ c ∈ rest, EntitySql.isNumeralChar c = true) (hcomment : hasComment rest = false) :
    IsNumeralWord (signChars negative ++ (cs ++ rest)) := by
  have hcom : hasComment (signChars negative ++ (cs ++ rest)) = false := by
    rw [h.hasComment_sign, hcomment]
  have hall : ∀ c ∈ cs ++ rest, EntitySql.isNumeralChar c = true := by
    intro c hc
    rcases List.mem_append.mp hc with hc | hc
    · exact h.isNumeralChar c hc
    · exact hrest c hc
  rcases h.head with ⟨c, tail, rfl, hdigit⟩
  have htail : (tail ++ rest).all EntitySql.isNumeralChar = true :=
    List.all_eq_true.mpr fun d hd => hall d (List.mem_cons_of_mem c hd)
  have hword : ∀ d ∈ c :: (tail ++ rest), isWordChar d = true :=
    fun d hd => isWordChar_of_isNumeralChar (hall d hd)
  cases negative with
  | false =>
      constructor
      · -- the reader of numerals looks for a minus sign first
        have hc : c ≠ '-' := by
          rintro rfl
          exact absurd hdigit (by decide)
        change isNumeral (c :: (tail ++ rest)) = true
        rw [isNumeral, hdigit, htail]
        · rfl
        · rintro d ds rfl
          exact absurd rfl hc
      · rw [isWord, hcom]
        simpa [signChars, or_imp, forall_and] using hword
  | true =>
      constructor
      · change isNumeral ('-' :: c :: (tail ++ rest)) = true
        rw [isNumeral, hdigit, htail]
        rfl
      · rw [isWord, hcom]
        have hminus : isWordChar '-' = true := by decide
        simpa [signChars, hminus, or_imp, forall_and] using hword

/-- A magnitude behind an optional sign is a numeral. -/
theorem IsMagnitude.isNumeralWord_plain {cs : List Char} (h : IsMagnitude cs) (negative : Bool) :
    IsNumeralWord (signChars negative ++ cs) := by
  have hnum : IsNumeralWord (signChars negative ++ (cs ++ [])) :=
    h.isNumeralWord negative (by simp) rfl
  rwa [List.append_nil] at hnum

/-- A magnitude with an exponent is a numeral. -/
theorem IsMagnitude.isNumeralWord_exponent {cs ds : List Char} (h : IsMagnitude cs)
    (hds : IsMagnitude ds) (negative low : Bool) :
    IsNumeralWord (signChars negative ++ (cs ++ 'e' :: (signChars low ++ ds))) := by
  apply h.isNumeralWord negative
  · intro c hc
    simp only [List.mem_cons, List.mem_append] at hc
    -- the letter, the sign of the exponent and its digits
    rcases hc with rfl | hc | hc
    · decide
    · cases low with
      | false => simp [signChars] at hc
      | true =>
          have hminus : c = '-' := by simpa [signChars] using hc
          rw [hminus]
          decide
    · exact hds.isNumeralChar c hc
  · rw [hasComment_cons (by decide) (by decide)]
    have hsign := hds.hasComment_sign low []
    rw [List.append_nil] at hsign
    exact hsign

/-! ## The literals of values -/

/-- Digits are a magnitude. -/
theorem isMagnitude_of_digits {cs : List Char} (hne : cs ≠ [])
    (h : ∀ c ∈ cs, c.isDigit = true) : IsMagnitude cs := by
  constructor
  · cases cs with
    | nil => exact absurd rfl hne
    | cons c rest => exact ⟨c, rest, rfl, h c List.mem_cons_self⟩
  · exact fun c hc => Or.inl (h c hc)

/-- Digits with a point behind the first ones are a magnitude. -/
theorem isMagnitude_of_point {cs ds : List Char} (hne : cs ≠ [])
    (hcs : ∀ c ∈ cs, c.isDigit = true) (hds : ∀ c ∈ ds, c.isDigit = true) :
    IsMagnitude (cs ++ '.' :: ds) := by
  constructor
  · rcases (isMagnitude_of_digits hne hcs).head with ⟨c, rest, rfl, hc⟩
    exact ⟨c, rest ++ '.' :: ds, rfl, hc⟩
  · intro c hc
    simp only [List.mem_append, List.mem_cons] at hc
    rcases hc with hc | rfl | hc
    · exact Or.inl (hcs c hc)
    · exact Or.inr rfl
    · exact Or.inl (hds c hc)

theorem isMagnitude_digits (n : Nat) : IsMagnitude (Numeral.digits n) :=
  isMagnitude_of_digits (Numeral.digits_ne_nil n) fun _ => Numeral.isDigit_of_mem_digits

/-- Splitting digits by a point before the last of them leaves a magnitude. -/
theorem isMagnitude_split {cs : List Char} {places : Nat} (h : ∀ c ∈ cs, c.isDigit = true)
    (hlt : places < cs.length) :
    IsMagnitude (cs.take (cs.length - places) ++ '.' :: cs.drop (cs.length - places)) := by
  apply isMagnitude_of_point
  · rw [ne_eq, ← List.length_eq_zero_iff, List.length_take]
    omega
  · exact fun c hc => h c (List.mem_of_mem_take hc)
  · exact fun c hc => h c (List.mem_of_mem_drop hc)

theorem Decimal.isMagnitude_magnitudeChars (d : Decimal) : IsMagnitude d.magnitudeChars := by
  have hdigits : ∀ c ∈ Numeral.paddedDigits (d.scale + 1) d.mantissa, c.isDigit = true :=
    fun _ => Numeral.isDigit_of_mem_paddedDigits
  have hlength := Numeral.length_paddedDigits (d.scale + 1) d.mantissa
  unfold Decimal.magnitudeChars
  split
  · apply isMagnitude_of_digits _ hdigits
    rw [ne_eq, ← List.length_eq_zero_iff]
    omega
  · exact isMagnitude_split hdigits hlength

theorem ScaledDigits.isMagnitude_positional (d : ScaledDigits) :
    IsMagnitude (d.positional literalLayout) := by
  have hdigits : ∀ c ∈ Numeral.digits d.digits, c.isDigit = true :=
    fun _ => Numeral.isDigit_of_mem_digits
  have hzeros : ∀ n, ∀ c ∈ List.replicate n '0', c.isDigit = true := by
    intro n c hc
    rw [List.eq_of_mem_replicate hc]
    decide
  unfold ScaledDigits.positional
  simp only [literalLayout, Bool.false_eq_true, if_false, List.append_nil]
  split
  -- zeros behind the digits
  · apply isMagnitude_of_digits
    · exact fun hnil => Numeral.digits_ne_nil _ (List.append_eq_nil_iff.mp hnil).1
    · intro c hc
      rcases List.mem_append.mp hc with hc | hc
      · exact hdigits c hc
      · exact hzeros _ c hc
  · split
    -- the point between two digits, or behind a zero in front of all of them
    · next hlt => exact isMagnitude_split hdigits hlt
    · refine @isMagnitude_of_point ['0'] _ (by simp) (by simp) ?_
      intro c hc
      rcases List.mem_append.mp hc with hc | hc
      · exact hzeros _ c hc
      · exact hdigits c hc

theorem ScaledDigits.isNumeralWord_scientific (d : ScaledDigits) (negative : Bool) :
    IsNumeralWord (signChars negative ++ d.scientific literalLayout) := by
  have hdigits : ∀ c ∈ Numeral.digits d.digits, c.isDigit = true :=
    fun _ => Numeral.isDigit_of_mem_digits
  rcases (isMagnitude_digits d.digits).head with ⟨c, rest, hcons, hc⟩
  have hrest : ∀ c ∈ rest, c.isDigit = true := by
    intro x hx
    exact hdigits x (by rw [hcons]; exact List.mem_cons_of_mem c hx)
  -- a point stands behind the first digit when there is a second one
  have hmantissa : IsMagnitude ([c] ++ if rest.isEmpty then [] else '.' :: rest) := by
    have hone : ∀ x ∈ [c], x.isDigit = true := by simpa using hc
    split
    · exact isMagnitude_of_digits (by simp) (by simpa using hc)
    · exact isMagnitude_of_point (by simp) hone hrest
  have hsign : (if d.leading < 0 then ['-'] else []) = signChars (decide (d.leading < 0)) := by
    by_cases h : d.leading < 0 <;> simp [signChars, h]
  have hexp := hmantissa.isNumeralWord_exponent (isMagnitude_digits d.leading.natAbs) negative
    (decide (d.leading < 0))
  simpa [ScaledDigits.scientific, hcons, literalLayout, hsign] using hexp

/-- Every literal is a numeral. -/
theorem Value.isNumeralWord_literal {v : Value} {text : String} (h : v.literal? = some text) :
    IsNumeralWord text.toList := by
  have hint : ∀ n : Int, IsNumeralWord (Numeral.ofInt n).toList := by
    intro n
    have hsign : (Numeral.ofInt n).toList =
        signChars (decide (n < 0)) ++ Numeral.digits n.natAbs := by
      by_cases hn : n < 0 <;> simp [Numeral.ofInt, Numeral.ofNat, signChars, hn]
    rw [hsign]
    exact (isMagnitude_digits n.natAbs).isNumeralWord_plain _
  cases v with
  | bool b =>
      rcases Option.some.inj h with rfl
      cases b <;> exact ⟨by decide, by decide⟩
  | int n =>
      rcases Option.some.inj h with rfl
      exact hint n.toInt
  | uint n =>
      rcases Option.some.inj h with rfl
      rw [Numeral.ofNat, String.toList_ofList]
      exact (isMagnitude_digits n.toNat).isNumeralWord_plain false
  | float x =>
      rcases Option.map_eq_some_iff.mp h with ⟨d, -, rfl⟩
      rw [String.toList_ofList, Dyadic.literalChars]
      split
      · exact ScaledDigits.isNumeralWord_scientific _ d.negative
      · exact (ScaledDigits.isMagnitude_positional _).isNumeralWord_plain d.negative
  | decimal d =>
      rcases Option.some.inj h with rfl
      rw [Decimal.toText, String.toList_ofList]
      exact (Decimal.isMagnitude_magnitudeChars d).isNumeralWord_plain d.negative
  | _ => cases h

/-- A value has a literal exactly when it is numeric. -/
theorem Value.literal?_eq_none_iff {v : Value} : v.literal? = none ↔ v.isNumeric = false := by
  cases v <;> simp [Value.literal?, Value.isNumeric]

end EntitySql
