import EntitySql.Proofs.Digits
import EntitySql.Proofs.Number

/-! # Plain numerals

A plain numeral is made of digits, maybe more digits behind a point, and maybe a minus sign in
front. It is read back from its text, and the texts of integers and of decimals are the plain
numerals of what they denote.

Main statements: `PlainNumeral.ofText?_eq_some`, `PlainNumeral.number_ofInt`,
`PlainNumeral.number_ofDecimal`.
-/

namespace EntitySql

/-- A numeral without an exponent. -/
structure PlainNumeral where
  negative : Bool
  whole : List Char
  /-- The digits behind the point; without any there is no point. -/
  fraction : List Char
  whole_ne_nil : whole ≠ []
  isDigit : ∀ c ∈ whole ++ fraction, c.isDigit = true

theorem countP_isDigit_signChars (negative : Bool) :
    (signChars negative).countP Char.isDigit = 0 := by
  cases negative <;> rfl

namespace PlainNumeral

/-- The numeral of these parts, if they can be written. -/
def make? (negative : Bool) (whole fraction : List Char) : Option PlainNumeral :=
  if h : whole ≠ [] ∧ ∀ c ∈ whole ++ fraction, c.isDigit = true then
    some ⟨negative, whole, fraction, h.1, h.2⟩
  else none

/-- All digits of a numeral. -/
def digits (p : PlainNumeral) : List Char := p.whole ++ p.fraction

/-- The number that a numeral denotes. -/
def number (p : PlainNumeral) : ℚ :=
  let magnitude : ℚ := Numeral.value p.whole + Numeral.value p.fraction / 10 ^ p.fraction.length
  if p.negative then -magnitude else magnitude

/-! ## Text -/

/-- The characters of a numeral behind its sign. -/
def magnitudeChars (p : PlainNumeral) : List Char :=
  p.whole ++ if p.fraction = [] then [] else '.' :: p.fraction

/-- The characters of a numeral. -/
def chars (p : PlainNumeral) : List Char := signChars p.negative ++ p.magnitudeChars

/-- Reads a numeral behind its sign to the end. -/
def readMagnitude? (negative : Bool) (cs : List Char) : Option PlainNumeral :=
  match cs.dropWhile Char.isDigit with
  | [] => make? negative (cs.takeWhile Char.isDigit) []
  | '.' :: c :: fraction => make? negative (cs.takeWhile Char.isDigit) (c :: fraction)
  | _ => none

/-- Reads a numeral to the end of its text. -/
def ofText? (text : String) : Option PlainNumeral :=
  match text.toList with
  | '-' :: cs => readMagnitude? true cs
  | cs => readMagnitude? false cs

theorem make?_eq (p : PlainNumeral) : make? p.negative p.whole p.fraction = some p :=
  dif_pos ⟨p.whole_ne_nil, p.isDigit⟩

theorem readMagnitude?_magnitudeChars (p : PlainNumeral) :
    readMagnitude? p.negative p.magnitudeChars = some p := by
  have hwhole : ∀ c ∈ p.whole, c.isDigit = true :=
    fun c hc => p.isDigit c (List.mem_append_left _ hc)
  have hmake := p.make?_eq
  unfold readMagnitude? magnitudeChars
  rw [List.takeWhile_append_of_pos hwhole, List.dropWhile_append_of_pos hwhole]
  -- the digits end with the text, or at the point
  cases hfraction : p.fraction with
  | nil =>
      rw [hfraction] at hmake
      simpa using hmake
  | cons c cs =>
      rw [hfraction] at hmake
      simpa using hmake

/-- A numeral is read back from its text. -/
theorem ofText?_eq_some {p : PlainNumeral} {text : String} (h : text.toList = p.chars) :
    ofText? text = some p := by
  have hread := p.readMagnitude?_magnitudeChars
  unfold ofText?
  rw [h, chars]
  cases hnegative : p.negative with
  | true =>
      rw [hnegative] at hread
      exact hread
  | false =>
      rw [hnegative] at hread
      -- a magnitude begins with a digit, not with a minus sign
      have hhead : ∀ cs, p.magnitudeChars ≠ '-' :: cs := by
        intro cs hcs
        cases hwhole : p.whole with
        | nil => exact p.whole_ne_nil hwhole
        | cons c rest =>
            have hc : c.isDigit = true := p.isDigit c (by simp [hwhole])
            rw [magnitudeChars, hwhole] at hcs
            obtain rfl := (List.cons.inj hcs).1
            exact absurd hc (by decide)
      change (match p.magnitudeChars with
        | '-' :: cs => readMagnitude? true cs
        | cs => readMagnitude? false cs) = some p
      split
      · exact absurd ‹_› (hhead _)
      · exact hread

/-- A numeral has the digits before its point and those behind it. -/
theorem countP_isDigit_chars (p : PlainNumeral) :
    p.chars.countP Char.isDigit = p.digits.length := by
  rw [digits, ← countP_isDigit_of_forall p.isDigit, chars, magnitudeChars, List.countP_append,
    countP_isDigit_signChars, Nat.zero_add, List.countP_append, List.countP_append]
  congr 1
  split
  · rename_i hnil
    rw [hnil]
  · rfl

/-! ## Integers -/

/-- The numeral of an integer. -/
def ofInt (n : Int) : PlainNumeral where
  negative := n < 0
  whole := Numeral.digits n.natAbs
  fraction := []
  whole_ne_nil := Numeral.digits_ne_nil _
  isDigit := by
    intro c hc
    rw [List.append_nil] at hc
    exact Numeral.isDigit_of_mem_digits hc

theorem digits_ofInt (n : Int) : (ofInt n).digits = Numeral.digits n.natAbs := List.append_nil _

theorem number_ofInt (n : Int) : (ofInt n).number = n := by
  have hnone : Numeral.value [] = 0 := rfl
  simp only [number, ofInt, Numeral.value_digits, hnone, Nat.cast_zero, zero_div, add_zero,
    decide_eq_true_eq]
  split
  · rw [← Int.cast_natCast, ← Int.cast_neg, Int.cast_inj]
    omega
  · rw [← Int.cast_natCast, Int.cast_inj]
    omega

theorem toList_ofInt (n : Int) : (Numeral.ofInt n).toList = (ofInt n).chars := by
  unfold chars magnitudeChars ofInt Numeral.ofInt
  by_cases hn : n < 0 <;> simp [hn, signChars, Numeral.ofNat]

/-! ## Decimals -/

/-- The numeral of a decimal, with all the places of the decimal behind the point. -/
def ofDecimal (d : Decimal) : PlainNumeral where
  negative := d.negative
  whole := (Numeral.paddedDigits (d.scale + 1) d.mantissa).take
    ((Numeral.paddedDigits (d.scale + 1) d.mantissa).length - d.scale)
  fraction := (Numeral.paddedDigits (d.scale + 1) d.mantissa).drop
    ((Numeral.paddedDigits (d.scale + 1) d.mantissa).length - d.scale)
  whole_ne_nil := by
    have hlength := Numeral.length_paddedDigits (d.scale + 1) d.mantissa
    rw [ne_eq, ← List.length_eq_zero_iff, List.length_take]
    omega
  isDigit := by
    intro c hc
    rw [List.take_append_drop] at hc
    exact Numeral.isDigit_of_mem_paddedDigits hc

theorem digits_ofDecimal (d : Decimal) :
    (ofDecimal d).digits = Numeral.paddedDigits (d.scale + 1) d.mantissa :=
  List.take_append_drop _ _

theorem length_fraction_ofDecimal (d : Decimal) : (ofDecimal d).fraction.length = d.scale := by
  have hlength := Numeral.length_paddedDigits (d.scale + 1) d.mantissa
  unfold ofDecimal
  rw [List.length_drop]
  omega

theorem number_ofDecimal (d : Decimal) : (ofDecimal d).number = d.number := by
  have hvalue := congrArg Numeral.value (digits_ofDecimal d)
  rw [digits, Numeral.value_append, Numeral.value_paddedDigits, length_fraction_ofDecimal] at hvalue
  have hne : (10 : ℚ) ^ d.scale ≠ 0 := by positivity
  have hmagnitude : (Numeral.value (ofDecimal d).whole : ℚ) +
      Numeral.value (ofDecimal d).fraction / 10 ^ d.scale = d.mantissa / 10 ^ d.scale := by
    rw [← hvalue]
    push_cast
    field_simp
  unfold number Decimal.number Decimal.signed
  rw [length_fraction_ofDecimal, hmagnitude]
  change (if d.negative then _ else _) = _
  split
  · push_cast
    ring
  · push_cast
    rfl

theorem toList_toText (d : Decimal) : d.toText.toList = (ofDecimal d).chars := by
  have hlength := length_fraction_ofDecimal d
  have hdigits := digits_ofDecimal d
  rw [Decimal.toText, String.toList_ofList, Decimal.toChars, chars]
  congr 1
  unfold Decimal.magnitudeChars magnitudeChars
  by_cases hscale : d.scale = 0
  · have hnil : (ofDecimal d).fraction = [] := List.length_eq_zero_iff.mp (hlength.trans hscale)
    rw [digits, hnil, List.append_nil] at hdigits
    simp only [if_pos hscale, hnil, if_pos, List.append_nil, hdigits]
  · have hne : (ofDecimal d).fraction ≠ [] := by
      intro hnil
      rw [hnil] at hlength
      exact hscale hlength.symm
    simp only [if_neg hscale, if_neg hne]
    rfl

end PlainNumeral

end EntitySql
