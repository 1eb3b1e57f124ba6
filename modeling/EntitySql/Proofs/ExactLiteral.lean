import EntitySql.Proofs.Literal
import EntitySql.Proofs.PlainNumeral
import EntitySql.Proofs.SignificantDigits

/-! # What numeric literals denote

The literal of a boolean, an integer or a decimal is a plain numeral of the number that the value
denotes, and a decimal keeps its places. No literal has more digits than the server accepts: the
floats whose digits would be too many are written with an exponent, and then there are at most 17
digits in front of it and four in it.

Main statement: `numeric_literal_exact`.
-/

namespace EntitySql

/-! ## Digits of floats -/

theorem ScaledDigits.IsShort.countP_scientific {d : ScaledDigits} (h : d.IsShort)
    (layout : FloatLayout) : (d.scientific layout).countP Char.isDigit ≤ 21 := by
  have hdigits := Numeral.length_digits_le (by decide) h.digits_lt
  have hexponent := Numeral.length_digits_le (by decide) h.leading_lt
  have hcount := List.countP_le_length (p := Char.isDigit) (l := Numeral.digits d.digits)
  have hcount' := List.countP_le_length (p := Char.isDigit) (l := Numeral.digits d.leading.natAbs)
  have hsign : (if d.leading < 0 then ['-'] else if layout.exponentPlus then ['+'] else []).countP
      Char.isDigit = 0 := by
    split
    · rfl
    · split <;> rfl
  -- the point between the first digit and the others does not count
  have hpoint : ∀ cs : List Char, (if cs.isEmpty then [] else '.' :: cs).countP Char.isDigit =
      cs.countP Char.isDigit := by
    intro cs
    cases cs <;> rfl
  unfold scientific
  simp only
  rw [List.countP_append, List.countP_append, hpoint, ← List.countP_append, List.take_append_drop,
    List.countP_cons_of_neg (by decide), List.countP_append, hsign]
  omega

/-- The literal of a float has at most 38 digits, in either of its forms. -/
theorem Dyadic.InFormat.countP_literalChars {d : Dyadic} (h : d.InFormat) :
    d.literalChars.countP Char.isDigit ≤ 38 := by
  have hshort := (h.isShort_shortest literalLayout.tie).countP_scientific literalLayout
  unfold literalChars
  simp only [digitCount_eq, maxLiteralDigits]
  rw [List.countP_append, countP_isDigit_signChars]
  split <;> omega

/-! ## Literals of exact values -/

/-- The places behind the point that a value has of its own. -/
def Value.places : Value → Nat
  | .decimal d => d.scale
  | _ => 0

/-- The literal of a value that denotes a number is the plain numeral of that number. -/
theorem Value.exists_plainNumeral {v : Value} {q : ℚ} (h : v.number? = some q) :
    ∃ text p, v.literal? = some text ∧ text.toList = PlainNumeral.chars p ∧ p.number = q ∧
      p.fraction.length = v.places ∧ p.digits.length ≤ 38 := by
  have hint : ∀ n : Int, n.natAbs < 10 ^ 38 → (PlainNumeral.ofInt n).digits.length ≤ 38 := by
    intro n hn
    rw [PlainNumeral.digits_ofInt]
    exact Numeral.length_digits_le (by decide) hn
  cases v with
  | bool b =>
      obtain rfl := Option.some.inj h
      refine ⟨_, PlainNumeral.ofInt (if b then 1 else 0), rfl, ?_, ?_, rfl, hint _ ?_⟩
      · cases b <;> simp [PlainNumeral.chars, PlainNumeral.magnitudeChars, PlainNumeral.ofInt,
          signChars, Numeral.digits, Numeral.digitChar]
      · rw [PlainNumeral.number_ofInt]
        cases b <;> rfl
      · cases b <;> decide
  | int n =>
      obtain rfl := Option.some.inj h
      have hlow := n.le_toInt
      have hhigh := n.toInt_lt
      exact ⟨_, PlainNumeral.ofInt n.toInt, rfl, PlainNumeral.toList_ofInt _,
        PlainNumeral.number_ofInt _, rfl, hint _ (by omega)⟩
  | uint n =>
      obtain rfl := Option.some.inj h
      have hhigh := n.toNat_lt
      refine ⟨_, PlainNumeral.ofInt n.toNat, rfl, ?_, ?_, rfl, hint _ (by omega)⟩
      · rw [← PlainNumeral.toList_ofInt]
        rfl
      · rw [PlainNumeral.number_ofInt]
        norm_cast
  | decimal d =>
      obtain rfl := Option.some.inj h
      refine ⟨_, PlainNumeral.ofDecimal d, rfl, PlainNumeral.toList_toText d,
        PlainNumeral.number_ofDecimal d, PlainNumeral.length_fraction_ofDecimal d, ?_⟩
      have hmantissa : d.mantissa < 10 ^ 38 := d.mantissa_lt.trans (by decide)
      have hscale : d.scale + 1 ≤ 38 := (Nat.succ_le_succ d.scale_le).trans (by decide)
      rw [PlainNumeral.digits_ofDecimal]
      exact Numeral.length_paddedDigits_le (by decide) hscale hmantissa
  | _ => cases h

/-- No literal has more digits than the server accepts. -/
theorem Value.countP_literal {v : Value} {text : String} (h : v.literal? = some text) :
    text.toList.countP Char.isDigit ≤ 38 := by
  have hplain : ∀ q, v.number? = some q → text.toList.countP Char.isDigit ≤ 38 := by
    intro q hq
    rcases v.exists_plainNumeral hq with ⟨text', p, htext, hchars, -, -, hlength⟩
    obtain rfl := Option.some.inj (h.symm.trans htext)
    rw [hchars, p.countP_isDigit_chars]
    exact hlength
  cases v with
  | float x =>
      rcases Option.map_eq_some_iff.mp h with ⟨d, hd, rfl⟩
      rw [String.toList_ofList]
      exact (Binary64.inFormat_of_dyadic? hd).countP_literalChars
  | bool b => exact hplain _ rfl
  | int n => exact hplain _ rfl
  | uint n => exact hplain _ rfl
  | decimal d => exact hplain _ rfl
  | _ => cases h

/-- A boolean, an integer or a decimal is written as a plain numeral that is read back as the number
of the value, a decimal with all its places. No literal has more than 38 digits, and exactly the
values that are not numeric have no literal. -/
theorem numeric_literal_exact (v : Value) :
    (∀ q, v.number? = some q → ∃ text p, v.literal? = some text ∧
      text.toList = PlainNumeral.chars p ∧ PlainNumeral.ofText? text = some p ∧ p.number = q ∧
      p.fraction.length = v.places) ∧
    (∀ text, v.literal? = some text → text.toList.countP Char.isDigit ≤ 38) ∧
    (v.literal? = none ↔ v.isNumeric = false) := by
  refine ⟨?_, fun text h => Value.countP_literal h, Value.literal?_eq_none_iff⟩
  intro q h
  rcases v.exists_plainNumeral h with ⟨text, p, htext, hchars, hnumber, hplaces, -⟩
  exact ⟨text, p, htext, hchars, PlainNumeral.ofText?_eq_some hchars, hnumber, hplaces⟩

/-- A negative decimal of four places is written with all of them, and a true value as the digit
one. -/
theorem numeric_literal_exact_places :
    (∃ text p, (Value.decimal ⟨true, 50, 4, by decide, by decide⟩).literal? = some text ∧
      PlainNumeral.ofText? text = some p ∧ p.number = -1 / 200 ∧ p.fraction.length = 4) ∧
    "1".toList.countP Char.isDigit ≤ 38 := by
  constructor
  · have hnumber : (Value.decimal ⟨true, 50, 4, by decide, by decide⟩).number? =
        some (-1 / 200) := by
      norm_num [Value.number?, Decimal.number, Decimal.signed]
    rcases (numeric_literal_exact _).1 _ hnumber with ⟨text, p, htext, -, hread, hp, hplaces⟩
    exact ⟨text, p, htext, hread, hp, hplaces⟩
  · exact (numeric_literal_exact (.bool true)).2.1 "1" rfl

end EntitySql
