import EntitySql.Proofs.Digits
import EntitySql.Proofs.Narrow

/-! # Seventeen digits suffice

The interval of a float is wider than the grid sixteen places behind the float's first digit, so one
of the float's neighbours on that grid lies in the interval. The search for the shortest decimal
therefore stops there at the latest, and the decimal that it finds has at most seventeen digits.

Main statement: `Dyadic.InFormat.isShort_shortest`.
-/

namespace EntitySql

/-- The numbers of 64-bit floats. -/
structure Dyadic.InFormat (d : Dyadic) : Prop where
  mantissa_lt : d.mantissa < 2 ^ 53
  exponent_ge : -1074 ≤ d.exponent
  exponent_le : d.exponent ≤ 972

/-- A decimal of at most seventeen digits, of which the first one stands at a place of at most four
digits. -/
structure ScaledDigits.IsShort (d : ScaledDigits) : Prop where
  digits_lt : d.digits < 10 ^ 17
  leading_lt : d.leading.natAbs < 10 ^ 4

namespace Binary64

theorem inFormat_of_dyadic? {x : Float} {d : Dyadic} (h : dyadic? x = some d) : d.InFormat := by
  have hfraction : x.toBits.toNat % fractionCount < fractionCount := Nat.mod_lt _ (by decide)
  have hfield : x.toBits.toNat / fractionCount % 2048 < 2048 := Nat.mod_lt _ (by decide)
  have hcount : fractionCount = 2 ^ 52 := by decide
  rcases (ofBits?_cases h).2 with ⟨-, hmantissa, hexponent⟩ | ⟨hnormal, hmantissa, hexponent⟩
  · constructor <;> omega
  · constructor <;> omega

/-! ## Grids -/

/-- A point strictly between the ends lies in the interval, whether or not the ends do. -/
theorem Span.contains_of_lt {s : Span} {n : Nat} (hlow : s.low < n) (hhigh : n < s.high) :
    s.contains n = true := by
  unfold contains
  split <;> simp <;> omega

/-- One of the neighbours of a float on a grid finer than its interval lies in the interval. -/
theorem Span.contains_neighbour {s : Span} {unit : Nat} (hlow : s.low ≤ s.value)
    (hhigh : s.value < s.high) (hunit : 0 < unit) (hfine : unit < s.high - s.low) :
    s.contains (s.value / unit * unit) = true ∨
      s.contains ((s.value / unit + 1) * unit) = true := by
  have hbelow := Nat.div_mul_le_self s.value unit
  have habove := Nat.lt_div_mul_add hunit (a := s.value)
  rw [Nat.succ_mul]
  by_cases hleft : s.low < s.value / unit * unit
  · exact Or.inl (contains_of_lt hleft (by omega))
  · exact Or.inr (contains_of_lt (by omega) (by omega))

theorem Span.isSome_onGrid? {s : Span} {tie : Tie} {place : Nat} (hlow : s.low ≤ s.value)
    (hhigh : s.value < s.high) (hunit : 0 < s.one * 10 ^ place)
    (hfine : s.one * 10 ^ place < s.high - s.low) : (s.onGrid? tie place).isSome := by
  have hcontains := contains_neighbour hlow hhigh hunit hfine
  unfold onGrid?
  simp only [Nat.pow_eq]
  split
  · simp_all
  · rfl
  · rfl
  · split
    · rfl
    · split
      · rfl
      · split <;> rfl

theorem Span.onGrid?_le {s : Span} {tie : Tie} {place n : Nat} (h : s.onGrid? tie place = some n) :
    n ≤ s.value / (s.one * 10 ^ place) + 1 := by
  unfold onGrid? at h
  simp only [Nat.pow_eq] at h
  generalize s.value / (s.one * 10 ^ place) = below at h ⊢
  split at h
  · cases h
  all_goals grind

/-- The search stops at the latest at a place where the grid has a point of the interval. -/
theorem Span.search_eq {s : Span} {tie : Tie} {p place : Nat} (hp : 0 < p) (hle : p ≤ place)
    (hgrid : (s.onGrid? tie p).isSome) :
    ∃ q n, p ≤ q ∧ q ≤ place ∧ n ≤ s.value / (s.one * 10 ^ q) + 1 ∧
      s.search tie place = ⟨n, (q : Int) - spanScale⟩ := by
  induction place with
  | zero => omega
  | succ place ih =>
      rw [search]
      cases hn : s.onGrid? tie (place + 1) with
      | some n => exact ⟨place + 1, n, hle, le_refl _, onGrid?_le hn, rfl⟩
      | none =>
          have hne : p ≠ place + 1 := by
            rintro rfl
            simp [hn] at hgrid
          rcases ih (by omega) with ⟨q, n, hpq, hq, hn, hsearch⟩
          exact ⟨q, n, hpq, by omega, hn, hsearch⟩

/-! ## The span of a float -/

/-- What the search relies on: the float lies in its interval and has at least 18 digits before the
point of the line, but not too many, and the interval is wider than a grid that leaves the float 17
digits. -/
structure Span.IsFine (s : Span) : Prop where
  one_pos : 0 < s.one
  low_le : s.low ≤ s.value
  lt_high : s.value < s.high
  one_le : s.one * 10 ^ 17 ≤ s.value
  value_lt : s.value / s.one < 10 ^ (1025 + spanScale)
  wide : ∀ unit, unit * 10 ^ 16 ≤ s.value → unit < s.high - s.low

/-- Even the smallest unit of a line is small against the float. -/
theorem spanOf_one_le {d : Dyadic} (h : d.InFormat) (hne : d.mantissa ≠ 0) :
    (spanOf d.mantissa d.exponent).one * 10 ^ 17 ≤ (spanOf d.mantissa d.exponent).value := by
  have hlow := h.exponent_ge
  -- thirteen powers of two are less than four powers of ten
  obtain ⟨k, hbits, hplaces⟩ : ∃ k, (2 - d.exponent).toNat ≤ 13 * k ∧ 4 * k + 17 ≤ spanScale :=
    ⟨83, by omega, by decide⟩
  unfold spanOf
  simp only [Nat.pow_eq]
  generalize spanScale = places at hplaces ⊢
  calc 2 ^ (2 - d.exponent).toNat * 10 ^ 17
      ≤ 2 ^ (13 * k) * 10 ^ 17 := by
        gcongr
        decide
    _ = (2 ^ 13) ^ k * 10 ^ 17 := by rw [pow_mul]
    _ ≤ (10 ^ 4) ^ k * 10 ^ 17 := Nat.mul_le_mul_right _ (Nat.pow_le_pow_left (by decide) k)
    _ = 10 ^ (4 * k + 17) := by rw [← pow_mul, ← pow_add]
    _ ≤ 10 ^ places := Nat.pow_le_pow_right (by decide) hplaces
    _ = 1 * (1 * 10 ^ places) := by rw [one_mul, one_mul]
    _ ≤ 4 * d.mantissa * (2 ^ (d.exponent - 2).toNat * 10 ^ places) := by
        gcongr
        · omega
        · exact Nat.one_le_two_pow

theorem spanOf_value_lt {d : Dyadic} (h : d.InFormat) :
    (spanOf d.mantissa d.exponent).value / (spanOf d.mantissa d.exponent).one <
      10 ^ (1025 + spanScale) := by
  have hmantissa := h.mantissa_lt
  have hhigh := h.exponent_le
  unfold spanOf
  simp only [Nat.pow_eq]
  generalize spanScale = places
  calc 4 * d.mantissa * (2 ^ (d.exponent - 2).toNat * 10 ^ places) / 2 ^ (2 - d.exponent).toNat
      ≤ 4 * d.mantissa * (2 ^ (d.exponent - 2).toNat * 10 ^ places) := Nat.div_le_self _ _
    _ < 2 ^ 55 * (2 ^ 970 * 10 ^ places) := by
        apply Nat.mul_lt_mul_of_lt_of_le
        · omega
        · gcongr
          · decide
          · omega
        · positivity
    _ = 2 ^ 1025 * 10 ^ places := by rw [← mul_assoc, ← pow_add]
    _ ≤ 10 ^ 1025 * 10 ^ places := by
        gcongr
        decide
    _ = 10 ^ (1025 + places) := by rw [pow_add]

/-- The interval is wider than a grid on which the float has 17 digits before the point. -/
theorem spanOf_wide {d : Dyadic} (h : d.InFormat) {unit : Nat}
    (hunit : unit * 10 ^ 16 ≤ (spanOf d.mantissa d.exponent).value) :
    unit < (spanOf d.mantissa d.exponent).high - (spanOf d.mantissa d.exponent).low := by
  have hmantissa := h.mantissa_lt
  have hcount : fractionCount = 2 ^ 52 := by decide
  have hscale : 0 < 2 ^ (d.exponent - 2).toNat * 10 ^ spanScale := by positivity
  unfold spanOf at hunit ⊢
  simp only [Nat.pow_eq] at hunit ⊢
  generalize 2 ^ (d.exponent - 2).toNat * 10 ^ spanScale = scale at hscale hunit ⊢
  rw [← Nat.sub_mul]
  apply Nat.lt_of_mul_lt_mul_right (a := 10 ^ 16)
  refine lt_of_le_of_lt hunit ?_
  rw [Nat.mul_right_comm _ scale]
  apply Nat.mul_lt_mul_of_pos_right _ hscale
  split
  · -- below a power of two the interval is narrower, but the mantissa is smaller as well
    rename_i hcloser
    have heq : d.mantissa = fractionCount := by
      simp only [Bool.and_eq_true, beq_iff_eq] at hcloser
      exact hcloser.1
    omega
  · omega

theorem isFine_spanOf {d : Dyadic} (h : d.InFormat) (hne : d.mantissa ≠ 0) :
    (spanOf d.mantissa d.exponent).IsFine := by
  refine ⟨?one_pos, ?low_le, ?lt_high, spanOf_one_le h hne, spanOf_value_lt h,
    fun unit => spanOf_wide h⟩
  all_goals
    unfold spanOf
    simp only [Nat.pow_eq]
    generalize spanScale = places
  case one_pos => positivity
  case low_le => exact Nat.mul_le_mul_right _ (Nat.sub_le _ _)
  case lt_high => exact Nat.mul_lt_mul_of_pos_right (by omega) (by positivity)

theorem Span.firstPlace_eq (s : Span) : s.firstPlace = Nat.log 10 (s.value / s.one) := by
  rw [firstPlace, Numeral.length_digits, Nat.add_sub_cancel]

theorem Span.IsFine.pow_le_div {s : Span} (h : s.IsFine) : 10 ^ 17 ≤ s.value / s.one := by
  rw [Nat.le_div_iff_mul_le h.one_pos, mul_comm]
  exact h.one_le

theorem Span.IsFine.le_firstPlace {s : Span} (h : s.IsFine) : 17 ≤ s.firstPlace := by
  have hquotient := h.pow_le_div
  rw [firstPlace_eq]
  exact (Nat.le_log_iff_pow_le (by decide) (by omega)).mpr hquotient

theorem Span.IsFine.firstPlace_lt {s : Span} (h : s.IsFine) :
    s.firstPlace < 1025 + spanScale := by
  have hquotient := h.pow_le_div
  rw [firstPlace_eq]
  exact Nat.log_lt_of_lt_pow (by omega) h.value_lt

theorem Span.IsFine.pow_firstPlace_le {s : Span} (h : s.IsFine) :
    s.one * 10 ^ s.firstPlace ≤ s.value := by
  have hquotient := h.pow_le_div
  rw [mul_comm, ← Nat.le_div_iff_mul_le h.one_pos, firstPlace_eq]
  exact Nat.pow_log_le_self 10 (by omega)

theorem Span.div_lt_pow_firstPlace (s : Span) : s.value / s.one < 10 ^ (s.firstPlace + 1) := by
  rw [firstPlace_eq]
  exact Nat.lt_pow_succ_log_self (by decide) _

/-- The search finds a decimal of at most 17 digits, or the power of ten that follows these. -/
theorem Span.IsFine.search_le {s : Span} (h : s.IsFine) (tie : Tie) :
    (s.search tie s.firstPlace).digits ≤ 10 ^ 17 ∧
      (s.search tie s.firstPlace).exponent.natAbs ≤ 1025 + spanScale := by
  have hone := h.one_pos
  have hlow := h.le_firstPlace
  have hhigh := h.firstPlace_lt
  have hpow := h.pow_firstPlace_le
  have hlt := s.div_lt_pow_firstPlace
  obtain ⟨p, hplace⟩ : ∃ p, s.firstPlace = p + 16 := ⟨s.firstPlace - 16, by omega⟩
  rw [hplace] at hlow hhigh hpow hlt ⊢
  -- the grid 16 places behind the first digit has a point of the interval
  have hgrid : (s.onGrid? tie p).isSome := by
    apply isSome_onGrid? h.low_le h.lt_high (by positivity)
    apply h.wide
    rw [mul_assoc, ← pow_add]
    exact hpow
  rcases search_eq (by omega) (Nat.le_add_right p 16) hgrid with ⟨q, n, hpq, hq, hn, hsearch⟩
  rw [hsearch]
  have hbelow : s.value / (s.one * 10 ^ q) < 10 ^ 17 := by
    rw [← Nat.div_div_eq_div_mul, Nat.div_lt_iff_lt_mul (by positivity), ← pow_add]
    exact lt_of_lt_of_le hlt (Nat.pow_le_pow_right (by decide) (by omega))
  simp only
  constructor <;> omega

end Binary64

/-! ## Stripping zeros -/

theorem ScaledDigits.stripZeros_go (n : Nat) (e : Int) :
    ∃ m k : Nat, stripZeros.go n e = ⟨m, e + k⟩ ∧ n = m * 10 ^ k ∧ (0 < n → m % 10 ≠ 0) := by
  induction n, e using stripZeros.go.induct with
  | case1 n e h ih =>
      rcases ih with ⟨m, k, hgo, hn, hlast⟩
      refine ⟨m, k + 1, ?_, ?_, ?_⟩
      · rw [stripZeros.go, dif_pos h, hgo]
        push_cast
        rw [add_assoc, add_comm 1]
      · rw [pow_succ, ← mul_assoc, ← hn]
        omega
      · intro hpos
        exact hlast (by omega)
  | case2 n e h =>
      refine ⟨n, 0, ?_, by simp, ?_⟩
      · rw [stripZeros.go, dif_neg h]
        simp
      · omega

/-- A number of at most seventeen digits keeps no more of them, and the power of ten that follows
these keeps one. -/
theorem ScaledDigits.isShort_stripZeros {d : ScaledDigits} (hdigits : d.digits ≤ 10 ^ 17)
    (hexponent : d.exponent.natAbs ≤ 9000) : d.stripZeros.IsShort := by
  unfold stripZeros
  split
  · constructor <;> simp [leading, Numeral.digits]
  · rename_i hne
    rcases stripZeros_go d.digits d.exponent with ⟨m, k, hgo, hn, hlast⟩
    have hpos : m ≠ 0 := by
      rintro rfl
      omega
    have hk : k ≤ 17 := by
      have hpow : 10 ^ k ≤ m * 10 ^ k := Nat.le_mul_of_pos_left _ (by omega)
      exact (Nat.pow_le_pow_iff_right (by decide)).mp (hpow.trans (hn ▸ hdigits))
    have hm : m < 10 ^ 17 := by
      have hle : m ≤ m * 10 ^ k := Nat.le_mul_of_pos_right _ (by positivity)
      have hlast : m % 10 ≠ 0 := hlast (by omega)
      omega
    have hlength := Numeral.length_digits_le (by decide) hm
    rw [hgo]
    refine ⟨hm, ?_⟩
    unfold leading
    simp only
    omega

/-- The shortest decimal of a float has at most seventeen digits. -/
theorem Dyadic.InFormat.isShort_shortest {d : Dyadic} (h : d.InFormat) (tie : Tie) :
    (d.shortest tie).IsShort := by
  unfold shortest
  split
  · constructor <;> simp [ScaledDigits.leading, Numeral.digits]
  · rename_i hne
    rcases (Binary64.isFine_spanOf h hne).search_le tie with ⟨hdigits, hexponent⟩
    exact ScaledDigits.isShort_stripZeros hdigits (hexponent.trans (by decide))

end EntitySql
