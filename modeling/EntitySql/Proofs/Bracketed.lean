import EntitySql.Text.Bracketed

/-! # Reading bracketed identifiers back

A closing bracket inside an identifier is doubled, so the first single one ends it. Reading a
written identifier therefore stops exactly behind it, whatever follows, as long as what follows
does not begin with a closing bracket of its own.
-/

namespace EntitySql.Bracketed

theorem quoteChars_append (name rest : List Char) :
    quoteChars name ++ rest = '[' :: (escape name ++ ']' :: rest) := by
  simp [quoteChars]

/-- A single closing bracket ends the identifier when no second one follows. -/
theorem scanInside_end {rest : List Char} (h : rest.head? ≠ some ']') :
    scanInside (']' :: rest) = some ([], rest) := by
  cases rest with
  | nil => rfl
  | cons c rest =>
      have hc : c ≠ ']' := by simpa using h
      rw [scanInside]
      intro cs heq
      exact hc (List.cons.inj heq).1

/-- Reading undoes doubling. -/
theorem scanInside_escape (name rest : List Char) (h : rest.head? ≠ some ']') :
    scanInside (escape name ++ ']' :: rest) = some (name, rest) := by
  induction name with
  | nil => exact scanInside_end h
  | cons c name ih =>
      by_cases hc : c = ']'
      · subst hc
        simp [escape, scanInside, ih]
      · simp only [escape, hc, if_false, List.cons_append]
        -- the reader has a case of its own for a bracket, which this character is not
        rw [scanInside, ih]
        · rfl
        · intro _ heq _
          exact hc heq
        · intro heq
          exact hc heq

/-- What is read of an identifier is its written form, and behind the single bracket that ends it
there is no second one. -/
theorem eq_escape_of_scanInside {cs name rest : List Char}
    (h : scanInside cs = some (name, rest)) :
    cs = escape name ++ ']' :: rest ∧ rest.head? ≠ some ']' := by
  induction cs using scanInside.induct generalizing name rest with
  | case1 => simp [scanInside] at h
  | case2 cs ih =>
      -- a doubled bracket, of which the name keeps one
      rw [scanInside] at h
      rcases Option.map_eq_some_iff.mp h with ⟨⟨n, r⟩, hscan, heq⟩
      rcases Prod.mk.inj heq with ⟨rfl, rfl⟩
      rcases ih hscan with ⟨rfl, hrest⟩
      exact ⟨rfl, hrest⟩
  | case3 cs hdouble =>
      -- the single bracket that ends the identifier
      rw [scanInside] at h
      · rcases Prod.mk.inj (Option.some.inj h) with ⟨rfl, rfl⟩
        refine ⟨rfl, ?_⟩
        intro hhead
        rcases List.head?_eq_some_iff.mp hhead with ⟨tail, htail⟩
        exact hdouble tail htail
      · exact hdouble
  | case4 c cs hdouble hsingle ih =>
      rw [scanInside] at h
      · rcases Option.map_eq_some_iff.mp h with ⟨⟨n, r⟩, hscan, heq⟩
        rcases Prod.mk.inj heq with ⟨rfl, rfl⟩
        rcases ih hscan with ⟨rfl, hrest⟩
        refine ⟨?_, hrest⟩
        rw [escape, if_neg hsingle]
        rfl
      · exact hdouble
      · exact hsingle

/-- Reading takes at least the closing bracket. -/
theorem length_scanInside {cs name rest : List Char} (h : scanInside cs = some (name, rest)) :
    rest.length < cs.length := by
  rw [(eq_escape_of_scanInside h).1, List.length_append, List.length_cons]
  omega

/-! ## Parts of a name -/

/-- The parts of a name are what splitting it at its dots gives. -/
theorem parts_eq_splitOn (name : List Char) : parts name = name.splitOn '.' := by
  induction name with
  | nil => rfl
  | cons c name ih =>
      have hne : name.splitOn '.' ≠ [] := List.splitOn_ne_nil '.' name
      rw [List.splitOn_cons_eq_if_modifyHead, parts, ih]
      simp only [beq_iff_eq]
      cases hparts : name.splitOn '.' with
      | nil => exact absurd hparts hne
      | cons first rest => rfl

end EntitySql.Bracketed
