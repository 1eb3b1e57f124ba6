import EntitySql.Proofs.Reading

/-! # String matches

A string match is a LIKE: the pattern is the bound text with wildcards joined to it, and the row is
selected if the text in the column matches the pattern. So a match finds the texts that begin with
an argument, end with it or contain it as long as the argument has no character that means something
else in a pattern. The argument is bound as it is given, and with such a character it is a pattern
of its own.

The matcher leaves open what a set in brackets holds, and a bracket that is not closed matches
nothing.

Main statements: `string_match_selects`, `argument_read_as_pattern`.
-/

namespace EntitySql

/-! ## Patterns -/

/-- The character stands for something else in a pattern. -/
def Like.IsSpecial (c : Char) : Prop := c = '%' ∨ c = '_' ∨ c = '['

/-- The text matches the pattern: a percent sign stands for any run of characters, an underscore for
any one character, a set in brackets for any one of those that it holds, and every other character
for itself. -/
inductive Like.Matches (holds : List Char → Char → Prop) : List Char → List Char → Prop where
  | nil : Matches holds [] []
  -- the equation of a split is a hypothesis, so that a match can be inverted for any text
  | run {pattern run text rest : List Char} (hsplit : text = run ++ rest)
      (h : Matches holds pattern rest) : Matches holds ('%' :: pattern) text
  | one {pattern text : List Char} (c : Char) (h : Matches holds pattern text) :
      Matches holds ('_' :: pattern) (c :: text)
  | set {set pattern behind text : List Char} {c : Char} (hclosed : behind = set ++ ']' :: pattern)
      (hset : ']' ∉ set) (hc : holds set c) (h : Matches holds pattern text) :
      Matches holds ('[' :: behind) (c :: text)
  | plain {c : Char} {pattern text : List Char} (hplain : ¬ Like.IsSpecial c)
      (h : Matches holds pattern text) : Matches holds (c :: pattern) (c :: text)

namespace Like

variable {holds : List Char → Char → Prop} {pattern text argument : List Char}

theorem matches_nil : Matches holds [] text ↔ text = [] := by
  constructor
  · intro h
    cases h
    rfl
  · rintro rfl
    exact .nil

theorem matches_run :
    Matches holds ('%' :: pattern) text ↔
      ∃ run rest, text = run ++ rest ∧ Matches holds pattern rest := by
  constructor
  · intro h
    cases h with
    | run hsplit h => exact ⟨_, _, hsplit, h⟩
    | plain hplain h => exact absurd (Or.inl rfl) hplain
  · rintro ⟨run, rest, hsplit, h⟩
    exact .run hsplit h

theorem matches_plain {c : Char} (hplain : ¬ IsSpecial c) :
    Matches holds (c :: pattern) text ↔ ∃ rest, text = c :: rest ∧ Matches holds pattern rest := by
  constructor
  · intro h
    cases h with
    | run _ _ => exact absurd (Or.inl rfl) hplain
    | one _ _ => exact absurd (Or.inr (Or.inl rfl)) hplain
    | set _ _ _ _ => exact absurd (Or.inr (Or.inr rfl)) hplain
    | plain _ h => exact ⟨_, rfl, h⟩
  · rintro ⟨rest, rfl, h⟩
    exact .plain hplain h

/-- A plain argument in a pattern stands for itself. -/
theorem matches_append (hplain : ∀ c ∈ argument, ¬ IsSpecial c) :
    Matches holds (argument ++ pattern) text ↔
      ∃ rest, text = argument ++ rest ∧ Matches holds pattern rest := by
  induction argument generalizing text with
  | nil => simp
  | cons c argument ih =>
      have hrest := fun text => @ih text fun b hb => hplain b (List.mem_cons_of_mem c hb)
      rw [List.cons_append, matches_plain (hplain c List.mem_cons_self)]
      simp only [hrest]
      constructor
      · rintro ⟨behind, rfl, rest, rfl, h⟩
        exact ⟨rest, rfl, h⟩
      · rintro ⟨rest, rfl, h⟩
        exact ⟨argument ++ rest, rfl, rest, rfl, h⟩

theorem matches_any : Matches holds ['%'] text := .run (List.append_nil text).symm .nil

theorem matches_begins (hplain : ∀ c ∈ argument, ¬ IsSpecial c) :
    Matches holds (argument ++ ['%']) text ↔ argument <+: text := by
  rw [matches_append hplain]
  constructor
  · rintro ⟨rest, rfl, -⟩
    exact List.prefix_append argument rest
  · rintro ⟨rest, rfl⟩
    exact ⟨rest, rfl, matches_any⟩

theorem matches_ends (hplain : ∀ c ∈ argument, ¬ IsSpecial c) :
    Matches holds ('%' :: argument) text ↔ argument <:+ text := by
  have hexact : ∀ rest, Matches holds argument rest ↔ rest = argument := by
    intro rest
    have happend := @matches_append holds [] rest argument hplain
    rw [List.append_nil] at happend
    simp only [happend, matches_nil, exists_eq_right, List.append_nil]
  rw [matches_run]
  constructor
  · rintro ⟨run, rest, rfl, h⟩
    rw [(hexact rest).mp h]
    exact List.suffix_append run argument
  · rintro ⟨run, rfl⟩
    exact ⟨run, argument, rfl, (hexact argument).mpr rfl⟩

theorem matches_contains (hplain : ∀ c ∈ argument, ¬ IsSpecial c) :
    Matches holds ('%' :: (argument ++ ['%'])) text ↔ argument <:+: text := by
  rw [matches_run]
  constructor
  · rintro ⟨run, rest, rfl, h⟩
    rcases (matches_begins hplain).mp h with ⟨after, rfl⟩
    exact ⟨run, after, List.append_assoc run argument after⟩
  · rintro ⟨run, after, rfl⟩
    exact ⟨run, argument ++ after, List.append_assoc run argument after,
      (matches_begins hplain).mpr (List.prefix_append argument after)⟩

end Like

/-! ## Conditions -/

/-- The pattern of a text between wildcards. -/
def Wildcards.pattern (w : Wildcards) (argument : String) : List Char :=
  (if w.leading then ['%'] else []) ++ (argument.toList ++ if w.trailing then ['%'] else [])

/-- A condition is a LIKE that is true on a row: the text in the column of its left side matches the
pattern of the text bound on its right side. -/
inductive Shape.Matches (holds : List Char → Char → Prop) (row : Row) : Shape Value → Prop where
  | like {column argument text : String} {w : Wildcards}
      (hrow : row.get? column = some (.text text))
      (h : Like.Matches holds (w.pattern argument) text.toList) :
      Matches holds row (.node (.column column) "LIKE" w (.bound (.text argument)))

/-- The condition, as it is read from its text and its bindings, is a match on the row. -/
def BoundSql.Selects (holds : List Char → Char → Prop) (sql : BoundSql) (row : Row) : Prop :=
  ∃ shape, sql.read = some shape ∧ shape.Matches holds row

/-- The predicate is rendered as a condition that selects the rows with a text of the property in
the column. -/
def Predicate.Finds (holds : List Char → Char → Prop) (p : Predicate) (columns : Resolver)
    (limit : Option Nat) (column : String) (property : List Char → Prop) : Prop :=
  ∃ sql, p.compile columns limit >>= Expression.toSql = .ok sql ∧
    ∀ row text, row.get? column = some (.text text) →
      (sql.Selects holds row ↔ property text.toList)

section Rendered

variable {columns : Resolver} {limit : Option Nat} {handle : Handle} {column : String}

/-- A method with wildcards on a field is compiled as it is, unless no level at all is allowed. -/
theorem compile_stringMatch (hcolumn : columns handle.field = some column)
    (hlimit : limit ≠ some 0) {method : String} {op : Operator}
    (hmethod : Operator.ofMethod? method = some op) (argument : Value) :
    ((Predicate.field handle).method method (.constant argument)).compile columns limit =
      .ok (.node (.column column) op (.literal argument) false) := by
  have hlevel : checkLevel limit 1 = .ok () := by
    cases limit with
    | none => rfl
    | some max =>
        have hmax : ¬ max < 1 := by
          intro hzero
          exact hlimit (congrArg some (Nat.lt_one_iff.mp hzero))
        exact if_neg hmax
  have htarget : handle.column columns = .ok (.column column) := by
    rw [Handle.column, hcolumn]
  change Predicate.operand columns limit false 1 (.call (some (.field handle)) method _) = _
  rw [Predicate.operand_method hmethod, hlevel, htarget]
  rfl

/-- What is read of a string match: the column, LIKE, and the argument between its wildcards. -/
theorem shape_stringMatch (column : String) {op : Operator} {w : Wildcards}
    (hwildcards : op.wildcards? = some w) (argument : String) :
    (Expression.node (.column column) op (.literal (.text argument)) false).unsupported? = none ∧
      (Expression.node (.column column) op (.literal (.text argument)) false).shape =
        .node (.column column) "LIKE" w (.bound (.text argument)) := by
  cases op with
  | startsWith =>
      obtain rfl := Option.some.inj hwildcards
      exact ⟨rfl, rfl⟩
  | endsWith =>
      obtain rfl := Option.some.inj hwildcards
      exact ⟨rfl, rfl⟩
  | contains =>
      obtain rfl := Option.some.inj hwildcards
      exact ⟨rfl, rfl⟩
  | _ => cases hwildcards

/-- A rendered string match selects by the pattern of its argument. -/
theorem finds_pattern (holds : List Char → Char → Prop)
    (hcolumn : columns handle.field = some column) (hlimit : limit ≠ some 0) (method : String)
    (op : Operator) (w : Wildcards) (hmethod : Operator.ofMethod? method = some op)
    (hwildcards : op.wildcards? = some w) (argument : String) :
    ((Predicate.field handle).method method (.constant (.text argument))).Finds holds columns limit
      column (Like.Matches holds (w.pattern argument)) := by
  have hcompile := compile_stringMatch hcolumn hlimit hmethod (.text argument)
  rcases shape_stringMatch column hwildcards argument with ⟨hsupported, hshape⟩
  obtain ⟨sql, hsql⟩ : ∃ sql, (Expression.node (.column column) op (.literal (.text argument))
      false).toSql = .ok sql := by
    rw [Expression.toSql_eq, hsupported]
    exact ⟨_, rfl⟩
  have hread := (BoundSql.read_toSql hcompile hsql).2
  rw [hshape] at hread
  refine ⟨sql, bind_eq_ok.mpr ⟨_, hcompile, hsql⟩, fun row text hrow => ?_⟩
  constructor
  · rintro ⟨shape, hshape', hmatches⟩
    obtain rfl := Option.some.inj (hread.symm.trans hshape')
    cases hmatches with
    | like hrow' h =>
        -- the row has one first text in the column
        rw [hrow, Option.some.injEq, Value.text.injEq] at hrow'
        rwa [hrow']
  · intro h
    exact ⟨_, hread, .like hrow h⟩

end Rendered

/-- The property of a found text may be given in other words. -/
theorem Predicate.Finds.congr {holds : List Char → Char → Prop} {p : Predicate} {columns : Resolver}
    {limit : Option Nat} {column : String} {property property' : List Char → Prop}
    (h : p.Finds holds columns limit column property)
    (hsame : ∀ text, property text ↔ property' text) :
    p.Finds holds columns limit column property' := by
  rcases h with ⟨sql, hsql, hselects⟩
  exact ⟨sql, hsql, fun row text hrow => (hselects row text hrow).trans (hsame text.toList)⟩

/-- A string match with a text selects the rows whose text matches the argument with a percent sign
behind it, in front of it, or on both sides. Without a percent sign, an underscore and an opening
bracket in the argument these are the texts that begin with it, end with it, or contain it. -/
theorem string_match_selects (holds : List Char → Char → Prop) {columns : Resolver}
    {limit : Option Nat} (hlimit : limit ≠ some 0) (handle : Handle) {column : String}
    (hcolumn : columns handle.field = some column) (argument : String) :
    (((Predicate.field handle).startsWith (.constant (.text argument))).Finds holds columns limit
        column (Like.Matches holds (argument.toList ++ ['%'])) ∧
      ((Predicate.field handle).endsWith (.constant (.text argument))).Finds holds columns limit
        column (Like.Matches holds ('%' :: argument.toList)) ∧
      ((Predicate.field handle).contains (.constant (.text argument))).Finds holds columns limit
        column (Like.Matches holds ('%' :: (argument.toList ++ ['%'])))) ∧
    ((∀ c ∈ argument.toList, ¬ Like.IsSpecial c) →
      ((Predicate.field handle).startsWith (.constant (.text argument))).Finds holds columns limit
        column (argument.toList <+: ·) ∧
      ((Predicate.field handle).endsWith (.constant (.text argument))).Finds holds columns limit
        column (argument.toList <:+ ·) ∧
      ((Predicate.field handle).contains (.constant (.text argument))).Finds holds columns limit
        column (argument.toList <:+: ·)) := by
  have hstarts := finds_pattern holds hcolumn hlimit "starts_with" .startsWith ⟨false, true⟩ rfl rfl
    argument
  have hends := finds_pattern holds hcolumn hlimit "ends_with" .endsWith ⟨true, false⟩ rfl rfl
    argument
  have hcontains := finds_pattern holds hcolumn hlimit "contains" .contains ⟨true, true⟩ rfl rfl
    argument
  have hbare : Wildcards.pattern ⟨true, false⟩ argument = '%' :: argument.toList :=
    congrArg _ (List.append_nil argument.toList)
  rw [hbare] at hends
  refine ⟨⟨hstarts, hends, hcontains⟩, fun hplain => ⟨?_, ?_, ?_⟩⟩
  · exact hstarts.congr fun text => Like.matches_begins hplain
  · exact hends.congr fun text => Like.matches_ends hplain
  · exact hcontains.congr fun text => Like.matches_contains hplain

/-- The resolver of one field. -/
def Resolver.text : Resolver := Resolver.ofPairs [("text", "Te]xt")]

/-- A row with one letter. -/
def Row.letter : Row := ⟨[("Te]xt", .text "a")]⟩

/-- An argument without special characters is found where it stands, and a percent sign in an
argument finds the texts with any run of characters in its place. -/
theorem string_match_selects_text :
    ((Predicate.field ⟨"text", .text⟩).startsWith (.constant (.text "1]"))).Finds
        (fun set c => c ∈ set) Resolver.text (some 1) "Te]xt" ("1]".toList <+: ·) ∧
      ((Predicate.field ⟨"text", .text⟩).endsWith (.constant (.text "a%c"))).Finds
        (fun set c => c ∈ set) Resolver.text none "Te]xt"
        (Like.Matches (fun set c => c ∈ set) ['%', 'a', '%', 'c']) := by
  have hcolumn : Resolver.text "text" = some "Te]xt" := rfl
  have hplain : ∀ c ∈ "1]".toList, ¬ Like.IsSpecial c := by
    intro c hc
    have hcases : c = '1' ∨ c = ']' := by simpa using hc
    rcases hcases with rfl | rfl
    · simp [Like.IsSpecial]
    · simp [Like.IsSpecial]
  have hlimit : some 1 ≠ some 0 := by simp
  have hunlimited : (none : Option Nat) ≠ some 0 := by simp
  constructor
  · exact ((string_match_selects _ hlimit ⟨"text", .text⟩ hcolumn "1]").2 hplain).1
  · exact (string_match_selects _ hunlimited ⟨"text", .text⟩ hcolumn "a%c").1.2.1

/-- The text of one letter is found to begin with a percent sign, to end with an underscore and to
contain a set that has the letter. -/
theorem argument_read_as_pattern :
    (∃ sql, ((Predicate.field ⟨"text", .text⟩).startsWith (.constant (.text "%"))).compile
          Resolver.text none >>= Expression.toSql = .ok sql ∧
        sql.Selects (fun set c => c ∈ set) Row.letter ∧ ¬ "%".toList <+: "a".toList) ∧
      (∃ sql, ((Predicate.field ⟨"text", .text⟩).endsWith (.constant (.text "_"))).compile
          Resolver.text none >>= Expression.toSql = .ok sql ∧
        sql.Selects (fun set c => c ∈ set) Row.letter ∧ ¬ "_".toList <:+ "a".toList) ∧
      ∃ sql, ((Predicate.field ⟨"text", .text⟩).contains (.constant (.text "[ab]"))).compile
          Resolver.text none >>= Expression.toSql = .ok sql ∧
        sql.Selects (fun set c => c ∈ set) Row.letter ∧ ¬ "[ab]".toList <:+: "a".toList := by
  have hcolumn : Resolver.text (Handle.field ⟨"text", .text⟩) = some "Te]xt" := rfl
  have hlimit : (none : Option Nat) ≠ some 0 := by simp
  have hpattern := finds_pattern (fun set c => c ∈ set) hcolumn hlimit
  have hrow : Row.letter.get? "Te]xt" = some (.text "a") := rfl
  refine ⟨?_, ?_, ?_⟩
  · rcases hpattern "starts_with" .startsWith _ rfl rfl "%" with ⟨sql, hsql, hselects⟩
    refine ⟨sql, hsql, (hselects Row.letter "a" hrow).mpr ?_, by decide⟩
    exact Like.matches_run.mpr ⟨[], ['a'], rfl, Like.matches_any⟩
  · rcases hpattern "ends_with" .endsWith _ rfl rfl "_" with ⟨sql, hsql, hselects⟩
    refine ⟨sql, hsql, (hselects Row.letter "a" hrow).mpr ?_, by decide⟩
    exact Like.matches_run.mpr ⟨[], ['a'], rfl, .one 'a' .nil⟩
  · rcases hpattern "contains" .contains _ rfl rfl "[ab]" with ⟨sql, hsql, hselects⟩
    refine ⟨sql, hsql, (hselects Row.letter "a" hrow).mpr ?_, by decide⟩
    refine Like.matches_run.mpr ⟨[], ['a'], rfl, ?_⟩
    exact @Like.Matches.set _ ['a', 'b'] ['%'] _ [] 'a' rfl (by simp) (by simp) Like.matches_any

end EntitySql
