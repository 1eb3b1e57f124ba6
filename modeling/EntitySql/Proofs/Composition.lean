import EntitySql.Proofs.Placement
import EntitySql.Proofs.Raised

/-! # Conditions compose

The condition of a conjunction, a disjunction or a negation is put together from the conditions that
its parts have on their own. The root of a predicate and an operand in a logical position are
compiled alike, and their texts differ only where addition and subtraction do without parentheses at
the root. The right part is raised behind the bindings of the left one.

Main statement: `conditions_compose`.
-/

namespace EntitySql

namespace BoundSql

/-- The bound text in parentheses. -/
def enclosed (sql : BoundSql) : BoundSql := ⟨"(" ++ sql.text ++ ")", sql.bindings⟩

/-- Two conditions with a word between them, one after the other. -/
def joined (word : String) (left right : BoundSql) : BoundSql :=
  ⟨"(" ++ left.text ++ " " ++ word ++ " " ++ right.text ++ ")",
    ⟨left.bindings.entries ++ right.bindings.entries⟩⟩

/-- The negation of a condition. -/
def negated (sql : BoundSql) : BoundSql := ⟨"( NOT " ++ sql.text ++ ")", sql.bindings⟩

end BoundSql

namespace Predicate

/-- The condition of the predicate as a part of another one: addition and subtraction have
parentheses there. -/
def nested (p : Predicate) (sql : BoundSql) : BoundSql :=
  if p.rootOperator? = some .add ∨ p.rootOperator? = some .subtract then sql.enclosed else sql

end Predicate

/-! ## Templates -/

namespace BoundSql

theorem size_ofTemplate (t : Template) : (ofTemplate t).bindings.size = t.values.length := by
  have hentries : (ofTemplate t).bindings.entries.map (·.2) = t.values :=
    map_snd_numbered 0 t.values
  rw [NamedValues.size, ← hentries, List.length_map]

theorem writtenFrom_parenthesize (n : Nat) (t : Template) :
    writtenFrom n t.parenthesize = (writtenFrom n t).enclosed := by
  have htext : t.parenthesize.text n = "(" ++ t.text n ++ ")" := by
    apply String.ext
    simp [Template.parenthesize, Template.text, Token.chars]
  rw [writtenFrom, htext, Expression.values_parenthesize, enclosed, writtenFrom]

/-- Two sides with a word and no wildcards between them. -/
theorem ofTemplate_joined {op : Operator} {word : String} (hword : op.token? false = some word)
    (hplain : op.wildcards? = none) (t u : Template) :
    ofTemplate (.parenthesize (.sides op false t u)) =
      joined word (ofTemplate t) (writtenFrom t.values.length u) := by
  have hop : op.word false = word := by rw [Operator.word, hword]; rfl
  have htext : (Template.sides op false t u).text 0 =
      t.text 0 ++ " " ++ word ++ " " ++ u.text t.values.length := by
    apply String.ext
    simp [Template.sides, Template.text, hop, Operator.lead, Operator.trail, hplain, Token.chars]
  rw [← writtenFrom_zero, writtenFrom_parenthesize, writtenFrom, htext, Expression.values_sides,
    numbered_append, Nat.zero_add, enclosed, joined, ofTemplate, writtenFrom]
  simp only [String.append_assoc]

/-- A logical negation has nothing on its left side. -/
theorem ofTemplate_negated (t : Template) :
    ofTemplate (.parenthesize (.sides .not true [] t)) = negated (ofTemplate t) := by
  have hop : Operator.word .not true = "NOT" := rfl
  have htext : (Template.sides .not true [] t).text 0 = " NOT " ++ t.text 0 := by
    apply String.ext
    simp [Template.sides, Template.text, hop, Operator.lead, Operator.trail, Operator.wildcards?,
      Token.chars]
  rw [← writtenFrom_zero, writtenFrom_parenthesize, writtenFrom, htext, Expression.values_sides,
    enclosed, negated, ofTemplate]
  simp only [← String.append_assoc]
  rfl

end BoundSql

/-! ## Parts of a condition -/

namespace Schema

variable {s : Schema} {p q : Predicate} {e l r : Expression}

/-- The parentheses of a node are those of an operand, unless it is an addition or a subtraction. -/
theorem writtenFrom_node (n : Nat) (left : Expression) (op : Operator) (right : Expression)
    (logical : Bool) :
    BoundSql.writtenFrom n (Expression.node left op right logical).template =
      if op = .add ∨ op = .subtract then
        (BoundSql.writtenFrom n (Expression.node left op right logical).rootTemplate).enclosed
      else BoundSql.writtenFrom n (Expression.node left op right logical).rootTemplate := by
  rw [Expression.template, Expression.rootTemplate]
  by_cases hbare : op = .add ∨ op = .subtract
  · rw [if_pos hbare, if_pos hbare, id, BoundSql.writtenFrom_parenthesize]
  · rw [if_neg hbare, if_neg hbare]

/-- A part of a condition is its own condition, in parentheses where the root has none. -/
theorem writtenFrom_template (h : Compiles s.resolver true p e) (hroot : p.isRoot = true)
    (n : Nat) :
    BoundSql.writtenFrom n e.template = p.nested (BoundSql.writtenFrom n e.rootTemplate) := by
  cases h with
  | column hplain hcolumn => simp_all [Predicate.isRoot]
  | constant => cases hroot
  | isTrue htype hcolumn => rfl
  | binary hl hr =>
      rw [writtenFrom_node, Predicate.nested, Predicate.rootOperator?]
      simp only [Option.some.injEq]
  | unary hr =>
      rw [writtenFrom_node, Predicate.nested, Predicate.rootOperator?]
      simp only [Option.some.injEq]
  | call hop hcolumn hr =>
      rw [writtenFrom_node, Predicate.nested, Predicate.rootOperator?, hop]
      simp only [Option.some.injEq]

/-- The condition of a predicate is the writing of the expression that it compiles to as an operand
in a logical position. -/
theorem condition_eq_ok_iff (hroot : p.isRoot = true) {sql : BoundSql} :
    s.condition (some p) = .ok (some sql) ↔
      ∃ e, Compiles s.resolver true p e ∧ e.unsupported? = none ∧
        sql = .ofTemplate e.rootTemplate := by
  rw [condition_eq, Predicate.compile_toSql_eq]
  constructor
  · intro h
    rcases map_eq_ok.mp h with ⟨sql', hsql, hsome⟩
    rcases map_eq_ok.mp hsql with ⟨e, hcompiled, rfl⟩
    rcases Predicate.compiled_eq_ok hcompiled with ⟨hcompile, hop⟩
    exact ⟨e, (Predicate.compile_eq_ok_iff hroot).mp hcompile, hop, (Option.some.inj hsome).symm⟩
  · rintro ⟨e, hcompiles, hop, rfl⟩
    have hcompiled : p.compiled s.resolver none = .ok e := by
      rw [Predicate.compiled, (Predicate.compile_eq_ok_iff hroot).mpr hcompiles]
      simp only [hop]
    rw [hcompiled]
    rfl

/-- The condition of a predicate, as a part of another one that is numbered from `k` on. -/
theorem nested_raise (h : Compiles s.resolver true p e) (hroot : p.isRoot = true)
    (hop : e.unsupported? = none) (k : Nat) :
    p.nested ((BoundSql.ofTemplate e.rootTemplate).raise k) = .writtenFrom k e.template := by
  rcases Expression.readable_rootTemplate hop with ⟨hreadable, hplain⟩
  rw [BoundSql.raise_ofTemplate ⟨hreadable, hplain⟩, writtenFrom_template h hroot]

/-- The two sides of AND and of OR, each with its own condition. -/
theorem condition_logical {op : Operator} {word : String} (hlogical : op.isLogical = true)
    (hword : op.token? false = some word) (hp : p.isRoot = true) (hq : q.isRoot = true)
    {sql : BoundSql} :
    s.condition (some (.binary op p q)) = .ok (some sql) ↔
      ∃ left right, s.condition (some p) = .ok (some left) ∧
        s.condition (some q) = .ok (some right) ∧
        sql = .joined word (p.nested left) (q.nested (right.raise left.bindings.size)) := by
  have hplain : op.wildcards? = none := by
    cases op <;> first | rfl | cases hlogical
  have hbare : ¬(op = .add ∨ op = .subtract) := by
    rintro (rfl | rfl) <;> cases hlogical
  -- the text of the node from those of its sides
  have htext : ∀ l r, Compiles s.resolver true p l → Compiles s.resolver true q r →
      l.unsupported? = none → r.unsupported? = none →
      BoundSql.ofTemplate (Expression.node l op r false).rootTemplate =
        .joined word (p.nested (.ofTemplate l.rootTemplate))
          (q.nested ((BoundSql.ofTemplate r.rootTemplate).raise
            (BoundSql.ofTemplate l.rootTemplate).bindings.size)) := by
    intro l r hl hr hopl hopr
    have hright : Expression.rightTemplate op r r.template = r.template := by
      simp only [Expression.rightTemplate, hplain]
    rw [Expression.rootTemplate, if_neg hbare, hright, BoundSql.ofTemplate_joined hword hplain,
      nested_raise hr hq hopr, BoundSql.size_ofTemplate, Expression.values_rootTemplate_eq,
      ← BoundSql.writtenFrom_zero l.template, writtenFrom_template hl hp]
    rfl
  rw [condition_eq_ok_iff rfl]
  constructor
  · rintro ⟨e, hcompiles, hop, rfl⟩
    cases hcompiles with
    | binary hl hr =>
        rw [hlogical] at hl hr
        rcases Expression.unsupported?_eq_none hop with ⟨-, hopl, hopr⟩
        exact ⟨_, _, (condition_eq_ok_iff hp).mpr ⟨_, hl, hopl, rfl⟩,
          (condition_eq_ok_iff hq).mpr ⟨_, hr, hopr, rfl⟩, htext _ _ hl hr hopl hopr⟩
  · rintro ⟨left, right, hleft, hright, rfl⟩
    rcases (condition_eq_ok_iff hp).mp hleft with ⟨l, hl, hopl, rfl⟩
    rcases (condition_eq_ok_iff hq).mp hright with ⟨r, hr, hopr, rfl⟩
    refine ⟨.node l op r false, Compiles.binary (hlogical ▸ hl) (hlogical ▸ hr), ?_,
      (htext l r hl hr hopl hopr).symm⟩
    rw [Expression.unsupported?, hword, hopl, hopr]
    rfl

/-- The operand of a logical NOT, with its own condition. -/
theorem condition_not (hp : p.isRoot = true) (hboolean : p.isBoolean = true) {sql : BoundSql} :
    s.condition (some p.not) = .ok (some sql) ↔
      ∃ inner, s.condition (some p) = .ok (some inner) ∧ sql = .negated (p.nested inner) := by
  -- the text of the negation from that of its operand
  have htext : ∀ r, Compiles s.resolver true p r →
      BoundSql.ofTemplate (Expression.node .absent .not r true).rootTemplate =
        .negated (p.nested (.ofTemplate r.rootTemplate)) := by
    intro r hr
    have hroot : (Expression.node .absent .not r true).rootTemplate =
        .parenthesize (.sides .not true [] r.template) := rfl
    rw [hroot, BoundSql.ofTemplate_negated, ← BoundSql.writtenFrom_zero r.template,
      writtenFrom_template hr hp]
    rfl
  rw [Predicate.not, hboolean, condition_eq_ok_iff rfl]
  constructor
  · rintro ⟨e, hcompiles, hop, rfl⟩
    cases hcompiles with
    | unary hr =>
        rcases Expression.unsupported?_eq_none hop with ⟨-, -, hopr⟩
        exact ⟨_, (condition_eq_ok_iff hp).mpr ⟨_, hr, hopr, rfl⟩, htext _ hr⟩
  · rintro ⟨inner, hinner, rfl⟩
    rcases (condition_eq_ok_iff hp).mp hinner with ⟨r, hr, hopr, rfl⟩
    refine ⟨.node .absent .not r true, Compiles.unary hr, ?_, (htext r hr).symm⟩
    have habsent : Expression.absent.unsupported? = none := rfl
    rw [Expression.unsupported?, habsent, hopr]
    rfl

end Schema

/-- The condition of a conjunction or a disjunction succeeds exactly when those of both sides do,
and that of a logical negation when that of its operand does. The text is made of theirs: the right
one is raised behind the bindings of the left one, and an addition or a subtraction gets
parentheses. -/
theorem conditions_compose (s : Schema) {p q : Predicate} (hp : p.isRoot = true)
    (hq : q.isRoot = true) (sql : BoundSql) :
    (s.condition (some (p.and q)) = .ok (some sql) ↔
      ∃ left right, s.condition (some p) = .ok (some left) ∧
        s.condition (some q) = .ok (some right) ∧
        sql = .joined "AND" (p.nested left) (q.nested (right.raise left.bindings.size))) ∧
    (s.condition (some (p.or q)) = .ok (some sql) ↔
      ∃ left right, s.condition (some p) = .ok (some left) ∧
        s.condition (some q) = .ok (some right) ∧
        sql = .joined "OR" (p.nested left) (q.nested (right.raise left.bindings.size))) ∧
    (p.isBoolean = true →
      (s.condition (some p.not) = .ok (some sql) ↔
        ∃ inner, s.condition (some p) = .ok (some inner) ∧ sql = .negated (p.nested inner))) := by
  refine ⟨?conjunction, ?disjunction, ?negation⟩
  case conjunction => exact Schema.condition_logical rfl rfl hp hq
  case disjunction => exact Schema.condition_logical rfl rfl hp hq
  case negation =>
    intro hboolean
    exact Schema.condition_not hp hboolean

/-- Arithmetic over a boolean field, with a bound value. -/
def Predicate.readMinus : Predicate := .field ⟨"read", .boolean⟩ - .constant (.text "a")

/-- A match that binds a value. -/
def Predicate.endsInNine : Predicate := .endsWith (.field ⟨"text", .text⟩) (.constant (.int 9))

/-- The subtraction gets parentheses inside of AND and of NOT, and the match goes on numbering
behind it. -/
theorem conditions_compose_notes :
    ∃ left right, Schema.notes.condition (some .readMinus) = .ok (some left) ∧
      Schema.notes.condition (some .endsInNine) = .ok (some right) ∧
      left.text = "[Is]]Read] - @param_0" ∧ right.text = "([Text] LIKE '%' + @param_0)" ∧
      Schema.notes.condition (some (.and .readMinus .endsInNine)) =
        .ok (some (.joined "AND" left.enclosed (right.raise left.bindings.size))) ∧
      Schema.notes.condition (some (.not .readMinus)) = .ok (some (.negated left.enclosed)) := by
  have hcompiled : ∀ p : Predicate,
      ((p.compile Schema.notes.resolver none >>= Expression.toSql).isOk = true) →
        ∃ sql, Schema.notes.condition (some p) = .ok (some sql) := by
    intro p hok
    rcases exists_eq_ok hok with ⟨sql, hsql⟩
    refine ⟨sql, ?_⟩
    rw [Schema.condition_eq, hsql]
    rfl
  rcases hcompiled .readMinus (by decide +kernel) with ⟨left, hleft⟩
  rcases hcompiled .endsInNine (by decide +kernel) with ⟨right, hright⟩
  have hleftText : (Schema.notes.condition (some .readMinus)).toOption.map
      (fun condition => condition.map (·.text)) = some (some "[Is]]Read] - @param_0") := by
    decide +kernel
  have hrightText : (Schema.notes.condition (some .endsInNine)).toOption.map
      (fun condition => condition.map (·.text)) = some (some "([Text] LIKE '%' + @param_0)") := by
    decide +kernel
  rw [hleft] at hleftText
  rw [hright] at hrightText
  refine ⟨left, right, hleft, hright, ?_, ?_, ?_, ?_⟩
  · exact Option.some.inj (Option.some.inj hleftText)
  · exact Option.some.inj (Option.some.inj hrightText)
  · exact (conditions_compose Schema.notes rfl rfl _).1.mpr ⟨left, right, hleft, hright, rfl⟩
  · have hboolean : Predicate.isBoolean .readMinus = true := rfl
    exact ((@conditions_compose Schema.notes .readMinus .readMinus rfl rfl _).2.2 hboolean).mpr
      ⟨left, hleft, rfl⟩

end EntitySql
