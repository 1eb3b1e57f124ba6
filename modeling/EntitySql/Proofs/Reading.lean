import EntitySql.Proofs.Shape
import EntitySql.Proofs.Template.Command
import EntitySql.Proofs.Template.Readable

/-! # Reading SQL text back

A reader for the text of conditions, by recursive descent over the tokens of the lexer:

    operand ::= column | numeral | placeholder | "(" sides ")"
    sides   ::= [operand] " " word " " ["'%' + "] operand [" + '%'"]
    root    ::= operand | sides of an addition or a subtraction

No operand begins with a space or a quote, so a missing left side shows by the space in front of the
word, and wildcards show by the quote. The reader never guesses, and what it reads of a rendered
condition is the shape of its expression.
-/

namespace EntitySql

/-! ## The reader -/

/-- Every word that stands for an operator. -/
def operatorWords : List String :=
  Operator.all.flatMap fun op => [op.token? false, op.token? true].filterMap id

/-- The shape of a token that is an operand of its own. -/
def Token.leaf? : Token → Option (Shape String)
  | name text => some (.column text)
  | word text =>
    if isNumeral text.toList then some (.inline text)
    else if text.toList.head? = some '@' then some (.bound text)
    else none
  | _ => none

/-- Reads a shape in front of tokens and leaves the tokens behind it. -/
abbrev Reader := List Token → Option (Shape String × List Token)

/-- The tokens of a wildcard in front of a right side. -/
def leadingMark : List Token := [.quoted "%", .space, .word "+", .space]

/-- The tokens of a wildcard behind a right side. -/
def trailingMark : List Token := [.space, .word "+", .space, .quoted "%"]

/-- Reads a mark that may stand in front of tokens. -/
def readMark (mark ts : List Token) : Bool × List Token :=
  if mark.isPrefixOf ts then (true, ts.drop mark.length) else (false, ts)

/-- Reads the left side of a node, which is missing in front of a space. -/
def readLeft (read : Reader) (ts : List Token) : Option (Shape String × List Token) :=
  if ts.head? = some .space then some (.absent, ts) else read ts

/-- Reads the right side of a node with its wildcards, behind the left side and the word. -/
def readRight (read : Reader) (left : Shape String) (word : String) (ts : List Token) :
    Option (Shape String × List Token) :=
  let (leading, ts) := readMark leadingMark ts
  match read ts with
  | none => none
  | some (right, ts) =>
    let (trailing, ts) := readMark trailingMark ts
    some (.node left word ⟨leading, trailing⟩ right, ts)

/-- Reads a node without parentheses. -/
def readSides (read : Reader) : Reader := fun ts =>
  match readLeft read ts with
  | some (left, .space :: .word word :: .space :: ts) =>
    if word ∈ operatorWords then readRight read left word ts else none
  | _ => none

/-- Reads an operand that is nested to a depth at most. -/
def readOperand : (depth : Nat) → Reader
  | depth + 1, .opening :: ts =>
    match readSides (readOperand depth) ts with
    | some (shape, .closing :: ts) => some (shape, ts)
    | _ => none
  | _, t :: ts => t.leaf?.map fun shape => (shape, ts)
  | _, [] => none

/-- Reads a whole condition; the nesting is no deeper than there are tokens. -/
def readRoot (ts : List Token) : Option (Shape String) :=
  match readOperand ts.length ts with
  | some (shape, []) => some shape
  | _ =>
    match readSides (readOperand ts.length) ts with
    | some (.node left word wildcards right, []) =>
      if word = "+" ∨ word = "-" then some (.node left word wildcards right) else none
    | _ => none

/-- Reads the text of a condition and looks its placeholders up in the bindings. -/
def BoundSql.read (sql : BoundSql) : Option (Shape Value) :=
  ((Token.lex sql.text.toList).bind readRoot).bind (Shape.resolve sql.bindings.get?)

/-! ## Leaves and marks -/

theorem Operator.mem_operatorWords {op : Operator} {logical : Bool} {token : String}
    (h : op.token? logical = some token) : token ∈ operatorWords := by
  have hall : op ∈ Operator.all := by cases op <;> decide
  refine List.mem_flatMap.mpr ⟨op, hall, List.mem_filterMap.mpr ⟨some token, ?_, rfl⟩⟩
  cases logical with
  | false => exact h ▸ List.mem_cons_self
  | true => exact h ▸ List.mem_cons_of_mem _ List.mem_cons_self

theorem leaf?_placeholder (n : Nat) :
    (Token.word (placeholder n)).leaf? = some (.bound (placeholder n)) := by
  have hhead : (placeholder n).toList.head? = some '@' := by
    rw [toList_placeholder]
    rfl
  have hnumeral : isNumeral (placeholder n).toList = false := by
    rw [toList_placeholder]
    rfl
  simp [Token.leaf?, hhead, hnumeral]

theorem leaf?_numeral {value : Value} {numeral : String} (h : value.literal? = some numeral) :
    (Token.word numeral).leaf? = some (.inline numeral) :=
  if_pos (Value.isNumeralWord_literal h).numeral

theorem readOperand_leaf {t : Token} {s : Shape String} (h : t.leaf? = some s) (depth : Nat)
    (ts : List Token) : readOperand depth (t :: ts) = some (s, ts) := by
  cases t with
  | name text => cases depth <;> simp [readOperand, h]
  | word text => cases depth <;> simp [readOperand, h]
  | _ => cases h

theorem readMark_append (mark ts : List Token) : readMark mark (mark ++ ts) = (true, ts) := by
  have hprefix : mark.isPrefixOf (mark ++ ts) = true :=
    List.isPrefixOf_iff_prefix.mpr (List.prefix_append mark ts)
  rw [readMark, if_pos hprefix, List.drop_left]

theorem readMark_of_not_prefix {mark ts : List Token} (h : ¬mark <+: ts) :
    readMark mark ts = (false, ts) :=
  if_neg fun hprefix => h (List.isPrefixOf_iff_prefix.mp hprefix)

/-! ## Reading nodes -/

namespace Expression

/-- The tokens begin as those of an operand do: with no space and no quote. -/
def BeginsOperand (ts : List Token) : Prop :=
  ∃ t rest, ts = t :: rest ∧ t ≠ .space ∧ ∀ text, t ≠ .quoted text

theorem beginsOperand_value (value : Value) (n : Nat) :
    BeginsOperand (value.template.tokens n) := by
  rw [Value.template]
  cases value.literal? with
  | none => exact ⟨_, _, rfl, by simp, by simp⟩
  | some numeral => exact ⟨_, _, rfl, by simp, by simp⟩

theorem beginsOperand_right {e : Expression} (h : e.IsOperand) (op : Operator) (n : Nat) :
    BeginsOperand ((rightTemplate op e e.template).tokens n) := by
  cases e with
  | absent => exact h.elim
  | column name =>
      rw [rightTemplate_of_ne (by simp)]
      exact ⟨_, _, rfl, by simp, by simp⟩
  | literal value =>
      unfold rightTemplate
      cases op.wildcards? with
      | none => exact beginsOperand_value value n
      | some w => exact ⟨_, _, rfl, by simp, by simp⟩
  | node left op' right logical =>
      rw [rightTemplate_of_ne (by simp)]
      exact ⟨_, _, rfl, by simp, by simp⟩

theorem beginsOperand_template {e : Expression} (h : e.IsOperand) (n : Nat) :
    BeginsOperand (e.template.tokens n) :=
  beginsOperand_right h .equal n

/-- The reader reads the right side of every node with `op` as its shape. -/
def ReadsRight (read : Reader) (op : Operator) (right : Expression) : Prop :=
  ∀ (n : Nat) (rest : List Token),
    read ((rightTemplate op right right.template).tokens n ++ rest) =
      some ((rightShape op right right.shape).label n, rest)

/-- A mark of wildcards is read exactly where it is written. -/
theorem readMark_lead (op : Operator) {ts : List Token} (h : BeginsOperand ts) :
    readMark leadingMark (op.lead ++ ts) = (op.placement.leading, ts) := by
  have hlead : op.lead = if op.placement.leading then leadingMark else [] := by cases op <;> rfl
  rw [hlead]
  cases op.placement.leading with
  | true => exact readMark_append leadingMark ts
  | false =>
      -- a mark would begin with a quote, which no operand does
      rcases h with ⟨t, rest, rfl, -, hquote⟩
      apply readMark_of_not_prefix
      rintro ⟨after, heq⟩
      exact hquote "%" (List.cons.inj heq).1.symm

theorem readMark_trail (op : Operator) {ts : List Token} (h : ¬trailingMark <+: ts) :
    readMark trailingMark (op.trail ++ ts) = (op.placement.trailing, ts) := by
  have htrail : op.trail = if op.placement.trailing then trailingMark else [] := by
    cases op <;> rfl
  rw [htrail]
  cases op.placement.trailing with
  | true => exact readMark_append trailingMark ts
  | false => exact readMark_of_not_prefix h

/-- The right side of a node is read with its wildcards. -/
theorem readRight_tokens {read : Reader} {op : Operator} {right : Expression}
    (hoperand : right.IsOperand) (hright : ReadsRight read op right) (left : Shape String)
    (word : String) (n : Nat) {rest : List Token} (hrest : ¬trailingMark <+: rest) :
    readRight read left word
        (op.lead ++ ((rightTemplate op right right.template).tokens n ++ (op.trail ++ rest))) =
      some (.node left word op.placement ((rightShape op right right.shape).label n), rest) := by
  have hbegins : BeginsOperand
      ((rightTemplate op right right.template).tokens n ++ (op.trail ++ rest)) := by
    rcases beginsOperand_right hoperand op n with ⟨t, after, heq, hspace, hquote⟩
    exact ⟨t, after ++ (op.trail ++ rest), by rw [heq, List.cons_append], hspace, hquote⟩
  simp only [readRight, readMark_lead op hbegins, hright n, readMark_trail op hrest]

/-- The tokens of a node without parentheses. -/
theorem tokens_sides (op : Operator) (logical : Bool) (t u : Template) (n : Nat) :
    (Template.sides op logical t u).tokens n =
      t.tokens n ++ (.space :: .word (op.word logical) :: .space ::
        (op.lead ++ (u.tokens (n + t.values.length) ++ op.trail))) := by
  simp [Template.sides]

/-- A node without parentheses is read from its sides. -/
theorem readSides_tokens {read : Reader} {left : Expression} {op : Operator} {right : Expression}
    {logical : Bool} {token : String} (htoken : op.token? logical = some token)
    (hleftOperand : left = absent ∨ left.IsOperand ∧ ReadsRight read .equal left)
    (hoperand : right.IsOperand) (hright : ReadsRight read op right) (n : Nat)
    {rest : List Token} (hrest : ¬trailingMark <+: rest) :
    readSides read ((Template.sides op logical left.template
        (rightTemplate op right right.template)).tokens n ++ rest) =
      some ((node left op right logical).shape.label n, rest) := by
  have hword : op.word logical ∈ operatorWords := by
    have hvalue : op.word logical = token := by rw [Operator.word, htoken]; rfl
    rw [hvalue]
    exact Operator.mem_operatorWords htoken
  -- a missing left side is read from the space, any other one by the reader of operands
  have hleft : ∀ ts, readLeft read (left.template.tokens n ++ .space :: ts) =
      some (left.shape.label n, .space :: ts) := by
    intro ts
    rcases hleftOperand with rfl | ⟨hleftOperand, hread⟩
    · rfl
    · rcases beginsOperand_template hleftOperand n with ⟨t, after, heq, hspace, -⟩
      have hhead : (left.template.tokens n ++ .space :: ts).head? ≠ some .space := by
        rw [heq]
        simpa using hspace
      rw [readLeft, if_neg hhead]
      exact hread n (.space :: ts)
  rw [tokens_sides, List.append_assoc, readSides, List.cons_append, hleft]
  simp only [List.cons_append, List.append_assoc, hword, if_true]
  rw [readRight_tokens hoperand hright _ _ _ hrest, shape, Shape.label, bounds_shape]

/-- The nesting of nodes. -/
def depth : Expression → Nat
  | node left _ right _ => max left.depth right.depth + 1
  | _ => 0

/-- Every node adds its parentheses, so the nesting is no deeper than there are tokens. -/
theorem depth_le_right (e : Expression) (op : Operator) (n : Nat) :
    e.depth ≤ ((rightTemplate op e e.template).tokens n).length := by
  induction e generalizing op n with
  | absent => exact Nat.zero_le _
  | column name => exact Nat.zero_le _
  | literal value => exact Nat.zero_le _
  | node left op' right logical ihl ihr =>
      have hl := ihl .equal n
      have hr := ihr op' (n + left.template.values.length)
      rw [rightTemplate_of_ne (by simp), template, Template.parenthesize, Template.tokens_token,
        Template.tokens_append, tokens_sides]
      change left.depth ≤ (left.template.tokens n).length at hl
      simp only [depth, List.length_cons, List.length_append]
      omega

theorem leaf?_value (value : Value) (n : Nat) :
    ∃ t, value.template.tokens n = [t] ∧ t.leaf? = some (value.shape.label n) := by
  rw [Value.template, Value.shape]
  cases h : value.literal? with
  | none => exact ⟨_, rfl, leaf?_placeholder n⟩
  | some numeral => exact ⟨_, rfl, leaf?_numeral h⟩

/-- Reading an operand that is nested no deeper than allowed. -/
theorem readsRight_readOperand {e : Expression} (hoperand : e.IsOperand)
    (hop : e.unsupported? = none) {depth : Nat} (hdepth : e.depth ≤ depth) (op : Operator) :
    ReadsRight (readOperand depth) op e := by
  -- the induction is on the expression; every node uses up one level of the nesting
  induction e generalizing depth op with
  | absent => exact hoperand.elim
  | column name =>
      intro n rest
      rw [rightTemplate_of_ne (by simp), rightShape_of_ne (by simp)]
      exact readOperand_leaf rfl depth rest
  | literal value =>
      intro n rest
      unfold rightTemplate rightShape
      cases op.wildcards? with
      | none =>
          rcases leaf?_value value n with ⟨t, heq, hleaf⟩
          change readOperand depth (value.template.tokens n ++ rest) =
            some (value.shape.label n, rest)
          rw [heq]
          exact readOperand_leaf hleaf depth rest
      | some w => exact readOperand_leaf (leaf?_placeholder n) depth rest
  | node left op' right logical ihl ihr =>
      intro n rest
      rcases unsupported?_eq_none hop with ⟨⟨token, htoken⟩, hopLeft, hopRight⟩
      rcases hoperand with ⟨hleft, hright⟩
      cases depth with
      | zero => exact absurd hdepth (Nat.not_succ_le_zero _)
      | succ depth =>
          have hdepthLeft : left.depth ≤ depth :=
            (Nat.le_max_left _ _).trans (Nat.le_of_succ_le_succ hdepth)
          have hdepthRight : right.depth ≤ depth :=
            (Nat.le_max_right _ _).trans (Nat.le_of_succ_le_succ hdepth)
          have hleftRead : left = absent ∨
              left.IsOperand ∧ ReadsRight (readOperand depth) .equal left := by
            rcases hleft with rfl | hleft
            · exact Or.inl rfl
            · exact Or.inr ⟨hleft, ihl hleft hopLeft hdepthLeft .equal⟩
          -- the closing parenthesis is no space, so no wildcard is read behind the right side
          have hclosing : ¬trailingMark <+: Token.closing :: rest := by
            rintro ⟨after, heq⟩
            cases heq
          have hsides := @readSides_tokens _ _ _ _ logical token htoken hleftRead hright
            (ihr hright hopRight hdepthRight op') n _ hclosing
          rw [rightTemplate_of_ne (by simp), rightShape_of_ne (by simp), template,
            Template.parenthesize, Template.tokens_token, Template.tokens_append, List.cons_append,
            List.append_assoc]
          change readOperand (depth + 1) (.opening :: (_ ++ .closing :: rest)) = _
          rw [readOperand, hsides]

theorem depth_le_template (e : Expression) (n : Nat) : e.depth ≤ (e.template.tokens n).length :=
  depth_le_right e .equal n

theorem readOperand_template {e : Expression} (hoperand : e.IsOperand)
    (hop : e.unsupported? = none) {depth : Nat} (hdepth : e.depth ≤ depth) (n : Nat)
    (rest : List Token) :
    readOperand depth (e.template.tokens n ++ rest) = some (e.shape.label n, rest) :=
  readsRight_readOperand hoperand hop hdepth .equal n rest

/-- The tokens of a node without parentheses are no operand: a left side ends in front of a space.
-/
theorem readOperand_sides {left : Expression} {depth : Nat}
    (hleft : left = absent ∨ left.IsOperand ∧ ReadsRight (readOperand depth) .equal left)
    (op : Operator) (logical : Bool) (u : Template) (n : Nat) (s : Shape String) :
    readOperand depth ((Template.sides op logical left.template u).tokens n) ≠ some (s, []) := by
  rw [tokens_sides]
  rcases hleft with rfl | ⟨-, hread⟩
  · intro heq
    cases depth <;> cases heq
  · intro heq
    have hspace := hread n (.space :: .word (op.word logical) :: .space ::
      (op.lead ++ (u.tokens (n + left.template.values.length) ++ op.trail)))
    change readOperand depth (left.template.tokens n ++ _) = _ at hspace
    rw [heq] at hspace
    cases hspace

/-- Reading a whole condition, with or without parentheses. -/
theorem readRoot_tokens {e : Expression} (hoperand : e.IsOperand) (hop : e.unsupported? = none)
    (hnode : e.isNode = true) (n : Nat) :
    readRoot (e.rootTemplate.tokens n) = some (e.shape.label n) := by
  cases e with
  | absent => cases hnode
  | column name => cases hnode
  | literal value => cases hnode
  | node left op right logical =>
      -- without parentheses the reader of operands stops behind the left side or fails, and the
      -- sides are read instead
      by_cases hbare : op = .add ∨ op = .subtract
      · rcases unsupported?_eq_none hop with ⟨⟨token, htoken⟩, hopLeft, hopRight⟩
        rcases hoperand with ⟨hleft, hright⟩
        have hroot : (node left op right logical).rootTemplate =
            .sides op logical left.template (rightTemplate op right right.template) := by
          rw [rootTemplate, if_pos hbare]
          rfl
        have hlength := congrArg List.length (tokens_sides op logical left.template
          (rightTemplate op right right.template) n)
        rw [hroot]
        generalize hts : (Template.sides op logical left.template
          (rightTemplate op right right.template)).tokens n = ts
        rw [hts] at hlength
        simp only [List.length_append, List.length_cons] at hlength
        -- the sides stand in the text of the root, so its length allows for their nesting
        have hdepthLeft : left.depth ≤ ts.length := by
          have hle := depth_le_template left n
          omega
        have hdepthRight : right.depth ≤ ts.length := by
          have hle := depth_le_right right op (n + left.template.values.length)
          omega
        have hleftRead : left = absent ∨
            left.IsOperand ∧ ReadsRight (readOperand ts.length) .equal left := by
          rcases hleft with rfl | hleft
          · exact Or.inl rfl
          · exact Or.inr ⟨hleft, readsRight_readOperand hleft hopLeft hdepthLeft .equal⟩
        have hsides := @readSides_tokens _ _ _ _ logical token htoken hleftRead hright
          (readsRight_readOperand hright hopRight hdepthRight op) n [] (by simp [trailingMark])
        have hoperand := readOperand_sides hleftRead op logical
          (rightTemplate op right right.template) n
        rw [List.append_nil, hts, shape, Shape.label] at hsides
        rw [hts] at hoperand
        have hplain : op.word logical = "+" ∨ op.word logical = "-" := by
          rcases hbare with rfl | rfl
          · exact Or.inl rfl
          · exact Or.inr rfl
        rw [readRoot, shape, Shape.label]
        split
        · next s heq => exact absurd heq (hoperand s)
        · rw [hsides]
          exact if_pos hplain
      · have hroot : (node left op right logical).rootTemplate =
            (node left op right logical).template := by
          rw [rootTemplate, if_neg hbare, template]
        have hread := readOperand_template hoperand hop
          (depth_le_template (node left op right logical) n) n []
        rw [List.append_nil] at hread
        rw [hroot, readRoot, hread]

end Expression

/-! ## Reading rendered conditions -/

/-- A rendered condition is read back as the shape of its expression. -/
theorem BoundSql.read_toSql {p : Predicate} {columns : Resolver} {limit : Option Nat}
    {e : Expression} {sql : BoundSql} (hcompile : p.compile columns limit = .ok e)
    (hsql : e.toSql = .ok sql) :
    (Token.lex sql.text.toList).bind readRoot = some (e.shape.label 0) ∧
      sql.read = some e.shape := by
  rcases Predicate.compiles_of_compile hcompile with ⟨hcompiles, hnode⟩
  have hoperand := Expression.isOperand_of_compiles hcompiles
  rw [Expression.toSql_eq] at hsql
  cases hop : e.unsupported? with
  | some op => simp [hop] at hsql
  | none =>
      obtain rfl : ofTemplate e.rootTemplate = sql := by simpa [hop] using hsql
      have hlex : Token.lex (ofTemplate e.rootTemplate).text.toList =
          some (e.rootTemplate.tokens 0) := (Expression.readable_rootTemplate hop).1.lex_text 0
      have hroot := Expression.readRoot_tokens hoperand hop hnode 0
      have hvalues : e.rootTemplate.values = [] ++ (e.shape.bounds ++ []) := by
        rw [Expression.values_rootTemplate_eq, List.nil_append, List.append_nil,
          Expression.bounds_shape]
      -- the bindings are exactly the bound values of the shape, in the order of its labels
      have hresolve : (e.shape.label 0).resolve (ofTemplate e.rootTemplate).bindings.get? =
          some e.shape := by
        have hlabel := Shape.resolve_label e.shape [] []
        rw [← hvalues] at hlabel
        exact hlabel
      constructor
      · rw [hlex, Option.bind_some, hroot]
      · rw [read, hlex, Option.bind_some, hroot, Option.bind_some, hresolve]

/-- There is one reader that gives back the shape of every compiled expression from its text and its
bindings. So two expressions with the same text and the same bindings have the same shape, and two
with the same text have the same shape but for the bound values. -/
theorem read_rendered_condition :
    (∀ (p : Predicate) (columns : Resolver) (limit : Option Nat) (e : Expression) (sql : BoundSql),
      p.compile columns limit = .ok e → e.toSql = .ok sql → sql.read = some e.shape) ∧
    (∀ (p p' : Predicate) (columns columns' : Resolver) (limit limit' : Option Nat)
        (e e' : Expression) (sql sql' : BoundSql),
      p.compile columns limit = .ok e → p'.compile columns' limit' = .ok e' →
      e.toSql = .ok sql → e'.toSql = .ok sql' → sql.text = sql'.text →
        e.shape.forget = e'.shape.forget ∧
          (sql.bindings = sql'.bindings → e.shape = e'.shape)) := by
  constructor
  · intro p columns limit e sql hcompile hsql
    exact (BoundSql.read_toSql hcompile hsql).2
  · intro p p' columns columns' limit limit' e e' sql sql' hcompile hcompile' hsql hsql' htext
    rcases BoundSql.read_toSql hcompile hsql with ⟨hlabel, hread⟩
    rcases BoundSql.read_toSql hcompile' hsql' with ⟨hlabel', hread'⟩
    constructor
    -- the reader sees the text only, so both labelled shapes are the same
    · rw [htext, hlabel', Option.some.injEq] at hlabel
      rw [← e.shape.forget_label 0, ← hlabel, Shape.forget_label]
    · intro hbindings
      have hsame : sql = sql' := by
        cases sql
        cases sql'
        simp_all
      rw [hsame, hread', Option.some.injEq] at hread
      exact hread.symm

/-- A name with brackets and a comment opener, below a subtraction without parentheses. -/
theorem read_rendered_condition_subtract :
    ∃ e sql,
      (Predicate.binary .subtract (.constant (.int (-5)))
        (Predicate.contains (.field ⟨"a", .text⟩) (.constant (.uint 9)))).compile
          (Resolver.ofPairs [("a", "x]] -- [y")]) none = .ok e ∧
      e.toSql = .ok sql ∧
      sql.read = some (.node (.inline "-5") "-" ⟨false, false⟩
        (.node (.column "x]] -- [y") "LIKE" ⟨true, true⟩ (.bound (.text "9")))) := by
  have hcompile : (Predicate.binary .subtract (.constant (.int (-5)))
      (Predicate.contains (.field ⟨"a", .text⟩) (.constant (.uint 9)))).compile
        (Resolver.ofPairs [("a", "x]] -- [y")]) none =
      .ok (.node (.literal (.int (-5))) .subtract
        (.node (.column "x]] -- [y") .contains (.literal (.uint 9)) false) false) := rfl
  obtain ⟨sql, hsql⟩ : ∃ sql, (Expression.node (.literal (.int (-5))) .subtract
      (.node (.column "x]] -- [y") .contains (.literal (.uint 9)) false) false).toSql =
        .ok sql := exists_eq_ok (by decide +kernel)
  have hread := read_rendered_condition.1 _ _ none _ sql hcompile hsql
  have hshape : (Expression.node (.literal (.int (-5))) .subtract
      (.node (.column "x]] -- [y") .contains (.literal (.uint 9)) false) false).shape =
      .node (.inline "-5") "-" ⟨false, false⟩
        (.node (.column "x]] -- [y") "LIKE" ⟨true, true⟩ (.bound (.text "9"))) := by
    with_unfolding_all rfl
  rw [hshape] at hread
  exact ⟨_, sql, hcompile, hsql, hread⟩

end EntitySql
