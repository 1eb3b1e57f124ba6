import EntitySql.Proofs.Template

/-! # Templates of expressions

The template of an expression, and the first of its operators without a token. Rendering writes the
template when every operator has a token and fails with the first one otherwise: `writes_template`
for a side of a node, `writes_rootTemplate` for a whole condition.
-/

namespace EntitySql

/-- The word of an operator. An operator without a token has none, and is never written. -/
def Operator.word (op : Operator) (logical : Bool) : String := (op.token? logical).getD ""

/-- The tokens before the right side of a string match. -/
def Operator.lead (op : Operator) : List Token :=
  if (op.wildcards?.map (·.leading)).getD false then
    [.quoted "%", .space, .word "+", .space]
  else []

/-- The tokens behind the right side of a string match. -/
def Operator.trail (op : Operator) : List Token :=
  if (op.wildcards?.map (·.trailing)).getD false then
    [.space, .word "+", .space, .quoted "%"]
  else []

/-- The value that is bound beside wildcards: a numeral as its text, any other value as it is. -/
def Value.asText (value : Value) : Value :=
  match value.literal? with
  | some numeral => .text numeral
  | none => value

/-- The template of a literal in an ordinary position. -/
def Value.template (value : Value) : Template :=
  match value.literal? with
  | some numeral => [.token (.word numeral)]
  | none => [.slot value]

/-- A template in parentheses. -/
def Template.parenthesize (t : Template) : Template :=
  .token .opening :: (t ++ [.token .closing])

/-- The template of a node without parentheses, from those of its sides. -/
def Template.sides (op : Operator) (logical : Bool) (left right : Template) : Template :=
  left ++ (.ofTokens ([.space, .word (op.word logical), .space] ++ op.lead) ++
    (right ++ .ofTokens op.trail))

namespace Expression

/-- The template of the right side of a node, where a literal beside wildcards is always bound. -/
def rightTemplate (op : Operator) (right : Expression) (otherwise : Template) : Template :=
  match op.wildcards?, right with
  | some _, literal value => [.slot value.asText]
  | _, _ => otherwise

/-- Anything but a literal has its own template on a right side. -/
theorem rightTemplate_of_ne {right : Expression} (h : ∀ value, right ≠ literal value)
    (op : Operator) (otherwise : Template) : rightTemplate op right otherwise = otherwise := by
  unfold rightTemplate
  split
  · exact absurd rfl (h _)
  · rfl

/-- The template of a side of a node. -/
def template : Expression → Template
  | absent => []
  | column name => [.token (.name name)]
  | literal value => value.template
  | node left op right logical =>
    .parenthesize (.sides op logical left.template (rightTemplate op right right.template))

/-- The template of a whole condition. -/
def rootTemplate : Expression → Template
  | node left op right logical =>
    (if op = .add ∨ op = .subtract then id else .parenthesize)
      (.sides op logical left.template (rightTemplate op right right.template))
  | e => e.template

theorem values_sides (op : Operator) (logical : Bool) (t u : Template) :
    (Template.sides op logical t u).values = t.values ++ u.values := by
  simp [Template.sides]

theorem values_parenthesize (t : Template) : t.parenthesize.values = t.values := by
  simp [Template.parenthesize]

/-- Without parentheses at the root the same values are bound. -/
theorem values_rootTemplate_eq (e : Expression) : e.rootTemplate.values = e.template.values := by
  cases e with
  | node left op right logical =>
      rw [rootTemplate, template, values_parenthesize]
      split
      · rfl
      · exact values_parenthesize _
  | absent => rfl
  | column name => rfl
  | literal value => rfl

/-- The first operator without a token, of a node before those of its sides. -/
def unsupported? : Expression → Option Operator
  | node left op right logical =>
    match op.token? logical with
    | none => some op
    | some _ => left.unsupported?.or right.unsupported?
  | _ => none

/-! ## Rendering writes the template -/

theorem writes_literal (value : Value) : Writes (renderLiteral value) value.template none := by
  unfold renderLiteral Value.template
  cases value.literal? with
  | none => exact Writes.of_bound value
  | some numeral => exact Writes.of_pure [.word numeral] (by simp [Token.chars])

theorem writes_pattern (value : Value) :
    Writes (renderPattern value) [.slot value.asText] none := by
  unfold renderPattern Value.asText
  cases value.literal? with
  | none => exact Writes.of_bound value
  | some numeral => exact Writes.of_bound (.text numeral)

theorem writes_right {op : Operator} {right : Expression} {otherwise : Rendering} {t : Template}
    (h : Writes otherwise t (right.unsupported?.map .unsupportedOperator)) :
    Writes (renderRight op right otherwise) (rightTemplate op right t)
      (right.unsupported?.map .unsupportedOperator) := by
  unfold renderRight rightTemplate
  cases op.wildcards? with
  | none => exact h
  | some w =>
      cases right with
      | literal value => exact writes_pattern value
      | absent => exact h
      | column name => exact h
      | node left op right logical => exact h

/-- The two sides and the word between them, from left to right. -/
theorem writes_sides {op : Operator} {logical : Bool} {left right : Rendering} {t u : Template}
    {failure failure' : Option PredicateError} (hl : Writes left t failure)
    (hr : Writes right u failure') :
    Writes (renderSides op logical left right) (.sides op logical t u)
      (match op.token? logical with
        | none => some (.unsupportedOperator op)
        | some _ => failure.or failure') := by
  unfold renderSides
  cases htoken : op.token? logical with
  | none => exact Writes.of_throw _ _
  | some token =>
      have hword : op.word logical = token := by rw [Operator.word, htoken]; rfl
      apply Writes.seq (fun leftText rightText => leftText ++ " " ++ token ++ " " ++
        (if (op.wildcards?.map (·.leading)).getD false then "'%' + " else "") ++ rightText ++
        (if (op.wildcards?.map (·.trailing)).getD false then " + '%'" else "")) hl hr
      · intro n
        apply String.ext
        -- one case for each placement of wildcards
        cases hlead : (op.wildcards?.map (·.leading)).getD false <;>
          cases htrail : (op.wildcards?.map (·.trailing)).getD false <;>
            simp [Template.text, Template.sides, hword, Operator.lead, Operator.trail, hlead,
              htrail, Token.chars]
      · simp [Template.sides]

theorem writes_parenthesize {r : Rendering} {t : Template} {failure : Option PredicateError}
    (h : Writes r t failure) : Writes (parenthesize <$> r) t.parenthesize failure := by
  apply h.map
  · intro n
    apply String.ext
    simp [parenthesize, Template.parenthesize, Template.text, Token.chars]
  · simp [Template.parenthesize]

/-- The failure of a node is that of its operator, or else of its sides. -/
theorem unsupported?_node (left : Expression) (op : Operator) (right : Expression)
    (logical : Bool) :
    (node left op right logical).unsupported?.map PredicateError.unsupportedOperator =
      match op.token? logical with
      | none => some (.unsupportedOperator op)
      | some _ => (left.unsupported?.map .unsupportedOperator).or
          (right.unsupported?.map .unsupportedOperator) := by
  rw [unsupported?]
  cases op.token? logical with
  | none => rfl
  | some token => cases left.unsupported? <;> rfl

/-- Rendering a side of a node writes its template. -/
theorem writes_template (e : Expression) :
    Writes e.render e.template (e.unsupported?.map .unsupportedOperator) := by
  induction e with
  | absent => exact Writes.of_pure [] rfl
  | column name => exact Writes.of_pure [.name name] (by simp [Bracketed.quote, Token.chars])
  | literal value => exact writes_literal value
  | node left op right logical ihl ihr =>
      rw [unsupported?_node]
      exact writes_parenthesize (writes_sides ihl (writes_right ihr))

/-- Rendering a whole condition writes its template. -/
theorem writes_rootTemplate (e : Expression) :
    Writes e.renderRoot e.rootTemplate (e.unsupported?.map .unsupportedOperator) := by
  cases e with
  | absent => exact writes_template absent
  | column name => exact writes_template (column name)
  | literal value => exact writes_template (literal value)
  | node left op right logical =>
      have hsides := @writes_sides op logical _ _ _ _ _ _ (writes_template left)
        (@writes_right op _ _ _ (writes_template right))
      rw [unsupported?_node, renderRoot, rootTemplate]
      -- the root differs from a side of a node by its parentheses only
      by_cases h : op = .add ∨ op = .subtract
      · rw [if_pos h, if_pos h, id_map]
        exact hsides
      · rw [if_neg h, if_neg h]
        exact writes_parenthesize hsides

end Expression

end EntitySql
