import EntitySql.Error
import EntitySql.Expression
import EntitySql.Placeholder
import EntitySql.Text.Bracketed
import EntitySql.Value.Literal
/-!
# Bound SQL

An expression is rendered to SQL text while its values are bound to placeholders. Columns are
written in brackets and numeric literals as numerals; every other value is bound to the next
placeholder, so no text of a value ever enters the SQL. The context also keeps the bindings of a
rendering that fails.
-/

namespace EntitySql

/-- A step of rendering: it gives text or fails, and changes the context in either case. -/
abbrev Rendering := ExceptT PredicateError (StateM Context) String

namespace Expression

/-- Binds a value and gives its placeholder. -/
def bound (value : Value) : Rendering := fun ctx =>
  let (name, ctx) := ctx.bindValue value
  (.ok name, ctx)

/-- A literal in an ordinary position: a numeral, or a placeholder. -/
def renderLiteral (value : Value) : Rendering :=
  match value.literal? with
  | some text => pure text
  | none => bound value

/-- A literal beside wildcards is joined with text, so a numeral is bound as text there. -/
def renderPattern (value : Value) : Rendering :=
  match value.literal? with
  | some text => bound (.text text)
  | none => bound value

/-- The text of a node without parentheses, from its two sides: the token is checked first, then
the sides are rendered from left to right. -/
def renderSides (op : Operator) (logical : Bool) (left right : Rendering) : Rendering :=
  match op.token? logical with
  | none => throw (.unsupportedOperator op)
  | some token => do
    let leftText ← left
    let rightText ← right
    let lead := if (op.wildcards?.map (·.leading)).getD false then "'%' + " else ""
    let trail := if (op.wildcards?.map (·.trailing)).getD false then " + '%'" else ""
    return leftText ++ " " ++ token ++ " " ++ lead ++ rightText ++ trail

/-- The right side of a node: a literal beside wildcards is a pattern, and anything else is rendered
as `otherwise`. -/
def renderRight (op : Operator) (right : Expression) (otherwise : Rendering) : Rendering :=
  match op.wildcards?, right with
  | some _, literal value => renderPattern value
  | _, _ => otherwise

/-- The text in parentheses. -/
def parenthesize (text : String) : String := "(" ++ text ++ ")"

/-- Renders a side of a node. -/
def render : Expression → Rendering
  | absent => pure ""
  | column name => pure (Bracketed.quote name)
  | literal value => renderLiteral value
  | node left op right logical =>
    parenthesize <$> renderSides op logical left.render (renderRight op right right.render)

/-- Renders a whole condition. Addition and subtraction at the root need no parentheses. -/
def renderRoot : Expression → Rendering
  | node left op right logical =>
    (if op = .add ∨ op = .subtract then id else parenthesize) <$>
      renderSides op logical left.render (renderRight op right right.render)
  | e => e.render

end Expression

/-- SQL text with the values of its placeholders: a condition, or a command. -/
structure BoundSql where
  text : String
  bindings : Bindings

/-- The JSON object of a text and its parameters. -/
def BoundSql.json (sql : BoundSql) : String :=
  JsonText.object [("sql", JsonText.quote sql.text), ("params", sql.bindings.bindingsJson)]

/-- Renders a condition on its own. -/
def Expression.toSql (e : Expression) : Except PredicateError BoundSql :=
  match (e.renderRoot).run Context.empty with
  | (.ok text, ctx) => .ok ⟨text, ctx.bindings⟩
  | (.error cause, _) => .error cause

end EntitySql
