import EntitySql.Operator
import EntitySql.Value
/-!
# Expressions

The expressions of SQL that predicates compile to: nodes with two sides over columns and literals.
A unary operator is a node whose left side is absent.
-/

namespace EntitySql

/-- A side of a node, or a whole condition. A node records whether a negation is logical. -/
inductive Expression where
  | absent
  | column (name : String)
  | literal (value : Value)
  | node (left : Expression) (op : Operator) (right : Expression) (logical : Bool)

/-- The expression is a node. -/
def Expression.isNode : Expression → Bool
  | .node .. => true
  | _ => false

end EntitySql
