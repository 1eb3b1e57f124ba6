import EntitySql.Error
import EntitySql.Expression
import EntitySql.Predicate
/-!
# Expressions of predicates

A predicate compiles to an expression over columns. Each operand is a nested node, the column of a
field, or a literal. Fields become columns through a resolver, method calls become operators if the
method is a string method on a field, and a boolean field in the place of a condition becomes a
comparison with true, because a bit column is no condition in SQL.

The root of a predicate is at level one and each operand one level below its node; a limit bounds
the level of nodes.
-/

namespace EntitySql

/-- The column of each field that has one. -/
abbrev Resolver := String → Option String

/-- The resolver of a list of pairs, in which a later pair replaces an earlier one. -/
def Resolver.ofPairs (pairs : List (String × String)) : Resolver :=
  fun field => pairs.reverse.lookup field

/-- Nodes may stand at the level. -/
def checkLevel (limit : Option Nat) (level : Nat) : Except PredicateError Unit :=
  match limit with
  | none => .ok ()
  | some max => if max < level then .error (.tooDeep max) else .ok ()

/-- The column of a field. -/
def Handle.column (handle : Handle) (columns : Resolver) : Except PredicateError Expression :=
  match columns handle.field with
  | some name => .ok (.column name)
  | none => .error (.unmappedField handle.field)

/-- The condition that a boolean field is true. -/
def Handle.isTrue (handle : Handle) (columns : Resolver) : Except PredicateError Expression := do
  let column ← handle.column columns
  return .node column .equal (.literal (.bool true)) false

namespace Predicate

/-- Compiles the operand at a level. With `condition` set it stands in a logical position: beside
AND and OR, or behind a logical NOT. -/
def operand (columns : Resolver) (limit : Option Nat) :
    (condition : Bool) → (level : Nat) → Predicate → Except PredicateError Expression
  | condition, level, field handle => do
    if condition && handle.type == .boolean then
      -- the comparison that stands for the field is a node of its own
      checkLevel limit level
      handle.isTrue columns
    else handle.column columns
  | _, _, constant value => .ok (.literal value)
  | _, level, binary op left right => do
    checkLevel limit level
    let left ← left.operand columns limit op.isLogical (level + 1)
    let right ← right.operand columns limit op.isLogical (level + 1)
    return .node left op right false
  | _, level, unary op inner logical => do
    checkLevel limit level
    let inner ← inner.operand columns limit (logical && op == .not) (level + 1)
    return .node .absent op inner logical
  | _, level, call target method arguments => do
    checkLevel limit level
    match target with
    | none => .error (.noTarget method)
    | some target =>
      match Operator.ofMethod? method with
      | none => .error (.unknownMethod method)
      | some op =>
        match target with
        | field handle =>
          match arguments with
          | [argument] => do
            -- the target is compared as text, so a boolean one is no condition here
            let left ← handle.column columns
            let right ← argument.operand columns limit false (level + 1)
            return .node left op right false
          | _ => .error (.argumentCount method arguments.length)
        | _ => .error (.targetNotField method)

/-- Compiles a predicate to a condition. At the root a boolean field is a condition too, at no
level; any other field and a constant are not. -/
def compile (p : Predicate) (columns : Resolver) (limit : Option Nat) :
    Except PredicateError Expression :=
  match p with
  | field handle =>
    if handle.type = .boolean then handle.isTrue columns else .error .notAPredicate
  | constant _ => .error .notAPredicate
  | _ => p.operand columns limit false 1

end Predicate

end EntitySql
