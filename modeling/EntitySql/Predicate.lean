import EntitySql.Operator
import EntitySql.Value
/-!
# Predicates

A predicate is a tree over the fields of an entity and constant values. The builders below make the
usual nodes; a method call and an operator node of any kind can be made too, and whether such a
tree means anything is decided when it is compiled.
-/

namespace EntitySql

/-- The class of values that a field or a node produces. -/
inductive FieldClass where
  | boolean
  | integer
  | float
  | decimal
  | text
  | other
  deriving DecidableEq, Repr

namespace FieldClass

/-- The name of the class. -/
def name : FieldClass → String
  | boolean => "Boolean"
  | integer => "Integer"
  | float => "Float"
  | decimal => "Decimal"
  | text => "Text"
  | other => "Other"

/-- Values of the class are numbers. -/
def isNumeric : FieldClass → Bool
  | integer | float | decimal => true
  | _ => false

/-- The class of a name. -/
def ofName? (name : String) : Option FieldClass :=
  [boolean, integer, float, decimal, text, other].find? fun c => c.name == name

end FieldClass

/-- The handle of a field: its name in the entity and its class. -/
structure Handle where
  field : String
  type : FieldClass
  deriving DecidableEq, Repr

/-- A tree of operators and method calls over fields and constants. A unary node records whether
its operand is a condition, which decides between the two negations. -/
inductive Predicate where
  | binary (op : Operator) (left right : Predicate)
  | unary (op : Operator) (operand : Predicate) (logical : Bool)
  | call (target : Option Predicate) (method : String) (arguments : List Predicate)
  | field (handle : Handle)
  | constant (value : Value)

/-- The class of a constant. -/
def Value.fieldClass : Value → FieldClass
  | .bool _ => .boolean
  | .int _ | .uint _ => .integer
  | .float _ => .float
  | .decimal _ => .decimal
  | .char _ | .text _ => .text
  | _ => .other

/-- The class of a method's result. -/
def Operator.methodClass (method : String) : FieldClass :=
  match Operator.ofMethod? method with
  | some .compare => .integer
  | some _ => .boolean
  | none => .other

namespace Predicate

/-- The class of values that the tree produces. Arithmetic has the class of its left side, or of its
right side when the left one has none. -/
def type : Predicate → FieldClass
  | binary op left right =>
    if op.isComparison || op.isLogical || op.isStringMatch then .boolean
    else
      match left.type with
      | .other => right.type
      | c => c
  | unary _ operand _ => operand.type
  | call _ method _ => Operator.methodClass method
  | field handle => handle.type
  | constant value => value.fieldClass

/-- The tree produces truth values. -/
def isBoolean (p : Predicate) : Bool := p.type == .boolean

/-! ## Builders -/

/-- Equality of two values. -/
def eq (left right : Predicate) : Predicate := binary .equal left right

/-- Difference of two values. -/
def ne (left right : Predicate) : Predicate := binary .notEqual left right

/-- The left value is greater. -/
def gt (left right : Predicate) : Predicate := binary .greater left right

/-- The left value is greater or equal. -/
def ge (left right : Predicate) : Predicate := binary .greaterEqual left right

/-- The left value is less. -/
def lt (left right : Predicate) : Predicate := binary .less left right

/-- The left value is less or equal. -/
def le (left right : Predicate) : Predicate := binary .lessEqual left right

/-- Both conditions hold. -/
def and (left right : Predicate) : Predicate := binary .and left right

/-- One of the conditions holds. -/
def or (left right : Predicate) : Predicate := binary .or left right

/-- The method call with one argument on a target. -/
def method (target : Predicate) (name : String) (argument : Predicate) : Predicate :=
  call (some target) name [argument]

/-- The target begins with the argument. -/
def startsWith (target argument : Predicate) : Predicate := target.method "starts_with" argument

/-- The target ends with the argument. -/
def endsWith (target argument : Predicate) : Predicate := target.method "ends_with" argument

/-- The target contains the argument. -/
def contains (target argument : Predicate) : Predicate := target.method "contains" argument

/-- The order of the target and the argument as a number. -/
def compareTo (target argument : Predicate) : Predicate := target.method "compare_to" argument

/-- Negation: logical for a condition, of every bit for a value. -/
def not (operand : Predicate) : Predicate := unary .not operand operand.isBoolean

/-- The negative of a value. -/
def neg (operand : Predicate) : Predicate := unary .negate operand false

end Predicate

instance : Add Predicate := ⟨.binary .add⟩
instance : Sub Predicate := ⟨.binary .subtract⟩
instance : Mul Predicate := ⟨.binary .multiply⟩
instance : Div Predicate := ⟨.binary .divide⟩
instance : Mod Predicate := ⟨.binary .modulo⟩
instance : AndOp Predicate := ⟨.binary .bitAnd⟩
instance : OrOp Predicate := ⟨.binary .bitOr⟩
instance : XorOp Predicate := ⟨.binary .bitXor⟩
instance : Neg Predicate := ⟨Predicate.neg⟩

end EntitySql
