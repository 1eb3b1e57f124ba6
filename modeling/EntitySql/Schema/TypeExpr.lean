import EntitySql.Predicate
import EntitySql.Value.ValueType
/-!
# Type expressions

The written type of a field, and what its spelling says: whether it is optional, and the class of
its values. Only the last segment of a path counts. The type that row values are read as is not that
of the spelling but of what is meant by it, which is another type where a path leads to a synonym.
-/

namespace EntitySql

mutual

/-- A written type. -/
inductive TypeExpr where
  | path (segments : List PathSegment)
  /-- A path to a name that stands for another type. -/
  | synonym (segments : List PathSegment) (meaning : TypeExpr)
  | parenthesized (inner : TypeExpr)
  | reference (target : TypeExpr)
  | slice (element : TypeExpr)
  | array (element : TypeExpr)
  | tuple (elements : List TypeExpr)

/-- A segment of a path: a name with its generic arguments. -/
inductive PathSegment where
  | mk (name : String) (arguments : List GenericArgument)

/-- An argument between angle brackets. -/
inductive GenericArgument where
  | lifetime (name : String)
  | type (argument : TypeExpr)

end

/-- The name of a segment. -/
def PathSegment.name : PathSegment → String
  | mk name _ => name

/-- The generic arguments of a segment. -/
def PathSegment.arguments : PathSegment → List GenericArgument
  | mk _ arguments => arguments

namespace TypeExpr

/-- The path of one segment without arguments. -/
def named (name : String) : TypeExpr := path [.mk name []]

/-- The path of one segment with type arguments. -/
def applied (name : String) (arguments : List TypeExpr) : TypeExpr :=
  path [.mk name (arguments.map .type)]

/-! ## Spelling -/

/-- The last segment of a path. -/
def lastSegment? : TypeExpr → Option PathSegment
  | path segments => segments.getLast?
  | synonym segments _ => segments.getLast?
  | _ => none

/-- The type that an optional type makes optional: the first argument of `Option`, if it is a
type. -/
def optional? (t : TypeExpr) : Option TypeExpr :=
  match t.lastSegment? with
  | some (.mk name (.type inner :: _)) => if name = "Option" then some inner else none
  | _ => none

/-- The class of values of a type name. -/
def classOfName (name : String) : FieldClass :=
  if name = "bool" then .boolean
  else if name ∈ ["i8", "i16", "i32", "i64", "i128", "isize",
      "u8", "u16", "u32", "u64", "u128", "usize"] then .integer
  else if name = "f32" ∨ name = "f64" then .float
  else if name = "Decimal" then .decimal
  else if name = "String" ∨ name = "str" ∨ name = "char" then .text
  else .other

/-- The class of values of a type that is not optional. A reference has the class of its target. -/
def fieldClass : TypeExpr → FieldClass
  | path segments => ((segments.getLast?).map fun s => classOfName s.name).getD .other
  | synonym segments _ => ((segments.getLast?).map fun s => classOfName s.name).getD .other
  | reference target => target.fieldClass
  | _ => .other

/-! ## Meaning -/

/-- The scalar type of a name without arguments. -/
def scalarOfName? (name : String) : Option ScalarType :=
  if name = "i8" then some (.integer .i8)
  else if name = "i16" then some (.integer .i16)
  else if name = "i32" then some (.integer .i32)
  else if name = "i64" then some (.integer .i64)
  else if name = "u8" then some (.integer .u8)
  else if name = "u16" then some (.integer .u16)
  else if name = "u32" then some (.integer .u32)
  else if name = "u64" then some (.integer .u64)
  else if name = "f32" then some .float32
  else if name = "f64" then some .float64
  else if name = "bool" then some .bool
  else if name = "String" then some .string
  else if name = "char" then some .char
  else if name = "Decimal" then some .decimal
  else if name = "Uuid" then some .uuid
  else if name = "NaiveDateTime" then some .dateTime
  else none

/-- The type of a name with generic arguments, from the types of the arguments; a lifetime has none.
Binary data is a vector of bytes. -/
def typeOfName (name : String) : List (Option ValueType) → ValueType
  | [] =>
    match scalarOfName? name with
    | some scalar => .plain scalar
    | none => .custom name
  | [some argument] =>
    if name = "Option" then .option argument
    else if name = "Vec" ∧ argument = .plain (.integer .u8) then .plain .bytes
    else .custom name
  | _ => .custom name

mutual

/-- The type that row values are read as. -/
def valueType : TypeExpr → ValueType
  | path segments => valueTypeOfPath segments
  | synonym _ meaning => meaning.valueType
  | parenthesized inner => inner.valueType
  | _ => .custom ""

/-- The type of the last segment. -/
def valueTypeOfPath : List PathSegment → ValueType
  | [] => .custom ""
  | [.mk name arguments] => typeOfName name (argumentTypes arguments)
  | _ :: segment :: rest => valueTypeOfPath (segment :: rest)

/-- The types of generic arguments. -/
def argumentTypes : List GenericArgument → List (Option ValueType)
  | [] => []
  | .lifetime _ :: rest => none :: argumentTypes rest
  | .type argument :: rest => some argument.valueType :: argumentTypes rest

end

end TypeExpr

end EntitySql
