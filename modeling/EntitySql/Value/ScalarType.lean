import EntitySql.Binary64.Narrow
import EntitySql.DateTime.Text
import EntitySql.Decimal.Binary
import EntitySql.Decimal.Text
import EntitySql.Value.IntegerType
/-!
# Scalar types

A field of an entity has a type, and a value of a result row is read as that type or refused. What
is read is the value in the type's own form: an integer type has one form for its numbers wherever
they come from, and a 32-bit float is a float that 32 bits hold.
-/

namespace EntitySql

/-! ## Readings of a value -/

/-- The float of a numeric value. -/
def Value.toFloat? : Value → Option Float
  | .float x => some x
  | .int n => some (Binary64.ofInt n.toInt)
  | .uint n => some (Binary64.ofNat n.toNat)
  | .decimal d => some d.toFloat
  | _ => none

/-- The truth value of a boolean, or of an integer that is zero or one. -/
def Value.toBool? : Value → Option Bool
  | .bool b => some b
  | .int n => if n = 0 then some false else if n = 1 then some true else none
  | .uint n => if n = 0 then some false else if n = 1 then some true else none
  | _ => none

/-- The text of a text or a character. -/
def Value.toString? : Value → Option String
  | .text s => some s
  | .char c => some (String.singleton c)
  | _ => none

/-- The character of a character, or of a text that has one. -/
def Value.toChar? : Value → Option Char
  | .char c => some c
  | .text s =>
    match s.toList with
    | [c] => some c
    | _ => none
  | _ => none

/-- The decimal of a number, or of a text that denotes one. -/
def Value.toDecimal? : Value → Option Decimal
  | .decimal d => some d
  | .int n => Decimal.ofInt? n.toInt
  | .uint n => Decimal.ofInt? n.toNat
  | .float x => Decimal.ofFloat? x
  | .text s => Decimal.ofText? s
  | _ => none

/-- The identifier of an identifier, or of a text that denotes one. -/
def Value.toUuid? : Value → Option Uuid
  | .uuid u => some u
  | .text s => Uuid.ofText? s
  | _ => none

/-- The time of a date and time, or of a text that denotes one. -/
def Value.toDateTime? : Value → Option DateTime
  | .dateTime t => some t
  | .text s => DateTime.ofText? s
  | _ => none

/-- The bytes of binary data. -/
def Value.toBytes? : Value → Option (List UInt8)
  | .bytes bs => some bs
  | _ => none

/-! ## The types -/

/-- The types of a field that values convert to. -/
inductive ScalarType where
  | integer (type : IntegerType)
  | float32
  | float64
  | bool
  | string
  | char
  | decimal
  | uuid
  | dateTime
  | bytes
  deriving DecidableEq, Repr

namespace ScalarType

/-- The name of the type in messages. -/
def name : ScalarType → String
  | integer t => t.name
  | float32 => "f32"
  | float64 => "f64"
  | bool => "bool"
  | string => "String"
  | char => "char"
  | decimal => "Decimal"
  | uuid => "Uuid"
  | dateTime => "NaiveDateTime"
  | bytes => "bytes"

/-- Reads a value as the type and gives it in the type's own form. -/
def read? : ScalarType → Value → Option Value
  | integer t, v => (t.read? v).map t.toValue
  | float32, v => v.toFloat?.map fun x => .float (Binary64.narrow x)
  | float64, v => v.toFloat?.map .float
  | bool, v => v.toBool?.map .bool
  | string, v => v.toString?.map .text
  | char, v => v.toChar?.map .char
  | decimal, v => v.toDecimal?.map .decimal
  | uuid, v => v.toUuid?.map .uuid
  | dateTime, v => v.toDateTime?.map .dateTime
  | bytes, v => v.toBytes?.map .bytes

/-- The value that a field of the type has when no row gives one. -/
def default : ScalarType → Value
  | integer t => t.toValue 0
  | float32 => .float 0
  | float64 => .float 0
  | bool => .bool false
  | string => .text ""
  | char => .char (Char.ofNat 0)
  | decimal => .decimal Decimal.zero
  | uuid => .uuid Uuid.nil
  | dateTime => .dateTime DateTime.epoch
  | bytes => .bytes []

end ScalarType

end EntitySql
