import EntitySql.Binary64
import EntitySql.DateTime
import EntitySql.Decimal
import EntitySql.Uuid
/-!
# Values

The values that predicates compare with, that commands carry as parameters and that result rows
hold.
-/

namespace EntitySql

/-- A value of a database column. -/
inductive Value where
  | null
  | bool (b : Bool)
  | int (n : Int64)
  | uint (n : UInt64)
  | float (x : Float)
  | decimal (d : Decimal)
  | char (c : Char)
  | text (s : String)
  | uuid (u : Uuid)
  | dateTime (t : DateTime)
  | bytes (bs : List UInt8)

namespace Value

/-- The value is the absent one. -/
def isNull : Value → Bool
  | null => true
  | _ => false

/-- The value can be written into SQL as a numeral. Numbers that are not finite have none. -/
def isNumeric : Value → Bool
  | bool _ | int _ | uint _ | decimal _ => true
  | float x => (Binary64.dyadic? x).isSome
  | _ => false

/-- The length that a column may limit: characters of text, bytes of binary data. -/
def length? : Value → Option Nat
  | text s => some s.toList.length
  | bytes bs => some bs.length
  | _ => none

/-- The name of the value's kind in messages. -/
def typeName : Value → String
  | null => "null"
  | bool _ => "bool"
  | int _ => "integer"
  | uint _ => "unsigned integer"
  | float _ => "float"
  | decimal _ => "decimal"
  | char _ => "char"
  | text _ => "text"
  | uuid _ => "uuid"
  | dateTime _ => "datetime"
  | bytes _ => "bytes"

end Value

end EntitySql
