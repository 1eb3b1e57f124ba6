import EntitySql.Value
/-!
# Integer types

A field of an integer type holds the numbers of a range. A value is read as such a number exactly
when it is an integer of the range, whatever kind of value it is, and is refused otherwise: nothing
is rounded, cut off or wrapped.
-/

namespace EntitySql

/-- The integer types of a field. -/
inductive IntegerType where
  | i8 | i16 | i32 | i64 | u8 | u16 | u32 | u64
  deriving DecidableEq, Repr

namespace IntegerType

/-- Numbers of the type may be negative. -/
def signed : IntegerType → Bool
  | i8 | i16 | i32 | i64 => true
  | u8 | u16 | u32 | u64 => false

/-- The least number of the type. -/
def low : IntegerType → Int
  | i8 => -128
  | i16 => -32768
  | i32 => -2147483648
  | i64 => -9223372036854775808
  | u8 | u16 | u32 | u64 => 0

/-- The greatest number of the type. -/
def high : IntegerType → Int
  | i8 => 127
  | i16 => 32767
  | i32 => 2147483647
  | i64 => 9223372036854775807
  | u8 => 255
  | u16 => 65535
  | u32 => 4294967295
  | u64 => 18446744073709551615

/-- The name of the type in messages. -/
def name : IntegerType → String
  | i8 => "i8"
  | i16 => "i16"
  | i32 => "i32"
  | i64 => "i64"
  | u8 => "u8"
  | u16 => "u16"
  | u32 => "u32"
  | u64 => "u64"

/-- The value form of a number of the type. -/
def toValue (t : IntegerType) (n : Int) : Value :=
  if t.signed then .int (Int64.ofInt n) else .uint (UInt64.ofNat n.toNat)

end IntegerType

/-- The integer that a value is, if it is one: a boolean counts as zero or one, and a decimal must
have no fraction. -/
def Value.toInt? : Value → Option Int
  | .int n => some n.toInt
  | .uint n => some n.toNat
  | .bool b => some (if b then 1 else 0)
  | .decimal d => d.toInt?
  | _ => none

/-- Reads a value as a number of an integer type. -/
def IntegerType.read? (t : IntegerType) (v : Value) : Option Int :=
  v.toInt?.bind fun n => if t.low ≤ n ∧ n ≤ t.high then some n else none

end EntitySql
