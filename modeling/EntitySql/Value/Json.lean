import EntitySql.Binary64.Layout
import EntitySql.DateTime.Text
import EntitySql.Decimal.Text
import EntitySql.Text.Separated
import EntitySql.Value
/-!
# JSON form of values

Numbers of binary types are JSON numbers and binary data is an array of numbers; decimals,
identifiers and times are strings of their text. A float that is not finite is written as null.
-/

namespace EntitySql

namespace JsonText

/-- The written form of one character of a string. -/
def escapeChar (c : Char) : List Char :=
  if c = '"' then ['\\', '"']
  else if c = '\\' then ['\\', '\\']
  else if c.toNat = 8 then ['\\', 'b']
  else if c.toNat = 9 then ['\\', 't']
  else if c.toNat = 10 then ['\\', 'n']
  else if c.toNat = 12 then ['\\', 'f']
  else if c.toNat = 13 then ['\\', 'r']
  else if c.toNat < 32 then '\\' :: 'u' :: Numeral.hexDigits 4 c.toNat
  else [c]

/-- A string in quotes. -/
def quote (s : String) : String := String.ofList ('"' :: (s.toList.flatMap escapeChar ++ ['"']))

/-- The items of an array. -/
def array (items : List String) : String := "[" ++ separated "," items ++ "]"

/-- The members of an object, each a name and the text of its value. -/
def object (members : List (String × String)) : String :=
  "\x7b" ++ separated "," (members.map fun m => quote m.1 ++ ":" ++ m.2) ++ "\x7d"

/-- JSON numbers show that they are floats by a point or an exponent, and of two equally near
shortest decimals the even one is taken. -/
def floatLayout : FloatLayout := ⟨.toEven, true, true⟩

/-- A finite float: positional when the exponent of its first digit is from -5 to 15. -/
def ofDyadic (d : Dyadic) : String :=
  let digits := d.shortest floatLayout.tie
  String.ofList <| signChars d.negative ++
    if -5 ≤ digits.leading ∧ digits.leading ≤ 15 then digits.positional floatLayout
    else digits.scientific floatLayout

end JsonText

/-- The JSON text of a value. -/
def Value.json : Value → String
  | .null => "null"
  | .bool b => if b then "true" else "false"
  | .int n => Numeral.ofInt n.toInt
  | .uint n => Numeral.ofNat n.toNat
  | .float x => ((Binary64.dyadic? x).map JsonText.ofDyadic).getD "null"
  | .decimal d => JsonText.quote d.toText
  | .char c => JsonText.quote (String.singleton c)
  | .text s => JsonText.quote s
  | .uuid u => JsonText.quote u.toText
  | .dateTime t => JsonText.quote t.toText
  | .bytes bs => JsonText.array (bs.map fun b => Numeral.ofNat b.toNat)

end EntitySql
