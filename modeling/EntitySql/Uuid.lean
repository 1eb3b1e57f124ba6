import EntitySql.Text.Numeral
/-!
# Universally unique identifiers

An identifier of 128 bits. It is written as 32 lower-case hexadecimal digits in groups of 8, 4, 4, 4
and 12, and read in four forms: the bare digits, the groups, the groups in braces, and the groups
after the name space `urn:uuid:`.
-/

namespace EntitySql

/-- An identifier of 128 bits. -/
structure Uuid where
  bits : BitVec 128
  deriving DecidableEq

namespace Uuid

/-- The identifier whose bits are all zero. -/
def nil : Uuid := ⟨0⟩

/-- The text of an identifier as characters. -/
def toChars (u : Uuid) : List Char :=
  let cs := Numeral.hexDigits 32 u.bits.toNat
  cs.take 8 ++ '-' :: (cs.drop 8).take 4 ++ '-' :: (cs.drop 12).take 4 ++
    '-' :: (cs.drop 16).take 4 ++ '-' :: cs.drop 20

/-- The text of an identifier. -/
def toText (u : Uuid) : String := String.ofList u.toChars

/-- Reads 32 hexadecimal digits. -/
def readDigits? (cs : List Char) : Option Uuid :=
  if cs.length = 32 then (Numeral.hexValue? cs).map fun n => ⟨BitVec.ofNat 128 n⟩ else none

/-- Reads digits in five groups that hyphens divide. -/
def readGroups? (cs : List Char) : Option Uuid :=
  if cs.length = 36 ∧ cs[8]? = some '-' ∧ cs[13]? = some '-' ∧ cs[18]? = some '-' ∧
      cs[23]? = some '-' then
    readDigits? (cs.take 8 ++ (cs.drop 9).take 4 ++ (cs.drop 14).take 4 ++ (cs.drop 19).take 4 ++
      cs.drop 24)
  else none

/-- The text without the name space in front, which may be in either case. -/
def dropNameSpace? (cs : List Char) : Option (List Char) :=
  if (cs.take 9).map Char.toLower = "urn:uuid:".toList then some (cs.drop 9) else none

/-- The text without the braces around it. -/
def dropBraces? : List Char → Option (List Char)
  | '\x7b' :: cs => if cs.getLast? = some '\x7d' then some cs.dropLast else none
  | _ => none

/-- The identifier that the characters denote in one of the four forms. -/
def ofChars? (cs : List Char) : Option Uuid :=
  (readDigits? cs).orElse fun _ =>
    (readGroups? cs).orElse fun _ =>
      ((dropBraces? cs).bind readGroups?).orElse fun _ => (dropNameSpace? cs).bind readGroups?

/-- The identifier that a text denotes. -/
def ofText? (text : String) : Option Uuid := ofChars? text.toList

end Uuid

end EntitySql
