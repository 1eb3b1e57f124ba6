/-!
# Bracketed identifiers

An identifier is written between square brackets, and each closing bracket inside it is doubled.
An object name is written part by part: its parts are what its dots separate, empty parts
included. `scan` reads one identifier back and leaves what follows it.
-/

namespace EntitySql.Bracketed

/-- The characters of a name with every closing bracket doubled. -/
def escape : List Char → List Char
  | [] => []
  | c :: cs => if c = ']' then ']' :: ']' :: escape cs else c :: escape cs

/-- The written form of the identifier `cs`. -/
def quoteChars (cs : List Char) : List Char := '[' :: (escape cs ++ [']'])

/-- The identifier `name` in brackets. -/
def quote (name : String) : String := String.ofList (quoteChars name.toList)

/-- The parts that the dots of a name separate; a name without dots is its only part. -/
def parts : List Char → List (List Char)
  | [] => [[]]
  | c :: cs =>
    if c = '.' then [] :: parts cs
    else
      match parts cs with
      | [] => [[c]]
      | first :: rest => (c :: first) :: rest

/-- Joins written parts by dots. -/
def joinParts : List (List Char) → List Char
  | [] => []
  | [part] => part
  | part :: rest => part ++ '.' :: joinParts rest

/-- An object name that may be qualified by a schema, each part in brackets of its own. -/
def quoteObject (name : String) : String :=
  String.ofList (joinParts ((parts name.toList).map quoteChars))

/-! ## Reading back -/

/-- Reads the inside of an identifier up to the first single closing bracket. -/
def scanInside : List Char → Option (List Char × List Char)
  | [] => none
  | ']' :: ']' :: cs => (scanInside cs).map fun (name, rest) => (']' :: name, rest)
  | ']' :: cs => some ([], cs)
  | c :: cs => (scanInside cs).map fun (name, rest) => (c :: name, rest)

/-- Reads one bracketed identifier: its name and the text after it. -/
def scan : List Char → Option (List Char × List Char)
  | '[' :: cs => scanInside cs
  | _ => none

end EntitySql.Bracketed
