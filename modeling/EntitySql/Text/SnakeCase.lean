import EntitySql.Text.LetterCase
import EntitySql.Text.Numeral
/-!
# Snake case

A name in any common spelling is cut into words, which are lowered and joined by underscores. It
is cut at underscores, hyphens and spaces, where a letter meets a digit, where a lower case letter
meets an upper case one, and before the last capital of a run that a lower case letter follows.
-/

namespace EntitySql.SnakeCase

/-- The class of a character that decides where a word ends. -/
inductive Kind where
  | upper
  | lower
  | digit
  | separator
  | other
  deriving DecidableEq, Repr

/-- The class of a character. -/
def kind (c : Char) : Kind :=
  if c = '_' ∨ c = '-' ∨ c = ' ' then .separator
  else if (Numeral.digit? c).isSome then .digit
  else if LetterCase.isUpper c then .upper
  else if LetterCase.isLower c then .lower
  else .other

/-- A word ends between two neighbouring characters of these classes. -/
def Kind.splits : Kind → Kind → Bool
  | .lower, .upper => true
  | .upper, .digit => true
  | .digit, .upper => true
  | .digit, .lower => true
  | .lower, .digit => true
  | _, _ => false

/-- A word ends between the first two of three neighbouring characters of these classes. -/
def Kind.splitsAcronym : Kind → Kind → Kind → Bool
  | .upper, .upper, .lower => true
  | _, _, _ => false

/-- A word ends after `a` when `cs` follows it. -/
def endsWord (a : Char) : List Char → Bool
  | [] => true
  | [b] => (kind a).splits (kind b)
  | b :: c :: _ => (kind a).splits (kind b) || (kind a).splitsAcronym (kind b) (kind c)

/-- The words of a name, empty ones included; the first of them is still open to the left. -/
def cut : List Char → List (List Char)
  | [] => [[]]
  | c :: cs =>
    if kind c = .separator then [] :: cut cs
    -- the end of the name ends its last word; the empty word behind it is dropped later
    else if endsWord c cs then [c] :: cut cs
    else
      match cut cs with
      | [] => [[c]]
      | word :: rest => (c :: word) :: rest

/-- The words of a name, none of them empty. -/
def words (cs : List Char) : List (List Char) := (cut cs).filter (! ·.isEmpty)

/-- Joins words by underscores. -/
def join : List (List Char) → List Char
  | [] => []
  | [word] => word
  | word :: rest => word ++ '_' :: join rest

/-- The snake case spelling of a name. -/
def ofName (name : String) : String :=
  String.ofList (join ((words name.toList).map (LetterCase.lowerWord false)))

end EntitySql.SnakeCase
