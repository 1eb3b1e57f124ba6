import EntitySql.DateTime
import EntitySql.Text.Blank
import EntitySql.Text.Numeral
/-!
# Date and time text

A date and time is written in one form, `2024-01-02T03:04:05.500`, and read in two that differ in
what divides the date from the time and in where blanks may stand.
-/

namespace EntitySql.DateTime

/-! ## Writing -/

/-- A year has four digits at least; outside of four digits it has a sign. -/
def yearChars (year : Int) : List Char :=
  (if 0 ≤ year ∧ year ≤ 9999 then [] else if year < 0 then ['-'] else ['+']) ++
    Numeral.paddedDigits 4 year.natAbs

/-- The fraction of a second with the fewest of 0, 3, 6 or 9 digits that lose nothing. -/
def fractionChars (nanosecond : Nat) : List Char :=
  if nanosecond = 0 then []
  else if nanosecond % 1000000 = 0 then '.' :: Numeral.paddedDigits 3 (nanosecond / 1000000)
  else if nanosecond % 1000 = 0 then '.' :: Numeral.paddedDigits 6 (nanosecond / 1000)
  else '.' :: Numeral.paddedDigits 9 nanosecond

/-- The text of a date and time as characters. -/
def toChars (t : DateTime) : List Char :=
  yearChars t.year ++ '-' :: Numeral.paddedDigits 2 t.month ++
    '-' :: Numeral.paddedDigits 2 t.day ++ 'T' :: Numeral.paddedDigits 2 t.hour ++
    ':' :: Numeral.paddedDigits 2 t.minute ++ ':' :: Numeral.paddedDigits 2 t.second ++
    fractionChars t.nanosecond

/-- The text of a date and time. -/
def toText (t : DateTime) : String := String.ofList t.toChars

/-! ## Reading -/

/-- How a written date and time may be laid out. -/
structure Form where
  /-- Blanks may stand before the hyphens and colons and at the end. -/
  blanksBeforeMarks : Bool
  /-- The mark between date and time; without one, blanks or nothing divide them. -/
  timeMark : Option Char

/-- The form with a T between date and time. -/
def markedForm : Form := ⟨true, some 'T'⟩

/-- The form with blanks or nothing between date and time. -/
def blankForm : Form := ⟨false, none⟩

/-- Reads a number of one to `limit` digits, after any blanks. -/
def readNumber? (limit : Nat) (cs : List Char) : Option (Nat × List Char) :=
  match Numeral.takeDigits limit (skipBlanks cs) with
  | (_, 0, _) => none
  | (n, _, rest) => some (n, rest)

/-- Reads the digits of a year behind its sign. -/
def readSignedYear? (cs : List Char) : Option (Nat × List Char) :=
  match Numeral.takeDigits cs.length cs with
  | (_, 0, _) => none
  | (n, _, rest) => some (n, rest)

/-- Reads a year after any blanks: any number of digits behind a sign, up to four without one. -/
def readYear? (cs : List Char) : Option (Int × List Char) :=
  match skipBlanks cs with
  | '-' :: rest => (readSignedYear? rest).map fun (n, rest) => (-n, rest)
  | '+' :: rest => (readSignedYear? rest).map fun (n, rest) => (n, rest)
  | rest => (readNumber? 4 rest).map fun (n, rest) => (n, rest)

/-- Reads one mark. -/
def readMark? (blanksBefore : Bool) (mark : Char) (cs : List Char) : Option (List Char) :=
  match if blanksBefore then skipBlanks cs else cs with
  | [] => none
  | c :: rest => if c = mark then some rest else none

/-- Reads the division between date and time. -/
def Form.readDivision? (form : Form) (cs : List Char) : Option (List Char) :=
  match form.timeMark with
  | some mark => readMark? true mark cs
  | none => some (skipBlanks cs)

/-- Reads a fraction of a second, if there is a point: at least one digit, and those after the
ninth are dropped. -/
def readFraction? : List Char → Option (Nat × List Char)
  | '.' :: cs =>
    match Numeral.takeDigits 9 cs with
    | (_, 0, _) => none
    | (n, k, rest) =>
      some (n * Nat.pow 10 (9 - k), rest.dropWhile fun c => (Numeral.digit? c).isSome)
  | cs => some (0, cs)

/-- Reads a whole text in one form. -/
def Form.read? (form : Form) (cs : List Char) : Option DateTime := do
  let (year, cs) ← readYear? cs
  let cs ← readMark? form.blanksBeforeMarks '-' cs
  let (month, cs) ← readNumber? 2 cs
  let cs ← readMark? form.blanksBeforeMarks '-' cs
  let (day, cs) ← readNumber? 2 cs
  let cs ← form.readDivision? cs
  let (hour, cs) ← readNumber? 2 cs
  let cs ← readMark? form.blanksBeforeMarks ':' cs
  let (minute, cs) ← readNumber? 2 cs
  let cs ← readMark? form.blanksBeforeMarks ':' cs
  let (second, cs) ← readNumber? 2 cs
  let (nanosecond, cs) ← readFraction? cs
  -- the end of the text is a mark like the others
  let rest := if form.blanksBeforeMarks then skipBlanks cs else cs
  if rest.isEmpty then make? year month day hour minute second nanosecond else none

/-- The date and time that a text denotes in either form. -/
def ofText? (text : String) : Option DateTime :=
  (markedForm.read? text.toList).orElse fun _ => blankForm.read? text.toList

end EntitySql.DateTime
