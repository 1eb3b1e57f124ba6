/-!
# Separated lists

Column lists, value lists and assignments are written with one separator between neighbours.
-/

namespace EntitySql

/-- The items of a list with `separator` between neighbours. -/
def separated (separator : String) : List String → String
  | [] => ""
  | [item] => item
  | item :: rest => item ++ separator ++ separated separator rest

@[simp] theorem separated_nil (s : String) : separated s [] = "" := rfl

@[simp] theorem separated_singleton (s item : String) : separated s [item] = item := rfl

@[simp] theorem separated_cons_cons (s first second : String) (rest : List String) :
    separated s (first :: second :: rest) = first ++ s ++ separated s (second :: rest) := rfl

/-- A list written with the separator of SQL, a comma and a space. -/
abbrev commaSeparated (items : List String) : String := separated ", " items

end EntitySql
