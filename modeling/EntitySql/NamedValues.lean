import EntitySql.Value.Json
/-!
# Named values

An ordered list of names with their values. The parameters of a command are one, in the order of
their placeholders, and so is a result row, in the order of its columns. A look-up finds the first
entry of a name.
-/

namespace EntitySql

/-- Names with their values, in order. -/
structure NamedValues where
  entries : List (String × Value)

/-- The parameters of a command. -/
abbrev Bindings := NamedValues

/-- A row of a result: its columns. -/
abbrev Row := NamedValues

namespace NamedValues

/-- No entries. -/
def empty : NamedValues := ⟨[]⟩

/-- Adds an entry at the end. -/
def push (vs : NamedValues) (name : String) (value : Value) : NamedValues :=
  ⟨vs.entries ++ [(name, value)]⟩

/-- The number of entries. -/
def size (vs : NamedValues) : Nat := vs.entries.length

/-- The value of the first entry of a name. -/
def get? (vs : NamedValues) (name : String) : Option Value := vs.entries.lookup name

/-- Some entry has the name. -/
def contains (vs : NamedValues) (name : String) : Bool := (vs.get? name).isSome

/-- The names in order. -/
def names (vs : NamedValues) : List String := vs.entries.map (·.1)

/-- The values in order. -/
def values (vs : NamedValues) : List Value := vs.entries.map (·.2)

@[simp] theorem entries_empty : empty.entries = [] := rfl

@[simp] theorem entries_push (vs : NamedValues) (name : String) (value : Value) :
    (vs.push name value).entries = vs.entries ++ [(name, value)] := rfl

@[simp] theorem size_push (vs : NamedValues) (name : String) (value : Value) :
    (vs.push name value).size = vs.size + 1 := by
  simp [size]

/-- The JSON object of parameters: a member for each, in order. -/
def bindingsJson (vs : Bindings) : String :=
  JsonText.object (vs.entries.map fun e => (e.1, e.2.json))

/-- The JSON object of a row: its columns as pairs, in order. -/
def rowJson (vs : Row) : String :=
  JsonText.object
    [("columns", JsonText.array
      (vs.entries.map fun e => JsonText.array [JsonText.quote e.1, e.2.json]))]

end NamedValues

end EntitySql
