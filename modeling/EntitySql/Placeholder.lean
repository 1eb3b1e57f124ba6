import EntitySql.NamedValues
/-!
# Placeholders

A value that does not enter the SQL text stands there as a numbered placeholder. A context counts
the placeholders of one command and keeps the values bound to them, in order; numbering never
starts again inside a command, so each placeholder is bound once.
-/

namespace EntitySql

/-- The placeholders given out so far and the values bound to them. -/
structure Context where
  counter : Nat
  bindings : Bindings

/-- The name of the placeholder with a number. -/
def placeholder (n : Nat) : String := "@param_" ++ Numeral.ofNat n

namespace Context

/-- A context that has bound nothing. -/
def empty : Context := ⟨0, .empty⟩

/-- Binds a value to the next placeholder and gives the placeholder. -/
def bindValue (value : Value) (ctx : Context) : String × Context :=
  (placeholder ctx.counter,
    { counter := ctx.counter + 1
      bindings := ctx.bindings.push (placeholder ctx.counter) value })

/-- Binds values from left to right and gives their placeholders. -/
def bindValues : (values : List Value) → (ctx : Context) → List String × Context
  | [], ctx => ([], ctx)
  | value :: rest, ctx =>
    let (name, ctx) := ctx.bindValue value
    let (names, ctx) := bindValues rest ctx
    (name :: names, ctx)

end Context

end EntitySql
