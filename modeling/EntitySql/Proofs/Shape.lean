import EntitySql.Proofs.Compiled
import EntitySql.Proofs.Template.Expression

/-! # Shapes of expressions

The shape of an expression is what its text and its bindings show of it: the names of its columns,
the text of each literal that is inlined, the value of each one that is bound, and at each node the
word of the operator and its wildcards. A shape over the names of placeholders is what the text
alone shows; looking the names up gives the shape over values back (`resolve_label`).
-/

namespace EntitySql

/-- The shape of an expression, over the type of what stands for a bound value. -/
inductive Shape (β : Type) where
  | absent
  | column (name : String)
  | inline (numeral : String)
  | bound (value : β)
  | node (left : Shape β) (word : String) (wildcards : Wildcards) (right : Shape β)

namespace Shape

variable {β γ : Type}

/-- What stands for the bound values, from left to right. -/
def bounds : Shape β → List β
  | bound value => [value]
  | node left _ _ right => left.bounds ++ right.bounds
  | _ => []

/-- The shape with placeholders from `n` on for the bound values. -/
def label : (n : Nat) → Shape β → Shape String
  | n, bound _ => bound (placeholder n)
  | n, node left word wildcards right =>
    node (left.label n) word wildcards (right.label (n + left.bounds.length))
  | _, absent => absent
  | _, column name => column name
  | _, inline numeral => inline numeral

/-- Looks every name up. -/
def resolve (look : String → Option β) : Shape String → Option (Shape β)
  | bound name => (look name).map bound
  | node left word wildcards right =>
    match left.resolve look, right.resolve look with
    | some left, some right => some (node left word wildcards right)
    | _, _ => none
  | absent => some absent
  | column name => some (column name)
  | inline numeral => some (inline numeral)

/-- The shape without the values. -/
def forget : Shape β → Shape Unit
  | bound _ => bound ()
  | node left word wildcards right => node left.forget word wildcards right.forget
  | absent => absent
  | column name => column name
  | inline numeral => inline numeral

theorem forget_label (s : Shape β) (n : Nat) : (s.label n).forget = s.forget := by
  induction s generalizing n with
  | node left word wildcards right ihl ihr => rw [label, forget, forget, ihl, ihr]
  | _ => rfl

end Shape

/-- The value under a placeholder is the one of that number. -/
theorem lookup_numbered (values : List Value) (n i : Nat) :
    (numbered n values).lookup (placeholder (n + i)) = values[i]? := by
  induction values generalizing n i with
  | nil => rfl
  | cons value values ih =>
      cases i with
      | zero => simp [numbered]
      | succ i =>
          -- the first entry has a smaller number, so the search goes on behind it
          have hne : (placeholder (n + (i + 1)) == placeholder n) = false := by
            rw [beq_eq_false_iff_ne]
            intro heq
            have hnumber := placeholder_injective heq
            omega
          have hsum : n + (i + 1) = n + 1 + i := by omega
          rw [numbered, List.lookup_cons, hne, hsum, List.getElem?_cons_succ]
          exact ih (n + 1) i

/-- Looking up the placeholders of a part of the bindings gives that part's values. -/
theorem Shape.resolve_label (s : Shape Value) (before after : List Value) :
    (s.label before.length).resolve
      (NamedValues.get? ⟨numbered 0 (before ++ (s.bounds ++ after))⟩) = some s := by
  induction s generalizing before after with
  | absent => rfl
  | column name => rfl
  | inline numeral => rfl
  | bound value =>
      have hlookup := lookup_numbered (before ++ ([value] ++ after)) 0 before.length
      rw [Nat.zero_add] at hlookup
      have hvalue : (before ++ ([value] ++ after))[before.length]? = some value := by simp
      rw [label, resolve, bounds, NamedValues.get?, hlookup, hvalue]
      rfl
  | node left word wildcards right ihl ihr =>
      -- the values of the right side stand behind those of the left side
      have hleft := ihl before (right.bounds ++ after)
      have hright := ihr (before ++ left.bounds) after
      rw [List.length_append, List.append_assoc] at hright
      rw [label, resolve, bounds, List.append_assoc, hleft, hright]

namespace Value

/-- The shape of a literal in an ordinary position. -/
def shape (value : Value) : Shape Value :=
  match value.literal? with
  | some numeral => .inline numeral
  | none => .bound value

end Value

/-- Where an operator puts wildcards beside its right side. -/
def Operator.placement (op : Operator) : Wildcards := op.wildcards?.getD ⟨false, false⟩

namespace Expression

/-- The shape of the right side of a node, where a literal beside wildcards is always bound. -/
def rightShape (op : Operator) (right : Expression) (otherwise : Shape Value) : Shape Value :=
  match op.wildcards?, right with
  | some _, literal value => .bound value.asText
  | _, _ => otherwise

/-- Anything but a literal has its own shape on a right side. -/
theorem rightShape_of_ne {right : Expression} (h : ∀ value, right ≠ literal value)
    (op : Operator) (otherwise : Shape Value) : rightShape op right otherwise = otherwise := by
  unfold rightShape
  split
  · exact absurd rfl (h _)
  · rfl

/-- The shape of an expression. -/
def shape : Expression → Shape Value
  | absent => .absent
  | column name => .column name
  | literal value => value.shape
  | node left op right logical =>
    .node left.shape (op.word logical) op.placement (rightShape op right right.shape)

theorem bounds_value (value : Value) : value.shape.bounds = value.template.values := by
  rw [Value.shape, Value.template]
  cases value.literal? <;> rfl

theorem bounds_right {op : Operator} {e : Expression} (h : e.shape.bounds = e.template.values) :
    (rightShape op e e.shape).bounds = (rightTemplate op e e.template).values := by
  unfold rightShape rightTemplate
  cases op.wildcards? with
  | none => exact h
  | some w =>
      cases e with
      | literal value => rfl
      | _ => exact h

/-- The bound values of the shape are those of the template. -/
theorem bounds_shape (e : Expression) : e.shape.bounds = e.template.values := by
  induction e with
  | absent => rfl
  | column name => rfl
  | literal value => exact bounds_value value
  | node left op right logical ihl ihr =>
      rw [shape, Shape.bounds, ihl, bounds_right ihr, template, values_parenthesize, values_sides]

/-- The expression may stand as an operand: it is not absent, and in it only left sides are. -/
def IsOperand : Expression → Prop
  | absent => False
  | node left _ right _ => (left = absent ∨ left.IsOperand) ∧ right.IsOperand
  | _ => True

/-- Every compiled expression is an operand. -/
theorem isOperand_of_compiles {columns : Resolver} {condition : Bool} {p : Predicate}
    {e : Expression} (h : Compiles columns condition p e) : e.IsOperand := by
  induction h with
  | isTrue htype hcolumn => exact ⟨Or.inr trivial, trivial⟩
  | column hplain hcolumn => exact trivial
  | constant => exact trivial
  | binary hl hr ihl ihr => exact ⟨Or.inr ihl, ihr⟩
  | unary hr ih => exact ⟨Or.inl rfl, ih⟩
  | call hop hcolumn hr ih => exact ⟨Or.inr trivial, ih⟩

end Expression

end EntitySql
