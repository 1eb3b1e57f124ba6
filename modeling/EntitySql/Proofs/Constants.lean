import EntitySql.Proofs.Compiled
import EntitySql.Proofs.Template.Expression

/-! # Constants of a predicate

A constant of a predicate is either written into the SQL as a numeral or bound to a placeholder.
Which of the two is decided by its value and by whether it is itself the right side of a string
match, and by nothing else. The values that a condition binds are therefore read off the predicate
from left to right: `values_rootTemplate`.
-/

namespace EntitySql

/-- A constant with its place. -/
structure PlacedConstant where
  value : Value
  /-- The constant is itself the right side of a string match. -/
  matched : Bool

/-- The constant is written as a numeral. -/
def PlacedConstant.isInlined (c : PlacedConstant) : Bool := c.value.isNumeric && !c.matched

/-- The value that is bound for a constant that is not inlined: the text of a number, and any other
value as it is. -/
def PlacedConstant.parameter (c : PlacedConstant) : Value := c.value.asText

/-- The values that are bound for constants, in order. -/
def PlacedConstant.boundValues (cs : List PlacedConstant) : List Value :=
  (cs.filter fun c => !c.isInlined).map (·.parameter)

/-- The method is a string match. -/
def Operator.isMatchMethod (method : String) : Bool :=
  ((Operator.ofMethod? method).map (·.isStringMatch)).getD false

namespace Predicate

mutual

/-- The constants of the tree from left to right. With `matched` set the tree is the right side of a
string match. -/
def constants (matched : Bool) : Predicate → List PlacedConstant
  | binary op left right => left.constants false ++ right.constants op.isStringMatch
  | unary op operand _ => operand.constants op.isStringMatch
  | call target method arguments =>
    targetConstants target ++ argumentConstants (Operator.isMatchMethod method) arguments
  | field _ => []
  | constant value => [⟨value, matched⟩]

/-- The constants of the target of a call. -/
def targetConstants : Option Predicate → List PlacedConstant
  | none => []
  | some target => target.constants false

/-- The constants of the arguments of a call. -/
def argumentConstants (matched : Bool) : List Predicate → List PlacedConstant
  | [] => []
  | argument :: rest => argument.constants matched ++ argumentConstants matched rest

end

/-- The values that the predicate binds, in order. -/
def boundValues (p : Predicate) : List Value := PlacedConstant.boundValues (p.constants false)

end Predicate

theorem PlacedConstant.boundValues_append (cs ds : List PlacedConstant) :
    boundValues (cs ++ ds) = boundValues cs ++ boundValues ds := by
  simp [boundValues]

theorem Operator.wildcards?_eq_none {op : Operator} :
    op.wildcards? = none ↔ op.isStringMatch = false := by
  cases op <;> simp [wildcards?, isStringMatch]

/-- A number is bound as text, any other value as it is. -/
theorem Value.asText_of_not_numeric {value : Value} (h : value.isNumeric = false) :
    value.asText = value := by
  rw [Value.asText, Value.literal?_eq_none_iff.mpr h]

namespace Expression

open PlacedConstant

theorem values_literal (value : Value) :
    value.template.values = boundValues [⟨value, false⟩] := by
  rw [Value.template, boundValues]
  cases h : value.literal? with
  | none =>
      have hnumeric : value.isNumeric = false := Value.literal?_eq_none_iff.mp h
      have hparameter : parameter ⟨value, false⟩ = value :=
        Value.asText_of_not_numeric hnumeric
      simp [isInlined, hnumeric, hparameter]
  | some numeral =>
      have hnumeric : value.isNumeric = true := by
        rw [← Bool.not_eq_false, ← Value.literal?_eq_none_iff, h]
        simp
      simp [isInlined, hnumeric]

variable {columns : Resolver} {condition : Bool} {p : Predicate} {e : Expression}

/-- On the right side of a node only a constant is sensitive to a string match. -/
theorem values_right (h : Compiles columns condition p e)
    (he : e.template.values = boundValues (p.constants false)) (op : Operator) :
    (rightTemplate op e e.template).values = boundValues (p.constants op.isStringMatch) := by
  cases hw : op.wildcards? with
  | none =>
      have hplain : rightTemplate op e e.template = e.template := by simp only [rightTemplate, hw]
      rw [Operator.wildcards?_eq_none.mp hw, ← he, hplain]
  | some w =>
      have hmatch : op.isStringMatch = true := by
        rw [← Bool.not_eq_false, ← Operator.wildcards?_eq_none, hw]
        simp
      simp only [hmatch, rightTemplate, hw]
      -- beside wildcards only a constant has a template of its own
      cases h with
      | constant => simp [Predicate.constants, boundValues, isInlined, parameter]
      | isTrue htype hcolumn => exact he
      | column hplain hcolumn => exact he
      | binary hl hr => exact he
      | unary hr => exact he
      | call hop hcolumn hr => exact he

/-- A compiled operand binds the constants of its predicate. -/
theorem values_template (h : Compiles columns condition p e) :
    e.template.values = boundValues (p.constants false) := by
  induction h with
  | isTrue htype hcolumn => rfl
  | column hplain hcolumn => rfl
  | constant => exact values_literal _
  | @binary _ op _ _ _ _ hl hr ihl ihr =>
      rw [template, values_parenthesize, values_sides, ihl, values_right hr ihr,
        Predicate.constants, boundValues_append]
  | @unary _ _ op _ _ hr ih =>
      rw [template, values_parenthesize, values_sides, values_right hr ih, Predicate.constants]
      rfl
  | @call _ handle _ method op argument _ hop hcolumn hr ih =>
      -- the target is a column and holds no constant; the argument is the right side
      have hmatch : Operator.isMatchMethod method = op.isStringMatch := by
        rw [Operator.isMatchMethod, hop]
        rfl
      have hconstants : (Predicate.call (some (.field handle)) method [argument]).constants false =
          argument.constants op.isStringMatch := by
        simp [Predicate.constants, Predicate.targetConstants, Predicate.argumentConstants, hmatch]
      rw [template, values_parenthesize, values_sides, values_right hr ih, hconstants]
      rfl

/-- A compiled condition binds the constants of its predicate that are not inlined, in order. -/
theorem values_rootTemplate {limit : Option Nat} (h : p.compile columns limit = .ok e) :
    e.rootTemplate.values = p.boundValues := by
  rw [values_rootTemplate_eq, values_template (Predicate.compiles_of_compile h).1,
    Predicate.boundValues]

end Expression

end EntitySql
