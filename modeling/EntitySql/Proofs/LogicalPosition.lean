import EntitySql.Proofs.Meaning
import EntitySql.Proofs.Template.Command

/-! # Logical positions

The root of an expression and the operands of AND, of OR and of a logical NOT stand in logical
positions, where SQL needs a condition: a comparison, a string match, or what AND, OR and NOT make
of conditions. The compiler makes a condition of a boolean field there and keeps everything else as
it is, so a logical position holds a condition exactly where the predicate has one.

The type of truth values alone is not enough: a boolean constant has it, and so has arithmetic over
a boolean field. `logical_positions_hold_conditions_iff` says that among the predicates of the
builders whose logical positions all have that type, those are the only ones for which a logical
position holds no condition.
-/

namespace EntitySql

/-- A node of the operator is a condition. Negation is one when it is logical. -/
def Operator.yieldsCondition (op : Operator) (logical : Bool) : Bool :=
  op.isComparison || op.isStringMatch || op.isLogical || (logical && op == .not)

/-- A method is a string match or the comparison of two texts. -/
theorem Operator.ofMethod?_cases {name : String} {op : Operator} (h : ofMethod? name = some op) :
    op.isLogical = false ∧ (op.isStringMatch = true ∨ op = .compare) := by
  unfold ofMethod? at h
  split_ifs at h <;> cases h
  · exact ⟨rfl, Or.inl rfl⟩
  · exact ⟨rfl, Or.inl rfl⟩
  · exact ⟨rfl, Or.inl rfl⟩
  · exact ⟨rfl, Or.inr rfl⟩

namespace Expression

/-- The expression is a condition. -/
def isCondition : Expression → Bool
  | node _ op _ logical => op.yieldsCondition logical
  | _ => false

/-- The operands of AND, of OR and of a logical NOT in the expression. -/
def logicalOperands : Expression → List Expression
  | node left op right logical =>
    (if op.isLogical then [left, right] else if logical && op == .not then [right] else []) ++
      (left.logicalOperands ++ right.logicalOperands)
  | _ => []

/-- The root and the operands of AND, of OR and of a logical NOT. -/
def logicalPositions (e : Expression) : List Expression := e :: e.logicalOperands

end Expression

namespace Predicate

/-- The operands of the tree itself that stand in logical positions. -/
def logicalParts : Predicate → List Predicate
  | binary op left right => if op.isLogical then [left, right] else []
  | unary op operand logical => if logical && op == .not then [operand] else []
  | _ => []

/-- The operands of AND, of OR and of a logical NOT in the tree. -/
def logicalOperands (p : Predicate) : List Predicate := p.subtrees.flatMap logicalParts

/-- The root and the operands of AND, of OR and of a logical NOT. -/
def logicalPositions (p : Predicate) : List Predicate := p :: p.logicalOperands

/-- The tree is a boolean field or a node that is a condition. -/
def isConditionForm : Predicate → Bool
  | binary op _ _ => op.yieldsCondition false
  | unary op _ logical => op.yieldsCondition logical
  | call _ method _ => (Operator.ofMethod? method).any (·.yieldsCondition false)
  | field handle => handle.type == .boolean
  | constant _ => false

/-- A predicate that the builders make. -/
inductive IsBuilt : Predicate → Prop where
  | field (handle : Handle) : IsBuilt (.field handle)
  | constant (value : Value) : IsBuilt (.constant value)
  | binary {op : Operator} {left right : Predicate}
      (hop : (op.isComparison || op.isLogical || op.isValueOperator) = true)
      (hl : IsBuilt left) (hr : IsBuilt right) : IsBuilt (.binary op left right)
  | method {op : Operator} {name : String} {target argument : Predicate}
      (hname : Operator.ofMethod? name = some op) (ht : IsBuilt target) (ha : IsBuilt argument) :
      IsBuilt (target.method name argument)
  | not {operand : Predicate} (h : IsBuilt operand) : IsBuilt operand.not
  | neg {operand : Predicate} (h : IsBuilt operand) : IsBuilt operand.neg

/-- The tree is a constant, or an operator that combines values to a value. -/
def isData : Predicate → Bool
  | binary op _ _ => op.isValueOperator
  | unary op _ _ => op == .negate
  | constant _ => true
  | _ => false

/-! ## What the compiler keeps -/

variable {columns : Resolver} {condition : Bool} {p : Predicate} {e : Expression}

/-- A logical position holds a condition exactly where the predicate has one. -/
theorem isCondition_eq (h : Compiles columns true p e) : e.isCondition = p.isConditionForm := by
  cases h with
  | isTrue htype hcolumn =>
      rw [isConditionForm, htype]
      rfl
  | column hplain hcolumn => simpa [Expression.isCondition, isConditionForm] using hplain.symm
  | constant => rfl
  | binary hl hr => rfl
  | unary hr => rfl
  | call hop hcolumn hr => simp [Expression.isCondition, isConditionForm, hop]

theorem logicalOperands_binary (op : Operator) (left right : Predicate) :
    (binary op left right).logicalOperands =
      (binary op left right).logicalParts ++ (left.logicalOperands ++ right.logicalOperands) := by
  simp [logicalOperands, subtrees]

theorem logicalOperands_unary (op : Operator) (operand : Predicate) (logical : Bool) :
    (unary op operand logical).logicalOperands =
      (unary op operand logical).logicalParts ++ operand.logicalOperands := by
  simp [logicalOperands, subtrees]

theorem logicalOperands_method (handle : Handle) (name : String) (argument : Predicate) :
    ((field handle).method name argument).logicalOperands = argument.logicalOperands := by
  simp [logicalOperands, method, subtrees, targetSubtrees, argumentSubtrees, logicalParts]

/-- Negation adds its operand to the logical operands if it is logical. -/
theorem map_isCondition_unary {op : Operator} {logical : Bool} {operand : Predicate}
    {r : Expression} (hop : op.isLogical = false)
    (hr : Compiles columns (logical && op == .not) operand r)
    (ih : r.logicalOperands.map Expression.isCondition =
      operand.logicalOperands.map isConditionForm) :
    (Expression.node .absent op r logical).logicalOperands.map Expression.isCondition =
      (unary op operand logical).logicalOperands.map isConditionForm := by
  have habsent : Expression.absent.logicalOperands = [] := rfl
  rw [logicalOperands_unary, Expression.logicalOperands, logicalParts, hop, habsent]
  cases hlogical : logical && op == .not with
  | false => simp [ih]
  | true =>
      rw [hlogical] at hr
      simp [ih, isCondition_eq hr]

/-- In a predicate of the builders the logical operands are compiled one by one, in order. -/
theorem IsBuilt.map_isCondition (hbuilt : p.IsBuilt) (h : Compiles columns condition p e) :
    e.logicalOperands.map Expression.isCondition = p.logicalOperands.map isConditionForm := by
  induction hbuilt generalizing condition e with
  | field handle => cases h <;> rfl
  | constant value => cases h; rfl
  | @binary op left right hop hl hr ihl ihr =>
      cases h with
      | @binary _ _ _ _ l r hcl hcr =>
          -- no builder makes a negation with two sides
          have hnot : (false && op == .not) = false := rfl
          rw [logicalOperands_binary, Expression.logicalOperands, logicalParts, hnot]
          cases hlogical : op.isLogical with
          | false => simp [ihl hcl, ihr hcr]
          | true =>
              rw [hlogical] at hcl hcr
              simp [ihl hcl, ihr hcr, isCondition_eq hcl, isCondition_eq hcr]
  | @method op name target argument hname ht ha iht iha =>
      cases h with
      | call hop hcolumn hcr =>
          -- a method is no connective, and its target is a column
          have hlogical := (Operator.ofMethod?_cases hop).1
          rw [logicalOperands_method, Expression.logicalOperands, hlogical]
          exact iha hcr
  | not h ih =>
      cases h with
      | unary hr => exact map_isCondition_unary rfl hr (ih hr)
  | neg h ih =>
      cases h with
      | unary hr => exact map_isCondition_unary rfl hr (ih hr)

/-- The same for all logical positions of a whole predicate. -/
theorem IsBuilt.map_isCondition_positions (hbuilt : p.IsBuilt) {limit : Option Nat}
    (h : p.compile columns limit = .ok e) :
    e.logicalPositions.map Expression.isCondition = p.logicalPositions.map isConditionForm := by
  have hcompiles := (compiles_of_compile h).1
  have hroot : e.isCondition = p.isConditionForm := isCondition_eq hcompiles
  have hoperands := hbuilt.map_isCondition hcompiles
  rw [Expression.logicalPositions, logicalPositions, List.map_cons, List.map_cons, hroot, hoperands]

/-! ## Predicates of the builders -/

/-- The trees inside of a predicate of the builders are made by them too. -/
theorem IsBuilt.of_mem_subtrees (hbuilt : p.IsBuilt) {q : Predicate} (hq : q ∈ p.subtrees) :
    q.IsBuilt := by
  induction hbuilt with
  | field handle =>
      obtain rfl : q = Predicate.field handle := by simpa [subtrees] using hq
      exact .field handle
  | constant value =>
      obtain rfl : q = Predicate.constant value := by simpa [subtrees] using hq
      exact .constant value
  | @binary op left right hop hl hr ihl ihr =>
      rw [subtrees, List.mem_cons, List.mem_append] at hq
      rcases hq with rfl | hq | hq
      · exact .binary hop hl hr
      · exact ihl hq
      · exact ihr hq
  | @method op name target argument hname ht ha iht iha =>
      simp only [Predicate.method, subtrees, targetSubtrees, argumentSubtrees, List.mem_cons,
        List.mem_append, List.append_nil] at hq
      rcases hq with rfl | hq | hq
      · exact .method hname ht ha
      · exact iht hq
      · exact iha hq
  | @not operand h ih =>
      rw [Predicate.not, subtrees, List.mem_cons] at hq
      rcases hq with rfl | hq
      · exact .not h
      · exact ih hq
  | @neg operand h ih =>
      rw [Predicate.neg, subtrees, List.mem_cons] at hq
      rcases hq with rfl | hq
      · exact .neg h
      · exact ih hq

theorem eq_of_mem_logicalParts_unary {op : Operator} {operand q : Predicate} {logical : Bool}
    (hq : q ∈ (unary op operand logical).logicalParts) : q = operand := by
  rw [logicalParts] at hq
  split at hq
  · exact List.mem_singleton.mp hq
  · cases hq

/-- The operands of such a tree are made by the builders. -/
theorem IsBuilt.of_mem_logicalParts (hbuilt : p.IsBuilt) {q : Predicate} (hq : q ∈ p.logicalParts) :
    q.IsBuilt := by
  cases hbuilt with
  | field handle => cases hq
  | constant value => cases hq
  | binary hop hl hr =>
      rw [logicalParts] at hq
      split at hq
      · simp only [List.mem_cons, List.not_mem_nil, or_false] at hq
        rcases hq with rfl | rfl
        · exact hl
        · exact hr
      · cases hq
  | method hname ht ha => cases hq
  | not h =>
      rw [eq_of_mem_logicalParts_unary hq]
      exact h
  | neg h =>
      rw [eq_of_mem_logicalParts_unary hq]
      exact h

theorem IsBuilt.of_mem_logicalPositions (hbuilt : p.IsBuilt) {q : Predicate}
    (hq : q ∈ p.logicalPositions) : q.IsBuilt := by
  rw [logicalPositions, List.mem_cons, logicalOperands, List.mem_flatMap] at hq
  rcases hq with rfl | ⟨r, hr, hq⟩
  · exact hbuilt
  · exact (hbuilt.of_mem_subtrees hr).of_mem_logicalParts hq

/-- A tree of the builders with the type of truth values is a condition, unless it is data. -/
theorem IsBuilt.isConditionForm_eq (hbuilt : p.IsBuilt) (htype : p.isBoolean = true) :
    p.isConditionForm = !p.isData := by
  cases hbuilt with
  | field handle => exact htype
  | constant value => rfl
  | @binary op left right hop hl hr =>
      rw [isConditionForm, isData]
      cases op <;> first | rfl | cases hop
  | @method op name target argument hname ht ha =>
      have hclass : Operator.methodClass name = .boolean := beq_iff_eq.mp htype
      rw [Operator.methodClass, hname] at hclass
      -- the comparison of two texts is a number
      have hmatch : op.isStringMatch = true := by
        rcases (Operator.ofMethod?_cases hname).2 with hmatch | rfl
        · exact hmatch
        · cases hclass
      simp [Predicate.method, isConditionForm, isData, hname, Operator.yieldsCondition, hmatch]
  | @not operand h =>
      have hoperand : operand.isBoolean = true := htype
      rw [Predicate.not, isConditionForm, isData, hoperand]
      rfl
  | neg h => rfl

end Predicate

/-- Let all logical positions of a predicate of the builders have the type of truth values. Then the
logical positions of the compiled expression hold conditions exactly when none of the predicate's is
data: a constant, arithmetic, an operator on bits or a unary minus. -/
theorem logical_positions_hold_conditions_iff {p : Predicate} (hbuilt : p.IsBuilt)
    (htypes : ∀ q ∈ p.logicalPositions, q.isBoolean = true) {columns : Resolver}
    {limit : Option Nat} {e : Expression} (h : p.compile columns limit = .ok e) :
    (∀ x ∈ e.logicalPositions, x.isCondition = true) ↔
      ∀ q ∈ p.logicalPositions, q.isData = false := by
  have hpositions := hbuilt.map_isCondition_positions h
  have hform : ∀ q ∈ p.logicalPositions, q.isConditionForm = true ↔ q.isData = false := by
    intro q hq
    rw [(hbuilt.of_mem_logicalPositions hq).isConditionForm_eq (htypes q hq)]
    simp
  calc (∀ x ∈ e.logicalPositions, x.isCondition = true)
      ↔ ∀ b ∈ e.logicalPositions.map Expression.isCondition, b = true := by simp
    _ ↔ ∀ b ∈ p.logicalPositions.map Predicate.isConditionForm, b = true := by rw [hpositions]
    _ ↔ ∀ q ∈ p.logicalPositions, q.isConditionForm = true := by simp
    _ ↔ ∀ q ∈ p.logicalPositions, q.isData = false := forall₂_congr hform

/-- A negation of a boolean field beside a match of two columns. -/
theorem logical_positions_hold_conditions_active :
    let columns := Resolver.ofPairs [("active", "is_active"), ("name", "fname")]
    let p := (Predicate.field ⟨"active", .boolean⟩).not.or
      (.contains (.field ⟨"name", .text⟩) (.field ⟨"active", .boolean⟩))
    p.IsBuilt ∧ (∀ q ∈ p.logicalPositions, q.isBoolean = true) ∧
      ∃ e, p.compile columns none = .ok e ∧ e.logicalPositions.length = 4 ∧
        ∀ x ∈ e.logicalPositions, x.isCondition = true := by
  intro columns p
  have hmatch :
      (Predicate.contains (.field ⟨"name", .text⟩) (.field ⟨"active", .boolean⟩)).IsBuilt :=
    @Predicate.IsBuilt.method .contains _ _ _ rfl (.field _) (.field _)
  have hbuilt : p.IsBuilt := .binary rfl (.not (.field _)) hmatch
  have htypes : ∀ q ∈ p.logicalPositions, q.isBoolean = true := by decide
  have hdata : ∀ q ∈ p.logicalPositions, q.isData = false := by decide
  obtain ⟨e, hcompile, hlength⟩ :
      ∃ e, p.compile columns none = .ok e ∧ e.logicalPositions.length = 4 := ⟨_, rfl, rfl⟩
  refine ⟨hbuilt, htypes, e, hcompile, hlength, ?_⟩
  exact (logical_positions_hold_conditions_iff hbuilt htypes hcompile).mpr hdata

/-- The type of truth values is not enough: AND takes the constant true beside a boolean field, and
the literal stands there in place of a condition. -/
theorem constant_in_logical_position :
    ¬ ∀ (p : Predicate) (columns : Resolver) (limit : Option Nat) (e : Expression) (sql : BoundSql),
      p.IsBuilt → (∀ q ∈ p.logicalPositions, q.isBoolean = true) →
      p.compile columns limit = .ok e → e.toSql = .ok sql →
      ∀ x ∈ e.logicalPositions, x.isCondition = true := by
  intro hall
  let columns := Resolver.ofPairs [("active", "is_active")]
  let p := (Predicate.field ⟨"active", .boolean⟩).and (.constant (.bool true))
  let literal := Expression.literal (.bool true)
  let e := Expression.node (.node (.column "is_active") .equal literal false) .and literal false
  have hbuilt : p.IsBuilt := .binary rfl (.field _) (.constant _)
  have htypes : ∀ q ∈ p.logicalPositions, q.isBoolean = true := by decide
  have hcompile : p.compile columns none = .ok e := rfl
  have hsql : e.toSql = .ok ⟨"(([is_active] = 1) AND 1)", .empty⟩ := by rfl
  have hliteral : literal ∈ e.logicalPositions := by
    simp [e, Expression.logicalPositions, Expression.logicalOperands, Operator.isLogical]
  have hcondition := hall p columns none e _ hbuilt htypes hcompile hsql literal hliteral
  exact Bool.false_ne_true hcondition

end EntitySql
