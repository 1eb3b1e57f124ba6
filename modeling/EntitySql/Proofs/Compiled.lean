import EntitySql.Expression.OfPredicate
import EntitySql.Proofs.Checked

/-! # What compilation produces

`Compiles columns condition p e` lists, without levels and errors, the expressions that operands
compile to: one constructor for each way through the compiler. Whatever holds of every compiled
expression is an induction over this relation.

Main statements: `compiles_of_compile`, every expression that is compiled at the root is such a
node; `compile_of_compiles`, without a limit every such node is compiled.
-/

namespace EntitySql

/-- The operand `p` stands for the expression `e`; with `condition` set, in a logical position. -/
inductive Compiles (columns : Resolver) : (condition : Bool) → Predicate → Expression → Prop where
  /-- A boolean field in a logical position is a comparison. -/
  | isTrue {handle : Handle} {name : String} (htype : handle.type = .boolean)
      (hcolumn : columns handle.field = some name) :
      Compiles columns true (.field handle)
        (.node (.column name) .equal (.literal (.bool true)) false)
  | column {condition : Bool} {handle : Handle} {name : String}
      (hplain : (condition && handle.type == .boolean) = false)
      (hcolumn : columns handle.field = some name) :
      Compiles columns condition (.field handle) (.column name)
  | constant {condition : Bool} {value : Value} :
      Compiles columns condition (.constant value) (.literal value)
  | binary {condition : Bool} {op : Operator} {left right : Predicate} {l r : Expression}
      (hl : Compiles columns op.isLogical left l) (hr : Compiles columns op.isLogical right r) :
      Compiles columns condition (.binary op left right) (.node l op r false)
  | unary {condition logical : Bool} {op : Operator} {inner : Predicate} {r : Expression}
      (hr : Compiles columns (logical && op == .not) inner r) :
      Compiles columns condition (.unary op inner logical) (.node .absent op r logical)
  | call {condition : Bool} {handle : Handle} {name method : String} {op : Operator}
      {argument : Predicate} {r : Expression} (hop : Operator.ofMethod? method = some op)
      (hcolumn : columns handle.field = some name) (hr : Compiles columns false argument r) :
      Compiles columns condition (.call (some (.field handle)) method [argument])
        (.node (.column name) op r false)

/-- Induction over a predicate with a hypothesis for each predicate inside of a call. -/
@[elab_as_elim]
theorem Predicate.induction {motive : Predicate → Prop}
    (binary : ∀ op left right, motive left → motive right → motive (.binary op left right))
    (unary : ∀ op inner logical, motive inner → motive (.unary op inner logical))
    (call : ∀ target method arguments, (∀ t, target = some t → motive t) →
      (∀ a ∈ arguments, motive a) → motive (.call target method arguments))
    (field : ∀ handle, motive (.field handle))
    (constant : ∀ value, motive (.constant value)) (p : Predicate) : motive p := by
  -- the recursor asks for two more motives: what holds of a target and of a list of arguments
  have none_ : ∀ t, (none : Option Predicate) = some t → motive t := by
    rintro t ⟨⟩
  have some_ : ∀ t, motive t → ∀ u, some t = some u → motive u := by
    rintro t ht u ⟨⟩
    exact ht
  have nil_ : ∀ a ∈ ([] : List Predicate), motive a := by
    rintro a ⟨⟩
  have cons_ : ∀ a arguments, motive a → (∀ b ∈ arguments, motive b) →
      ∀ b ∈ a :: arguments, motive b := by
    intro a arguments ha hs b hb
    rcases List.mem_cons.mp hb with rfl | hb
    · exact ha
    · exact hs b hb
  exact @Predicate.rec motive (fun target => ∀ t, target = some t → motive t)
    (fun arguments => ∀ a ∈ arguments, motive a) binary unary call field constant
    none_ some_ nil_ cons_ p

namespace Predicate

mutual

/-- The trees inside of the tree, each before its parts and from left to right. -/
def subtrees : Predicate → List Predicate
  | binary op left right => binary op left right :: (left.subtrees ++ right.subtrees)
  | unary op operand logical => unary op operand logical :: operand.subtrees
  | call target method arguments =>
    call target method arguments :: (targetSubtrees target ++ argumentSubtrees arguments)
  | field handle => [field handle]
  | constant value => [constant value]

/-- The trees inside of the target of a call. -/
def targetSubtrees : Option Predicate → List Predicate
  | none => []
  | some target => target.subtrees

/-- The trees inside of the arguments of a call. -/
def argumentSubtrees : List Predicate → List Predicate
  | [] => []
  | argument :: rest => argument.subtrees ++ argumentSubtrees rest

end

variable {columns : Resolver} {limit : Option Nat} {condition : Bool} {level : Nat}

theorem column_eq_ok {handle : Handle} {e : Expression} (h : handle.column columns = .ok e) :
    ∃ name, columns handle.field = some name ∧ e = .column name := by
  rw [Handle.column] at h
  cases hname : columns handle.field with
  | none => simp [hname] at h
  | some name =>
      simp only [hname, Except.ok.injEq] at h
      exact ⟨name, rfl, h.symm⟩

theorem isTrue_eq_ok {handle : Handle} {e : Expression} (h : handle.isTrue columns = .ok e) :
    ∃ name, columns handle.field = some name ∧
      e = .node (.column name) .equal (.literal (.bool true)) false := by
  rcases bind_eq_ok.mp h with ⟨column, hcolumn, he⟩
  rcases column_eq_ok hcolumn with ⟨name, hname, rfl⟩
  exact ⟨name, hname, (Except.ok.inj he).symm⟩

/-- A call compiles only on a field, by a method of the list, with one argument. -/
theorem operand_call_eq_ok {target : Option Predicate} {method : String}
    {arguments : List Predicate} {e : Expression}
    (h : (call target method arguments).operand columns limit condition level = .ok e) :
    ∃ handle op argument name r, target = some (.field handle) ∧ arguments = [argument] ∧
      Operator.ofMethod? method = some op ∧ columns handle.field = some name ∧
      argument.operand columns limit false (level + 1) = .ok r ∧
      e = .node (.column name) op r false := by
  unfold operand at h
  rcases bind_eq_ok.mp h with ⟨-, -, h⟩
  cases target with
  | none => cases h
  | some target =>
      cases hop : Operator.ofMethod? method with
      | none => simp [hop] at h
      | some op =>
          cases target with
          | field handle =>
              -- the match on the arguments is stuck until their number is known
              rcases arguments with _ | ⟨argument, _ | ⟨second, rest⟩⟩
              · simp [hop] at h
              · simp only [hop] at h
                rcases bind_eq_ok.mp h with ⟨l, hl, h⟩
                rcases bind_eq_ok.mp h with ⟨r, hr, h⟩
                rcases column_eq_ok hl with ⟨name, hname, rfl⟩
                exact ⟨handle, op, argument, name, r, rfl, rfl, rfl, hname, hr,
                  (Except.ok.inj h).symm⟩
              · simp [hop] at h
          | binary op left right => simp [hop] at h
          | unary op inner logical => simp [hop] at h
          | call target method arguments => simp [hop] at h
          | constant value => simp [hop] at h

/-- A method call on a field, with one argument, compiles the argument as a value. -/
theorem operand_method {method : String} {op : Operator} (hop : Operator.ofMethod? method = some op)
    (handle : Handle) (argument : Predicate) (condition : Bool) (level : Nat) :
    (call (some (.field handle)) method [argument]).operand columns limit condition level =
      checkLevel limit level >>= fun _ => handle.column columns >>= fun l =>
        argument.operand columns limit false (level + 1) >>= fun r =>
          pure (.node l op r false) := by
  rw [operand.eq_def]
  simp only [hop]

/-- A call of an unknown method fails by that method, whatever it is called on. -/
theorem operand_call_of_unknown {method : String} (hop : Operator.ofMethod? method = none)
    (t : Predicate) (arguments : List Predicate) (condition : Bool) (level : Nat) :
    (call (some t) method arguments).operand columns limit condition level =
      checkLevel limit level >>= fun _ => .error (.unknownMethod method) := by
  unfold operand
  simp only [hop]

/-- A call on something that is no field fails by its method. -/
theorem operand_call_of_not_field {t : Predicate} (ht : ∀ handle, t ≠ .field handle)
    (method : String) (arguments : List Predicate) (condition : Bool) (level : Nat) :
    (call (some t) method arguments).operand columns limit condition level =
      checkLevel limit level >>= fun _ =>
        match Operator.ofMethod? method with
        | none => .error (.unknownMethod method)
        | some _ => .error (.targetNotField method) := by
  unfold operand
  cases t with
  | field handle => exact absurd rfl (ht handle)
  | _ => rfl

/-- A call with another number of arguments than one fails by its method, or by that number. -/
theorem operand_call_of_length {arguments : List Predicate} (h : arguments.length ≠ 1)
    (handle : Handle) (method : String) (condition : Bool) (level : Nat) :
    (call (some (.field handle)) method arguments).operand columns limit condition level =
      checkLevel limit level >>= fun _ =>
        match Operator.ofMethod? method with
        | none => .error (.unknownMethod method)
        | some _ => .error (.argumentCount method arguments.length) := by
  unfold operand
  rcases arguments with _ | ⟨argument, _ | ⟨second, rest⟩⟩
  · rfl
  · exact absurd rfl h
  · rfl

/-- Every expression that an operand compiles to is listed. -/
theorem compiles_of_operand {p : Predicate} {e : Expression}
    (h : p.operand columns limit condition level = .ok e) : Compiles columns condition p e := by
  induction p using Predicate.induction generalizing condition level e with
  | field handle =>
      rw [operand] at h
      split at h
      · next hboolean =>
          rcases bind_eq_ok.mp h with ⟨-, -, h⟩
          rcases isTrue_eq_ok h with ⟨name, hname, rfl⟩
          rw [Bool.and_eq_true, beq_iff_eq] at hboolean
          rcases hboolean with ⟨rfl, htype⟩
          exact Compiles.isTrue htype hname
      · next hplain =>
          rcases column_eq_ok h with ⟨name, hname, rfl⟩
          exact Compiles.column (Bool.eq_false_iff.mpr hplain) hname
  | constant value =>
      rw [operand] at h
      rw [← Except.ok.inj h]
      exact Compiles.constant
  | binary op left right ihl ihr =>
      rw [operand] at h
      rcases bind_eq_ok.mp h with ⟨-, -, h⟩
      rcases bind_eq_ok.mp h with ⟨l, hl, h⟩
      rcases bind_eq_ok.mp h with ⟨r, hr, h⟩
      rw [← Except.ok.inj h]
      exact Compiles.binary (ihl hl) (ihr hr)
  | unary op inner logical ih =>
      rw [operand] at h
      rcases bind_eq_ok.mp h with ⟨-, -, h⟩
      rcases bind_eq_ok.mp h with ⟨r, hr, h⟩
      rw [← Except.ok.inj h]
      exact Compiles.unary (ih hr)
  | call target method arguments iht iha =>
      obtain ⟨handle, op, argument, name, r, rfl, rfl, hop, hname, hr, rfl⟩ := operand_call_eq_ok h
      exact Compiles.call hop hname (iha argument List.mem_cons_self hr)

/-- A predicate compiles to a node, by the same rules as an operand in a logical position. -/
theorem compiles_of_compile {p : Predicate} {e : Expression}
    (h : p.compile columns limit = .ok e) : Compiles columns true p e ∧ e.isNode = true := by
  cases p with
  | field handle =>
      rw [compile] at h
      split at h
      · next htype =>
          rcases isTrue_eq_ok h with ⟨name, hname, rfl⟩
          exact ⟨Compiles.isTrue htype hname, rfl⟩
      · cases h
  | constant value => cases h
  | binary op left right =>
      cases compiles_of_operand h with
      | binary hl hr => exact ⟨Compiles.binary hl hr, rfl⟩
  | unary op inner logical =>
      cases compiles_of_operand h with
      | unary hr => exact ⟨Compiles.unary hr, rfl⟩
  | call target method arguments =>
      cases compiles_of_operand h with
      | call hop hcolumn hr => exact ⟨Compiles.call hop hcolumn hr, rfl⟩

/-- Without a limit every listed expression is compiled. -/
theorem operand_of_compiles {p : Predicate} {e : Expression} (h : Compiles columns condition p e)
    (level : Nat) : p.operand columns none condition level = .ok e := by
  induction h generalizing level with
  | isTrue htype hcolumn =>
      simp [operand, htype, Handle.isTrue, Handle.column, hcolumn, checkLevel, bind, Except.bind,
        pure, Except.pure]
  | column hplain hcolumn => simp [operand, hplain, Handle.column, hcolumn]
  | constant => rw [operand]
  | binary hl hr ihl ihr =>
      rw [operand, ihl, ihr]
      rfl
  | unary hr ih =>
      rw [operand, ih]
      rfl
  | call hop hcolumn hr ih =>
      simp [operand, hop, Handle.column, hcolumn, ih, checkLevel, bind, Except.bind, pure,
        Except.pure]

/-- Without a limit every listed node is compiled at the root. -/
theorem compile_of_compiles {p : Predicate} {e : Expression} (h : Compiles columns true p e)
    (hnode : e.isNode = true) : p.compile columns none = .ok e := by
  cases h with
  | isTrue htype hcolumn =>
      simp [compile, htype, Handle.isTrue, Handle.column, hcolumn, bind, Except.bind, pure,
        Except.pure]
  -- a column and a constant are no nodes, so the root refuses them
  | column hplain hcolumn => cases hnode
  | constant => cases hnode
  -- the root compiles a node as an operand in an ordinary position
  | binary hl hr => exact operand_of_compiles (@Compiles.binary _ false _ _ _ _ _ hl hr) 1
  | unary hr => exact operand_of_compiles (@Compiles.unary _ false _ _ _ _ hr) 1
  | call hop hcolumn hr =>
      exact operand_of_compiles (@Compiles.call _ false _ _ _ _ _ _ hop hcolumn hr) 1

/-- The predicate may stand at the root: it is an operator node or a boolean field. -/
def isRoot : Predicate → Bool
  | field handle => handle.type == .boolean
  | constant _ => false
  | _ => true

/-- The operator of a node. -/
def rootOperator? : Predicate → Option Operator
  | binary op _ _ => some op
  | unary op _ _ => some op
  | call _ method _ => Operator.ofMethod? method
  | _ => none

/-- What may stand at the root is a node in a logical position. -/
theorem isNode_of_compiles {p : Predicate} {e : Expression} (hroot : p.isRoot = true)
    (h : Compiles columns true p e) : e.isNode = true := by
  cases h with
  | column hplain hcolumn => simp_all [isRoot]
  | constant => cases hroot
  | isTrue htype hcolumn => rfl
  | binary hl hr => rfl
  | unary hr => rfl
  | call hop hcolumn hr => rfl

/-- Without a limit a predicate that may stand at the root is compiled there as in a logical
position. -/
theorem compile_eq_ok_iff {p : Predicate} {e : Expression} (hroot : p.isRoot = true) :
    p.compile columns none = .ok e ↔ Compiles columns true p e := by
  constructor
  · intro h
    exact (compiles_of_compile h).1
  · intro h
    exact compile_of_compiles h (isNode_of_compiles hroot h)

end Predicate

end EntitySql
