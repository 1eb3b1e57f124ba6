import EntitySql.Proofs.Compiled
import EntitySql.Proofs.Template.Command

/-! # Which predicates have a condition, and why the others fail

The trees inside of a predicate are listed from left to right, each before its parts. A predicate
has a condition when it may stand at the root, no tree in it is an offence and every operator in it
has a token. Otherwise the error is that of the root, or of the first offence in the list, or, if
there is none at all, of the first operator without a token.

Main statement: `acceptance_and_first_error`.
-/

namespace EntitySql

/-- The operator can be written. -/
def Operator.isSupported (op : Operator) : Bool := (op.token? false).isSome

namespace Predicate

/-- The tree is a field. -/
def isField : Predicate → Bool
  | field _ => true
  | _ => false

/-- What is wrong with the tree itself, whatever its parts are. -/
def offence? (columns : Resolver) : Predicate → Option PredicateError
  | field handle =>
    if (columns handle.field).isSome then none else some (.unmappedField handle.field)
  | call none method _ => some (.noTarget method)
  | call (some target) method arguments =>
    if (Operator.ofMethod? method).isNone then some (.unknownMethod method)
    else if !target.isField then some (.targetNotField method)
    else if arguments.length ≠ 1 then some (.argumentCount method arguments.length)
    else none
  | _ => none

/-- The first offence in the tree. -/
def firstOffence? (columns : Resolver) (p : Predicate) : Option PredicateError :=
  p.subtrees.findSome? (offence? columns)

/-- The first operator in the tree that has no token. -/
def firstUnsupported? (p : Predicate) : Option Operator :=
  (p.subtrees.filterMap rootOperator?).find? fun op => !op.isSupported

/-- Why the predicate has no condition. -/
def error? (columns : Resolver) (p : Predicate) : Option PredicateError :=
  if p.isRoot then
    (p.firstOffence? columns).or (p.firstUnsupported?.map .unsupportedOperator)
  else some .notAPredicate

/-- The predicate has a condition. -/
structure IsAccepted (columns : Resolver) (p : Predicate) : Prop where
  root : p.isRoot = true
  calls : ∀ target method arguments, call target method arguments ∈ p.subtrees →
    (∃ handle, target = some (field handle)) ∧
      method ∈ ["starts_with", "ends_with", "contains", "compare_to"] ∧ arguments.length = 1
  mapped : ∀ handle, field handle ∈ p.subtrees → ∃ name, columns handle.field = some name
  supported : ∀ q ∈ p.subtrees, ∀ op, q.rootOperator? = some op →
    ∀ logical, ∃ token, op.token? logical = some token

/-! ## Offences -/

variable {columns : Resolver} {condition : Bool} {level : Nat}

theorem firstOffence?_binary (columns : Resolver) (op : Operator) (left right : Predicate) :
    (binary op left right).firstOffence? columns =
      (left.firstOffence? columns).or (right.firstOffence? columns) := by
  simp [firstOffence?, subtrees, List.findSome?_cons, offence?, List.findSome?_append]

theorem firstOffence?_unary (columns : Resolver) (op : Operator) (operand : Predicate)
    (logical : Bool) :
    (unary op operand logical).firstOffence? columns = operand.firstOffence? columns := by
  simp [firstOffence?, subtrees, List.findSome?_cons, offence?]

/-- A call with an offence of its own is not looked into. -/
theorem firstOffence?_call {target : Option Predicate} {method : String}
    {arguments : List Predicate} {cause : PredicateError}
    (h : offence? columns (call target method arguments) = some cause) :
    (call target method arguments).firstOffence? columns = some cause := by
  simp [firstOffence?, subtrees, h]

/-- In a call without an offence of its own the target is looked at before the argument. -/
theorem firstOffence?_method {handle : Handle} {method : String} {argument : Predicate}
    {op : Operator} (hop : Operator.ofMethod? method = some op) :
    (call (some (field handle)) method [argument]).firstOffence? columns =
      ((field handle).firstOffence? columns).or (argument.firstOffence? columns) := by
  have hcall : offence? columns (call (some (field handle)) method [argument]) = none := by
    simp [offence?, hop, isField]
  simp only [firstOffence?, subtrees, targetSubtrees, argumentSubtrees, List.findSome?_cons, hcall,
    List.append_nil, List.singleton_append, List.findSome?_nil]
  cases offence? columns (field handle) <;> rfl

theorem isField_eq_false_iff {p : Predicate} :
    p.isField = false ↔ ∀ handle, p ≠ field handle := by
  cases p with
  | field handle => simp [isField]
  | _ => simp [isField]

/-- A call without an offence is one of a known method on a field, with one argument. -/
theorem offence?_call_eq_none {target : Option Predicate} {method : String}
    {arguments : List Predicate} (h : offence? columns (call target method arguments) = none) :
    ∃ handle op argument, target = some (field handle) ∧ Operator.ofMethod? method = some op ∧
      arguments = [argument] := by
  cases target with
  | none => cases h
  | some target =>
      rw [offence?] at h
      cases hop : Operator.ofMethod? method with
      | none => simp [hop] at h
      | some op =>
          by_cases hfield : target.isField = true
          · have hlength : arguments.length = 1 := by simpa [hop, hfield] using h
            rcases List.length_eq_one_iff.mp hlength with ⟨argument, rfl⟩
            cases target with
            | field handle => exact ⟨handle, op, argument, rfl, rfl, rfl⟩
            | _ => cases hfield
          · simp [hop, hfield] at h

theorem reports_column (handle : Handle) (columns : Resolver) :
    Reports ((field handle).firstOffence? columns) (handle.column columns) := by
  rw [Handle.column]
  cases hcolumn : columns handle.field with
  | none => simp [firstOffence?, subtrees, offence?, hcolumn, Reports]
  | some name => simp [firstOffence?, subtrees, offence?, hcolumn, Reports]

theorem reports_isTrue (handle : Handle) (columns : Resolver) :
    Reports ((field handle).firstOffence? columns) (handle.isTrue columns) :=
  (reports_column handle columns).pure_bind

/-- A call that has an offence of its own fails with it, if its level is allowed. -/
theorem operand_call_of_offence {target : Option Predicate} {method : String}
    {arguments : List Predicate} {cause : PredicateError}
    (h : offence? columns (call target method arguments) = some cause) (limit : Option Nat) :
    (call target method arguments).operand columns limit condition level =
      checkLevel limit level >>= fun _ => .error cause := by
  cases target with
  | none =>
      obtain rfl : PredicateError.noTarget method = cause := Option.some.inj h
      unfold operand
      rfl
  | some target =>
      rw [offence?] at h
      cases hop : Operator.ofMethod? method with
      | none =>
          obtain rfl : PredicateError.unknownMethod method = cause := by simpa [hop] using h
          rw [operand_call_of_unknown hop]
      | some op =>
          by_cases hfield : ∃ handle, target = field handle
          · rcases hfield with ⟨handle, rfl⟩
            -- only the number of arguments is left to be wrong
            have hlength : arguments.length ≠ 1 := by
              intro hone
              simp [hop, isField, hone] at h
            obtain rfl : PredicateError.argumentCount method arguments.length = cause := by
              simpa [hop, isField, hlength] using h
            rw [operand_call_of_length hlength, hop]
          · have hne : ∀ handle, target ≠ field handle := by
              intro handle heq
              exact hfield ⟨handle, heq⟩
            have hnot : target.isField = false := isField_eq_false_iff.mpr hne
            obtain rfl : PredicateError.targetNotField method = cause := by
              simpa [hop, hnot] using h
            rw [operand_call_of_not_field hne, hop]

/-- Without a limit an operand fails with its first offence. -/
theorem reports_operand (p : Predicate) :
    Reports (p.firstOffence? columns) (p.operand columns none condition level) := by
  induction p using Predicate.induction generalizing condition level with
  | field handle =>
      rw [operand]
      split
      · exact reports_isTrue handle columns
      · exact reports_column handle columns
  | constant value => exact ⟨.literal value, rfl⟩
  | binary op left right ihl ihr =>
      rw [firstOffence?_binary, operand]
      exact ihl.bind fun l _ => ihr.pure_bind
  | unary op inner logical ih =>
      rw [firstOffence?_unary, operand]
      exact ih.pure_bind
  | call target method arguments iht iha =>
      cases hoffence : offence? columns (call target method arguments) with
      | some cause =>
          rw [firstOffence?_call hoffence]
          exact operand_call_of_offence hoffence none
      | none =>
          rcases offence?_call_eq_none hoffence with ⟨handle, op, argument, rfl, hop, rfl⟩
          have hargument : Reports (argument.firstOffence? columns)
              (argument.operand columns none false (level + 1)) :=
            iha argument List.mem_cons_self
          rw [firstOffence?_method hop, operand_method hop]
          exact (reports_column handle columns).bind fun l _ => hargument.pure_bind

/-- Without a limit a predicate that may stand at the root fails with its first offence. -/
theorem reports_compile {p : Predicate} (hroot : p.isRoot = true) :
    Reports (p.firstOffence? columns) (p.compile columns none) := by
  cases p with
  | field handle =>
      have htype : handle.type = .boolean := beq_iff_eq.mp hroot
      rw [compile, if_pos htype]
      exact reports_isTrue handle columns
  | constant value => cases hroot
  | binary op left right => exact @reports_operand columns false 1 _
  | unary op operand logical => exact @reports_operand columns false 1 _
  | call target method arguments => exact @reports_operand columns false 1 _

/-- Any other root fails as it is. -/
theorem compile_eq_notAPredicate {p : Predicate} (hroot : p.isRoot = false) :
    p.compile columns none = .error .notAPredicate := by
  cases p with
  | field handle =>
      have htype : handle.type ≠ .boolean := beq_eq_false_iff_ne.mp hroot
      rw [compile, if_neg htype]
  | constant value => rfl
  | binary op left right => cases hroot
  | unary op operand logical => cases hroot
  | call target method arguments => cases hroot

/-! ## Operators without a token -/

theorem isSome_token? (op : Operator) (logical : Bool) :
    (op.token? logical).isSome = op.isSupported := by
  cases op <;> cases logical <;> rfl

/-- The first operator of a tree is that of the tree itself. -/
theorem find?_operator (op : Operator) (logical : Bool) (rest : List Operator) :
    (op :: rest).find? (fun op => !op.isSupported) =
      match op.token? logical with
      | none => some op
      | some _ => rest.find? fun op => !op.isSupported := by
  have hsupported := isSome_token? op logical
  rw [List.find?_cons, ← hsupported]
  cases op.token? logical <;> rfl

/-- The operators of a compiled expression are those of its predicate, in order. -/
theorem unsupported?_eq_firstUnsupported? {p : Predicate} {e : Expression}
    (h : Compiles columns condition p e) : e.unsupported? = p.firstUnsupported? := by
  induction h with
  | isTrue htype hcolumn => rfl
  | column hplain hcolumn => rfl
  | constant => rfl
  | @binary _ op left right _ _ hl hr ihl ihr =>
      have hoperators : (binary op left right).subtrees.filterMap rootOperator? =
          op :: (left.subtrees.filterMap rootOperator? ++
            right.subtrees.filterMap rootOperator?) := by
        simp [subtrees, rootOperator?]
      rw [firstUnsupported?, hoperators, find?_operator op false, List.find?_append,
        Expression.unsupported?, ihl, ihr]
      rfl
  | @unary _ logical op inner _ hr ih =>
      have hoperators : (unary op inner logical).subtrees.filterMap rootOperator? =
          op :: inner.subtrees.filterMap rootOperator? := by
        simp [subtrees, rootOperator?]
      have habsent : Expression.absent.unsupported? = none := rfl
      rw [firstUnsupported?, hoperators, find?_operator op logical, Expression.unsupported?,
        habsent, ih]
      rfl
  | @call _ handle _ method op argument _ hop hcolumn hr ih =>
      have hoperators : (call (some (field handle)) method [argument]).subtrees.filterMap
          rootOperator? = op :: argument.subtrees.filterMap rootOperator? := by
        simp [subtrees, targetSubtrees, argumentSubtrees, List.filterMap_cons, rootOperator?, hop]
      have hcolumn : ∀ name, (Expression.column name).unsupported? = none := fun _ => rfl
      rw [firstUnsupported?, hoperators, find?_operator op false, Expression.unsupported?, hcolumn,
        ih]
      rfl

/-- A whole condition is refused for its first operator without a token. -/
theorem reports_toSql (e : Expression) :
    Reports (e.unsupported?.map PredicateError.unsupportedOperator) e.toSql := by
  rw [Expression.toSql_eq]
  cases e.unsupported? with
  | none => exact ⟨_, rfl⟩
  | some op => exact rfl

/-- A predicate has a condition, or fails with its error. -/
theorem reports_condition (columns : Resolver) (p : Predicate) :
    Reports (p.error? columns) (p.compile columns none >>= Expression.toSql) := by
  rw [error?]
  cases hroot : p.isRoot with
  | false =>
      rw [compile_eq_notAPredicate hroot]
      exact rfl
  | true =>
      rw [if_pos rfl]
      apply (reports_compile hroot).bind
      intro e hcompile
      -- what compiles has the operators of the predicate
      have hcompiles := (compiles_of_compile hcompile).1
      rw [← unsupported?_eq_firstUnsupported? hcompiles]
      exact reports_toSql e

/-! ## Acceptance -/

theorem ofMethod?_eq_some_iff {method : String} :
    (∃ op, Operator.ofMethod? method = some op) ↔
      method ∈ ["starts_with", "ends_with", "contains", "compare_to"] := by
  simp only [List.mem_cons, List.not_mem_nil, or_false]
  constructor
  · rintro ⟨op, hop⟩
    by_contra hother
    simp only [not_or] at hother
    rcases hother with ⟨hstarts, hends, hcontains, hcompare⟩
    simp [Operator.ofMethod?, hstarts, hends, hcontains, hcompare] at hop
  · rintro (rfl | rfl | rfl | rfl) <;> simp [Operator.ofMethod?]

/-- A tree has no offence when it is right as it is. -/
theorem offence?_eq_none_iff {q : Predicate} :
    offence? columns q = none ↔
      (∀ target method arguments, q = call target method arguments →
        (∃ handle, target = some (field handle)) ∧
          method ∈ ["starts_with", "ends_with", "contains", "compare_to"] ∧
          arguments.length = 1) ∧
      ∀ handle, q = field handle → ∃ name, columns handle.field = some name := by
  constructor
  · intro h
    constructor
    · rintro target method arguments rfl
      rcases offence?_call_eq_none h with ⟨handle, op, argument, rfl, hop, rfl⟩
      exact ⟨⟨handle, rfl⟩, ofMethod?_eq_some_iff.mp ⟨op, hop⟩, rfl⟩
    · rintro handle rfl
      cases hcolumn : columns handle.field with
      | none => simp [offence?, hcolumn] at h
      | some name => exact ⟨name, rfl⟩
  · rintro ⟨hcall, hfield⟩
    cases q with
    | call target method arguments =>
        rcases hcall target method arguments rfl with ⟨⟨handle, rfl⟩, hmethod, hlength⟩
        rcases ofMethod?_eq_some_iff.mpr hmethod with ⟨op, hop⟩
        simp [offence?, hop, isField, hlength]
    | field handle =>
        rcases hfield handle rfl with ⟨name, hname⟩
        simp [offence?, hname]
    | binary op left right => rfl
    | unary op operand logical => rfl
    | constant value => rfl

/-- A predicate is accepted when it has no error. -/
theorem isAccepted_iff {p : Predicate} : p.IsAccepted columns ↔ p.error? columns = none := by
  have hoffence : p.firstOffence? columns = none ↔
      ∀ q ∈ p.subtrees, offence? columns q = none := by
    rw [firstOffence?, List.findSome?_eq_none_iff]
  have hunsupported : p.firstUnsupported? = none ↔
      ∀ q ∈ p.subtrees, ∀ op, q.rootOperator? = some op → op.isSupported = true := by
    rw [firstUnsupported?, List.find?_eq_none]
    simp only [List.mem_filterMap, Bool.not_eq_true', Bool.not_eq_false]
    constructor
    · intro h q hq op hop
      exact h op ⟨q, hq, hop⟩
    · rintro h op ⟨q, hq, hop⟩
      exact h q hq op hop
  rw [error?]
  constructor
  · rintro ⟨hroot, hcalls, hmapped, hsupported⟩
    have hfirst : p.firstOffence? columns = none := by
      refine hoffence.mpr fun q hq => offence?_eq_none_iff.mpr ⟨?_, ?_⟩
      · rintro target method arguments rfl
        exact hcalls target method arguments hq
      · rintro handle rfl
        exact hmapped handle hq
    have hnone : p.firstUnsupported? = none := by
      refine hunsupported.mpr fun q hq op hop => ?_
      rcases hsupported q hq op hop false with ⟨token, htoken⟩
      rw [Operator.isSupported, htoken]
      rfl
    rw [if_pos hroot, hfirst, hnone]
    rfl
  · intro h
    have hroot : p.isRoot = true := by
      by_contra hno
      rw [if_neg hno] at h
      cases h
    rw [if_pos hroot, Option.or_eq_none_iff, Option.map_eq_none_iff] at h
    rcases h with ⟨hfirst, hnone⟩
    have hall := hoffence.mp hfirst
    refine ⟨hroot, ?_, ?_, ?_⟩
    · intro target method arguments hmem
      exact (offence?_eq_none_iff.mp (hall _ hmem)).1 target method arguments rfl
    · intro handle hmem
      exact (offence?_eq_none_iff.mp (hall _ hmem)).2 handle rfl
    · intro q hq op hop logical
      have hsupported : op.isSupported = true := hunsupported.mp hnone q hq op hop
      rw [← isSome_token? op logical] at hsupported
      exact Option.isSome_iff_exists.mp hsupported

end Predicate

/-- Without a limit a predicate has a condition exactly when it is accepted. Otherwise the result is
one error and nothing else: of the root, or else the first offence of a tree, or else the first
operator without a token. -/
theorem acceptance_and_first_error (columns : Resolver) (p : Predicate) :
    ((∃ sql, (p.compile columns none >>= Expression.toSql) = .ok sql) ↔ p.IsAccepted columns) ∧
      ∀ cause, (p.compile columns none >>= Expression.toSql) = .error cause ↔
        p.error? columns = some cause := by
  have hreports := Predicate.reports_condition columns p
  constructor
  · rw [Predicate.isAccepted_iff]
    exact hreports.exists_ok_iff
  · intro cause
    exact hreports.eq_error_iff cause

/-- The comparison of texts has no token, but a field without a column behind it is found first. -/
example :
    let name := Predicate.field ⟨"name", .text⟩
    let age := Predicate.field ⟨"age", .integer⟩
    ((name.compareTo (.constant (.text "a"))).and age).error? (.ofPairs [("name", "fname")]) =
      some (.unmappedField "age") := by
  rfl

end EntitySql
