import EntitySql.Proofs.Acceptance

/-! # What lies below the limit

The root of a predicate is at level one and each part of a node one level below it. Under a limit
the nodes one level below the limit are refused unseen, so two predicates that agree down to the
limit, and below it in which places hold a leaf and which a node, have the same result. Getting to
it takes the same work, whatever lies further down.

Main statement: `compile_eq_of_agreesTo`.
-/

namespace EntitySql

namespace Predicate

/-- The tree is an operator node. -/
def isNode : Predicate → Bool
  | field _ => false
  | constant _ => false
  | _ => true

/-- The trees are the same on their first levels, `depth` of them; on the level below each place
holds the same leaf in both or a node in both. -/
def AgreesTo : (depth : Nat) → Predicate → Predicate → Prop
  | 0, p, q => p = q ∨ p.isNode = true ∧ q.isNode = true
  | depth + 1, binary op left right, binary op' left' right' =>
    op = op' ∧ AgreesTo depth left left' ∧ AgreesTo depth right right'
  | depth + 1, unary op operand logical, unary op' operand' logical' =>
    op = op' ∧ logical = logical' ∧ AgreesTo depth operand operand'
  | depth + 1, call target method arguments, call target' method' arguments' =>
    method = method' ∧ Option.Rel (AgreesTo depth) target target' ∧
      List.Forall₂ (AgreesTo depth) arguments arguments'
  | _ + 1, field handle, field handle' => handle = handle'
  | _ + 1, constant value, constant value' => value = value'
  | _ + 1, _, _ => False

/-- The number of trees that are looked at until the result of an operand is known, where a call is
looked at together with its target. What stands behind a part that fails is not looked at, and
neither are the parts of a node that is too deep. -/
def looks (columns : Resolver) (limit : Option Nat) : (level : Nat) → Predicate → Nat
  | level, binary op left right =>
    if (checkLevel limit level).isOk then
      1 + left.looks columns limit (level + 1) +
        if (left.operand columns limit op.isLogical (level + 1)).isOk then
          right.looks columns limit (level + 1)
        else 0
    else 1
  | level, unary _ operand _ =>
    if (checkLevel limit level).isOk then 1 + operand.looks columns limit (level + 1) else 1
  | level, call target method arguments =>
    if (checkLevel limit level).isOk then
      match Operator.ofMethod? method, target, arguments with
      | some _, some (field handle), [argument] =>
        1 + if (handle.column columns).isOk then argument.looks columns limit (level + 1) else 0
      | _, _, _ => 1
    else 1
  | _, _ => 1

/-! ## Trees that agree -/

variable {depth : Nat} {p q : Predicate}

/-- Trees that agree are the same leaf or two nodes. -/
theorem AgreesTo.eq_or_nodes (h : AgreesTo depth p q) :
    p = q ∨ p.isNode = true ∧ q.isNode = true := by
  cases depth with
  | zero => exact h
  | succ depth =>
      cases p <;> cases q <;> simp_all [AgreesTo, isNode]

theorem isField_of_isNode (h : p.isNode = true) : p.isField = false := by
  cases p with
  | field handle => cases h
  | _ => rfl

theorem AgreesTo.isField_eq (h : AgreesTo depth p q) : p.isField = q.isField := by
  rcases h.eq_or_nodes with rfl | ⟨hp, hq⟩
  · rfl
  · rw [isField_of_isNode hp, isField_of_isNode hq]

/-- Calls that agree have the same offence of their own, or they call one method on one field, each
with one argument, and the arguments agree. -/
theorem AgreesTo.call_cases (columns : Resolver) {method : String}
    {target target' : Option Predicate} {arguments arguments' : List Predicate}
    (ht : Option.Rel (AgreesTo depth) target target')
    (ha : List.Forall₂ (AgreesTo depth) arguments arguments') :
    (∃ cause, offence? columns (call target method arguments) = some cause ∧
      offence? columns (call target' method arguments') = some cause) ∨
    ∃ op handle argument argument', Operator.ofMethod? method = some op ∧
      target = some (field handle) ∧ target' = some (field handle) ∧
      arguments = [argument] ∧ arguments' = [argument'] ∧ AgreesTo depth argument argument' := by
  have hsame : offence? columns (call target method arguments) =
      offence? columns (call target' method arguments') := by
    cases ht with
    | none => rfl
    | some h => rw [offence?, offence?, h.isField_eq, ha.length_eq]
  cases hoffence : offence? columns (call target method arguments) with
  | some cause => exact Or.inl ⟨cause, rfl, hsame.symm.trans hoffence⟩
  | none =>
      right
      rcases offence?_call_eq_none hoffence with ⟨handle, op, argument, rfl, hop, rfl⟩
      rcases offence?_call_eq_none (hsame.symm.trans hoffence) with
        ⟨handle', -, argument', rfl, -, rfl⟩
      -- a field agrees with itself only
      have hfield : field handle = field handle' := by
        cases ht with
        | some h => exact h.eq_or_nodes.resolve_right fun hnodes => Bool.noConfusion hnodes.1
      obtain rfl : handle = handle' := Predicate.field.inj hfield
      cases ha with
      | cons hargument hnil =>
          exact ⟨op, handle, argument, argument', hop, rfl, rfl, rfl, rfl, hargument⟩

/-! ## Results -/

variable {columns : Resolver} {condition : Bool} {level : Nat} {limit : Option Nat}

/-- A node fails at a level that is not allowed. -/
theorem operand_of_refused {cause : PredicateError} (hnode : p.isNode = true)
    (hlevel : checkLevel limit level = .error cause) :
    p.operand columns limit condition level = .error cause := by
  cases p with
  | field handle => cases hnode
  | constant value => cases hnode
  | binary op left right =>
      rw [operand, hlevel]
      rfl
  | unary op operand logical =>
      rw [Predicate.operand, hlevel]
      rfl
  | call target method arguments =>
      unfold operand
      rw [hlevel]
      rfl

theorem looks_of_refused {cause : PredicateError} (hnode : p.isNode = true)
    (hlevel : checkLevel limit level = .error cause) : p.looks columns limit level = 1 := by
  have hrefused : ¬ (checkLevel limit level).isOk = true := by
    rw [hlevel]
    exact Bool.false_ne_true
  cases p with
  | field handle => cases hnode
  | constant value => cases hnode
  | binary op left right => rw [looks, if_neg hrefused]
  | unary op operand logical => rw [looks, if_neg hrefused]
  | call target method arguments =>
      unfold looks
      exact if_neg hrefused

theorem checkLevel_succ (depth : Nat) :
    checkLevel (some depth) (depth + 1) = .error (.tooDeep depth) := if_pos (Nat.lt_succ_self depth)

/-- Operands that agree down to the limit compile to the same. -/
theorem operand_eq_of_agreesTo {limit levels : Nat} (h : AgreesTo levels p q)
    (hlevel : level + levels = limit + 1) :
    p.operand columns (some limit) condition level =
      q.operand columns (some limit) condition level := by
  induction levels generalizing p q condition level with
  | zero =>
      rcases h with rfl | ⟨hp, hq⟩
      · rfl
      · obtain rfl : level = limit + 1 := hlevel
        rw [operand_of_refused hp (checkLevel_succ limit),
          operand_of_refused hq (checkLevel_succ limit)]
  | succ levels ih =>
      have hbelow : level + 1 + levels = limit + 1 := by omega
      cases p with
      | binary op left right =>
          cases q with
          | binary op' left' right' =>
              rcases h with ⟨rfl, hl, hr⟩
              rw [operand, operand, ih hl hbelow, ih hr hbelow]
          | _ => exact h.elim
      | unary op inner logical =>
          cases q with
          | unary op' inner' logical' =>
              rcases h with ⟨rfl, rfl, hinner⟩
              rw [operand, operand, ih hinner hbelow]
          | _ => exact h.elim
      | call target method arguments =>
          cases q with
          | call target' method' arguments' =>
              rcases h with ⟨rfl, ht, ha⟩
              rcases AgreesTo.call_cases columns ht ha with ⟨cause, hoffence, hoffence'⟩ |
                ⟨op, handle, argument, argument', hop, rfl, rfl, rfl, rfl, hargument⟩
              · rw [operand_call_of_offence hoffence, operand_call_of_offence hoffence']
              · rw [operand_method hop, operand_method hop, ih hargument hbelow]
          | _ => exact h.elim
      | field handle =>
          cases q with
          | field handle' =>
              obtain rfl : handle = handle' := h
              rfl
          | _ => exact h.elim
      | constant value =>
          cases q with
          | constant value' =>
              obtain rfl : value = value' := h
              rfl
          | _ => exact h.elim

/-- A call that has an offence of its own is not looked into. -/
theorem looks_call_of_offence {target : Option Predicate} {method : String}
    {arguments : List Predicate} {cause : PredicateError}
    (h : offence? columns (call target method arguments) = some cause) :
    (call target method arguments).looks columns limit level = 1 := by
  unfold looks
  split
  · split
    · next handle argument hop => simp [offence?, hop, isField] at h
    · rfl
  · rfl

/-- Behind the column of its target a method call is looked into. -/
theorem looks_method {handle : Handle} {method : String} {argument : Predicate} {op : Operator}
    (hop : Operator.ofMethod? method = some op) :
    (call (some (field handle)) method [argument]).looks columns limit level =
      if (checkLevel limit level).isOk then
        1 + if (handle.column columns).isOk then argument.looks columns limit (level + 1) else 0
      else 1 := by
  rw [looks.eq_def]
  simp only [hop]

/-- Until the results of operands that agree down to the limit are known, as many trees are looked
at. -/
theorem looks_eq_of_agreesTo {limit levels : Nat} (h : AgreesTo levels p q)
    (hlevel : level + levels = limit + 1) :
    p.looks columns (some limit) level = q.looks columns (some limit) level := by
  induction levels generalizing p q level with
  | zero =>
      rcases h with rfl | ⟨hp, hq⟩
      · rfl
      · obtain rfl : level = limit + 1 := hlevel
        rw [looks_of_refused hp (checkLevel_succ limit),
          looks_of_refused hq (checkLevel_succ limit)]
  | succ levels ih =>
      have hbelow : level + 1 + levels = limit + 1 := by omega
      cases p with
      | binary op left right =>
          cases q with
          | binary op' left' right' =>
              rcases h with ⟨rfl, hl, hr⟩
              rw [looks, looks, ih hl hbelow, ih hr hbelow, operand_eq_of_agreesTo hl hbelow]
          | _ => exact h.elim
      | unary op inner logical =>
          cases q with
          | unary op' inner' logical' =>
              rcases h with ⟨rfl, rfl, hinner⟩
              rw [looks, looks, ih hinner hbelow]
          | _ => exact h.elim
      | call target method arguments =>
          cases q with
          | call target' method' arguments' =>
              rcases h with ⟨rfl, ht, ha⟩
              rcases AgreesTo.call_cases columns ht ha with ⟨cause, hoffence, hoffence'⟩ |
                ⟨op, handle, argument, argument', hop, rfl, rfl, rfl, rfl, hargument⟩
              · rw [looks_call_of_offence hoffence, looks_call_of_offence hoffence']
              · rw [looks_method hop, looks_method hop, ih hargument hbelow]
          | _ => exact h.elim
      | field handle =>
          cases q with
          | field handle' => rfl
          | _ => exact h.elim
      | constant value =>
          cases q with
          | constant value' => rfl
          | _ => exact h.elim

/-- The number of trees that are looked at until a predicate is compiled. -/
def compileLooks (columns : Resolver) (limit : Option Nat) : Predicate → Nat
  | field _ => 1
  | constant _ => 1
  | p => p.looks columns limit 1

theorem compile_of_isNode (h : p.isNode = true) :
    p.compile columns limit = p.operand columns limit false 1 ∧
      p.compileLooks columns limit = p.looks columns limit 1 := by
  cases p with
  | field handle => cases h
  | constant value => cases h
  | _ => exact ⟨rfl, rfl⟩

end Predicate

/-- Predicates that agree down to the limit have the same result, an expression or an error, and as
many trees are looked at until it is known. -/
theorem compile_eq_of_agreesTo (columns : Resolver) {limit : Nat} {p q : Predicate}
    (h : p.AgreesTo limit q) :
    p.compile columns (some limit) = q.compile columns (some limit) ∧
      p.compileLooks columns (some limit) = q.compileLooks columns (some limit) := by
  have hroot : 1 + limit = limit + 1 := Nat.add_comm 1 limit
  rcases h.eq_or_nodes with rfl | ⟨hp, hq⟩
  · exact ⟨rfl, rfl⟩
  · rcases Predicate.compile_of_isNode hp with ⟨hresult, hlooks⟩
    rcases Predicate.compile_of_isNode hq with ⟨hresult', hlooks'⟩
    rw [hresult, hresult', hlooks, hlooks']
    exact ⟨Predicate.operand_eq_of_agreesTo h hroot, Predicate.looks_eq_of_agreesTo h hroot⟩

/-- The first predicate has a condition and the second one calls a method on nothing, but a limit of
one sees neither: the comparison and its left side are looked at, and the right side is refused. -/
theorem compile_eq_of_agreesTo_text :
    let columns := Resolver.ofPairs [("text", "Text")]
    let p := Predicate.eq (.field ⟨"text", .text⟩) (.neg (.constant (.int 1)))
    let q := Predicate.eq (.field ⟨"text", .text⟩) (.call none "lower" [.constant .null])
    p.AgreesTo 1 q ∧ (∃ e, p.compile columns none = .ok e) ∧
      q.compile columns none = .error (.noTarget "lower") ∧
      p.compile columns (some 1) = q.compile columns (some 1) ∧
      q.compile columns (some 1) = .error (.tooDeep 1) ∧
      p.compileLooks columns (some 1) = q.compileLooks columns (some 1) ∧
      q.compileLooks columns (some 1) = 3 := by
  intro columns p q
  have hagree : p.AgreesTo 1 q := ⟨rfl, Or.inl rfl, Or.inr ⟨rfl, rfl⟩⟩
  rcases compile_eq_of_agreesTo columns hagree with ⟨hresult, hlooks⟩
  exact ⟨hagree, exists_eq_ok rfl, rfl, hresult, rfl, hlooks, rfl⟩

end EntitySql
