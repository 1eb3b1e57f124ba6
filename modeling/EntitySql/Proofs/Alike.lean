import EntitySql.Proofs.Checked
import EntitySql.Proofs.Constants

/-! # Predicates that differ in bound constants

Two predicates are alike when they differ in nothing but the values of constants that are bound.
Compiling them fails alike or gives expressions that are alike (`compile_alike`), and these have the
same template up to the values in its slots (`alike_rootTemplate`).
-/

namespace EntitySql

/-- The constants may be exchanged: both are bound, or they are the same. With `matched` set they
stand as the right side of a string match, where every constant is bound. -/
def SameConstant (matched : Bool) (v w : Value) : Prop :=
  matched = true ∨ v = w ∨ (v.isNumeric = false ∧ w.isNumeric = false)

theorem SameConstant.refl (matched : Bool) (v : Value) : SameConstant matched v v :=
  Or.inr (Or.inl rfl)

namespace Predicate

mutual

/-- The predicates are the same but for the values of constants that are bound. With `matched` set
they stand as the right side of a string match. -/
def Alike (matched : Bool) : Predicate → Predicate → Prop
  | binary op left right, binary op' left' right' =>
    op = op' ∧ left.Alike false left' ∧ right.Alike op.isStringMatch right'
  | unary op operand logical, unary op' operand' logical' =>
    op = op' ∧ logical = logical' ∧ operand.Alike op.isStringMatch operand'
  | call target method arguments, call target' method' arguments' =>
    method = method' ∧ AlikeTargets target target' ∧
      AlikeArguments (Operator.isMatchMethod method) arguments arguments'
  | field handle, field handle' => handle = handle'
  | constant value, constant value' => SameConstant matched value value'
  | _, _ => False

/-- The targets of two calls are alike. -/
def AlikeTargets : Option Predicate → Option Predicate → Prop
  | none, none => True
  | some target, some target' => target.Alike false target'
  | _, _ => False

/-- The arguments of two calls are alike one by one. -/
def AlikeArguments (matched : Bool) : List Predicate → List Predicate → Prop
  | [], [] => True
  | argument :: rest, argument' :: rest' =>
    argument.Alike matched argument' ∧ AlikeArguments matched rest rest'
  | _, _ => False

end

/-- Both filters are absent, or they are alike. -/
def AlikeFilters : Option Predicate → Option Predicate → Prop
  | none, none => True
  | some p, some q => p.Alike false q
  | _, _ => False

end Predicate

/-- The expressions are the same but for the values of literals that are bound. -/
inductive Expression.Alike : (matched : Bool) → Expression → Expression → Prop where
  | absent {matched : Bool} : Alike matched .absent .absent
  | column {matched : Bool} {name : String} : Alike matched (.column name) (.column name)
  | literal {matched : Bool} {v w : Value} (h : SameConstant matched v w) :
      Alike matched (.literal v) (.literal w)
  | node {matched logical : Bool} {op : Operator} {left left' right right' : Expression}
      (hl : Alike false left left') (hr : Alike op.isStringMatch right right') :
      Alike matched (.node left op right logical) (.node left' op right' logical)

theorem Expression.Alike.refl (matched : Bool) (e : Expression) : e.Alike matched e := by
  induction e generalizing matched with
  | absent => exact Alike.absent
  | column name => exact Alike.column
  | literal value => exact Alike.literal (SameConstant.refl matched value)
  | node left op right logical ihl ihr => exact Alike.node (ihl false) (ihr op.isStringMatch)

/-! ## Compilation -/

namespace Predicate

variable {columns : Resolver} {limit : Option Nat}

theorem length_eq_of_alike {matched : Bool} {arguments arguments' : List Predicate}
    (h : AlikeArguments matched arguments arguments') : arguments.length = arguments'.length := by
  induction arguments generalizing arguments' with
  | nil =>
      cases arguments' with
      | nil => rfl
      | cons b rest => exact h.elim
  | cons a rest ih =>
      cases arguments' with
      | nil => exact h.elim
      | cons b rest' => rw [List.length_cons, List.length_cons, ih h.2]

/-- Alike targets are the same field, or neither of them is a field. -/
theorem alike_target_cases {t t' : Predicate} (h : t.Alike false t') :
    (∃ handle, t = .field handle ∧ t' = .field handle) ∨
      (∀ handle, t ≠ .field handle) ∧ ∀ handle, t' ≠ .field handle := by
  -- targets of different constructors are not alike, and only a field names a column
  cases t <;> cases t' <;> first
    | exact h.elim
    | exact Or.inl ⟨_, rfl, congrArg field (Eq.symm h)⟩
    | exact Or.inr ⟨fun _ heq => (nomatch heq), fun _ heq => (nomatch heq)⟩

/-- The calls of alike predicates fail for the same reason, or compile their only arguments. -/
theorem operand_call_alike {target target' : Option Predicate} {method : String}
    {arguments arguments' : List Predicate} {matched condition : Bool} {level : Nat}
    (htarget : AlikeTargets target target')
    (harguments : AlikeArguments (Operator.isMatchMethod method) arguments arguments')
    (ih : ∀ a ∈ arguments, ∀ b, a.Alike (Operator.isMatchMethod method) b →
      SameOutcome (Expression.Alike (Operator.isMatchMethod method))
        (a.operand columns limit false (level + 1)) (b.operand columns limit false (level + 1))) :
    SameOutcome (Expression.Alike matched)
      ((call target method arguments).operand columns limit condition level)
      ((call target' method arguments').operand columns limit condition level) := by
  cases target with
  | none =>
      cases target' with
      | none => unfold operand; exact SameOutcome.refl (Expression.Alike.refl matched) _
      | some t' => exact htarget.elim
  | some t =>
      cases target' with
      | none => exact htarget.elim
      | some t' =>
          rcases alike_target_cases htarget with ⟨handle, rfl, rfl⟩ | ⟨ht, ht'⟩
          · have hlength := length_eq_of_alike harguments
            -- with one argument both calls compile it; any other number is the same error
            by_cases hone : arguments.length = 1
            · rcases List.length_eq_one_iff.mp hone with ⟨a, rfl⟩
              rcases List.length_eq_one_iff.mp (hlength ▸ hone) with ⟨b, rfl⟩
              unfold operand
              refine SameOutcome.bind (SameOutcome.refl (fun _ => Eq.refl _) _) fun _ _ _ _ _ => ?_
              cases hop : Operator.ofMethod? method with
              | none => exact rfl
              | some op =>
                  have hmatch : Operator.isMatchMethod method = op.isStringMatch := by
                    rw [Operator.isMatchMethod, hop]
                    rfl
                  refine SameOutcome.bind (SameOutcome.refl (Expression.Alike.refl false) _)
                    fun l l' _ _ hl => ?_
                  refine SameOutcome.bind (ih a List.mem_cons_self b harguments.1)
                    fun r r' _ _ hr => ?_
                  rw [hmatch] at hr
                  exact Expression.Alike.node hl hr
            · rw [operand_call_of_length hone, operand_call_of_length (hlength ▸ hone), hlength]
              exact SameOutcome.refl (Expression.Alike.refl matched) _
          · rw [operand_call_of_not_field ht, operand_call_of_not_field ht']
            exact SameOutcome.refl (Expression.Alike.refl matched) _

/-- Alike predicates compile to alike expressions, or fail for the same reason. -/
theorem operand_alike {p q : Predicate} {matched condition : Bool} {level : Nat}
    (h : p.Alike matched q) :
    SameOutcome (Expression.Alike matched) (p.operand columns limit condition level)
      (q.operand columns limit condition level) := by
  induction p using Predicate.induction generalizing q matched condition level with
  | field handle =>
      cases q with
      | field handle' =>
          obtain rfl : handle = handle' := h
          exact SameOutcome.refl (Expression.Alike.refl matched) _
      | _ => exact h.elim
  | constant value =>
      cases q with
      | constant value' =>
          rw [operand, operand]
          exact Expression.Alike.literal h
      | _ => exact h.elim
  | binary op left right ihl ihr =>
      cases q with
      | binary op' left' right' =>
          rcases h with ⟨rfl, hl, hr⟩
          rw [operand, operand]
          refine SameOutcome.bind (SameOutcome.refl (fun _ => Eq.refl _) _) fun _ _ _ _ _ => ?_
          refine SameOutcome.bind (ihl hl) fun l l' _ _ hl => ?_
          exact SameOutcome.bind (ihr hr) fun r r' _ _ hr => Expression.Alike.node hl hr
      | _ => exact h.elim
  | unary op inner logical ih =>
      cases q with
      | unary op' inner' logical' =>
          rcases h with ⟨rfl, rfl, hr⟩
          rw [operand, operand]
          refine SameOutcome.bind (SameOutcome.refl (fun _ => Eq.refl _) _) fun _ _ _ _ _ => ?_
          exact SameOutcome.bind (ih hr) fun r r' _ _ hr =>
            Expression.Alike.node Expression.Alike.absent hr
      | _ => exact h.elim
  | call target method arguments iht iha =>
      cases q with
      | call target' method' arguments' =>
          rcases h with ⟨rfl, ht, ha⟩
          exact operand_call_alike ht ha fun a hmem b hab => iha a hmem hab
      | _ => exact h.elim

/-- Alike predicates compile to alike conditions, or fail for the same reason. -/
theorem compile_alike {p q : Predicate} (h : p.Alike false q) :
    SameOutcome (Expression.Alike false) (p.compile columns limit) (q.compile columns limit) := by
  cases p with
  | field handle =>
      cases q with
      | field handle' =>
          obtain rfl : handle = handle' := h
          exact SameOutcome.refl (Expression.Alike.refl false) _
      | _ => exact h.elim
  | constant value =>
      cases q with
      | constant value' => exact rfl
      | _ => exact h.elim
  | binary op left right =>
      cases q with
      | binary op' left' right' => exact operand_alike h
      | _ => exact h.elim
  | unary op inner logical =>
      cases q with
      | unary op' inner' logical' => exact operand_alike h
      | _ => exact h.elim
  | call target method arguments =>
      cases q with
      | call target' method' arguments' => exact operand_alike h
      | _ => exact h.elim

end Predicate

/-! ## Templates -/

/-- The pieces are the same but for the value of a slot. -/
def Piece.Alike : Piece → Piece → Prop
  | .token t, .token u => t = u
  | .slot _, .slot _ => True
  | _, _ => False

/-- The templates are the same but for the values of their slots. -/
abbrev Template.Alike (t u : Template) : Prop := List.Forall₂ Piece.Alike t u

namespace Template.Alike

variable {s s' t t' : Template}

theorem refl (t : Template) : Template.Alike t t := by
  induction t with
  | nil => exact List.Forall₂.nil
  | cons piece t ih =>
      refine List.Forall₂.cons ?_ ih
      cases piece with
      | token token => exact rfl
      | slot value => exact trivial

theorem append (hs : Template.Alike s s') (ht : Template.Alike t t') :
    Template.Alike (s ++ t) (s' ++ t') := by
  induction hs with
  | nil => exact ht
  | cons hpiece hrest ih => exact List.Forall₂.cons hpiece ih

theorem slot (v w : Value) : Template.Alike [.slot v] [.slot w] :=
  List.Forall₂.cons trivial List.Forall₂.nil

/-- Alike templates have the same tokens, because the name of a placeholder is only its number. -/
theorem tokens_eq (h : Template.Alike t t') (n : Nat) : t.tokens n = t'.tokens n := by
  induction h generalizing n with
  | nil => rfl
  | @cons piece piece' t t' hpiece hrest ih =>
      cases piece with
      | token token =>
          cases piece' with
          | token token' =>
              obtain rfl : token = token' := hpiece
              rw [tokens_token, tokens_token, ih]
          | slot value => exact hpiece.elim
      | slot value =>
          cases piece' with
          | token token' => exact hpiece.elim
          | slot value' => rw [tokens_slot, tokens_slot, ih]

theorem text_eq (h : Template.Alike t t') (n : Nat) : t.text n = t'.text n := by
  rw [text, text, h.tokens_eq]

end Template.Alike

namespace Expression

theorem alike_value {v w : Value} (h : SameConstant false v w) :
    Template.Alike v.template w.template := by
  rcases h with hmatched | rfl | ⟨hv, hw⟩
  · cases hmatched
  · exact Template.Alike.refl _
  · rw [Value.template, Value.template, Value.literal?_eq_none_iff.mpr hv,
      Value.literal?_eq_none_iff.mpr hw]
    exact Template.Alike.slot v w

theorem alike_sides (op : Operator) (logical : Bool) {t t' u u' : Template}
    (ht : Template.Alike t t') (hu : Template.Alike u u') :
    Template.Alike (Template.sides op logical t u) (Template.sides op logical t' u') :=
  ht.append ((Template.Alike.refl _).append (hu.append (Template.Alike.refl _)))

theorem alike_parenthesize {t t' : Template} (h : Template.Alike t t') :
    Template.Alike t.parenthesize t'.parenthesize :=
  List.Forall₂.cons rfl (h.append (Template.Alike.refl _))

/-- Alike right sides have alike templates: beside wildcards a literal is a slot whatever its value,
and elsewhere only literals without a numeral are exchanged. -/
theorem alike_right {op : Operator} {e e' : Expression} (h : e.Alike op.isStringMatch e') :
    Template.Alike (rightTemplate op e e.template) (rightTemplate op e' e'.template) := by
  induction e generalizing op e' with
  | absent => cases h; exact Template.Alike.refl _
  | column name => cases h; exact Template.Alike.refl _
  | literal v =>
      cases h with
      | literal h =>
          cases hw : op.wildcards? with
          -- no wildcards: the literals are the same, or neither of them has a numeral
          | none =>
              rw [Operator.wildcards?_eq_none.mp hw] at h
              simp only [rightTemplate, hw]
              exact alike_value h
          -- beside wildcards every literal is a slot
          | some w =>
              simp only [rightTemplate, hw]
              exact Template.Alike.slot _ _
  | node left op' right logical ihl ihr =>
      cases h with
      | node hl hr =>
          rw [rightTemplate_of_ne (by simp),
            rightTemplate_of_ne (by simp)]
          exact alike_parenthesize (alike_sides op' logical (@ihl .equal _ hl) (ihr hr))

/-- Alike expressions have alike templates. -/
theorem alike_template {e e' : Expression} (h : e.Alike false e') :
    Template.Alike e.template e'.template :=
  @alike_right .equal e e' h

theorem alike_rootTemplate {e e' : Expression} (h : e.Alike false e') :
    Template.Alike e.rootTemplate e'.rootTemplate := by
  cases h with
  | absent => exact Template.Alike.refl _
  | column => exact Template.Alike.refl _
  | literal h => exact alike_value h
  | @node _ logical op _ _ _ _ hl hr =>
      have hsides := alike_sides op logical (alike_template hl) (alike_right hr)
      rw [rootTemplate, rootTemplate]
      split
      · exact hsides
      · exact alike_parenthesize hsides

/-- Alike expressions hold the same operators. -/
theorem unsupported?_eq_of_alike {matched : Bool} {e e' : Expression} (h : e.Alike matched e') :
    e.unsupported? = e'.unsupported? := by
  induction h with
  | absent => rfl
  | column => rfl
  | literal h => rfl
  | node hl hr ihl ihr => rw [unsupported?, unsupported?, ihl, ihr]

end Expression

end EntitySql
