import EntitySql.Proofs.Acceptance

/-! # The limit on nesting

The nesting of a predicate is the number of nodes on its longest way down, where a boolean field
beside AND or OR or behind a logical NOT counts as the comparison that stands for it. A limit
refuses exactly the predicates of a greater nesting, and it does nothing else: below the limit
compilation is the same as without one, and an error of any other kind is the same under every
greater limit.

Main statement: `limit_exact`.
-/

namespace EntitySql

namespace Predicate

mutual

/-- The nodes on the longest way down from an operand. With `condition` set it stands in a logical
position. -/
def nestingAt : (condition : Bool) → Predicate → Nat
  | condition, field handle => if condition && handle.type == .boolean then 1 else 0
  | _, constant _ => 0
  | _, binary op left right => max (left.nestingAt op.isLogical) (right.nestingAt op.isLogical) + 1
  | _, unary op operand logical => operand.nestingAt (logical && op == .not) + 1
  | _, call target _ arguments => max (targetNesting target) (argumentNesting arguments) + 1

/-- The nodes on the longest way down from the target of a call. -/
def targetNesting : Option Predicate → Nat
  | none => 0
  | some target => target.nestingAt false

/-- The nodes on the longest way down from the arguments of a call. -/
def argumentNesting : List Predicate → Nat
  | [] => 0
  | argument :: rest => max (argument.nestingAt false) (argumentNesting rest)

end

/-- The nodes on the longest way down from the root. A boolean field that is the whole predicate is
no node. -/
def nesting (p : Predicate) : Nat := p.nestingAt false

end Predicate

/-! ## Results under a limit -/

/-- The result under a limit: the limit has been exceeded, or it made no difference. -/
def IsLimited {α : Type} (depth : Nat) (limited free : Except PredicateError α) : Prop :=
  limited = .error (.tooDeep depth) ∨ limited = free

namespace IsLimited

variable {α β : Type} {depth : Nat} {x y : Except PredicateError α}

theorem refl (depth : Nat) (x : Except PredicateError α) : IsLimited depth x x := Or.inr rfl

/-- What exceeds the limit in one of two steps exceeds it in both together. -/
theorem bind {f g : α → Except PredicateError β} (hx : IsLimited depth x y)
    (hf : ∀ a, IsLimited depth (f a) (g a)) : IsLimited depth (x >>= f) (y >>= g) := by
  rcases hx with rfl | rfl
  · exact Or.inl rfl
  · cases x with
    | error cause => exact Or.inr rfl
    | ok a => exact hf a

/-- A result other than that the limit has been exceeded is the result without it. -/
theorem eq_of_ne (h : IsLimited depth x y) (hne : x ≠ .error (.tooDeep depth)) : y = x := by
  rcases h with hx | hx
  · exact absurd hx hne
  · exact hx.symm

end IsLimited

/-- The second limit, if there is one, is no smaller. -/
def Allows (depth : Nat) (limit : Option Nat) : Prop := ∀ other, limit = some other → depth ≤ other

theorem checkLevel_eq_ok {depth level : Nat} :
    checkLevel (some depth) level = .ok () ↔ level ≤ depth := by
  unfold checkLevel
  by_cases hlt : depth < level
  · simp [hlt]
  · simp [Nat.le_of_not_lt hlt]

theorem isLimited_checkLevel {depth : Nat} {limit : Option Nat} (h : Allows depth limit)
    (level : Nat) : IsLimited depth (checkLevel (some depth) level) (checkLevel limit level) := by
  by_cases hlevel : level ≤ depth
  · -- a level that the smaller limit allows is allowed by the greater one
    have hfree : checkLevel limit level = .ok () := by
      cases limit with
      | none => rfl
      | some other => exact checkLevel_eq_ok.mpr (Nat.le_trans hlevel (h other rfl))
    rw [hfree]
    exact Or.inr (checkLevel_eq_ok.mpr hlevel)
  · left
    unfold checkLevel
    exact if_pos (Nat.lt_of_not_le hlevel)

namespace Predicate

variable {columns : Resolver} {condition : Bool} {depth level : Nat} {limit : Option Nat}

/-- Under a smaller limit an operand is too deep, or it compiles to the same. -/
theorem isLimited_operand (h : Allows depth limit) (p : Predicate) :
    IsLimited depth (p.operand columns (some depth) condition level)
      (p.operand columns limit condition level) := by
  induction p using Predicate.induction generalizing condition level with
  | field handle =>
      rw [operand, operand]
      split
      · exact (isLimited_checkLevel h level).bind fun _ => IsLimited.refl depth _
      · exact IsLimited.refl depth _
  | constant value =>
      rw [operand, operand]
      exact IsLimited.refl depth _
  | binary op left right ihl ihr =>
      rw [operand, operand]
      exact (isLimited_checkLevel h level).bind fun _ =>
        ihl.bind fun l => ihr.bind fun r => IsLimited.refl depth _
  | unary op inner logical ih =>
      rw [operand, operand]
      exact (isLimited_checkLevel h level).bind fun _ => ih.bind fun r => IsLimited.refl depth _
  | call target method arguments iht iha =>
      cases hoffence : offence? columns (call target method arguments) with
      | some cause =>
          rw [operand_call_of_offence hoffence, operand_call_of_offence hoffence]
          exact (isLimited_checkLevel h level).bind fun _ => IsLimited.refl depth _
      | none =>
          rcases offence?_call_eq_none hoffence with ⟨handle, op, argument, rfl, hop, rfl⟩
          have hargument := @iha argument List.mem_cons_self false (level + 1)
          rw [operand_method hop, operand_method hop]
          exact (isLimited_checkLevel h level).bind fun _ =>
            (IsLimited.refl depth _).bind fun l => hargument.bind fun r => IsLimited.refl depth _

theorem isLimited_compile (h : Allows depth limit) (p : Predicate) :
    IsLimited depth (p.compile columns (some depth)) (p.compile columns limit) := by
  cases p with
  | field handle => exact IsLimited.refl depth _
  | constant value => exact IsLimited.refl depth _
  | binary op left right => exact isLimited_operand h _
  | unary op inner logical => exact isLimited_operand h _
  | call target method arguments => exact isLimited_operand h _

/-! ## Nesting within the limit -/

theorem nestingAt_method (handle : Handle) (method : String) (argument : Predicate)
    (condition : Bool) :
    (call (some (field handle)) method [argument]).nestingAt condition =
      argument.nestingAt false + 1 := by
  simp [nestingAt, targetNesting, argumentNesting]

/-- What compiles under a limit is nested no deeper than the levels that are left. -/
theorem nestingAt_le_of_operand {p : Predicate} {e : Expression}
    (h : p.operand columns (some depth) condition level = .ok e) :
    p.nestingAt condition ≤ depth + 1 - level := by
  induction p using Predicate.induction generalizing condition level e with
  | field handle =>
      rw [operand] at h
      rw [nestingAt]
      split at h
      · next hboolean =>
          rcases bind_eq_ok.mp h with ⟨_, hlevel, -⟩
          have hle := checkLevel_eq_ok.mp hlevel
          rw [if_pos hboolean]
          omega
      · next hplain =>
          rw [if_neg hplain]
          exact Nat.zero_le _
  | constant value =>
      rw [nestingAt]
      exact Nat.zero_le _
  | binary op left right ihl ihr =>
      rw [operand] at h
      rcases bind_eq_ok.mp h with ⟨_, hlevel, h⟩
      rcases bind_eq_ok.mp h with ⟨l, hl, h⟩
      rcases bind_eq_ok.mp h with ⟨r, hr, -⟩
      have hle := checkLevel_eq_ok.mp hlevel
      have hleft := ihl hl
      have hright := ihr hr
      rw [nestingAt]
      omega
  | unary op inner logical ih =>
      rw [operand] at h
      rcases bind_eq_ok.mp h with ⟨_, hlevel, h⟩
      rcases bind_eq_ok.mp h with ⟨r, hr, -⟩
      have hle := checkLevel_eq_ok.mp hlevel
      have hinner := ih hr
      rw [nestingAt]
      omega
  | call target method arguments iht iha =>
      obtain ⟨handle, op, argument, name, r, rfl, rfl, hop, -, hr, -⟩ := operand_call_eq_ok h
      rw [operand_method hop] at h
      rcases bind_eq_ok.mp h with ⟨_, hlevel, -⟩
      have hle := checkLevel_eq_ok.mp hlevel
      have hargument := iha argument List.mem_cons_self hr
      rw [nestingAt_method]
      omega

/-- What is nested no deeper than the levels that are left compiles as it does without a limit. -/
theorem operand_of_nestingAt_le {p : Predicate} {e : Expression}
    (h : Compiles columns condition p e) (hle : p.nestingAt condition ≤ depth + 1 - level) :
    p.operand columns (some depth) condition level = .ok e := by
  -- a node takes a level, so there is one left
  have hcheck : ∀ {level n : Nat}, n + 1 ≤ depth + 1 - level →
      checkLevel (some depth) level = .ok () ∧ n ≤ depth + 1 - (level + 1) := by
    intro level n hn
    exact ⟨checkLevel_eq_ok.mpr (by omega), by omega⟩
  induction h generalizing level with
  | @isTrue handle name htype hcolumn =>
      have hone : 0 + 1 ≤ depth + 1 - level := by simpa [nestingAt, htype] using hle
      rw [operand, (hcheck hone).1]
      simp [htype, Handle.isTrue, Handle.column, hcolumn, bind, Except.bind, pure, Except.pure]
  | column hplain hcolumn => simp [operand, hplain, Handle.column, hcolumn]
  | constant => rw [operand]
  | binary hl hr ihl ihr =>
      rw [nestingAt] at hle
      rcases hcheck hle with ⟨hlevel, hsides⟩
      rw [operand, hlevel, ihl (Nat.le_trans (Nat.le_max_left _ _) hsides),
        ihr (Nat.le_trans (Nat.le_max_right _ _) hsides)]
      rfl
  | unary hr ih =>
      rw [nestingAt] at hle
      rcases hcheck hle with ⟨hlevel, hinner⟩
      rw [operand, hlevel, ih hinner]
      rfl
  | call hop hcolumn hr ih =>
      rw [nestingAt_method] at hle
      rcases hcheck hle with ⟨hlevel, hargument⟩
      rw [operand_method hop, hlevel, ih hargument, Handle.column, hcolumn]
      rfl

theorem operand_limit_eq_ok_iff {p : Predicate} {e : Expression} :
    p.operand columns (some depth) condition level = .ok e ↔
      p.operand columns none condition level = .ok e ∧
        p.nestingAt condition ≤ depth + 1 - level := by
  constructor
  · intro h
    exact ⟨operand_of_compiles (compiles_of_operand h) level, nestingAt_le_of_operand h⟩
  · rintro ⟨h, hle⟩
    exact operand_of_nestingAt_le (compiles_of_operand h) hle

theorem compile_limit_eq_ok_iff {p : Predicate} {e : Expression} :
    p.compile columns (some depth) = .ok e ↔
      p.compile columns none = .ok e ∧ p.nesting ≤ depth := by
  cases p with
  -- at the root a field is looked up at no level
  | field handle => simp [compile, nesting, nestingAt]
  | constant value => simp [compile]
  | binary op left right => exact operand_limit_eq_ok_iff
  | unary op inner logical => exact operand_limit_eq_ok_iff
  | call target method arguments => exact operand_limit_eq_ok_iff

end Predicate

/-- A limit lets exactly the predicates through that compile without one and are nested no deeper,
with the same expression. It adds no error but its own, and any other error and any expression are
the same under every greater limit. -/
theorem limit_exact (columns : Resolver) (p : Predicate) (depth : Nat) :
    (∀ e, p.compile columns (some depth) = .ok e ↔
      p.compile columns none = .ok e ∧ p.nesting ≤ depth) ∧
    (∀ cause, p.compile columns none = .error cause →
      p.compile columns (some depth) = .error cause ∨
        p.compile columns (some depth) = .error (.tooDeep depth)) ∧
    (∀ cause, p.compile columns (some depth) = .error cause → (∀ limit, cause ≠ .tooDeep limit) →
      p.compile columns none = .error cause ∧
        ∀ greater, depth ≤ greater → p.compile columns (some greater) = .error cause) ∧
    (∀ e greater, depth ≤ greater → p.compile columns (some depth) = .ok e →
      p.compile columns (some greater) = .ok e) := by
  have hfree : IsLimited depth (p.compile columns (some depth)) (p.compile columns none) :=
    Predicate.isLimited_compile (by rintro other ⟨⟩) p
  have hgreater : ∀ greater, depth ≤ greater →
      IsLimited depth (p.compile columns (some depth)) (p.compile columns (some greater)) := by
    intro greater hle
    refine Predicate.isLimited_compile ?_ p
    rintro other ⟨⟩
    exact hle
  refine ⟨fun e => Predicate.compile_limit_eq_ok_iff, ?_, ?_, ?_⟩
  · intro cause hcause
    rw [← hcause]
    exact hfree.symm
  · intro cause hcause hother
    have hne : p.compile columns (some depth) ≠ .error (.tooDeep depth) := by
      rw [hcause]
      intro heq
      exact hother depth (Except.error.inj heq)
    constructor
    · rw [hfree.eq_of_ne hne, hcause]
    · intro greater hle
      rw [(hgreater greater hle).eq_of_ne hne, hcause]
  · intro e greater hle hok
    have hne : p.compile columns (some depth) ≠ .error (.tooDeep depth) := by
      rw [hok]
      rintro ⟨⟩
    rw [(hgreater greater hle).eq_of_ne hne, hok]

/-- The notes that are not read and have a text: the field behind the negation is at level three. -/
def Predicate.unread (text : Value) : Predicate :=
  (Predicate.not (.field ⟨"read", .boolean⟩)).and (.eq (.field ⟨"text", .text⟩) (.constant text))

/-- Levels are counted through the comparison that stands for a field. A field without a column is
found before a deeper node on its right. -/
theorem limit_exact_unread :
    let columns := Resolver.ofPairs [("read", "Read"), ("text", "Text")]
    let stray := Predicate.eq (.field ⟨"author", .text⟩) (.neg (.constant (.int 1)))
    (∃ e, (Predicate.unread (.text "x")).compile columns (some 3) = .ok e ∧
      ∀ greater, 3 ≤ greater →
        (Predicate.unread (.text "x")).compile columns (some greater) = .ok e) ∧
    (Predicate.unread (.text "x")).compile columns (some 2) = .error (.tooDeep 2) ∧
    (stray.compile columns (some 0) = .error (.unmappedField "author") ∨
      stray.compile columns (some 0) = .error (.tooDeep 0)) ∧
    ∀ greater, 1 ≤ greater →
      stray.compile columns (some greater) = .error (.unmappedField "author") := by
  intro columns stray
  rcases limit_exact columns (.unread (.text "x")) 3 with ⟨hok, -, -, hgreater⟩
  rcases limit_exact columns stray 0 with ⟨-, herror, -, -⟩
  rcases limit_exact columns stray 1 with ⟨-, -, hother, -⟩
  obtain ⟨e, he⟩ : ∃ e, (Predicate.unread (.text "x")).compile columns none = .ok e :=
    exists_eq_ok rfl
  have hthree : (Predicate.unread (.text "x")).compile columns (some 3) = .ok e :=
    (hok e).mpr ⟨he, by decide⟩
  refine ⟨⟨e, hthree, fun greater hle => hgreater e greater hle hthree⟩, rfl, herror _ rfl, ?_⟩
  exact (hother (.unmappedField "author") rfl (by rintro limit ⟨⟩)).2

end EntitySql
