import Mathlib.Data.List.Forall2

/-! # Checks

A check that succeeds has passed each of its steps. A list is checked element by element and the
first element that fails decides the error; a check that succeeds relates the elements to their
results one by one.
-/

namespace EntitySql

variable {ε α β : Type}

/-- A sequence of two steps succeeds exactly when both of them do. -/
theorem bind_eq_ok {x : Except ε α} {f : α → Except ε β} {b : β} :
    x >>= f = .ok b ↔ ∃ a, x = .ok a ∧ f a = .ok b := by
  constructor
  · intro h
    cases x with
    | error cause => cases h
    | ok a => exact ⟨a, rfl, h⟩
  · rintro ⟨a, rfl, h⟩
    exact h

/-- What stands behind a guard is reached exactly when the guard lets it. -/
theorem guard_eq_ok {p : Prop} [Decidable p] {cause : ε} {next : PUnit → Except ε β} {b : β} :
    (if p then throw cause >>= next else next ⟨⟩) = .ok b ↔ ¬ p ∧ next ⟨⟩ = .ok b := by
  by_cases h : p
  · rw [if_pos h]
    constructor
    · intro hthrow
      cases hthrow
    · intro hnot
      exact absurd h hnot.1
  · rw [if_neg h]
    exact ⟨fun hnext => ⟨h, hnext⟩, fun hnext => hnext.2⟩

/-- A changed result is that of a step that succeeds. -/
theorem map_eq_ok {x : Except ε α} {f : α → β} {b : β} :
    x.map f = .ok b ↔ ∃ a, x = .ok a ∧ f a = b := by
  constructor
  · intro h
    cases x with
    | error cause => cases h
    | ok a => exact ⟨a, rfl, Except.ok.inj h⟩
  · rintro ⟨a, rfl, rfl⟩
    rfl

/-- A sequence of two steps fails in the first one, or in the second one behind the first. -/
theorem bind_eq_error {x : Except ε α} {f : α → Except ε β} {cause : ε} :
    x >>= f = .error cause ↔ x = .error cause ∨ ∃ a, x = .ok a ∧ f a = .error cause := by
  cases x with
  | error reason =>
      constructor
      · intro h
        rw [Except.error.inj h]
        exact Or.inl rfl
      · rintro (h | ⟨a, h, -⟩)
        · rw [Except.error.inj h]
          rfl
        · cases h
  | ok a =>
      constructor
      · intro h
        exact Or.inr ⟨a, rfl, h⟩
      · rintro (h | ⟨a', h, hf⟩)
        · cases h
        · rw [Except.ok.inj h]
          exact hf

/-- A changed result fails with the step that it is the result of. -/
theorem map_eq_error {x : Except ε α} {f : α → β} {cause : ε} :
    x.map f = .error cause ↔ x = .error cause := by
  cases x with
  | error reason => simp [Except.map]
  | ok a => simp [Except.map]

/-- Changing the error changes nothing else. -/
theorem mapError_eq_ok {ε' : Type} {x : Except ε α} {f : ε → ε'} {a : α} :
    x.mapError f = .ok a ↔ x = .ok a := by
  constructor
  · intro h
    cases x with
    | error cause => cases h
    | ok a' => exact congrArg Except.ok (Except.ok.inj h)
  · rintro rfl
    rfl

/-- A step that is seen to succeed has a result. -/
theorem exists_eq_ok {x : Except ε α} (h : x.isOk = true) : ∃ a, x = .ok a := by
  cases x with
  | error cause => cases h
  | ok a => exact ⟨a, rfl⟩

/-- Checking a list checks its first element before the others. -/
theorem mapM_cons_except (f : α → Except ε β) (a : α) (as : List α) :
    (a :: as).mapM f =
      match f a with
      | .error cause => .error cause
      | .ok b => (as.mapM f).map (b :: ·) := by
  rw [List.mapM_cons]
  cases f a with
  | error cause => rfl
  | ok b => cases as.mapM f <;> rfl

/-- Checks that agree on the elements of a list agree on the list. -/
theorem mapM_congr_except {f g : α → Except ε β} {as : List α} (h : ∀ a ∈ as, f a = g a) :
    as.mapM f = as.mapM g := by
  induction as with
  | nil => rfl
  | cons a as ih =>
      have hrest := ih fun b hb => h b (List.mem_cons_of_mem a hb)
      rw [mapM_cons_except, mapM_cons_except, h a List.mem_cons_self, hrest]

/-- The results of a successful check, one for each element. -/
theorem forall₂_of_mapM {f : α → Except ε β} {as : List α} {bs : List β}
    (h : as.mapM f = .ok bs) : List.Forall₂ (fun a b => f a = .ok b) as bs := by
  induction as generalizing bs with
  | nil =>
      obtain rfl : [] = bs := Except.ok.inj h
      exact List.Forall₂.nil
  | cons a as ih =>
      rw [mapM_cons_except] at h
      cases hfa : f a with
      | error cause => simp [hfa] at h
      | ok b =>
          cases hrest : as.mapM f with
          | error cause => simp [hfa, hrest, Except.map] at h
          | ok rest =>
              simp only [hfa, hrest, Except.map, Except.ok.injEq] at h
              rw [← h]
              exact List.Forall₂.cons hfa (ih hrest)

/-- A check of which every step succeeds is successful. -/
theorem mapM_of_forall₂ {f : α → Except ε β} {as : List α} {bs : List β}
    (h : List.Forall₂ (fun a b => f a = .ok b) as bs) : as.mapM f = .ok bs := by
  induction h with
  | nil => rfl
  | @cons a b as bs hfa hrest ih =>
      rw [mapM_cons_except, hfa, ih]
      rfl

/-- The error of a check is that of the first element that fails. -/
theorem mapM_eq_error_iff {f : α → Except ε β} {as : List α} {cause : ε} :
    as.mapM f = .error cause ↔
      ∃ before a after, as = before ++ a :: after ∧ (∀ b ∈ before, ∃ c, f b = .ok c) ∧
        f a = .error cause := by
  constructor
  · intro h
    induction as with
    | nil => cases h
    | cons a as ih =>
        rw [mapM_cons_except] at h
        cases hfa : f a with
        | error cause' =>
            simp only [hfa, Except.error.injEq] at h
            exact ⟨[], a, as, rfl, by simp, h ▸ hfa⟩
        | ok c =>
            cases hrest : as.mapM f with
            | ok cs => simp [hfa, hrest, Except.map] at h
            | error cause' =>
                simp only [hfa, hrest, Except.map, Except.error.injEq] at h
                rcases ih (h ▸ hrest) with ⟨before, b, after, rfl, hbefore, hb⟩
                refine ⟨a :: before, b, after, rfl, ?_, hb⟩
                intro x hx
                rcases List.mem_cons.mp hx with rfl | hx
                · exact ⟨c, hfa⟩
                · exact hbefore x hx
  · rintro ⟨before, a, after, rfl, hbefore, ha⟩
    induction before with
    | nil => rw [List.nil_append, mapM_cons_except, ha]
    | cons b before ih =>
        rcases hbefore b List.mem_cons_self with ⟨c, hc⟩
        rw [List.cons_append, mapM_cons_except, hc,
          ih fun x hx => hbefore x (List.mem_cons_of_mem b hx)]
        rfl

/-- What a check keeps of each element, a successful check keeps of the list. -/
theorem map_eq_of_mapM {γ : Type} {f : α → Except ε β} {as : List α} {bs : List β} {g : α → γ}
    {k : β → γ} (h : as.mapM f = .ok bs) (hkeep : ∀ a b, f a = .ok b → k b = g a) :
    bs.map k = as.map g := by
  have hforall := forall₂_of_mapM h
  -- the induction is on the related lists; the check itself would have to change with them
  clear h
  induction hforall with
  | nil => rfl
  | @cons a b as bs hfa hrest ih => rw [List.map_cons, List.map_cons, hkeep a b hfa, ih]

/-- Every result of a successful check is that of some element. -/
theorem exists_of_mem_mapM {f : α → Except ε β} {as : List α} {bs : List β}
    (h : as.mapM f = .ok bs) {b : β} (hb : b ∈ bs) : ∃ a ∈ as, f a = .ok b := by
  have hforall := forall₂_of_mapM h
  clear h
  induction hforall with
  | nil => cases hb
  | @cons a b' as bs hfa hrest ih =>
      rcases List.mem_cons.mp hb with rfl | hb
      · exact ⟨a, List.mem_cons_self, hfa⟩
      · rcases ih hb with ⟨a', ha', hfa'⟩
        exact ⟨a', List.mem_cons_of_mem a ha', hfa'⟩

/-- A successful check has succeeded for every element. -/
theorem exists_ok_of_mapM {f : α → Except ε β} {as : List α} {bs : List β}
    (h : as.mapM f = .ok bs) {a : α} (ha : a ∈ as) : ∃ b, f a = .ok b := by
  have hforall := forall₂_of_mapM h
  clear h
  induction hforall with
  | nil => cases ha
  | @cons a' b as bs hfa hrest ih =>
      rcases List.mem_cons.mp ha with rfl | ha
      · exact ⟨b, hfa⟩
      · exact ih ha

/-! ## First faults -/

/-- The first element with a property: none in front of it has the property. -/
def FirstWith (p : α → Prop) (as : List α) (a : α) : Prop :=
  ∃ before after, as = before ++ a :: after ∧ p a ∧ ∀ b ∈ before, ¬ p b

/-- The fault of the first element that is at fault. -/
def FirstFault (fault : α → ε → Prop) (as : List α) (cause : ε) : Prop :=
  ∃ a, FirstWith (fun b => ∃ reason, fault b reason) as a ∧ fault a cause

/-- A search finds the first element with the property. -/
theorem firstWith_iff_find? {p : α → Prop} [DecidablePred p] {as : List α} {a : α} :
    FirstWith p as a ↔ as.find? (fun b => decide (p b)) = some a := by
  rw [List.find?_eq_some_iff_append]
  constructor
  · rintro ⟨before, after, hsplit, ha, hbefore⟩
    exact ⟨decide_eq_true ha, before, after, hsplit, fun b hb => by simpa using hbefore b hb⟩
  · rintro ⟨ha, before, after, hsplit, hbefore⟩
    exact ⟨before, after, hsplit, of_decide_eq_true ha, fun b hb => by simpa using hbefore b hb⟩

/-- A step succeeds exactly where nothing is at fault. -/
theorem exists_ok_iff_no_fault {x : Except ε β} {fault : ε → Prop}
    (hfault : ∀ cause, x = .error cause ↔ fault cause) :
    (∃ b, x = .ok b) ↔ ∀ cause, ¬ fault cause := by
  cases x with
  | ok b => simp [← hfault]
  | error cause =>
      have hat : fault cause := (hfault cause).mp rfl
      constructor
      · rintro ⟨b, hb⟩
        cases hb
      · intro hnone
        exact absurd hat (hnone cause)

section Faults

variable {f : α → Except ε β} {fault : α → ε → Prop} {as : List α}

/-- A check succeeds exactly where no element is at fault. -/
theorem exists_mapM_ok_iff (hfault : ∀ a ∈ as, ∀ cause, f a = .error cause ↔ fault a cause) :
    (∃ bs, as.mapM f = .ok bs) ↔ ∀ a ∈ as, ∀ cause, ¬ fault a cause := by
  constructor
  · rintro ⟨bs, hbs⟩ a ha
    exact (exists_ok_iff_no_fault (hfault a ha)).mp (exists_ok_of_mapM hbs ha)
  · intro hnone
    cases hresult : as.mapM f with
    | ok bs => exact ⟨bs, rfl⟩
    | error cause =>
        rcases mapM_eq_error_iff.mp hresult with ⟨before, a, after, rfl, -, ha⟩
        have hmem : a ∈ before ++ a :: after := List.mem_append_right before List.mem_cons_self
        exact absurd ((hfault a hmem cause).mp ha) (hnone a hmem cause)

/-- The error of a check is the fault of the first element at fault. -/
theorem mapM_eq_error_iff_firstFault
    (hfault : ∀ a ∈ as, ∀ cause, f a = .error cause ↔ fault a cause) {cause : ε} :
    as.mapM f = .error cause ↔ FirstFault fault as cause := by
  rw [mapM_eq_error_iff]
  constructor
  · rintro ⟨before, a, after, rfl, hbefore, ha⟩
    have hat : fault a cause :=
      (hfault a (List.mem_append_right before List.mem_cons_self) cause).mp ha
    refine ⟨a, ⟨before, after, rfl, ⟨cause, hat⟩, ?_⟩, hat⟩
    rintro b hb ⟨reason, hreason⟩
    have hmem : b ∈ before ++ a :: after := List.mem_append_left (a :: after) hb
    exact (exists_ok_iff_no_fault (hfault b hmem)).mp (hbefore b hb) reason hreason
  · rintro ⟨a, ⟨before, after, rfl, -, hbefore⟩, ha⟩
    refine ⟨before, a, after, rfl, ?_,
      (hfault a (List.mem_append_right before List.mem_cons_self) cause).mpr ha⟩
    intro b hb
    have hmem : b ∈ before ++ a :: after := List.mem_append_left (a :: after) hb
    exact (exists_ok_iff_no_fault (hfault b hmem)).mpr
      fun reason hreason => hbefore b hb ⟨reason, hreason⟩

end Faults

/-! ## Settings made one after the other -/

/-- What each step adds to a state, steps one after the other add together. -/
theorem foldlM_eq_of_step {σ : Type} {step : σ → α → Except ε σ} {F : σ → List α → σ}
    (hnil : ∀ s, F s [] = s) (hcons : ∀ s a as, F (F s [a]) as = F s (a :: as))
    (hstep : ∀ s a t, step s a = .ok t → t = F s [a]) {as : List α} {s t : σ}
    (h : as.foldlM step s = .ok t) : t = F s as := by
  induction as generalizing s with
  | nil => rw [hnil, ← Except.ok.inj h]
  | cons a as ih =>
      rw [List.foldlM_cons] at h
      rcases bind_eq_ok.mp h with ⟨u, hu, hrest⟩
      rw [ih hrest, hstep s a u hu, hcons]

/-- What a step demands of its item, steps one after the other demand of every item. -/
theorem forall_of_foldlM {σ : Type} {step : σ → α → Except ε σ} {P : α → Prop}
    (hstep : ∀ s a t, step s a = .ok t → P a) {as : List α} {s t : σ}
    (h : as.foldlM step s = .ok t) : ∀ a ∈ as, P a := by
  induction as generalizing s with
  | nil => simp
  | cons a as ih =>
      rw [List.foldlM_cons] at h
      rcases bind_eq_ok.mp h with ⟨u, hu, hrest⟩
      exact List.forall_mem_cons.mpr ⟨hstep s a u hu, ih hrest⟩

/-! ## Reported failures -/

/-- The result is the failure, or without one it succeeds. -/
def Reports (failure : Option ε) (result : Except ε α) : Prop :=
  match failure with
  | some cause => result = .error cause
  | none => ∃ a, result = .ok a

namespace Reports

variable {failure failure' : Option ε} {x : Except ε α}

/-- Of two steps the second one is taken only if the first one succeeds. -/
theorem bind {f : α → Except ε β} (hx : Reports failure x)
    (hf : ∀ a, x = .ok a → Reports failure' (f a)) : Reports (failure.or failure') (x >>= f) := by
  cases failure with
  | some cause =>
      have herror : x = .error cause := hx
      rw [herror]
      exact rfl
  | none =>
      rcases hx with ⟨a, hok⟩
      have hnext := hf a hok
      rw [hok]
      exact hnext

/-- A step that changes the result of a success only. -/
theorem pure_bind {f : α → β} (hx : Reports failure x) :
    Reports failure (x >>= fun a => pure (f a)) := by
  have hbind := @bind _ _ _ failure none x (fun a => pure (f a)) hx fun a _ => ⟨f a, rfl⟩
  rwa [Option.or_none] at hbind

/-- A list is checked up to its first element that fails. -/
theorem mapM {f : α → Except ε β} {failure : α → Option ε} {as : List α}
    (h : ∀ a ∈ as, Reports (failure a) (f a)) : Reports (as.findSome? failure) (as.mapM f) := by
  induction as with
  | nil => exact ⟨[], rfl⟩
  | cons a as ih =>
      have hfirst := h a List.mem_cons_self
      have hrest := ih fun b hb => h b (List.mem_cons_of_mem a hb)
      rw [List.findSome?_cons, mapM_cons_except]
      cases hfailure : failure a with
      | some cause =>
          rw [hfailure] at hfirst
          have herror : f a = .error cause := hfirst
          rw [herror]
          exact rfl
      | none =>
          rw [hfailure] at hfirst
          rcases hfirst with ⟨b, hok⟩
          have hbehind := hrest.pure_bind (f := (b :: ·))
          rw [hok]
          exact hbehind

theorem exists_ok_iff (h : Reports failure x) : (∃ a, x = .ok a) ↔ failure = none := by
  cases failure with
  | none => exact ⟨fun _ => rfl, fun _ => h⟩
  | some cause =>
      have herror : x = .error cause := h
      simp [herror]

theorem eq_error_iff (h : Reports failure x) (cause : ε) :
    x = .error cause ↔ failure = some cause := by
  cases failure with
  | none =>
      rcases h with ⟨a, hok⟩
      simp [hok]
  | some cause' =>
      have herror : x = .error cause' := h
      simp [herror]

end Reports

/-! ## Steps over a state -/

/-- The run of two steps over a state: the second one starts from the state that the first one
leaves, and is not taken when the first one fails. -/
theorem run_bind_state {σ : Type} (x : ExceptT ε (StateM σ) α) (f : α → ExceptT ε (StateM σ) β)
    (s : σ) :
    (x >>= f).run s =
      match x.run s with
      | (.ok a, s') => (f a).run s'
      | (.error cause, s') => (.error cause, s') := by
  have hbind : (x >>= f).run s = (x.run >>= ExceptT.bindCont f) s := rfl
  cases h : x.run s with
  | mk result s' =>
      have hstep : (x.run >>= ExceptT.bindCont f) s = ExceptT.bindCont f result s' :=
        congrArg (fun step : Except ε α × σ => ExceptT.bindCont f step.1 step.2) h
      rw [hbind, hstep]
      cases result with
      | ok a => rfl
      | error cause => rfl

/-! ## Two runs -/

/-- Two runs fail with the same error, or both succeed with related results. -/
def SameOutcome {α' : Type} (R : α → α' → Prop) : Except ε α → Except ε α' → Prop
  | .ok a, .ok a' => R a a'
  | .error cause, .error cause' => cause = cause'
  | _, _ => False

namespace SameOutcome

variable {α' β' : Type} {R : α → α' → Prop} {S : β → β' → Prop} {x : Except ε α} {y : Except ε α'}

/-- The second steps of two runs take related results. -/
theorem bind {f : α → Except ε β} {g : α' → Except ε β'} (h : SameOutcome R x y)
    (hstep : ∀ a a', x = .ok a → y = .ok a' → R a a' → SameOutcome S (f a) (g a')) :
    SameOutcome S (x >>= f) (y >>= g) := by
  cases x with
  | error cause =>
      cases y with
      | error cause' => exact h
      | ok a' => exact h.elim
  | ok a =>
      cases y with
      | error cause' => exact h.elim
      | ok a' => exact hstep a a' rfl rfl h

theorem map {f : α → β} {g : α' → β'} (h : SameOutcome R x y)
    (hstep : ∀ a a', x = .ok a → y = .ok a' → R a a' → S (f a) (g a')) :
    SameOutcome S (x.map f) (y.map g) := by
  cases x with
  | error cause =>
      cases y with
      | error cause' => exact h
      | ok a' => exact h.elim
  | ok a =>
      cases y with
      | error cause' => exact h.elim
      | ok a' => exact hstep a a' rfl rfl h

theorem mapError {ε' : Type} (f : ε → ε') (h : SameOutcome R x y) :
    SameOutcome R (x.mapError f) (y.mapError f) := by
  cases x with
  | error cause =>
      cases y with
      | error cause' => exact congrArg f h
      | ok a' => exact h.elim
  | ok a =>
      cases y with
      | error cause' => exact h.elim
      | ok a' => exact h

/-- A run agrees with itself. -/
theorem refl {R : α → α → Prop} (hR : ∀ a, R a a) (x : Except ε α) : SameOutcome R x x := by
  cases x with
  | error cause => exact rfl
  | ok a => exact hR a

end SameOutcome

end EntitySql
