import EntitySql.Proofs.NamedValues
import EntitySql.Proofs.Placement

/-! # Runs of a context

A context serves any number of bindings and renderings, one after the other, and a rendering that
fails part way leaves what it has bound. Whatever the run, the placeholders are numbered from zero
without a gap, so none of them is given out twice, nothing that was bound before changes, and a
look-up finds the one value under a name.

The invariant is `IsNumbered`; a step only binds values one after the other
(`exists_bindAll_afterSteps`), which keeps it. Main statement: `context_numbers_every_binding`.
-/

namespace EntitySql

/-- A use of a context: a value is bound, or a whole condition is rendered. -/
inductive ContextStep where
  | bind (value : Value)
  | render (condition : Expression)

/-- The text that a step gives, or its failure, and the context behind it. -/
def ContextStep.run : ContextStep → Context → Except PredicateError String × Context
  | bind value, ctx => (Expression.bound value).run ctx
  | render condition, ctx => condition.renderRoot.run ctx

namespace Context

/-- The context after a run of steps. A step that fails does not end the run. -/
def afterSteps (ctx : Context) (steps : List ContextStep) : Context :=
  steps.foldl (fun ctx step => (step.run ctx).2) ctx

/-- Values are bound one after the other, each under a placeholder that no entry has yet. -/
inductive BindsFresh : Context → List Value → Context → Prop where
  | nil (ctx : Context) : BindsFresh ctx [] ctx
  | cons {ctx last : Context} {value : Value} {values : List Value}
      (hfresh : ctx.bindings.contains (placeholder ctx.counter) = false)
      (hrest : BindsFresh (ctx.bindValue value).2 values last) :
      BindsFresh ctx (value :: values) last

/-- The counter is the number of the bindings, and their names are numbered from zero on. -/
structure IsNumbered (ctx : Context) : Prop where
  counted : ctx.counter = ctx.bindings.size
  named : ctx.bindings.names = (List.range ctx.bindings.size).map placeholder

/-- The bindings are numbered from zero on in the order in which they were made, no name is bound
twice, and a look-up finds the one entry of a name. -/
structure IsConsistent (ctx : Context) : Prop extends ctx.IsNumbered where
  distinct : ctx.bindings.names.Nodup
  found : ∀ name value, ctx.bindings.get? name = some value ↔ (name, value) ∈ ctx.bindings.entries
  missing : ∀ name, ctx.bindings.get? name = none ↔ name ∉ ctx.bindings.names

/-! ## The invariant -/

theorem isNumbered_empty : empty.IsNumbered := ⟨rfl, rfl⟩

/-- One more binding has the next number. -/
theorem IsNumbered.bindValue {ctx : Context} (h : ctx.IsNumbered) (value : Value) :
    (ctx.bindValue value).2.IsNumbered where
  counted := by
    have hsize : (ctx.bindValue value).2.bindings.size = ctx.bindings.size + 1 :=
      NamedValues.size_push _ _ _
    rw [hsize, ← h.counted]
    rfl
  named := by
    have hsize : (ctx.bindValue value).2.bindings.size = ctx.bindings.size + 1 :=
      NamedValues.size_push _ _ _
    have hnames : (ctx.bindValue value).2.bindings.names =
        ctx.bindings.names ++ [placeholder ctx.counter] := by
      simp [Context.bindValue, NamedValues.names]
    rw [hnames, hsize, List.range_succ, List.map_append, h.named, h.counted]
    rfl

theorem IsNumbered.bindAll {ctx : Context} (h : ctx.IsNumbered) (values : List Value) :
    (ctx.bindAll values).IsNumbered := by
  induction values generalizing ctx with
  | nil => exact h
  | cons value values ih => exact ih (h.bindValue value)

/-- The next placeholder is not bound: its number is greater than those given out. -/
theorem IsNumbered.contains_next {ctx : Context} (h : ctx.IsNumbered) :
    ctx.bindings.contains (placeholder ctx.counter) = false := by
  have hnext : placeholder ctx.counter ∉ ctx.bindings.names := by
    rw [h.named, List.mem_map]
    rintro ⟨number, hnumber, hsame⟩
    have hlt : number < ctx.bindings.size := List.mem_range.mp hnumber
    have heq : number = ctx.counter := placeholder_injective hsame
    have hcounted := h.counted
    omega
  rw [NamedValues.contains, NamedValues.get?_eq_none_iff.mpr hnext]
  rfl

theorem IsNumbered.bindsFresh {ctx : Context} (h : ctx.IsNumbered) (values : List Value) :
    ctx.BindsFresh values (ctx.bindAll values) := by
  induction values generalizing ctx with
  | nil => exact .nil ctx
  | cons value values ih => exact .cons h.contains_next (ih (h.bindValue value))

/-- Different numbers have different names, so the numbering is all that look-ups need. -/
theorem IsNumbered.isConsistent {ctx : Context} (h : ctx.IsNumbered) : ctx.IsConsistent := by
  have hdistinct : ctx.bindings.names.Nodup := by
    rw [h.named]
    exact List.Nodup.map (fun m n => placeholder_injective) List.nodup_range
  exact { toIsNumbered := h
          distinct := hdistinct
          found := fun name value => NamedValues.get?_eq_some_iff hdistinct
          missing := fun name => NamedValues.get?_eq_none_iff }

/-! ## Steps -/

end Context

/-- A rendering binds values one after the other, whether it fails or not. -/
theorem Writes.exists_bindAll {r : Rendering} {t : Template} {failure : Option PredicateError}
    (h : Writes r t failure) (ctx : Context) : ∃ values, (r.run ctx).2 = ctx.bindAll values := by
  cases failure with
  | none => exact ⟨t.values, congrArg Prod.snd (h.run_ok ctx)⟩
  | some cause =>
      rcases h.run_error ctx with ⟨values, hrun⟩
      exact ⟨values, congrArg Prod.snd hrun⟩

theorem ContextStep.exists_bindAll_run (step : ContextStep) (ctx : Context) :
    ∃ values, (step.run ctx).2 = ctx.bindAll values := by
  cases step with
  | bind value => exact (Writes.of_bound value).exists_bindAll ctx
  | render condition => exact (Expression.writes_rootTemplate condition).exists_bindAll ctx

namespace Context

/-- A run of steps binds values one after the other. -/
theorem exists_bindAll_afterSteps (ctx : Context) (steps : List ContextStep) :
    ∃ values, ctx.afterSteps steps = ctx.bindAll values := by
  induction steps generalizing ctx with
  | nil => exact ⟨[], rfl⟩
  | cons step steps ih =>
      rcases step.exists_bindAll_run ctx with ⟨values, hstep⟩
      rcases ih (ctx.bindAll values) with ⟨rest, hrest⟩
      refine ⟨values ++ rest, ?_⟩
      rw [bindAll_append, ← hrest, ← hstep]
      rfl

theorem afterSteps_append (ctx : Context) (before after : List ContextStep) :
    ctx.afterSteps (before ++ after) = (ctx.afterSteps before).afterSteps after :=
  List.foldl_append

/-- After any run of steps the bindings are consistent. Whatever follows binds its values one after
the other under placeholders that are not bound yet, behind the bindings that are there, and a value
that is bound stands under the name that was given for it. -/
theorem context_numbers_every_binding (before after : List ContextStep) :
    (empty.afterSteps before).IsConsistent ∧
    (∃ values, (empty.afterSteps before).BindsFresh values
      (empty.afterSteps (before ++ after))) ∧
    (empty.afterSteps before).bindings.entries <+:
      (empty.afterSteps (before ++ after)).bindings.entries ∧
    ∀ value, ∃ name, ((ContextStep.bind value).run (empty.afterSteps before)).1 = .ok name ∧
      (empty.afterSteps (before ++ [.bind value])).bindings.entries =
        (empty.afterSteps before).bindings.entries ++ [(name, value)] := by
  rcases exists_bindAll_afterSteps empty before with ⟨values, hbefore⟩
  have hnumbered : (empty.afterSteps before).IsNumbered := by
    rw [hbefore]
    exact isNumbered_empty.bindAll values
  rcases exists_bindAll_afterSteps (empty.afterSteps before) after with ⟨rest, hafter⟩
  rw [← afterSteps_append] at hafter
  refine ⟨hnumbered.isConsistent, ⟨rest, ?fresh⟩, ?kept, ?bound⟩
  case fresh =>
    rw [hafter]
    exact hnumbered.bindsFresh rest
  case kept =>
    rw [hafter, entries_bindAll]
    exact List.prefix_append _ _
  case bound =>
    intro value
    refine ⟨placeholder (empty.afterSteps before).counter, rfl, ?_⟩
    rw [afterSteps_append]
    rfl

/-- The comparison of texts has no token, so its rendering fails behind the first side. What it has
bound stays bound, and the next rendering goes on behind it. -/
example :
    (empty.afterSteps [.bind (.text "x"),
        .render (.node (.literal (.text "a")) .and
          (.node (.column "b") .compare (.literal .null) false) false),
        .render (.node (.column "c") .equal (.literal (.text "y")) false)]).bindings.names =
      ["@param_0", "@param_1", "@param_2"] := by
  decide +kernel

end Context

end EntitySql
