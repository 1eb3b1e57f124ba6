import EntitySql.Proofs.Alike
import EntitySql.Proofs.Placement

/-! # Bound values never reach the text

Alike predicates give conditions and commands of the same text, and so do values that are written to
the same columns. What differs is only what the two runs bind: each its own value of the same
constant.
-/

namespace EntitySql

/-! ## Constants -/

/-- The pairs of values that are bound for constants in the same place. -/
def PlacedConstant.boundPairs (cs ds : List PlacedConstant) : List (Value × Value) :=
  ((cs.zip ds).filter fun c => !c.1.isInlined).map fun c => (c.1.parameter, c.2.parameter)

/-- The constants stand in the same place and may be exchanged. -/
def PlacedConstant.Alike (c d : PlacedConstant) : Prop :=
  c.matched = d.matched ∧ SameConstant c.matched c.value d.value

/-- Constants that may be exchanged are both inlined or both bound. -/
theorem PlacedConstant.Alike.isInlined_eq {c d : PlacedConstant} (h : c.Alike d) :
    c.isInlined = d.isInlined := by
  rcases h with ⟨hplace, hsame⟩
  rcases hsame with hmatched | hvalue | ⟨hc, hd⟩
  · rw [isInlined, isInlined, ← hplace, hmatched, Bool.not_true, Bool.and_false, Bool.and_false]
  · rw [isInlined, isInlined, hplace, hvalue]
  · rw [isInlined, isInlined, hc, hd, Bool.false_and, Bool.false_and]

/-- Each of two alike lists of constants binds its own value of each pair. -/
theorem PlacedConstant.boundValues_eq {cs ds : List PlacedConstant}
    (h : List.Forall₂ PlacedConstant.Alike cs ds) :
    boundValues cs = (boundPairs cs ds).map (·.1) ∧
      boundValues ds = (boundPairs cs ds).map (·.2) := by
  induction h with
  | nil => exact ⟨rfl, rfl⟩
  | @cons c d cs ds hcd hrest ih =>
      rcases ih with ⟨ihc, ihd⟩
      have hinlined := hcd.isInlined_eq
      cases hc : c.isInlined with
      -- alike constants are inlined together, so a pair is left out as a whole
      | true =>
          rw [hc] at hinlined
          constructor
          · simpa [boundValues, boundPairs, hc] using ihc
          · simpa [boundValues, boundPairs, hc, ← hinlined] using ihd
      | false =>
          rw [hc] at hinlined
          constructor
          · simpa [boundValues, boundPairs, hc] using ihc
          · simpa [boundValues, boundPairs, hc, ← hinlined] using ihd

namespace Predicate

/-- The pairs of values that two predicates bind for the same constant. -/
def boundPairs (p q : Predicate) : List (Value × Value) :=
  PlacedConstant.boundPairs (p.constants false) (q.constants false)

/-- The pairs of values that two filters bind for the same constant. -/
def filterPairs : Option Predicate → Option Predicate → List (Value × Value)
  | some p, some q => p.boundPairs q
  | _, _ => []

theorem alike_targetConstants {target target' : Option Predicate}
    (ih : ∀ t, target = some t → ∀ t', t.Alike false t' →
      List.Forall₂ PlacedConstant.Alike (t.constants false) (t'.constants false))
    (h : AlikeTargets target target') :
    List.Forall₂ PlacedConstant.Alike (targetConstants target) (targetConstants target') := by
  cases target with
  | none =>
      cases target' with
      | none => exact List.Forall₂.nil
      | some t' => exact h.elim
  | some t =>
      cases target' with
      | none => exact h.elim
      | some t' => exact ih t rfl t' h

theorem alike_argumentConstants {matched : Bool} {arguments arguments' : List Predicate}
    (ih : ∀ a ∈ arguments, ∀ b, a.Alike matched b →
      List.Forall₂ PlacedConstant.Alike (a.constants matched) (b.constants matched))
    (h : AlikeArguments matched arguments arguments') :
    List.Forall₂ PlacedConstant.Alike (argumentConstants matched arguments)
      (argumentConstants matched arguments') := by
  induction arguments generalizing arguments' with
  | nil =>
      cases arguments' with
      | nil => exact List.Forall₂.nil
      | cons b rest => exact h.elim
  | cons a rest iha =>
      cases arguments' with
      | nil => exact h.elim
      | cons b rest' =>
          rcases h with ⟨hab, hrest⟩
          have htail := iha (fun c hc => ih c (List.mem_cons_of_mem a hc)) hrest
          exact List.rel_append (ih a List.mem_cons_self b hab) htail

/-- Alike predicates hold alike constants. -/
theorem alike_constants {p q : Predicate} {matched : Bool} (h : p.Alike matched q) :
    List.Forall₂ PlacedConstant.Alike (p.constants matched) (q.constants matched) := by
  induction p using Predicate.induction generalizing q matched with
  | field handle =>
      cases q with
      | field handle' => exact List.Forall₂.nil
      | _ => exact h.elim
  | constant value =>
      cases q with
      | constant value' => exact List.Forall₂.cons ⟨rfl, h⟩ List.Forall₂.nil
      | _ => exact h.elim
  | binary op left right ihl ihr =>
      cases q with
      | binary op' left' right' =>
          rcases h with ⟨rfl, hl, hr⟩
          exact List.rel_append (ihl hl) (ihr hr)
      | _ => exact h.elim
  | unary op inner logical ih =>
      cases q with
      | unary op' inner' logical' =>
          rcases h with ⟨rfl, rfl, hr⟩
          exact ih hr
      | _ => exact h.elim
  | call target method arguments iht iha =>
      cases q with
      | call target' method' arguments' =>
          rcases h with ⟨rfl, ht, ha⟩
          exact List.rel_append (alike_targetConstants (fun t heq t' => iht t heq) ht)
            (alike_argumentConstants (fun a hmem b => iha a hmem) ha)
      | _ => exact h.elim

/-- Each of two alike filters binds its own value of each pair. -/
theorem filterValues_eq {predicate predicate' : Option Predicate}
    (h : AlikeFilters predicate predicate') :
    filterValues predicate = (filterPairs predicate predicate').map (·.1) ∧
      filterValues predicate' = (filterPairs predicate predicate').map (·.2) := by
  cases predicate with
  | none =>
      cases predicate' with
      | none => exact ⟨rfl, rfl⟩
      | some q => exact h.elim
  | some p =>
      cases predicate' with
      | none => exact h.elim
      | some q => exact PlacedConstant.boundValues_eq (alike_constants h)

end Predicate

/-! ## Two runs of a command -/

/-- Two commands have the same text and the same parameter names, and bind the two values of each
pair. -/
structure BoundSql.SameText (pairs : List (Value × Value)) (sql sql' : BoundSql) : Prop where
  text : sql.text = sql'.text
  names : sql.bindings.names = sql'.bindings.names
  first : sql.bindings.values = pairs.map (·.1)
  second : sql'.bindings.values = pairs.map (·.2)

/-- Alike templates are written to the same text. -/
theorem BoundSql.sameText_ofTemplate {t u : Template} {pairs : List (Value × Value)}
    (h : Template.Alike t u) (hfirst : t.values = pairs.map (·.1))
    (hsecond : u.values = pairs.map (·.2)) : SameText pairs (ofTemplate t) (ofTemplate u) where
  text := h.text_eq 0
  names := by
    rw [names_ofTemplate, names_ofTemplate, hfirst, hsecond, List.length_map, List.length_map]
  first := (map_snd_numbered 0 t.values).trans hfirst
  second := (map_snd_numbered 0 u.values).trans hsecond

namespace Predicate

theorem compiled_alike {p q : Predicate} (h : p.Alike false q) (columns : Resolver)
    (limit : Option Nat) :
    SameOutcome (fun e e' => e.Alike false e' ∧ p.compile columns limit = .ok e ∧
        q.compile columns limit = .ok e')
      (p.compiled columns limit) (q.compiled columns limit) := by
  have hcompile : SameOutcome (Expression.Alike false) (p.compile columns limit)
    (q.compile columns limit) := compile_alike h
  rw [compiled, compiled]
  cases hp : p.compile columns limit with
  | error cause =>
      rw [hp] at hcompile
      cases hq : q.compile columns limit with
      | error cause' => rw [hq] at hcompile; exact hcompile
      | ok e' => rw [hq] at hcompile; exact hcompile.elim
  | ok e =>
      rw [hp] at hcompile
      cases hq : q.compile columns limit with
      | error cause' => rw [hq] at hcompile; exact hcompile.elim
      | ok e' =>
          rw [hq] at hcompile
          have hop := Expression.unsupported?_eq_of_alike hcompile
          cases he : e.unsupported? with
          | some op =>
              rw [he] at hop
              simp only [he, ← hop]
              exact rfl
          | none =>
              rw [he] at hop
              simp only [he, ← hop]
              exact ⟨hcompile, rfl, rfl⟩

/-- Two conditions on their own. -/
theorem sameText_toSql {p q : Predicate} (h : p.Alike false q) (columns : Resolver)
    (limit : Option Nat) :
    SameOutcome (BoundSql.SameText (p.boundPairs q))
      (p.compile columns limit >>= Expression.toSql)
      (q.compile columns limit >>= Expression.toSql) := by
  rw [compile_toSql_eq, compile_toSql_eq]
  refine SameOutcome.map (compiled_alike h columns limit) ?_
  rintro e e' - - ⟨he, hp, hq⟩
  rcases PlacedConstant.boundValues_eq (alike_constants h) with ⟨hfirst, hsecond⟩
  apply BoundSql.sameText_ofTemplate (Expression.alike_rootTemplate he)
  · rw [Expression.values_rootTemplate hp]
    exact hfirst
  · rw [Expression.values_rootTemplate hq]
    exact hsecond

end Predicate

namespace Schema

variable (s : Schema)

theorem filterTemplate_alike {predicate predicate' : Option Predicate}
    (h : Predicate.AlikeFilters predicate predicate') (limit : Option Nat) :
    SameOutcome Template.Alike (s.filterTemplate predicate limit)
      (s.filterTemplate predicate' limit) := by
  cases predicate with
  | none =>
      cases predicate' with
      | none => exact List.Forall₂.nil
      | some q => exact h.elim
  | some p =>
      cases predicate' with
      | none => exact h.elim
      | some q =>
          refine SameOutcome.map (Predicate.compiled_alike h s.resolver limit) ?_
          rintro e e' - - ⟨he, -, -⟩
          exact (Template.Alike.refl _).append (Expression.alike_rootTemplate he)

/-- Two commands with alike heads and alike filters. -/
theorem sameText_command {head head' : Template} {pairs : List (Value × Value)}
    (hhead : Template.Alike head head') (hfirst : head.values = pairs.map (·.1))
    (hsecond : head'.values = pairs.map (·.2)) {predicate predicate' : Option Predicate}
    (h : Predicate.AlikeFilters predicate predicate') (limit : Option Nat) :
    SameOutcome (BoundSql.SameText (pairs ++ Predicate.filterPairs predicate predicate'))
      (((s.filterTemplate predicate limit).map fun t =>
        BoundSql.ofTemplate (head ++ t)).mapError Error.predicate)
      (((s.filterTemplate predicate' limit).map fun t =>
        BoundSql.ofTemplate (head' ++ t)).mapError Error.predicate) := by
  apply SameOutcome.mapError
  refine SameOutcome.map (s.filterTemplate_alike h limit) ?_
  intro t t' ht ht' halike
  rcases Predicate.filterValues_eq h with ⟨hfilter, hfilter'⟩
  apply BoundSql.sameText_ofTemplate (hhead.append halike)
  · rw [Template.values_append, values_filterTemplate ht, hfirst, hfilter, List.map_append]
  · rw [Template.values_append, values_filterTemplate ht', hsecond, hfilter', List.map_append]

end Schema

/-! ## Written values -/

theorem Template.Alike.join (separator : List Token) {ts ts' : List Template}
    (h : List.Forall₂ Template.Alike ts ts') :
    Template.Alike (Template.join separator ts) (Template.join separator ts') := by
  induction h with
  | nil => exact List.Forall₂.nil
  | @cons t t' rest rest' ht hrest ih =>
      cases hrest with
      | nil => exact ht
      | cons hu hrest => exact ht.append ((Template.Alike.refl _).append ih)

theorem alike_assignmentTemplate {α : Type} {target : α → Token} {value : α → Value}
    {items items' : List α} (h : items.map target = items'.map target) :
    Template.Alike (assignmentTemplate target value items)
      (assignmentTemplate target value items') := by
  apply Template.Alike.join
  induction items generalizing items' with
  | nil =>
      obtain rfl : items' = [] := List.map_eq_nil_iff.mp h.symm
      exact List.Forall₂.nil
  | cons item items ih =>
      cases items' with
      | nil => cases h
      | cons item' items' =>
          rcases List.cons.inj h with ⟨htarget, hrest⟩
          refine List.Forall₂.cons ?_ (ih hrest)
          have htokens : ∀ (t : Token) (v : Value), assignTemplate t v =
              Template.ofTokens [t, .space, .word "=", .space] ++ [.slot v] := fun _ _ => rfl
          simp only [htokens, htarget]
          exact (Template.Alike.refl _).append (Template.Alike.slot (value item) (value item'))

theorem alike_slotTemplate {values values' : List Value} (h : values.length = values'.length) :
    Template.Alike (slotTemplate values) (slotTemplate values') := by
  apply Template.Alike.join
  induction values generalizing values' with
  | nil =>
      obtain rfl : values' = [] := List.length_eq_zero_iff.mp h.symm
      exact List.Forall₂.nil
  | cons v values ih =>
      cases values' with
      | nil => cases h
      | cons w values' =>
          exact List.Forall₂.cons (Template.Alike.slot v w) (ih (Nat.succ.inj h))

/-- The pairs of values that two lists give to the same names. -/
def valuePairs {α : Type} (entries entries' : List (α × Value)) : List (Value × Value) :=
  (entries.map (·.2)).zip (entries'.map (·.2))

theorem map_valuePairs {α : Type} {entries entries' : List (α × Value)}
    (h : entries.map (·.1) = entries'.map (·.1)) :
    (valuePairs entries entries').map (·.1) = entries.map (·.2) ∧
      (valuePairs entries entries').map (·.2) = entries'.map (·.2) := by
  have hlength : entries.length = entries'.length := by
    rw [← List.length_map (·.1), h, List.length_map]
  constructor
  · apply List.map_fst_zip
    rw [List.length_map, List.length_map, hlength]
  · apply List.map_snd_zip
    rw [List.length_map, List.length_map, hlength]

namespace Schema

variable (s : Schema) {values values' : List (Column × Value)}

theorem alike_updateHead (h : values.map (·.1) = values'.map (·.1)) :
    Template.Alike (s.updateHead values) (s.updateHead values') := by
  have htargets : values.map (fun e => Token.name e.1.name) =
      values'.map fun e => Token.name e.1.name := by
    have hnames := congrArg (List.map fun c : Column => Token.name c.name) h
    rwa [List.map_map, List.map_map] at hnames
  exact (Template.Alike.refl _).append ((Template.Alike.refl _).append
    ((Template.Alike.refl _).append (alike_assignmentTemplate htargets)))

theorem alike_insertTemplate (h : values.map (·.1) = values'.map (·.1)) :
    Template.Alike (s.insertTemplate values) (s.insertTemplate values') := by
  have hlength : values.length = values'.length := by
    rw [← List.length_map (·.1), h, List.length_map]
  have hempty : values.isEmpty = values'.isEmpty := by
    have hcolumns := congrArg List.isEmpty h
    rwa [List.isEmpty_map, List.isEmpty_map] at hcolumns
  have hslots :
      Template.Alike (slotTemplate (values.map (·.2))) (slotTemplate (values'.map (·.2))) := by
    apply alike_slotTemplate
    rw [List.length_map, List.length_map, hlength]
  rw [insertTemplate, insertTemplate, hempty, h]
  refine (Template.Alike.refl _).append ((Template.Alike.refl _).append
    ((Template.Alike.refl _).append ?_))
  split
  · exact Template.Alike.refl _
  · exact (Template.Alike.refl _).append ((Template.Alike.refl _).append
      ((Template.Alike.refl _).append ((Template.Alike.refl _).append
        ((Template.Alike.refl _).append (hslots.append (Template.Alike.refl _))))))

theorem sameText_updateValues (h : values.map (·.1) = values'.map (·.1))
    {predicate predicate' : Option Predicate} (hp : Predicate.AlikeFilters predicate predicate')
    (limit : Option Nat) :
    SameOutcome
      (BoundSql.SameText (valuePairs values values' ++ Predicate.filterPairs predicate predicate'))
      (s.updateValues values predicate limit) (s.updateValues values' predicate' limit) := by
  rcases map_valuePairs h with ⟨hfirst, hsecond⟩
  cases values with
  | nil =>
      -- without values both runs are refused
      obtain rfl : values' = [] := List.map_eq_nil_iff.mp h.symm
      exact rfl
  | cons e values =>
      cases values' with
      | nil => cases h
      | cons e' values' =>
          rw [updateValues_eq s (List.cons_ne_nil e values),
            updateValues_eq s (List.cons_ne_nil e' values')]
          apply s.sameText_command (s.alike_updateHead h)
          · rw [values_updateHead, hfirst]
          · rw [values_updateHead, hsecond]
          · exact hp

/-- The values that a record gives to the columns that are written. -/
def writtenEntries (record : Record) : List (Column × Value) :=
  (s.columns.zip (s.toValues record)).filter fun e => !e.1.isPrimaryKey

/-- A record that passes the check writes its entries as they are. -/
theorem written_eq_ok {record : Record} (h : s.written record = .ok values) :
    values = s.writtenEntries record := by
  have hkeep : values.map id = (s.writtenEntries record).map id :=
    map_eq_of_mapM h fun e entry hentry => assign_eq_ok hentry
  rwa [List.map_id, List.map_id] at hkeep

/-- The columns of named values are those of the names. -/
theorem columns_of_assignNamed {columns : List (String × Value)}
    (h : (columns.mapM fun e => s.assignNamed e.1 e.2) = .ok values) :
    (values.map (·.1)).map some = (columns.map (·.1)).map s.columnNamed? := by
  rw [List.map_map, List.map_map]
  apply map_eq_of_mapM h
  intro e entry hentry
  rcases assignNamed_eq_ok hentry with ⟨column, hcolumn, rfl⟩
  exact hcolumn.symm

/-- The columns of two records are written alike: both pass the check, over the same columns, or
both are refused for the same value. A record is so with itself. -/
def SameColumns (record record' : Record) : Prop :=
  SameOutcome (fun values values' : List (Column × Value) => values.map (·.1) = values'.map (·.1))
    (s.written record) (s.written record')

/-- Two lists of named values pass the check together, or are refused for the same reason. -/
def SameCheck (columns columns' : List (String × Value)) : Prop :=
  SameOutcome (fun _ _ => True) (columns.mapM fun e => s.assignNamed e.1 e.2)
    (columns'.mapM fun e => s.assignNamed e.1 e.2)

theorem sameText_insert {record record' : Record} (h : s.SameColumns record record') :
    SameOutcome
      (BoundSql.SameText (valuePairs (s.writtenEntries record) (s.writtenEntries record')))
      (s.insert record) (s.insert record') := by
  rw [insert_eq, insert_eq]
  refine SameOutcome.map h ?_
  intro values values' hvalues hvalues' hcolumns
  rw [← s.written_eq_ok hvalues, ← s.written_eq_ok hvalues']
  rcases map_valuePairs hcolumns with ⟨hfirst, hsecond⟩
  apply BoundSql.sameText_ofTemplate (s.alike_insertTemplate hcolumns)
  · rw [values_insertTemplate, hfirst]
  · rw [values_insertTemplate, hsecond]

theorem sameText_update {record record' : Record} (h : s.SameColumns record record')
    {predicate predicate' : Option Predicate} (hp : Predicate.AlikeFilters predicate predicate')
    (limit : Option Nat) :
    SameOutcome
      (BoundSql.SameText (valuePairs (s.writtenEntries record) (s.writtenEntries record') ++
        Predicate.filterPairs predicate predicate'))
      (s.update record predicate limit) (s.update record' predicate' limit) := by
  refine SameOutcome.bind h ?_
  intro values values' hvalues hvalues' hcolumns
  rw [← s.written_eq_ok hvalues, ← s.written_eq_ok hvalues']
  exact s.sameText_updateValues hcolumns hp limit

theorem sameText_updateColumns {columns columns' : List (String × Value)}
    (hnames : columns.map (·.1) = columns'.map (·.1)) (h : s.SameCheck columns columns')
    {predicate predicate' : Option Predicate} (hp : Predicate.AlikeFilters predicate predicate')
    (limit : Option Nat) :
    SameOutcome (BoundSql.SameText (valuePairs columns columns' ++
        Predicate.filterPairs predicate predicate'))
      (s.updateColumns columns predicate limit) (s.updateColumns columns' predicate' limit) := by
  refine SameOutcome.bind h ?_
  intro values values' hvalues hvalues' _
  -- the same names find the same columns
  have hcolumns : values.map (·.1) = values'.map (·.1) := by
    have hsome := (s.columns_of_assignNamed hvalues).trans
      (hnames ▸ (s.columns_of_assignNamed hvalues').symm)
    exact List.map_injective_iff.mpr (fun _ _ => Option.some.inj) hsome
  have hpairs : valuePairs columns columns' = valuePairs values values' := by
    rw [valuePairs, valuePairs, s.values_of_assignNamed hvalues, s.values_of_assignNamed hvalues']
  rw [hpairs]
  exact s.sameText_updateValues hcolumns hp limit

end Schema

theorem alike_callTemplate (name : String) {arguments arguments' : List (String × Value)}
    (h : arguments.map (·.1) = arguments'.map (·.1)) :
    Template.Alike (callTemplate name arguments) (callTemplate name arguments') := by
  have htargets : arguments.map (fun a => Token.word ("@" ++ a.1)) =
      arguments'.map fun a => Token.word ("@" ++ a.1) := by
    have hwords := congrArg (List.map fun parameter => Token.word ("@" ++ parameter)) h
    rwa [List.map_map, List.map_map] at hwords
  have hempty : arguments.isEmpty = arguments'.isEmpty := by
    have hnames := congrArg List.isEmpty h
    rwa [List.isEmpty_map, List.isEmpty_map] at hnames
  rw [callTemplate, callTemplate, hempty]
  refine (Template.Alike.refl _).append ((Template.Alike.refl _).append ?_)
  split
  · exact Template.Alike.refl _
  · exact (Template.Alike.refl _).append (alike_assignmentTemplate htargets)

/-- Two calls of a procedure with the same argument names. -/
theorem sameText_storedProcedure (name : String) {arguments arguments' : List (String × Value)}
    (h : arguments.map (·.1) = arguments'.map (·.1)) :
    SameOutcome (BoundSql.SameText (valuePairs arguments arguments'))
      (storedProcedure name arguments) (storedProcedure name arguments') := by
  -- the check of a call reads nothing but the names
  have hparameters : ∀ arguments : List (String × Value),
      (arguments.mapM fun a => parameterName a.1) = (arguments.map (·.1)).mapM parameterName :=
    fun _ => by rw [List.mapM_map]; rfl
  rw [storedProcedure_eq, storedProcedure_eq, hparameters, hparameters, ← h]
  refine SameOutcome.map (SameOutcome.refl (fun _ => Eq.refl _) _) ?_
  rintro parameters _ hok - rfl
  -- both calls go on with the same stripped names
  have hlength : parameters.length = arguments.length := by
    have hlist := (forall₂_of_mapM hok).length_eq
    rw [List.length_map] at hlist
    exact hlist.symm
  have hlength' : arguments'.length = arguments.length := by
    rw [← List.length_map (·.1), ← h, List.length_map]
  have hvalues : (parameters.zip (arguments.map (·.2))).map (·.2) = arguments.map (·.2) :=
    List.map_snd_zip (by rw [List.length_map, hlength])
  have hvalues' : (parameters.zip (arguments'.map (·.2))).map (·.2) = arguments'.map (·.2) :=
    List.map_snd_zip (by rw [List.length_map, hlength, hlength'])
  have hnames : (parameters.zip (arguments.map (·.2))).map (·.1) =
      (parameters.zip (arguments'.map (·.2))).map (·.1) := by
    rw [List.map_fst_zip, List.map_fst_zip]
    · rw [List.length_map, hlength, hlength']
    · rw [List.length_map, hlength]
  rcases map_valuePairs h with ⟨hfirst, hsecond⟩
  apply BoundSql.sameText_ofTemplate (alike_callTemplate name hnames)
  · rw [values_callTemplate, hvalues, hfirst]
  · rw [values_callTemplate, hvalues', hsecond]

/-! ## Every condition and every command -/

theorem Schema.sameText_condition (s : Schema) {predicate predicate' : Option Predicate}
    (h : Predicate.AlikeFilters predicate predicate') :
    SameOutcome (Option.Rel (BoundSql.SameText (Predicate.filterPairs predicate predicate')))
      (s.condition predicate) (s.condition predicate') := by
  cases predicate with
  | none =>
      cases predicate' with
      | none => exact Option.Rel.none
      | some q => exact h.elim
  | some p =>
      cases predicate' with
      | none => exact h.elim
      | some q =>
          rw [condition_eq, condition_eq]
          refine SameOutcome.map (Predicate.sameText_toSql h s.resolver none) ?_
          exact fun sql sql' _ _ hsame => Option.Rel.some hsame

/-- Two predicates that differ only in the values of bound constants, and two lists of values that
are written to the same columns or given to the same arguments, fail alike or give the same text;
the runs bind the two values of each pair. -/
theorem text_independent_of_bound_values (s : Schema) :
    (∀ (p q : Predicate) (columns : Resolver) (limit : Option Nat), p.Alike false q →
      SameOutcome (BoundSql.SameText (p.boundPairs q))
        (p.compile columns limit >>= Expression.toSql)
        (q.compile columns limit >>= Expression.toSql)) ∧
    (∀ predicate predicate' : Option Predicate, Predicate.AlikeFilters predicate predicate' →
      SameOutcome (Option.Rel (BoundSql.SameText (Predicate.filterPairs predicate predicate')))
        (s.condition predicate) (s.condition predicate')) ∧
    (∀ (count : Nat) (predicate predicate' : Option Predicate) (limit : Option Nat),
      Predicate.AlikeFilters predicate predicate' →
        SameOutcome (BoundSql.SameText (Predicate.filterPairs predicate predicate'))
          (s.selectTop count predicate limit) (s.selectTop count predicate' limit)) ∧
    (∀ record record' : Record, s.SameColumns record record' →
      SameOutcome
        (BoundSql.SameText (valuePairs (s.writtenEntries record) (s.writtenEntries record')))
        (s.insert record) (s.insert record')) ∧
    (∀ (record record' : Record) (predicate predicate' : Option Predicate) (limit : Option Nat),
      s.SameColumns record record' → Predicate.AlikeFilters predicate predicate' →
        SameOutcome
          (BoundSql.SameText (valuePairs (s.writtenEntries record) (s.writtenEntries record') ++
            Predicate.filterPairs predicate predicate'))
          (s.update record predicate limit) (s.update record' predicate' limit)) ∧
    (∀ (columns columns' : List (String × Value)) (predicate predicate' : Option Predicate)
        (limit : Option Nat), columns.map (·.1) = columns'.map (·.1) →
      s.SameCheck columns columns' → Predicate.AlikeFilters predicate predicate' →
        SameOutcome
          (BoundSql.SameText (valuePairs columns columns' ++
            Predicate.filterPairs predicate predicate'))
          (s.updateColumns columns predicate limit) (s.updateColumns columns' predicate' limit)) ∧
    (∀ (predicate predicate' : Option Predicate) (limit : Option Nat),
      Predicate.AlikeFilters predicate predicate' →
        SameOutcome (BoundSql.SameText (Predicate.filterPairs predicate predicate'))
          (s.delete predicate limit) (s.delete predicate' limit)) ∧
    (∀ (name : String) (arguments arguments' : List (String × Value)),
      arguments.map (·.1) = arguments'.map (·.1) →
        SameOutcome (BoundSql.SameText (valuePairs arguments arguments'))
          (storedProcedure name arguments) (storedProcedure name arguments')) := by
  refine ⟨?condition, ?schemaCondition, ?selectTop, ?insert, ?update, ?updateColumns, ?delete,
    ?storedProcedure⟩
  case condition => exact fun p q columns limit h => Predicate.sameText_toSql h columns limit
  case schemaCondition => exact fun predicate predicate' h => s.sameText_condition h
  case selectTop =>
    intro count predicate predicate' limit h
    rw [Schema.selectTop_eq, Schema.selectTop_eq]
    have hvalues := s.values_selectHead count
    exact @Schema.sameText_command s _ _ [] (Template.Alike.refl (s.selectHead count)) hvalues
      hvalues predicate predicate' h limit
  case insert => exact fun record record' h => s.sameText_insert h
  case update =>
    exact fun record record' predicate predicate' limit h hp => s.sameText_update h hp limit
  case updateColumns =>
    exact fun columns columns' predicate predicate' limit hnames h hp =>
      s.sameText_updateColumns hnames h hp limit
  case delete =>
    intro predicate predicate' limit h
    rw [Schema.delete_eq, Schema.delete_eq]
    have hvalues := s.values_deleteHead
    exact @Schema.sameText_command s _ _ [] (Template.Alike.refl s.deleteHead) hvalues hvalues
      predicate predicate' h limit
  case storedProcedure => exact fun name arguments arguments' h => sameText_storedProcedure name h

/-- A filter over the notes with three constants, of which only the second is inlined. -/
def Predicate.notes (search other : Value) : Predicate :=
  (Predicate.startsWith (.field ⟨"text", .text⟩) (.constant search)).and
    (.eq (.constant (.int 1)) (.constant other))

/-- The text of an injection is bound like any other value. -/
theorem text_independent_of_bound_values_notes :
    ∃ sql sql',
      Schema.notes.updateColumns [("Text", .int 7)] (some (.notes (.uint 9) .null)) none =
        .ok sql ∧
      Schema.notes.updateColumns [("Text", .text "' --")]
        (some (.notes (.text "'; DROP") (.text "]"))) none = .ok sql' ∧
      sql.SameText [(.int 7, .text "' --"), (.text "9", .text "'; DROP"), (.null, .text "]")]
        sql' := by
  rcases text_independent_of_bound_values Schema.notes with ⟨-, -, -, -, -, hupdate, -, -⟩
  have halike : Predicate.AlikeFilters (some (.notes (.uint 9) .null))
      (some (.notes (.text "'; DROP") (.text "]"))) := by
    refine ⟨rfl, ⟨rfl, rfl, Or.inl ?_, trivial⟩, rfl, Or.inr (Or.inl rfl), Or.inr (Or.inr ?_)⟩
    · decide
    · exact ⟨rfl, rfl⟩
  have hcheck : Schema.notes.SameCheck [("Text", .int 7)] [("Text", .text "' --")] := trivial
  obtain ⟨sql, hsql⟩ : ∃ sql, Schema.notes.updateColumns [("Text", .int 7)]
      (some (.notes (.uint 9) .null)) none = .ok sql := exists_eq_ok (by decide +kernel)
  obtain ⟨sql', hsql'⟩ : ∃ sql, Schema.notes.updateColumns [("Text", .text "' --")]
      (some (.notes (.text "'; DROP") (.text "]"))) none = .ok sql :=
    exists_eq_ok (by decide +kernel)
  have hsame := hupdate [("Text", .int 7)] [("Text", .text "' --")] _ _ none rfl hcheck halike
  rw [hsql, hsql'] at hsame
  have hpairs : valuePairs [("Text", .int 7)] [("Text", .text "' --")] ++
      Predicate.filterPairs (some (.notes (.uint 9) .null))
        (some (.notes (.text "'; DROP") (.text "]"))) =
      [(.int 7, .text "' --"), (.text "9", .text "'; DROP"), (.null, .text "]")] := by
    with_unfolding_all rfl
  rw [hpairs] at hsame
  exact ⟨sql, sql', hsql, hsql', hsame⟩

end EntitySql
