import EntitySql.Proofs.Placement
import EntitySql.Proofs.Shape

/-! # Reading lists back

The lists of a command are the parts of its table's name, columns, placeholders and assignments,
each with a separator between neighbours. A reader takes one item, and the next one if a separator
stands in front of it, so a list ends exactly where no separator follows. What the placeholders of a
list are bound to are the values that have been numbered (`mapM_get?_numbered`).
-/

namespace EntitySql

/-! ## Readers -/

/-- Reads one item in front of tokens and leaves the tokens behind it. -/
abbrev ItemReader (α : Type) := List Token → Option (α × List Token)

variable {α : Type}

/-- Reads one or more items with a separator between neighbours, `bound` of them at most. -/
def readItems (separator : List Token) (item : ItemReader α) : (bound : Nat) → ItemReader (List α)
  | 0, _ => none
  | bound + 1, ts =>
    match item ts with
    | none => none
    | some (a, ts) =>
      match ts.dropPrefix? separator with
      | none => some ([a], ts)
      | some ts => (readItems separator item bound ts).map fun (as, ts) => (a :: as, ts)

/-- Reads a list of one or more items; there are no more of them than tokens. -/
def readList (separator : List Token) (item : ItemReader α) : ItemReader (List α) :=
  fun ts => readItems separator item ts.length ts

/-- Reads an identifier. -/
def readName : ItemReader String
  | .name text :: ts => some (text, ts)
  | _ => none

/-- Reads a placeholder. -/
def readPlaceholder : ItemReader String
  | t :: ts => t.atName?.map fun name => (name, ts)
  | [] => none

/-- Reads the assignment of a placeholder to a column. -/
def readAssignment : ItemReader (String × String) := fun ts => do
  let (column, ts) ← readName ts
  let ts ← ts.dropPrefix? [.space, .word "=", .space]
  let (name, ts) ← readPlaceholder ts
  return ((column, name), ts)

/-- What stands in front of tokens is dropped. -/
theorem dropPrefix?_append (mark ts : List Token) : (mark ++ ts).dropPrefix? mark = some ts :=
  List.dropPrefix?_append_of_beq ts (beq_self_eq_true mark)

/-- A written list is read back up to where no separator follows. -/
theorem readItems_intercalate {separator : List Token} {item : ItemReader α}
    {write : α → List Token} {as : List α}
    (hitem : ∀ a ∈ as, ∀ rest, item (write a ++ rest) = some (a, rest)) (hne : as ≠ [])
    {rest : List Token} (hrest : rest.dropPrefix? separator = none) {bound : Nat}
    (hbound : as.length ≤ bound) :
    readItems separator item bound (separator.intercalate (as.map write) ++ rest) =
      some (as, rest) := by
  induction as generalizing bound with
  | nil => exact absurd rfl hne
  | cons a as ih =>
      cases bound with
      | zero => simp at hbound
      | succ bound =>
          have hlength : as.length ≤ bound := by simpa using hbound
          have hfirst := hitem a List.mem_cons_self
          cases as with
          | nil =>
              rw [List.map_singleton, List.intercalate_singleton, readItems, hfirst]
              simp only [hrest]
          | cons b as =>
              have hbehind := ih (fun c hc => hitem c (List.mem_cons_of_mem a hc)) (by simp) hlength
              rw [List.map_cons] at hbehind
              rw [List.map_cons, List.map_cons, List.intercalate_cons_cons, readItems,
                List.append_assoc, List.append_assoc, hfirst]
              simp only [dropPrefix?_append, hbehind]
              rfl

/-- A list of items is no longer than its written form. -/
theorem length_le_intercalate {separator : List Token} {write : α → List Token}
    (hwrite : ∀ a, write a ≠ []) (as : List α) :
    as.length ≤ (separator.intercalate (as.map write)).length := by
  induction as with
  | nil => simp
  | cons a as ih =>
      have ha : 0 < (write a).length := List.length_pos_iff.mpr (hwrite a)
      cases as with
      | nil =>
          rw [List.map_singleton, List.intercalate_singleton]
          exact ha
      | cons b as =>
          rw [List.map_cons] at ih
          rw [List.map_cons, List.map_cons, List.intercalate_cons_cons]
          simp only [List.length_cons, List.length_append] at ih ⊢
          omega

theorem readList_intercalate {separator : List Token} {item : ItemReader α}
    {write : α → List Token} {as : List α}
    (hitem : ∀ a ∈ as, ∀ rest, item (write a ++ rest) = some (a, rest))
    (hwrite : ∀ a, write a ≠ []) (hne : as ≠ []) {rest : List Token}
    (hrest : rest.dropPrefix? separator = none) :
    readList separator item (separator.intercalate (as.map write) ++ rest) = some (as, rest) := by
  refine readItems_intercalate hitem hne hrest ?_
  rw [List.length_append]
  exact (length_le_intercalate hwrite as).trans (Nat.le_add_right _ _)

/-! ## Lists of templates -/

namespace Template

/-- The tokens of templates that are numbered one after the other. -/
def tokenLists : (n : Nat) → List Template → List (List Token)
  | _, [] => []
  | n, t :: rest => t.tokens n :: tokenLists (n + t.values.length) rest

theorem tokens_join (separator : List Token) (n : Nat) (ts : List Template) :
    (join separator ts).tokens n = separator.intercalate (tokenLists n ts) := by
  induction ts using join.induct generalizing n with
  | case1 => rfl
  | case2 t => simp [join, tokenLists]
  | case3 t rest hne ih =>
      cases rest with
      | nil => exact absurd rfl hne
      | cons u rest =>
          have hih := ih (n + t.values.length)
          rw [tokenLists] at hih
          rw [join, tokens_append, tokens_append, tokens_ofTokens, values_ofTokens,
            List.length_nil, Nat.add_zero, hih, tokenLists, tokenLists,
            List.intercalate_cons_cons, List.append_assoc]
          exact hne

/-- Identifiers are not numbered. -/
theorem tokenLists_names (n : Nat) (names : List String) :
    tokenLists n (names.map fun name => [.token (.name name)]) =
      names.map fun name => [.name name] := by
  induction names with
  | nil => rfl
  | cons name names ih => exact congrArg _ ih

theorem tokenLists_slots (n : Nat) (values : List Value) :
    tokenLists n (values.map fun value => [.slot value]) =
      ((numbered n values).map (·.1)).map fun name => [.word name] := by
  induction values generalizing n with
  | nil => rfl
  | cons value values ih => exact congrArg _ (ih (n + 1))

/-- The tokens of an assignment to a column. -/
def assignTokens (a : String × String) : List Token :=
  [.name a.1, .space, .word "=", .space, .word a.2]

/-- The tokens of assignments whose targets are written as names. -/
theorem tokenLists_assignments {ι : Type} {target : ι → Token} {value : ι → Value}
    {name : ι → String} {write : String × String → List Token}
    (hwrite : ∀ i m, (assignTemplate (target i) (value i)).tokens m = write (name i, placeholder m))
    (n : Nat) (items : List ι) :
    tokenLists n (items.map fun i => assignTemplate (target i) (value i)) =
      ((items.map name).zip ((numbered n (items.map value)).map (·.1))).map write := by
  induction items generalizing n with
  | nil => rfl
  | cons i items ih =>
      have hlength : (assignTemplate (target i) (value i)).values.length = 1 := rfl
      rw [List.map_cons, tokenLists, hwrite i n, hlength, ih (n + 1)]
      rfl

end Template

/-! ## Lists of commands -/

/-- The parts of an object name. -/
def objectParts (name : String) : List String :=
  (Bracketed.parts name.toList).map String.ofList

theorem objectParts_ne_nil (name : String) : objectParts name ≠ [] := by
  rw [objectParts, Ne, List.map_eq_nil_iff, Bracketed.parts_eq_splitOn]
  exact List.splitOn_ne_nil '.' name.toList

theorem readList_objectTemplate (name : String) (n : Nat) {rest : List Token}
    (hrest : rest.dropPrefix? [.word "."] = none) :
    readList [.word "."] readName ((objectTemplate name).tokens n ++ rest) =
      some (objectParts name, rest) := by
  have hparts : (Bracketed.parts name.toList).map
      (fun part => [Piece.token (.name (String.ofList part))]) =
        (objectParts name).map fun part => [.token (.name part)] := by
    rw [objectParts, List.map_map]
    rfl
  rw [objectTemplate, Template.tokens_join, hparts, Template.tokenLists_names]
  exact readList_intercalate (fun _ _ _ => rfl) (by simp) (objectParts_ne_nil name) hrest

theorem readList_columnTemplate {columns : List Column} (hne : columns ≠ []) (n : Nat)
    {rest : List Token} (hrest : rest.dropPrefix? [.comma, .space] = none) :
    readList [.comma, .space] readName ((columnTemplate columns).tokens n ++ rest) =
      some (columns.map (·.name), rest) := by
  have hnames : columns.map (fun c => [Piece.token (.name c.name)]) =
      (columns.map (·.name)).map fun name => [.token (.name name)] := by
    rw [List.map_map]
    rfl
  rw [columnTemplate, Template.tokens_join, hnames, Template.tokenLists_names]
  exact readList_intercalate (fun _ _ _ => rfl) (by simp) (by simpa using hne) hrest

/-- The names under which values are numbered are those of placeholders. -/
theorem atName?_numbered {n : Nat} {values : List Value} {name : String}
    (h : name ∈ (numbered n values).map (·.1)) : Token.atName? (.word name) = some name := by
  rw [map_fst_numbered] at h
  rcases List.mem_map.mp h with ⟨i, -, rfl⟩
  exact Template.atName?_placeholder i

theorem readList_slotTemplate {values : List Value} (hne : values ≠ []) (n : Nat)
    {rest : List Token} (hrest : rest.dropPrefix? [.comma, .space] = none) :
    readList [.comma, .space] readPlaceholder ((slotTemplate values).tokens n ++ rest) =
      some ((numbered n values).map (·.1), rest) := by
  rw [slotTemplate, Template.tokens_join, Template.tokenLists_slots]
  refine readList_intercalate ?_ (by simp) ?_ hrest
  · intro name hname rest
    rw [List.singleton_append, readPlaceholder, atName?_numbered hname]
    rfl
  · rw [map_fst_numbered]
    simpa using hne

/-- Assignments are read back as names and placeholders when one of them is. -/
theorem readList_assignments {ι : Type} {target : ι → Token} {value : ι → Value} {name : ι → String}
    {write : String × String → List Token} {item : ItemReader (String × String)}
    (hwrite : ∀ i m, (assignTemplate (target i) (value i)).tokens m = write (name i, placeholder m))
    (hne : ∀ a, write a ≠ [])
    (hitem : ∀ a m rest, item (write (a, placeholder m) ++ rest) = some ((a, placeholder m), rest))
    {items : List ι} (hitems : items ≠ []) (n : Nat) {rest : List Token}
    (hrest : rest.dropPrefix? [.comma, .space] = none) :
    readList [.comma, .space] item ((assignmentTemplate target value items).tokens n ++ rest) =
      some ((items.map name).zip ((numbered n (items.map value)).map (·.1)), rest) := by
  rw [assignmentTemplate, Template.tokens_join, Template.tokenLists_assignments hwrite]
  refine readList_intercalate ?_ hne ?_ hrest
  · intro a ha rest
    have hnumbered := (List.of_mem_zip ha).2
    rw [map_fst_numbered] at hnumbered
    rcases List.mem_map.mp hnumbered with ⟨m, -, hm⟩
    have hread := hitem a.1 m rest
    rwa [hm] at hread
  · rw [map_fst_numbered]
    simpa [List.zip_eq_nil_iff] using hitems

/-- A placeholder in front of tokens is read. -/
theorem readPlaceholder_placeholder (n : Nat) (rest : List Token) :
    readPlaceholder (.word (placeholder n) :: rest) = some (placeholder n, rest) := by
  rw [readPlaceholder, Template.atName?_placeholder]
  rfl

theorem readList_assignmentTemplate {entries : List (Column × Value)} (hne : entries ≠ []) (n : Nat)
    {rest : List Token} (hrest : rest.dropPrefix? [.comma, .space] = none) :
    readList [.comma, .space] readAssignment
        ((assignmentTemplate (fun e => .name e.1.name) (·.2) entries).tokens n ++ rest) =
      some ((entries.map (·.1.name)).zip ((numbered n (entries.map (·.2))).map (·.1)), rest) := by
  have hwrite : ∀ (e : Column × Value) m, (assignTemplate (.name e.1.name) e.2).tokens m =
      Template.assignTokens (e.1.name, placeholder m) := fun _ _ => rfl
  refine readList_assignments hwrite ?_ ?_ hne n hrest
  · intro a
    exact List.cons_ne_nil _ _
  · intro column m rest
    change (readPlaceholder (.word (placeholder m) :: rest)).bind _ = _
    rw [readPlaceholder_placeholder]
    rfl

/-! ## Bound values -/

/-- Looking placeholders up gives the values that are found under their numbers. -/
theorem mapM_numbered {look : String → Option Value} {n : Nat} {values : List Value}
    (h : ∀ i < values.length, look (placeholder (n + i)) = values[i]?) :
    ((numbered n values).map (·.1)).mapM look = some values := by
  induction values generalizing n with
  | nil => rfl
  | cons value values ih =>
      have hfirst : look (placeholder n) = some value := h 0 (Nat.zero_lt_succ _)
      have hrest := ih fun i hi => by
        have hnumber : n + 1 + i = n + (i + 1) := by omega
        rw [hnumber]
        exact h (i + 1) (Nat.succ_lt_succ hi)
      rw [numbered, List.map_cons, List.mapM_cons, hfirst, hrest]
      rfl

/-- The placeholders of the values that are bound first. -/
theorem mapM_get?_numbered (values after : List Value) :
    ((numbered 0 values).map (·.1)).mapM (NamedValues.get? ⟨numbered 0 (values ++ after)⟩) =
      some values := by
  refine mapM_numbered fun i hi => ?_
  rw [NamedValues.get?, lookup_numbered, List.getElem?_append_left hi]

end EntitySql
