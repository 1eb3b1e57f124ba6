import EntitySql.Proofs.Bracketed
import Mathlib.Logic.Function.Basic

/-! # Names in the text of commands

The names of tables, columns and procedures stand in the text of a command whatever their
characters are, so brackets have to keep them in: no name ends before its closing bracket, and none
loses a character. Reading is the inverse of writing in both directions. `scan` reads an identifier
exactly where its written form stands in front of a text that does not begin with a closing bracket
(`scan_eq_some_iff`). `scanObject` reads an object name of one or more parts in front of a text that
does not go on with a dot either (`scanObject_eq_some_iff`).

Main statement: `quoted_names_read_back`.
-/

namespace EntitySql.Bracketed

/-! ## Identifiers -/

/-- An identifier is read where it is written, up to its own closing bracket. -/
theorem scan_eq_some_iff {cs name rest : List Char} :
    scan cs = some (name, rest) ↔ cs = quoteChars name ++ rest ∧ rest.head? ≠ some ']' := by
  rw [quoteChars_append]
  constructor
  · intro h
    unfold scan at h
    split at h
    · next cs =>
        rcases eq_escape_of_scanInside h with ⟨rfl, hrest⟩
        exact ⟨rfl, hrest⟩
    · cases h
  · rintro ⟨rfl, hrest⟩
    exact scanInside_escape name rest hrest

/-- Reading an identifier takes at least its brackets. -/
theorem length_scan {cs name rest : List Char} (h : scan cs = some (name, rest)) :
    rest.length < cs.length := by
  rw [(scan_eq_some_iff.mp h).1, quoteChars_append, List.length_cons, List.length_append,
    List.length_cons]
  omega

/-! ## Object names -/

/-- Reads identifiers with a dot between neighbours: their names and the text after the last one. -/
def scanObject (cs : List Char) : Option (List (List Char) × List Char) :=
  match _hscan : scan cs with
  | none => none
  | some (part, '.' :: rest) => (scanObject rest).map fun (parts, rest) => (part :: parts, rest)
  | some (part, rest) => some ([part], rest)
termination_by cs.length
decreasing_by
  have := length_scan _hscan
  rw [List.length_cons] at this
  omega

/-- Behind a dot the next part is read. -/
theorem scanObject_dot {cs part rest : List Char} (h : scan cs = some (part, '.' :: rest)) :
    scanObject cs = (scanObject rest).map fun (parts, rest) => (part :: parts, rest) := by
  rw [scanObject]
  split
  · next hnone => cases hnone.symm.trans h
  · next hsome =>
      cases hsome.symm.trans h
      rfl
  · next hdot hsome =>
      cases hsome.symm.trans h
      exact absurd rfl (hdot rest)

/-- A part without a dot behind it is the last one. -/
theorem scanObject_last {cs part rest : List Char} (h : scan cs = some (part, rest))
    (hdot : rest.head? ≠ some '.') : scanObject cs = some ([part], rest) := by
  rw [scanObject]
  split
  · next hnone => cases hnone.symm.trans h
  · next hsome =>
      cases hsome.symm.trans h
      exact absurd rfl hdot
  · next hsome =>
      cases hsome.symm.trans h
      rfl

/-- The first part is written in front of a dot and the other parts. -/
theorem joinParts_quoteChars_cons {parts : List (List Char)} (h : parts ≠ [])
    (part rest : List Char) :
    joinParts ((part :: parts).map quoteChars) ++ rest =
      quoteChars part ++ '.' :: (joinParts (parts.map quoteChars) ++ rest) := by
  have hwritten : parts.map quoteChars ≠ [] := mt List.map_eq_nil_iff.mp h
  rw [List.map_cons, joinParts, List.append_assoc, List.cons_append]
  exact hwritten

/-- Written parts are read back. -/
theorem scanObject_joinParts {parts : List (List Char)} (hne : parts ≠ []) {rest : List Char}
    (hbracket : rest.head? ≠ some ']') (hdot : rest.head? ≠ some '.') :
    scanObject (joinParts (parts.map quoteChars) ++ rest) = some (parts, rest) := by
  induction parts with
  | nil => exact absurd rfl hne
  | cons part parts ih =>
      by_cases hlast : parts = []
      · subst hlast
        have hscan : scan (quoteChars part ++ rest) = some (part, rest) :=
          scan_eq_some_iff.mpr ⟨rfl, hbracket⟩
        exact scanObject_last hscan hdot
      · -- the dot behind the first part does not run together with its closing bracket
        have hscan := scan_eq_some_iff.mpr ⟨joinParts_quoteChars_cons hlast part rest, by simp⟩
        rw [scanObject_dot hscan, ih hlast]
        rfl

/-- What is read of an object name is its written form, with one part at least. -/
theorem eq_joinParts_of_scanObject {cs : List Char} {parts : List (List Char)} {rest : List Char}
    (h : scanObject cs = some (parts, rest)) :
    parts ≠ [] ∧ cs = joinParts (parts.map quoteChars) ++ rest ∧
      rest.head? ≠ some ']' ∧ rest.head? ≠ some '.' := by
  induction cs using scanObject.induct generalizing parts rest with
  | case1 cs hnone =>
      rw [scanObject] at h
      split at h
      · cases h
      · next hsome => cases hnone.symm.trans hsome
      · next hsome => cases hnone.symm.trans hsome
  | case2 cs part behind hscan ih =>
      rw [scanObject_dot hscan] at h
      rcases Option.map_eq_some_iff.mp h with ⟨⟨others, r⟩, hread, heq⟩
      rcases Prod.mk.inj heq with ⟨rfl, rfl⟩
      rcases ih hread with ⟨hne, rfl, hend⟩
      refine ⟨List.cons_ne_nil part others, ?_, hend⟩
      rw [joinParts_quoteChars_cons hne]
      exact (scan_eq_some_iff.mp hscan).1
  | case3 cs part behind hlast hscan =>
      have hdot : behind.head? ≠ some '.' := by
        intro hhead
        rcases List.head?_eq_some_iff.mp hhead with ⟨tail, htail⟩
        exact hlast tail htail
      rw [scanObject_last hscan hdot] at h
      rcases Prod.mk.inj (Option.some.inj h) with ⟨rfl, rfl⟩
      rcases scan_eq_some_iff.mp hscan with ⟨hwritten, hbracket⟩
      exact ⟨List.cons_ne_nil part [], hwritten, hbracket, hdot⟩

/-- An object name is read where its parts are written, up to where no dot follows. -/
theorem scanObject_eq_some_iff {cs : List Char} {parts : List (List Char)} {rest : List Char} :
    scanObject cs = some (parts, rest) ↔
      parts ≠ [] ∧ cs = joinParts (parts.map quoteChars) ++ rest ∧
        rest.head? ≠ some ']' ∧ rest.head? ≠ some '.' := by
  constructor
  · exact eq_joinParts_of_scanObject
  · rintro ⟨hne, rfl, hbracket, hdot⟩
    exact scanObject_joinParts hne hbracket hdot

/-! ## Written names -/

theorem toList_quote (name : String) : (quote name).toList = quoteChars name.toList :=
  String.toList_ofList

theorem toList_quoteObject (name : String) :
    (quoteObject name).toList = joinParts ((name.toList.splitOn '.').map quoteChars) := by
  rw [quoteObject, String.toList_ofList, parts_eq_splitOn]

theorem scan_quote (name : String) : scan (quote name).toList = some (name.toList, []) := by
  rw [toList_quote]
  exact scan_eq_some_iff.mpr ⟨(List.append_nil _).symm, by simp⟩

theorem scanObject_quoteObject (name : String) :
    scanObject (quoteObject name).toList = some (name.toList.splitOn '.', []) := by
  have hne : name.toList.splitOn '.' ≠ [] := List.splitOn_ne_nil '.' name.toList
  rw [toList_quoteObject]
  exact scanObject_eq_some_iff.mpr ⟨hne, (List.append_nil _).symm, by simp, by simp⟩

theorem quote_injective : Function.Injective quote := by
  intro name other h
  have hscan := scan_quote name
  rw [h, scan_quote other] at hscan
  exact String.toList_injective (Prod.mk.inj (Option.some.inj hscan)).1.symm

theorem quoteObject_injective : Function.Injective quoteObject := by
  intro name other h
  have hscan := scanObject_quoteObject name
  rw [h, scanObject_quoteObject other] at hscan
  have hparts := (Prod.mk.inj (Option.some.inj hscan)).1
  have hjoined := congrArg (List.intercalate ['.']) hparts
  rw [List.intercalate_splitOn, List.intercalate_splitOn] at hjoined
  exact String.toList_injective hjoined.symm

/-- An identifier in front of a text is read as its name, and the text is left, exactly when the
text does not begin with a closing bracket. An object name is read as the parts that its dots
separate, which joined by dots are the name. So no two names are written alike. -/
theorem quoted_names_read_back :
    (∀ name rest : String,
      scan (quote name ++ rest).toList = some (name.toList, rest.toList) ↔
        rest.toList.head? ≠ some ']') ∧
    (∀ name : String, ∃ parts, scanObject (quoteObject name).toList = some (parts, []) ∧
      parts = name.toList.splitOn '.' ∧ ['.'].intercalate parts = name.toList) ∧
    Function.Injective quote ∧ Function.Injective quoteObject := by
  refine ⟨?_, ?_, quote_injective, quoteObject_injective⟩
  · intro name rest
    rw [String.toList_append, toList_quote, scan_eq_some_iff]
    exact and_iff_right rfl
  · intro name
    exact ⟨_, scanObject_quoteObject name, rfl, List.intercalate_splitOn '.'⟩

example : scan "[odd]]name] = 1".toList = some ("odd]name".toList, " = 1".toList) := by decide

end EntitySql.Bracketed
