import EntitySql.Proofs.FieldAttributes
import EntitySql.Proofs.Filtering
import EntitySql.Proofs.ListReading
import EntitySql.Proofs.Validation

/-! # Columns and their values

What a command writes is read off its text and its bindings: the columns from their brackets, and
their values from the placeholders in the same places. A record of a derived schema is written into
the columns of the mapped fields that are no key, in declaration order, and each column gets the
value of its own field.

Main statement: `columns_paired_with_values`.
-/

namespace EntitySql

/-! ## Reading commands -/

/-- What an insertion says: the parts of the table's name, the columns and the bound values. -/
structure Insertion where
  table : List String
  columns : List String
  values : List Value

/-- What an update says in front of its filter. -/
structure Update where
  table : List String
  assignments : List (String × Value)

/-- What a selection says in front of its filter. -/
structure Selection where
  count : String
  columns : List String
  table : List String

/-- The head of a command ends in front of the tokens: they are none or those of a filter. -/
def endsHead (ts : List Token) : Bool :=
  ts.isEmpty || [.space, .word "WHERE", .space].isPrefixOf ts

/-- Reads a word. -/
def readWord : ItemReader String
  | .word text :: ts => some (text, ts)
  | _ => none

/-- Reads columns, of which there may be none. -/
def readColumns (ts : List Token) : List String × List Token :=
  (readList [.comma, .space] readName ts).getD ([], ts)

namespace BoundSql

/-- Reads an insertion. -/
def insertion? (sql : BoundSql) : Option Insertion := do
  let ts ← Token.lex sql.text.toList
  let ts ← ts.dropPrefix? [.word "INSERT", .space, .word "INTO", .space]
  let (table, ts) ← readList [.word "."] readName ts
  let ts ← ts.dropPrefix? [.space, .opening]
  let (columns, ts) ← readList [.comma, .space] readName ts
  let ts ← ts.dropPrefix? [.closing, .space, .word "OUTPUT", .space, .word "INSERTED.*", .space,
    .word "VALUES", .space, .opening]
  let (names, ts) ← readList [.comma, .space] readPlaceholder ts
  let values ← names.mapM sql.bindings.get?
  if ts = [.closing] then some ⟨table, columns, values⟩ else none

/-- Reads an update. -/
def update? (sql : BoundSql) : Option Update := do
  let ts ← Token.lex sql.text.toList
  let ts ← ts.dropPrefix? [.word "UPDATE", .space]
  let (table, ts) ← readList [.word "."] readName ts
  let ts ← ts.dropPrefix? [.space, .word "SET", .space]
  let (assignments, ts) ← readList [.comma, .space] readAssignment ts
  let values ← (assignments.map (·.2)).mapM sql.bindings.get?
  if endsHead ts then some ⟨table, (assignments.map (·.1)).zip values⟩ else none

/-- Reads a selection. -/
def selection? (sql : BoundSql) : Option Selection := do
  let ts ← Token.lex sql.text.toList
  let ts ← ts.dropPrefix? [.word "SELECT", .space, .word "TOP", .space]
  let (count, ts) ← readWord ts
  let ts ← ts.dropPrefix? [.space]
  let (columns, ts) := readColumns ts
  let ts ← ts.dropPrefix? [.space, .word "FROM", .space]
  let (table, ts) ← readList [.word "."] readName ts
  if endsHead ts then some ⟨count, columns, table⟩ else none

end BoundSql

/-! ## What the commands of a schema say -/

theorem readColumns_columnTemplate (columns : List Column) (n : Nat) (rest : List Token) :
    readColumns ((columnTemplate columns).tokens n ++ ([.space, .word "FROM", .space] ++ rest)) =
      (columns.map (·.name), [.space, .word "FROM", .space] ++ rest) := by
  rw [readColumns]
  cases columns with
  | nil => rfl
  | cons c columns =>
      rw [readList_columnTemplate (by simp) n rfl]
      rfl

namespace Schema

variable {s : Schema} {predicate : Option Predicate} {limit : Option Nat}

/-- Where a filter begins a head ends, and so does a list. -/
theorem endsHead_filterTemplate {t : Template} (h : s.filterTemplate predicate limit = .ok t)
    (n : Nat) :
    endsHead (t.tokens n) = true ∧ (t.tokens n).dropPrefix? [.comma, .space] = none ∧
      (t.tokens n).dropPrefix? [.word "."] = none := by
  cases predicate with
  | none =>
      obtain rfl := Except.ok.inj h
      exact ⟨rfl, rfl, rfl⟩
  | some p =>
      rcases map_eq_ok.mp h with ⟨e, -, rfl⟩
      rw [Template.tokens_append, Template.tokens_ofTokens]
      exact ⟨rfl, rfl, rfl⟩

theorem insertion?_insertTemplate (s : Schema) {entries : List (Column × Value)}
    (hne : entries ≠ []) :
    (BoundSql.ofTemplate (s.insertTemplate entries)).insertion? =
      some ⟨objectParts s.table, entries.map (·.1.name), entries.map (·.2)⟩ := by
  have htokens : (s.insertTemplate entries).tokens 0 =
      [.word "INSERT", .space, .word "INTO", .space] ++ ((objectTemplate s.table).tokens 0 ++
        ([.space, .opening] ++ ((columnTemplate (entries.map (·.1))).tokens 0 ++
          ([.closing, .space, .word "OUTPUT", .space, .word "INSERTED.*", .space, .word "VALUES",
              .space, .opening] ++
            ((slotTemplate (entries.map (·.2))).tokens 0 ++ [.closing]))))) := by
    simp [insertTemplate, hne, phrase]
  have hlex := (s.scannable_insertTemplate entries).readable.lex_text 0
  rw [htokens] at hlex
  have hcolumns : entries.map (·.1) ≠ [] := by simpa using hne
  have hvalues : entries.map (·.2) ≠ [] := by simpa using hne
  have hbound := mapM_get?_numbered (entries.map (·.2)) []
  rw [List.append_nil] at hbound
  rw [BoundSql.insertion?, BoundSql.ofTemplate, hlex, values_insertTemplate]
  simp only [Option.bind_eq_bind, Option.bind_some, dropPrefix?_append]
  rw [readList_objectTemplate s.table 0 rfl]
  simp only [Option.bind_some, dropPrefix?_append]
  rw [readList_columnTemplate hcolumns 0 rfl]
  simp only [Option.bind_some, dropPrefix?_append]
  rw [readList_slotTemplate hvalues 0 rfl]
  simp only [Option.bind_some, hbound, if_true, List.map_map]
  rfl

theorem update?_updateHead {t : Template} (h : s.filterTemplate predicate limit = .ok t)
    {entries : List (Column × Value)} (hne : entries ≠ []) :
    (BoundSql.ofTemplate (s.updateHead entries ++ t)).update? =
      some ⟨objectParts s.table, entries.map fun e => (e.1.name, e.2)⟩ := by
  rcases scannable_filterTemplate h with ⟨hscannable, hbegins⟩
  rcases endsHead_filterTemplate h entries.length with ⟨hends, hcomma, -⟩
  have htokens : (s.updateHead entries ++ t).tokens 0 =
      [.word "UPDATE", .space] ++ ((objectTemplate s.table).tokens 0 ++
        ([.space, .word "SET", .space] ++
          ((assignmentTemplate (fun e => .name e.1.name) (·.2) entries).tokens 0 ++
            t.tokens entries.length))) := by
    simp [updateHead]
  have hwhole := (s.scannable_updateHead entries).append hscannable (Or.inr hbegins)
  have hlex := hwhole.readable.lex_text 0
  rw [htokens] at hlex
  -- the values of the filter are bound behind the assigned ones
  have hbound := mapM_get?_numbered (entries.map (·.2)) t.values
  rw [BoundSql.update?, BoundSql.ofTemplate, hlex, Template.values_append, values_updateHead]
  simp only [Option.bind_eq_bind, Option.bind_some, dropPrefix?_append]
  rw [readList_objectTemplate s.table 0 rfl]
  simp only [Option.bind_some, dropPrefix?_append]
  rw [readList_assignmentTemplate hne 0 hcomma]
  have hlength : (entries.map (·.1.name)).length =
      ((numbered 0 (entries.map (·.2))).map (·.1)).length := by
    simp [map_fst_numbered]
  simp only [Option.bind_some, List.map_snd_zip hlength.ge, List.map_fst_zip hlength.le, hbound,
    hends, if_true, List.zip_map']

theorem selection?_selectHead (s : Schema) (count : Nat) {t : Template}
    (h : s.filterTemplate predicate limit = .ok t) :
    (BoundSql.ofTemplate (s.selectHead count ++ t)).selection? =
      some ⟨Numeral.ofNat count, s.columnNames, objectParts s.table⟩ := by
  rcases scannable_filterTemplate h with ⟨hscannable, hbegins⟩
  rcases endsHead_filterTemplate h 0 with ⟨hends, -, hdot⟩
  have htokens : (s.selectHead count ++ t).tokens 0 =
      [.word "SELECT", .space, .word "TOP", .space] ++ (.word (Numeral.ofNat count) ::
        ([.space] ++ ((columnTemplate s.columns).tokens 0 ++ ([.space, .word "FROM", .space] ++
          ((objectTemplate s.table).tokens 0 ++ t.tokens 0))))) := by
    simp [selectHead, phrase]
  have hwhole := (s.scannable_selectHead count).append hscannable (Or.inr hbegins)
  have hlex := hwhole.readable.lex_text 0
  rw [htokens] at hlex
  rw [BoundSql.selection?, BoundSql.ofTemplate, hlex]
  simp only [Option.bind_eq_bind, Option.bind_some, dropPrefix?_append, readWord,
    readColumns_columnTemplate]
  rw [readList_objectTemplate s.table 0 hdot]
  simp only [Option.bind_some, hends, if_true]
  rfl

/-! ## Commands and their predicates -/

/-- The command fails with the error of its predicate, or else it is read as `said`. -/
def ReadsAs {α : Type} (s : Schema) (predicate : Option Predicate) (limit : Option Nat)
    (command : Except Error BoundSql) (read : BoundSql → Option α) (said : α) : Prop :=
  match s.conditionWithin limit predicate with
  | .error cause => command = .error (.predicate cause)
  | .ok _ => ∃ sql, command = .ok sql ∧ read sql = some said

/-- What is read of a head, whatever filter follows it, is read of the command. -/
theorem readsAs_command {head : Template} {command : Except Error BoundSql}
    (hcommand : command = ((s.filterTemplate predicate limit).map fun t =>
      BoundSql.ofTemplate (head ++ t)).mapError .predicate)
    {α : Type} {read : BoundSql → Option α} {said : α}
    (hread : ∀ t, s.filterTemplate predicate limit = .ok t →
      read (BoundSql.ofTemplate (head ++ t)) = some said) :
    s.ReadsAs predicate limit command read said := by
  have hmap := s.map_filterTemplate head predicate limit
  rw [ReadsAs, hcommand]
  cases hfilter : s.filterTemplate predicate limit with
  | error cause =>
      rw [hfilter] at hmap
      cases hcondition : s.conditionWithin limit predicate with
      | error cause' =>
          rw [hcondition] at hmap
          rw [Except.error.inj hmap]
          rfl
      | ok filter =>
          rw [hcondition] at hmap
          cases hmap
  | ok t =>
      rw [hfilter] at hmap
      cases hcondition : s.conditionWithin limit predicate with
      | error cause =>
          rw [hcondition] at hmap
          cases hmap
      | ok filter => exact ⟨_, rfl, hread t hfilter⟩

/-- A record of which no value is too long is written as it is. -/
theorem written_of_excess? {record : Record}
    (h : ∀ e ∈ s.writable record, s.excess? e.1 e.2 = none) :
    s.written record = .ok (s.writable record) := by
  refine mapM_of_forall₂ (List.forall₂_same.mpr fun e he => ?_)
  have hreport := s.reports_assign e.1 e.2
  rw [h e he] at hreport
  rcases hreport with ⟨entry, hentry⟩
  rw [hentry, assign_eq_ok hentry]

/-- An update of a record sets what the record writes. -/
theorem update_of_written {record : Record} {entries : List (Column × Value)}
    (h : s.written record = .ok entries) :
    s.update record predicate limit = s.updateValues entries predicate limit := by
  rw [update, h]
  rfl

end Schema

/-! ## Derived schemas -/

/-- The value is no longer than the field's column allows. -/
def FieldDescription.fits (f : FieldDescription) (value : Value) : Bool :=
  match f.maxLength?, value.length? with
  | some max, some actual => actual ≤ max
  | _, _ => true

namespace Description

variable {d : Description} {s : Schema} {record : Record}

/-- The fields that are written, in declaration order: those with a column that is no key. -/
def writtenFields (d : Description) : List FieldDescription := d.mapped.filter fun f => !f.isKey

/-- The fields that are written with the values that a record has for them. -/
def writtenValues (d : Description) (record : Record) : List (FieldDescription × Value) :=
  (d.mappedValues record).filter fun e => !e.1.isKey

/-- The columns that are written with the values that a record has for them. -/
def entries (d : Description) (record : Record) : List (Column × Value) :=
  (d.writtenValues record).map fun e => (e.1.column, e.2)

/-- Each value that a record writes fits into its column. -/
def Fits (d : Description) (record : Record) : Prop :=
  ∀ e ∈ d.writtenValues record, e.1.fits e.2 = true

instance : Decidable (d.Fits record) := inferInstanceAs (Decidable (∀ _ ∈ _, _))

theorem mem_writtenFields {f : FieldDescription} :
    f ∈ d.writtenFields ↔ f ∈ d.fields ∧ f.isSkipped = false ∧ f.isKey = false := by
  simp only [writtenFields, mapped, List.mem_filter, Bool.not_eq_true', and_assoc]

theorem map_fst_writtenValues (hlength : record.length = d.fields.length) :
    (d.writtenValues record).map (·.1) = d.writtenFields := by
  rw [writtenFields, ← map_fst_mappedValues hlength, List.filter_map]
  rfl

theorem entries_eq_nil_iff (hlength : record.length = d.fields.length) :
    d.entries record = [] ↔ d.writtenFields = [] := by
  rw [← map_fst_writtenValues hlength, entries, List.map_eq_nil_iff, List.map_eq_nil_iff]

/-- What a record of a derived schema writes if every value fits. -/
theorem writable_of_derive (h : d.derive = .ok s) (hlength : record.length = d.fields.length) :
    s.writable record = d.entries record := by
  rw [Schema.writable, zip_toValues_of_derive h hlength, List.filter_map]
  rfl

theorem excess?_of_fits {f : FieldDescription} {value : Value} (h : f.fits value = true) :
    s.excess? f.column value = none := by
  have hlength : f.column.maxLength = f.maxLength? := rfl
  rw [FieldDescription.fits] at h
  rw [Schema.excess?, hlength]
  cases hmax : f.maxLength? with
  | none => rfl
  | some max =>
      cases hactual : value.length? with
      | none => rfl
      | some actual =>
          have hle : actual ≤ max := by simpa [hmax, hactual] using h
          exact if_neg (Nat.not_lt.mpr hle)

theorem written_of_derive (h : d.derive = .ok s) (hlength : record.length = d.fields.length)
    (hfits : d.Fits record) : s.written record = .ok (d.entries record) := by
  rw [← writable_of_derive h hlength]
  refine Schema.written_of_excess? ?_
  rw [writable_of_derive h hlength]
  intro entry hentry
  rcases List.mem_map.mp hentry with ⟨e, he, rfl⟩
  exact excess?_of_fits (hfits e he)

theorem insertion?_of_derive (h : d.derive = .ok s) (hlength : record.length = d.fields.length)
    (hfits : d.Fits record) (hne : d.writtenFields ≠ []) :
    ∃ sql, s.insert record = .ok sql ∧
      sql.insertion? = some ⟨objectParts s.table, d.writtenFields.map (·.columnName),
        (d.writtenValues record).map (·.2)⟩ := by
  have hread := s.insertion?_insertTemplate (mt (entries_eq_nil_iff hlength).mp hne)
  rw [entries, List.map_map, List.map_map] at hread
  rw [Schema.insert_eq, written_of_derive h hlength hfits, ← map_fst_writtenValues hlength,
    List.map_map]
  exact ⟨_, rfl, hread⟩

theorem update?_of_derive (h : d.derive = .ok s) (hlength : record.length = d.fields.length)
    (hfits : d.Fits record) (hne : d.writtenFields ≠ []) (predicate : Option Predicate)
    (limit : Option Nat) :
    s.ReadsAs predicate limit (s.update record predicate limit) BoundSql.update?
      ⟨objectParts s.table, (d.writtenValues record).map fun e => (e.1.columnName, e.2)⟩ := by
  have hentries := mt (entries_eq_nil_iff hlength).mp hne
  rw [Schema.update_of_written (written_of_derive h hlength hfits)]
  refine Schema.readsAs_command (s.updateValues_eq hentries predicate limit) fun t ht => ?_
  rw [Schema.update?_updateHead ht hentries, entries, List.map_map]
  rfl

/-- Without a field to write a row of defaults is inserted, and there is nothing to update. -/
theorem defaults_of_derive (h : d.derive = .ok s) (hlength : record.length = d.fields.length)
    (hfits : d.Fits record) (hnone : d.writtenFields = []) :
    s.insert record = .ok ⟨"INSERT INTO " ++ Bracketed.quoteObject s.table ++
        " OUTPUT INSERTED.* DEFAULT VALUES", .empty⟩ ∧
      ∀ predicate limit, s.update record predicate limit = .error (.nothingToUpdate s.table) := by
  have hwritten : s.written record = .ok [] := by
    rw [written_of_derive h hlength hfits, (entries_eq_nil_iff hlength).mpr hnone]
  constructor
  · rw [Schema.insert, hwritten]
    rfl
  · intro predicate limit
    rw [Schema.update_of_written hwritten]
    rfl

theorem selection?_of_derive (h : d.derive = .ok s) (count : Nat) (predicate : Option Predicate)
    (limit : Option Nat) :
    s.ReadsAs predicate limit (s.selectTop count predicate limit) BoundSql.selection?
      ⟨Numeral.ofNat count, d.mapped.map (·.columnName), objectParts s.table⟩ := by
  have hnames : s.columnNames = d.mapped.map (·.columnName) := by
    rw [Schema.columnNames, columns_of_derive h, List.map_map]
    rfl
  rw [← hnames]
  exact Schema.readsAs_command (s.selectTop_eq count predicate limit) fun t ht =>
    s.selection?_selectHead count ht

end Description

/-- A record of a derived schema is written into the columns of the mapped fields that are no key,
in declaration order, each column with the value of its own field. Without such a field a row of
defaults is inserted and there is nothing to update. A selection lists the columns of all mapped
fields. -/
theorem columns_paired_with_values {d : Description} {s : Schema} (hderive : d.derive = .ok s)
    {record : Record} (hlength : record.length = d.fields.length) (hfits : d.Fits record) :
    (d.writtenValues record).map (·.1) = d.writtenFields ∧
    (∀ f, f ∈ d.writtenFields ↔ f ∈ d.fields ∧ f.isSkipped = false ∧ f.isKey = false) ∧
    (d.writtenFields ≠ [] →
      (∃ sql, s.insert record = .ok sql ∧
        sql.insertion? = some ⟨objectParts s.table, d.writtenFields.map (·.columnName),
          (d.writtenValues record).map (·.2)⟩) ∧
      ∀ predicate limit, s.ReadsAs predicate limit (s.update record predicate limit)
        BoundSql.update? ⟨objectParts s.table,
          (d.writtenValues record).map fun e => (e.1.columnName, e.2)⟩) ∧
    (d.writtenFields = [] →
      s.insert record = .ok ⟨"INSERT INTO " ++ Bracketed.quoteObject s.table ++
        " OUTPUT INSERTED.* DEFAULT VALUES", .empty⟩ ∧
      ∀ predicate limit, s.update record predicate limit = .error (.nothingToUpdate s.table)) ∧
    ∀ count predicate limit, s.ReadsAs predicate limit (s.selectTop count predicate limit)
      BoundSql.selection? ⟨Numeral.ofNat count, d.mapped.map (·.columnName),
        objectParts s.table⟩ := by
  refine ⟨Description.map_fst_writtenValues hlength, fun f => Description.mem_writtenFields, ?_,
    ?_, ?_⟩
  · intro hne
    exact ⟨Description.insertion?_of_derive hderive hlength hfits hne,
      Description.update?_of_derive hderive hlength hfits hne⟩
  · exact Description.defaults_of_derive hderive hlength hfits
  · exact Description.selection?_of_derive hderive

/-- A struct with its key between other fields, a field without a column, and a column whose name
holds a bracket. -/
def Description.event : Description where
  kind := .namedStruct
  name := "Event"
  isPublic := true
  generics := []
  attributes := [⟨"entity", .list [⟨"table", some (.str "audit.events")⟩]⟩]
  fields :=
    [⟨"message", .named "String", [⟨"column", .list [⟨"max_length", some (.int "10")⟩]⟩]⟩,
      ⟨"id", .named "i64", [⟨"primary_key", .bare⟩]⟩,
      ⟨"cached", .named "String", [⟨"column", .list [⟨"skip", none⟩]⟩]⟩,
      ⟨"payload", .applied "Vec" [.named "u8"],
        [⟨"column", .list [⟨"name", some (.str "pay]load")⟩, ⟨"max_length", some (.int "4")⟩]⟩]⟩]

/-- The skipped text is longer than any column allows. -/
def Record.event : Record := [.text "started", .int 7, .text "not a column", .bytes [1, 2]]

theorem columns_paired_with_values_event :
    ∃ s, Description.event.derive = .ok s ∧ Description.event.Fits Record.event ∧
      (∃ sql, s.insert Record.event = .ok sql ∧
        sql.insertion? =
          some ⟨["audit", "events"], ["message", "pay]load"], [.text "started", .bytes [1, 2]]⟩) ∧
      ∃ sql, s.update Record.event none none = .ok sql ∧
        sql.update? = some ⟨["audit", "events"],
          [("message", .text "started"), ("pay]load", .bytes [1, 2])]⟩ := by
  obtain ⟨s, hderive⟩ : ∃ s, Description.event.derive = .ok s := ⟨_, rfl⟩
  have hlength : List.length Record.event = Description.event.fields.length := rfl
  have hfits : Description.event.Fits Record.event := by decide
  have hfields : Description.event.writtenFields ≠ [] := List.cons_ne_nil _ _
  rcases columns_paired_with_values hderive hlength hfits with ⟨-, -, hwrites, -⟩
  rcases hwrites hfields with ⟨hinsert, hupdate⟩
  refine ⟨s, hderive, hfits, ?_⟩
  obtain rfl := Except.ok.inj hderive
  exact ⟨hinsert, hupdate none none⟩

end EntitySql
