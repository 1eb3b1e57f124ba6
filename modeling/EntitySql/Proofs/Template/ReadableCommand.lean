import EntitySql.Proofs.Template.Command
import EntitySql.Proofs.Template.Readable

/-! # Templates of commands can be read back

The templates of all commands are readable, and all but those of calls are plain: only a call holds
words of its own that begin with an at sign, the names of its arguments.
-/

namespace EntitySql

namespace Template

/-- Joined templates are readable when the separator has no word at either end. -/
theorem Readable.join {separator : List Token} {ts : List Template}
    (hsep : (Template.ofTokens separator).Readable)
    (hbegins : ∀ t, (Template.ofTokens separator ++ t).BeginsMarked)
    (hends : (Template.ofTokens separator).EndsMarked) (h : ∀ t ∈ ts, t.Readable) :
    (Template.join separator ts).Readable := by
  induction ts using Template.join.induct with
  | case1 => exact Readable.nil
  | case2 t => exact h t List.mem_cons_self
  | case3 t rest hne ih =>
      have hrest := ih fun u hu => h u (List.mem_cons_of_mem t hu)
      rw [Template.join]
      · exact (h t List.mem_cons_self).append (hsep.append hrest (Or.inl hends))
          (Or.inr (hbegins _))
      · exact hne

theorem IsPlain.join {separator : List Token} {ts : List Template}
    (hsep : (Template.ofTokens separator).IsPlain) (h : ∀ t ∈ ts, t.IsPlain) :
    (Template.join separator ts).IsPlain := by
  induction ts using Template.join.induct with
  | case1 => exact isPlain_nil
  | case2 t => exact h t List.mem_cons_self
  | case3 t rest hne ih =>
      have hrest := ih fun u hu => h u (List.mem_cons_of_mem t hu)
      rw [Template.join]
      · simp only [isPlain_append]
        exact ⟨h t List.mem_cons_self, hsep, hrest⟩
      · exact hne

/-- Readable templates stay readable with commas between them. -/
theorem Readable.join_comma {ts : List Template} (h : ∀ t ∈ ts, t.Readable) :
    (Template.join [.comma, .space] ts).Readable := by
  apply Readable.join
  · exact Readable.ofTokens (by decide) (by simp [Token.Separate])
  · intro t
    simp
  · simp
  · exact h

theorem IsPlain.join_comma {ts : List Template} (h : ∀ t ∈ ts, t.IsPlain) :
    (Template.join [.comma, .space] ts).IsPlain :=
  IsPlain.join (isPlain_ofTokens rfl) h

/-- The template is readable and all its placeholders are slots. -/
structure Scannable (t : Template) : Prop where
  readable : t.Readable
  plain : t.IsPlain

namespace Scannable

variable {s t : Template}

theorem nil : Scannable [] := ⟨Readable.nil, isPlain_nil⟩

theorem append (hs : Scannable s) (ht : Scannable t) (h : EndsMarked s ∨ BeginsMarked t) :
    Scannable (s ++ t) :=
  ⟨hs.readable.append ht.readable h, isPlain_append.mpr ⟨hs.plain, ht.plain⟩⟩

theorem ofTokens {ts : List Token} (hvalid : ∀ t ∈ ts, t.isValid = true)
    (hsep : ts.IsChain Token.Separate) (hplain : Token.atNames ts = []) :
    Scannable (.ofTokens ts) :=
  ⟨Readable.ofTokens hvalid hsep, isPlain_ofTokens hplain⟩

theorem join_comma {ts : List Template} (h : ∀ t ∈ ts, t.Scannable) :
    Scannable (Template.join [.comma, .space] ts) :=
  ⟨Readable.join_comma fun t ht => (h t ht).readable, IsPlain.join_comma fun t ht => (h t ht).plain⟩

end Scannable

end Template

open Template

/-! ## Names and phrases -/

/-- A phrase of plain words. -/
theorem scannable_phrase {words : List String}
    (h : ∀ w ∈ words, isWord w.toList = true ∧ w.toList.head? ≠ some '@') :
    (phrase words).Scannable := by
  have hword : ∀ w ∈ words, Scannable [.token (.word w)] := by
    intro w hw
    rcases h w hw with ⟨hvalid, hhead⟩
    exact ⟨Readable.token hvalid, isPlain_token (if_neg hhead)⟩
  have hspace : Scannable [.token .space] := ⟨Readable.token rfl, isPlain_token rfl⟩
  induction words with
  | nil => exact Scannable.nil
  | cons w words ih =>
      have hrest := ih (fun v hv => h v (List.mem_cons_of_mem w hv))
        (fun v hv => hword v (List.mem_cons_of_mem w hv))
      cases words with
      | nil => exact hword w List.mem_cons_self
      | cons v words =>
          have hends : EndsMarked [.token .space] := by simp
          have hbegins : BeginsMarked ([.token .space] ++ phrase (v :: words)) := by simp
          exact (hword w List.mem_cons_self).append (hspace.append hrest (Or.inl hends))
            (Or.inr hbegins)

/-- The parts of an object name are identifiers, with a word between any two of them. -/
theorem scannable_objectTemplate (name : String) : (objectTemplate name).Scannable := by
  constructor
  · rw [objectTemplate]
    generalize Bracketed.parts name.toList = parts
    induction parts with
    | nil => exact Readable.nil
    | cons part parts ih =>
        have hname : Readable [.token (.name (String.ofList part))] := Readable.token rfl
        cases parts with
        | nil => exact hname
        | cons next parts =>
            -- the dot is a word, and identifiers stand on both sides of it
            have hdot : Readable [.token (.word ".")] := Readable.token (by decide)
            have hbegins : BeginsMarked (Template.join [.word "."]
                ((next :: parts).map fun part => [.token (.name (String.ofList part))])) := by
              cases parts <;> simp [Template.join]
            have hends : EndsMarked [.token (.name (String.ofList part))] := by simp
            exact hname.append (hdot.append ih (Or.inr hbegins)) (Or.inl hends)
  · apply IsPlain.join (isPlain_ofTokens (by decide))
    intro t ht
    rcases List.mem_map.mp ht with ⟨part, -, rfl⟩
    exact isPlain_token rfl

theorem scannable_columnTemplate (columns : List Column) : (columnTemplate columns).Scannable := by
  apply Scannable.join_comma
  intro t ht
  rcases List.mem_map.mp ht with ⟨c, -, rfl⟩
  exact ⟨Readable.token rfl, isPlain_token rfl⟩

theorem scannable_slotTemplate (values : List Value) : (slotTemplate values).Scannable := by
  apply Scannable.join_comma
  intro t ht
  rcases List.mem_map.mp ht with ⟨value, -, rfl⟩
  exact ⟨Readable.slot value, isPlain_slot value⟩

/-! ## Assignments -/

theorem readable_assignTemplate {target : Token} (h : target.isValid = true) (value : Value) :
    (assignTemplate target value).Readable := by
  have hequals : (Template.ofTokens [.space, .word "=", .space]).Readable :=
    Readable.ofTokens (by decide) (by simp [Token.Separate])
  have hbegins :
      (Template.ofTokens [.space, .word "=", .space] ++ [Piece.slot value]).BeginsMarked := by
    simp
  have hends : (Template.ofTokens [.space, .word "=", .space]).EndsMarked := by simp
  exact (Readable.token h).append (hequals.append (Readable.slot value) (Or.inl hends))
    (Or.inr hbegins)

theorem readable_assignmentTemplate {α : Type} {target : α → Token} {value : α → Value}
    {items : List α} (h : ∀ item ∈ items, (target item).isValid = true) :
    (assignmentTemplate target value items).Readable := by
  apply Readable.join_comma
  intro t ht
  rcases List.mem_map.mp ht with ⟨item, hitem, rfl⟩
  exact readable_assignTemplate (h item hitem) _

/-- Assignments to columns. -/
theorem scannable_assignmentTemplate (values : List (Column × Value)) :
    (assignmentTemplate (fun e => .name e.1.name) (·.2) values).Scannable := by
  refine ⟨readable_assignmentTemplate fun _ _ => rfl, ?_⟩
  apply IsPlain.join_comma
  intro t ht
  rcases List.mem_map.mp ht with ⟨e, -, rfl⟩
  have htokens : IsPlain (.ofTokens [.name e.1.name, .space, .word "=", .space]) :=
    isPlain_ofTokens (by simp [Token.atNames, Token.atName?])
  exact isPlain_append.mpr ⟨htokens, isPlain_slot e.2⟩

/-! ## Commands -/

theorem Template.Scannable.behind {ts : List Token} {t : Template} (h : t.Scannable)
    (hvalid : ∀ u ∈ ts, u.isValid = true) (hsep : ts.IsChain Token.Separate)
    (hplain : Token.atNames ts = []) (hends : (Template.ofTokens ts).EndsMarked) :
    (Template.ofTokens ts ++ t).Scannable :=
  ⟨h.readable.behind hvalid hsep hends, isPlain_append.mpr ⟨isPlain_ofTokens hplain, h.plain⟩⟩

/-- A template behind a space. -/
theorem Template.Scannable.space_append {t : Template} (h : t.Scannable) :
    (Template.ofTokens [.space] ++ t).Scannable :=
  h.behind (by decide) (by simp) rfl (by simp)

theorem beginsMarked_space (t : Template) : (Template.ofTokens [.space] ++ t).BeginsMarked := by
  simp

theorem isNumeralWord_ofNat (n : Nat) : IsNumeralWord (Numeral.ofNat n).toList := by
  have hword := (isMagnitude_digits n).isNumeralWord_plain false
  rwa [Numeral.ofNat, String.toList_ofList]

namespace Schema

theorem scannable_selectHead (s : Schema) (count : Nat) : (s.selectHead count).Scannable := by
  have hphrase : (phrase ["SELECT", "TOP", Numeral.ofNat count]).Scannable := by
    apply scannable_phrase
    intro w hw
    simp only [List.mem_cons, List.not_mem_nil, or_false] at hw
    -- only the last word, the count, is not a fixed one
    rcases hw with rfl | rfl | rfl
    · decide
    · decide
    · exact ⟨(isNumeralWord_ofNat count).word, (isNumeralWord_ofNat count).head?_ne⟩
  have hfrom : (Template.ofTokens [.space, .word "FROM", .space] ++
      objectTemplate s.table).Scannable :=
    (scannable_objectTemplate s.table).behind (by decide) (by simp [Token.Separate]) (by decide)
      (by simp)
  have hcolumns := (scannable_columnTemplate s.columns).append hfrom (Or.inr (by simp))
  exact hphrase.append hcolumns.space_append (Or.inr (beginsMarked_space _))

theorem scannable_deleteHead (s : Schema) : s.deleteHead.Scannable := by
  have hphrase : (phrase ["DELETE", "FROM"]).Scannable := scannable_phrase (by decide)
  exact hphrase.append (scannable_objectTemplate s.table).space_append
    (Or.inr (beginsMarked_space _))

theorem scannable_updateHead (s : Schema) (values : List (Column × Value)) :
    (s.updateHead values).Scannable := by
  have hset : (Template.ofTokens [.space, .word "SET", .space] ++
      assignmentTemplate (fun e => .name e.1.name) (·.2) values).Scannable :=
    (scannable_assignmentTemplate values).behind (by decide) (by simp [Token.Separate]) (by decide)
      (by simp)
  have htable := (scannable_objectTemplate s.table).append hset (Or.inr (by simp))
  exact htable.behind (by decide) (by simp [Token.Separate]) (by decide) (by simp)

/-- The part of an insertion behind the table. -/
theorem scannable_insertTemplate (s : Schema) (values : List (Column × Value)) :
    (s.insertTemplate values).Scannable := by
  have hinto : (phrase ["INSERT", "INTO"]).Scannable := scannable_phrase (by decide)
  have hopening : ∀ t : Template, t.Scannable →
      (Template.ofTokens [.space, .opening] ++ t).Scannable :=
    fun t ht => ht.behind (by decide) (by simp [Token.Separate]) rfl (by simp)
  have hclosing : (Template.ofTokens [.closing]).Scannable :=
    Scannable.ofTokens (by decide) (by simp) rfl
  have houtput : (phrase ["OUTPUT", "INSERTED.*", "VALUES"]).Scannable :=
    scannable_phrase (by decide)
  have hdefaults : (phrase ["OUTPUT", "INSERTED.*", "DEFAULT", "VALUES"]).Scannable :=
    scannable_phrase (by decide)
  have hslots := (scannable_slotTemplate (values.map (·.2))).append hclosing (Or.inr (by simp))
  have hvalues := houtput.append (hopening _ hslots) (Or.inr (by simp))
  have hrest : (Template.ofTokens [.closing, .space] ++ _).Scannable :=
    hvalues.behind (by decide) (by simp [Token.Separate]) rfl (by simp)
  have hcolumns := (scannable_columnTemplate (values.map (·.1))).append hrest (Or.inr (by simp))
  have hinsert := hopening _ hcolumns
  have htable := scannable_objectTemplate s.table
  -- without values there is neither a list of columns nor one of slots
  rw [insertTemplate]
  refine hinto.append (Scannable.space_append ?_) (Or.inr (beginsMarked_space _))
  split
  · exact htable.append hdefaults.space_append (Or.inr (beginsMarked_space _))
  · refine htable.append hinsert (Or.inr ?_)
    simp

/-- The part of a command behind its head. -/
theorem scannable_filterTemplate {s : Schema} {predicate : Option Predicate} {limit : Option Nat}
    {t : Template} (h : s.filterTemplate predicate limit = .ok t) :
    t.Scannable ∧ t.BeginsMarked := by
  cases predicate with
  | none =>
      obtain rfl : [] = t := Except.ok.inj h
      exact ⟨Scannable.nil, by simp⟩
  | some p =>
      rcases map_eq_ok.mp h with ⟨e, hcompiled, rfl⟩
      rcases Expression.readable_rootTemplate (Predicate.compiled_eq_ok hcompiled).2 with
        ⟨hreadable, hplain⟩
      have hroot : e.rootTemplate.Scannable := ⟨hreadable, hplain⟩
      constructor
      · exact hroot.behind (by decide) (by simp [Token.Separate]) (by decide) (by simp)
      · simp

end Schema

end EntitySql
