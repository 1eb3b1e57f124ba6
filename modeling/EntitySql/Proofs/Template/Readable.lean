import EntitySql.Proofs.Template.Expression

/-! # Templates that can be read back

A template is readable when its tokens are valid and no two words stand side by side, where a slot
counts as a word. The lexer reads the text of a readable template back into its tokens, whatever
placeholders fill the slots (`Readable.lex_text`). The templates of expressions whose operators all
have tokens are readable, and they hold no placeholders of their own (`IsPlain`), so the
placeholders in their text are those of the slots, in order (`IsPlain.atNames_tokens`).
-/

namespace EntitySql

/-- The piece is written as a word. -/
@[simp] def Piece.isWord : Piece → Bool
  | .slot _ => true
  | .token (.word _) => true
  | .token _ => false

/-- One of two neighbours is no word. -/
def Piece.Separate (a b : Piece) : Prop := a.isWord = false ∨ b.isWord = false

namespace Template

/-- The text of the template is read back as its tokens. -/
structure Readable (t : Template) : Prop where
  valid : ∀ token, Piece.token token ∈ t → token.isValid = true
  separate : t.IsChain Piece.Separate

/-- The template begins with no word. -/
def BeginsMarked (t : Template) : Prop := ∀ piece ∈ t.head?, piece.isWord = false

/-- The template ends with no word. -/
def EndsMarked (t : Template) : Prop := ∀ piece ∈ t.getLast?, piece.isWord = false

@[simp] theorem beginsMarked_nil : BeginsMarked [] := by simp [BeginsMarked]

@[simp] theorem beginsMarked_cons (piece : Piece) (t : Template) :
    BeginsMarked (piece :: t) ↔ piece.isWord = false := by
  simp [BeginsMarked]

@[simp] theorem beginsMarked_ofTokens_nil : BeginsMarked (ofTokens []) := beginsMarked_nil

@[simp] theorem beginsMarked_ofTokens_cons (token : Token) (ts : List Token) :
    BeginsMarked (ofTokens (token :: ts)) ↔ (Piece.token token).isWord = false :=
  beginsMarked_cons _ _

@[simp] theorem beginsMarked_ofTokens_append (token : Token) (ts : List Token) (t : Template) :
    BeginsMarked (ofTokens (token :: ts) ++ t) ↔ (Piece.token token).isWord = false :=
  beginsMarked_cons _ _

@[simp] theorem endsMarked_nil : EndsMarked [] := by simp [EndsMarked]

@[simp] theorem endsMarked_singleton (piece : Piece) :
    EndsMarked [piece] ↔ piece.isWord = false := by
  simp [EndsMarked]

@[simp] theorem endsMarked_ofTokens_nil : EndsMarked (ofTokens []) := endsMarked_nil

@[simp] theorem endsMarked_ofTokens_singleton (token : Token) :
    EndsMarked (ofTokens [token]) ↔ (Piece.token token).isWord = false :=
  endsMarked_singleton _

@[simp] theorem endsMarked_ofTokens_cons (first second : Token) (ts : List Token) :
    EndsMarked (ofTokens (first :: second :: ts)) ↔ EndsMarked (ofTokens (second :: ts)) := by
  simp [EndsMarked, ofTokens]

end Template

theorem isWord_placeholder (n : Nat) : isWord (placeholder n).toList = true := by
  have hdigits : ∀ c ∈ Numeral.digits n, c.isDigit = true :=
    fun c hc => Numeral.isDigit_of_mem_digits hc
  have hcomment : hasComment (Numeral.digits n) = false := by
    have hchars : ∀ c ∈ Numeral.digits n, c ≠ '-' ∧ c ≠ '/' := by
      intro c hc
      constructor <;> rintro rfl <;> exact absurd (hdigits _ hc) (by decide)
    have happend : hasComment (Numeral.digits n ++ []) = hasComment [] := hasComment_append hchars
    rwa [List.append_nil] at happend
  have hwordChars : ∀ c ∈ Numeral.digits n, isWordChar c = true :=
    fun c hc => isWordChar_of_isNumeralChar (by simp [isNumeralChar, hdigits c hc])
  have hmarks : ∀ c ∈ "@param_".toList, c ≠ '-' ∧ c ≠ '/' := by
    intro c hc
    simp only [String.reduceToList, List.mem_cons, List.not_mem_nil, or_false] at hc
    rcases hc with rfl | rfl | rfl | rfl | rfl | rfl | rfl <;> decide
  -- neither the prefix nor a digit can begin a comment
  have hprefix : hasComment ("@param_".toList ++ Numeral.digits n) = false := by
    rw [hasComment_append hmarks, hcomment]
  have hall : ("@param_".toList ++ Numeral.digits n).all isWordChar = true := by
    rw [List.all_append, Bool.and_eq_true]
    exact ⟨by decide, List.all_eq_true.mpr hwordChars⟩
  rw [toList_placeholder, isWord, hprefix, hall]
  simp

namespace Template.Readable

variable {s t : Template}

theorem nil : Readable [] := ⟨by simp, List.IsChain.nil⟩

/-- One token is readable when it is valid. -/
theorem token {token : Token} (h : token.isValid = true) : Readable [.token token] := by
  refine ⟨?_, List.IsChain.singleton _⟩
  intro other hother
  obtain rfl : other = token := by simpa using hother
  exact h

theorem slot (value : Value) : Readable [.slot value] :=
  ⟨by simp, List.IsChain.singleton _⟩

/-- Two readable templates may follow each other when no two words meet. -/
theorem append (hs : Readable s) (ht : Readable t) (h : EndsMarked s ∨ BeginsMarked t) :
    Readable (s ++ t) := by
  constructor
  · intro token htoken
    rcases List.mem_append.mp htoken with htoken | htoken
    · exact hs.valid token htoken
    · exact ht.valid token htoken
  · refine List.isChain_append.mpr ⟨hs.separate, ht.separate, ?_⟩
    intro x hx y hy
    -- where the two parts meet, one of the neighbours is no word
    rcases h with h | h
    · exact Or.inl (h x hx)
    · exact Or.inr (h y hy)

/-- Tokens are readable under the conditions of the lexer. -/
theorem ofTokens {ts : List Token} (hvalid : ∀ t ∈ ts, t.isValid = true)
    (hsep : ts.IsChain Token.Separate) : Readable (.ofTokens ts) := by
  constructor
  · intro token htoken
    rcases List.mem_map.mp htoken with ⟨t, ht, heq⟩
    rcases Piece.token.inj heq with rfl
    exact hvalid t ht
  · refine List.isChain_map_of_isChain Piece.token ?_ hsep
    intro a b hab
    cases a <;> cases b <;> first | exact Or.inl rfl | exact Or.inr rfl | exact hab.elim

/-- A readable template stays so behind tokens of which the last is no word. -/
theorem behind {ts : List Token} (h : Readable t) (hvalid : ∀ u ∈ ts, u.isValid = true)
    (hsep : ts.IsChain Token.Separate) (hends : EndsMarked (.ofTokens ts)) :
    Readable (.ofTokens ts ++ t) :=
  (ofTokens hvalid hsep).append h (Or.inl hends)

/-- The tokens of a readable template are valid. -/
theorem isValid_of_mem (h : Readable t) {n : Nat} {token : Token} (hmem : token ∈ t.tokens n) :
    token.isValid = true := by
  induction t generalizing n with
  | nil => simp at hmem
  | cons piece t ih =>
      have htail : Readable t :=
        ⟨fun u hu => h.valid u (List.mem_cons_of_mem piece hu), h.separate.tail⟩
      cases piece with
      | token first =>
          rcases List.mem_cons.mp hmem with rfl | hmem
          · exact h.valid _ List.mem_cons_self
          · exact ih htail hmem
      | slot value =>
          rcases List.mem_cons.mp hmem with rfl | hmem
          -- a slot is filled with the word of a placeholder
          · exact isWord_placeholder n
          · exact ih htail hmem

/-- No two tokens of a readable template run together. -/
theorem isChain_tokens (h : Readable t) (n : Nat) : (t.tokens n).IsChain Token.Separate := by
  induction t generalizing n with
  | nil => exact List.IsChain.nil
  | cons piece t ih =>
      have htail : Readable t :=
        ⟨fun u hu => h.valid u (List.mem_cons_of_mem piece hu), h.separate.tail⟩
      have hhead : ∀ next ∈ t.head?, piece.Separate next :=
        (List.isChain_cons.mp h.separate).1
      -- a piece and its token are words together, so the tokens are separate where the pieces are
      have hfirst : ∀ (first : Token) (m : Nat), (Piece.token first).isWord = piece.isWord →
          ∀ next ∈ (tokens m t).head?, Token.Separate first next := by
        intro first m hword next hnext
        cases t with
        | nil => simp at hnext
        | cons second t =>
            have hsep : piece.Separate second := hhead second rfl
            rw [Piece.Separate, ← hword] at hsep
            cases second with
            | token token =>
                obtain rfl : token = next := by simpa using hnext
                cases first <;> cases token <;> simp_all [Token.Separate, Piece.isWord]
            | slot value =>
                obtain rfl : Token.word (placeholder m) = next := by simpa using hnext
                cases first <;> simp_all [Token.Separate, Piece.isWord]
      cases piece with
      | token token => exact List.isChain_cons.mpr ⟨hfirst token n rfl, ih htail n⟩
      | slot value =>
          exact List.isChain_cons.mpr ⟨hfirst (.word (placeholder n)) (n + 1) rfl, ih htail (n + 1)⟩

/-- The lexer reads the text of a readable template back. -/
theorem lex_text (h : Readable t) (n : Nat) :
    Token.lex (t.text n).toList = some (t.tokens n) := by
  rw [text, String.toList_ofList]
  exact Token.lex_write (fun token hmem => h.isValid_of_mem hmem) (h.isChain_tokens n)

end Template.Readable

/-! ## Placeholders in a text -/

/-- The word of a placeholder or of an argument's name. -/
def Token.atName? : Token → Option String
  | .word text => if text.toList.head? = some '@' then some text else none
  | _ => none

/-- The words that begin with an at sign, from left to right. -/
def Token.atNames (ts : List Token) : List String := ts.filterMap Token.atName?

/-- No word of the template itself begins with an at sign. -/
def Template.IsPlain (t : Template) : Prop :=
  ∀ text, Piece.token (.word text) ∈ t → text.toList.head? ≠ some '@'

namespace Template

@[simp] theorem isPlain_append {s t : Template} : IsPlain (s ++ t) ↔ IsPlain s ∧ IsPlain t := by
  constructor
  · intro h
    exact ⟨fun text hmem => h text (List.mem_append_left t hmem),
      fun text hmem => h text (List.mem_append_right s hmem)⟩
  · rintro ⟨hs, ht⟩ text hmem
    rcases List.mem_append.mp hmem with hmem | hmem
    · exact hs text hmem
    · exact ht text hmem

@[simp] theorem isPlain_slot (value : Value) : IsPlain [.slot value] := by
  simp [IsPlain]

theorem isPlain_nil : IsPlain [] := by
  simp [IsPlain]

theorem isPlain_token {token : Token} (h : token.atName? = none) : IsPlain [.token token] := by
  intro text hmem hhead
  obtain rfl : Token.word text = token := by simpa using hmem
  rw [Token.atName?, if_pos hhead] at h
  cases h

theorem isPlain_ofTokens {ts : List Token} (h : Token.atNames ts = []) :
    IsPlain (.ofTokens ts) := by
  intro text hmem hhead
  have htoken : Token.word text ∈ ts := by simpa [ofTokens] using hmem
  have hname : Token.atName? (.word text) = some text := if_pos hhead
  have hmem' : text ∈ Token.atNames ts := List.mem_filterMap.mpr ⟨_, htoken, hname⟩
  -- so the word would be among the names, of which there are none
  rw [h] at hmem'
  cases hmem'

theorem atName?_placeholder (n : Nat) :
    Token.atName? (.word (placeholder n)) = some (placeholder n) := by
  apply if_pos
  rw [toList_placeholder]
  rfl

/-- The placeholders in the text of a plain template are those of its slots. -/
theorem IsPlain.atNames_tokens {t : Template} (h : t.IsPlain) (n : Nat) :
    Token.atNames (t.tokens n) = (numbered n t.values).map (·.1) := by
  induction t generalizing n with
  | nil => rfl
  | cons piece t ih =>
      have htail : IsPlain t := fun text hmem => h text (List.mem_cons_of_mem piece hmem)
      cases piece with
      | token token =>
          have hnone : token.atName? = none := by
            cases token with
            | word text => exact if_neg (h text List.mem_cons_self)
            | _ => rfl
          rw [tokens_token, values_token, Token.atNames, List.filterMap_cons_none hnone]
          exact ih htail n
      | slot value =>
          rw [tokens_slot, values_slot, Token.atNames,
            List.filterMap_cons_some (atName?_placeholder n)]
          exact congrArg _ (ih htail (n + 1))

end Template

/-! ## Expressions -/

theorem Operator.isWord_token {op : Operator} {logical : Bool} {token : String}
    (h : op.token? logical = some token) :
    isWord token.toList = true ∧ token.toList.head? ≠ some '@' := by
  cases op <;> cases logical <;> simp only [token?, Option.some.injEq, reduceCtorEq] at h <;>
    subst h <;> decide

/-- No numeral begins with an at sign. -/
theorem IsNumeralWord.head?_ne {cs : List Char} (h : IsNumeralWord cs) : cs.head? ≠ some '@' := by
  intro hhead
  cases cs with
  | nil => cases hhead
  | cons c cs =>
      obtain rfl : c = '@' := by simpa using hhead
      have hnumeral := h.numeral
      simp [isNumeral] at hnumeral

namespace Expression

theorem unsupported?_eq_none {left : Expression} {op : Operator} {right : Expression}
    {logical : Bool} (h : (node left op right logical).unsupported? = none) :
    (∃ token, op.token? logical = some token) ∧ left.unsupported? = none ∧
      right.unsupported? = none := by
  rw [unsupported?] at h
  cases htoken : op.token? logical with
  | none => simp [htoken] at h
  | some token =>
      rw [htoken, Option.or_eq_none_iff] at h
      exact ⟨⟨token, rfl⟩, h⟩

theorem readable_value (value : Value) : value.template.Readable := by
  unfold Value.template
  cases h : value.literal? with
  | none => exact Template.Readable.slot value
  | some numeral => exact Template.Readable.token (Value.isNumeralWord_literal h).word

theorem isPlain_value (value : Value) : value.template.IsPlain := by
  unfold Value.template
  cases h : value.literal? with
  | none => exact Template.isPlain_slot value
  | some numeral =>
      intro text hmem
      obtain rfl : text = numeral := by simpa using hmem
      exact (Value.isNumeralWord_literal h).head?_ne

theorem readable_right {op : Operator} {right : Expression} {t : Template} (h : t.Readable) :
    (rightTemplate op right t).Readable := by
  unfold rightTemplate
  split
  · exact Template.Readable.slot _
  · exact h

theorem isPlain_right {op : Operator} {right : Expression} {t : Template} (h : t.IsPlain) :
    (rightTemplate op right t).IsPlain := by
  unfold rightTemplate
  split
  · exact Template.isPlain_slot _
  · exact h

theorem readable_lead (op : Operator) : (Template.ofTokens op.lead).Readable := by
  rw [Operator.lead]
  split
  · exact Template.Readable.ofTokens (by decide) (by simp [Token.Separate])
  · exact Template.Readable.nil

theorem readable_trail (op : Operator) : (Template.ofTokens op.trail).Readable := by
  rw [Operator.trail]
  split
  · exact Template.Readable.ofTokens (by decide) (by simp [Token.Separate])
  · exact Template.Readable.nil

/-- The word of an operator stands between spaces. -/
theorem readable_word {op : Operator} {logical : Bool} {token : String}
    (htoken : op.token? logical = some token) :
    (Template.ofTokens [.space, .word (op.word logical), .space]).Readable := by
  have hword : op.word logical = token := by rw [Operator.word, htoken]; rfl
  have hvalid : (Token.word token).isValid = true := (Operator.isWord_token htoken).1
  rw [hword]
  refine Template.Readable.ofTokens ?_ (by simp [Token.Separate])
  intro t ht
  simp only [List.mem_cons, List.not_mem_nil, or_false] at ht
  rcases ht with rfl | rfl | rfl
  · rfl
  · exact hvalid
  · rfl

/-- Spaces divide the word of a node and its wildcards from its sides. -/
theorem readable_sides {op : Operator} {logical : Bool} {token : String} {t u : Template}
    (htoken : op.token? logical = some token) (ht : t.Readable) (hu : u.Readable) :
    (Template.sides op logical t u).Readable := by
  have hlead : (Template.ofTokens op.lead).EndsMarked := by
    rw [Operator.lead]
    split <;> simp
  have htrail : (Template.ofTokens op.trail).BeginsMarked := by
    rw [Operator.trail]
    split <;> simp
  have hright : (u ++ Template.ofTokens op.trail).Readable :=
    hu.append (readable_trail op) (Or.inr htrail)
  have hleadRight : (Template.ofTokens op.lead ++ (u ++ Template.ofTokens op.trail)).Readable :=
    (readable_lead op).append hright (Or.inl hlead)
  have hmiddle : (Template.ofTokens [.space, .word (op.word logical), .space] ++
      (Template.ofTokens op.lead ++ (u ++ Template.ofTokens op.trail))).Readable :=
    (readable_word htoken).append hleadRight (Or.inl (by simp))
  have hsides : Template.sides op logical t u =
      t ++ (Template.ofTokens [.space, .word (op.word logical), .space] ++
        (Template.ofTokens op.lead ++ (u ++ Template.ofTokens op.trail))) := by
    simp [Template.sides, Template.ofTokens]
  rw [hsides]
  exact ht.append hmiddle (Or.inr (by simp))

theorem isPlain_sides {op : Operator} {logical : Bool} {token : String} {t u : Template}
    (htoken : op.token? logical = some token) (ht : t.IsPlain) (hu : u.IsPlain) :
    (Template.sides op logical t u).IsPlain := by
  have hword : op.word logical = token := by rw [Operator.word, htoken]; rfl
  have hat : Token.atName? (.word (op.word logical)) = none := by
    rw [hword]
    exact if_neg (Operator.isWord_token htoken).2
  have hlead : Token.atNames ([.space, .word (op.word logical), .space] ++ op.lead) = [] := by
    rw [Operator.lead]
    split <;> simp [Token.atNames, hat, List.filterMap_cons] <;> decide
  have htrail : Token.atNames op.trail = [] := by
    rw [Operator.trail]
    split <;> decide
  simp only [Template.sides, Template.isPlain_append]
  exact ⟨ht, Template.isPlain_ofTokens hlead, hu, Template.isPlain_ofTokens htrail⟩

theorem readable_parenthesize {t : Template} (h : t.Readable) : t.parenthesize.Readable := by
  have hopening : Template.Readable [.token .opening] := Template.Readable.token rfl
  have hclosing : Template.Readable [.token .closing] := Template.Readable.token rfl
  have hbegins : Template.BeginsMarked [.token .closing] := by simp
  have hends : Template.EndsMarked [.token .opening] := by simp
  exact hopening.append (h.append hclosing (Or.inr hbegins)) (Or.inl hends)

theorem isPlain_parenthesize {t : Template} (h : t.IsPlain) : t.parenthesize.IsPlain := by
  have hopening : Template.IsPlain [.token .opening] := Template.isPlain_token rfl
  have hclosing : Template.IsPlain [.token .closing] := Template.isPlain_token rfl
  exact Template.isPlain_append.mpr ⟨hopening, Template.isPlain_append.mpr ⟨h, hclosing⟩⟩

theorem readable_template {e : Expression} (h : e.unsupported? = none) :
    e.template.Readable ∧ e.template.IsPlain := by
  induction e with
  | absent => exact ⟨Template.Readable.nil, Template.isPlain_nil⟩
  | column name => exact ⟨Template.Readable.token rfl, Template.isPlain_token rfl⟩
  | literal value => exact ⟨readable_value value, isPlain_value value⟩
  | node left op right logical ihl ihr =>
      rcases unsupported?_eq_none h with ⟨⟨token, htoken⟩, hleft, hright⟩
      rcases ihl hleft with ⟨hlr, hlp⟩
      rcases ihr hright with ⟨hrr, hrp⟩
      exact ⟨readable_parenthesize (readable_sides htoken hlr (readable_right hrr)),
        isPlain_parenthesize (isPlain_sides htoken hlp (isPlain_right hrp))⟩

/-- The template of a whole condition is readable and plain. -/
theorem readable_rootTemplate {e : Expression} (h : e.unsupported? = none) :
    e.rootTemplate.Readable ∧ e.rootTemplate.IsPlain := by
  cases e with
  | absent => exact readable_template h
  | column name => exact readable_template h
  | literal value => exact readable_template h
  | node left op right logical =>
      rcases unsupported?_eq_none h with ⟨⟨token, htoken⟩, hleft, hright⟩
      rcases readable_template hleft with ⟨hlr, hlp⟩
      rcases readable_template hright with ⟨hrr, hrp⟩
      have hreadable : (Template.sides op logical left.template
          (rightTemplate op right right.template)).Readable :=
        readable_sides htoken hlr (readable_right hrr)
      have hplain : (Template.sides op logical left.template
          (rightTemplate op right right.template)).IsPlain :=
        isPlain_sides htoken hlp (isPlain_right hrp)
      rw [rootTemplate]
      split
      · exact ⟨hreadable, hplain⟩
      · exact ⟨readable_parenthesize hreadable, isPlain_parenthesize hplain⟩

end Expression

end EntitySql
