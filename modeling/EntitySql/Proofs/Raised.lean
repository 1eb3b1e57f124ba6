import EntitySql.Proofs.Template.ReadableCommand

/-! # Raised placeholders

Raising a text by `k` adds `k` to the number of every placeholder in it and leaves everything else
as it is: names in brackets, literals in quotes, operators and numerals. Raising a bound text
raises the names of its bindings too, so each placeholder keeps its value.

A rendering that starts behind `k` bindings gives the raised text of the rendering that starts from
nothing: `raise_ofTemplate`.
-/

namespace EntitySql

/-- The number of a placeholder; any other word has none. -/
def placeholderNumber? (name : String) : Option Nat :=
  let n := Numeral.value (name.toList.drop "@param_".length)
  if name = placeholder n then some n else none

/-- The name of the placeholder whose number is greater by `k`. -/
def raiseName (k : Nat) (name : String) : String :=
  match placeholderNumber? name with
  | some n => placeholder (n + k)
  | none => name

/-- Only words can be placeholders. -/
def Token.raise (k : Nat) : Token → Token
  | .word text => .word (raiseName k text)
  | t => t

/-- The text with all its placeholders raised. A text that cannot be read holds none. -/
def raiseText (k : Nat) (text : String) : String :=
  match Token.lex text.toList with
  | some ts => String.ofList (Token.write (ts.map (Token.raise k)))
  | none => text

/-- The bound text with its placeholders raised, in the text and in the bindings. -/
def BoundSql.raise (k : Nat) (sql : BoundSql) : BoundSql :=
  ⟨raiseText k sql.text, ⟨sql.bindings.entries.map fun e => (raiseName k e.1, e.2)⟩⟩

/-! ## Names -/

@[simp] theorem placeholderNumber?_placeholder (n : Nat) :
    placeholderNumber? (placeholder n) = some n := by
  have hdigits : (placeholder n).toList.drop "@param_".length = Numeral.digits n := by
    rw [toList_placeholder]
    exact List.drop_left
  rw [placeholderNumber?, hdigits, Numeral.value_digits]
  exact if_pos rfl

@[simp] theorem raiseName_placeholder (k n : Nat) :
    raiseName k (placeholder n) = placeholder (n + k) := by
  simp [raiseName]

/-- A word without an at sign in front is no placeholder. -/
theorem raiseName_of_head?_ne {name : String} (h : name.toList.head? ≠ some '@') (k : Nat) :
    raiseName k name = name := by
  have hnone : placeholderNumber? name = none := by
    rw [placeholderNumber?]
    apply if_neg
    intro heq
    apply h
    rw [heq, toList_placeholder]
    rfl
  rw [raiseName, hnone]

/-! ## Templates -/

namespace Template

/-- Raising the tokens of a plain template numbers its slots from a greater number on. -/
theorem IsPlain.raise_tokens {t : Template} (h : t.IsPlain) (k n : Nat) :
    (t.tokens n).map (Token.raise k) = t.tokens (n + k) := by
  induction t generalizing n with
  | nil => rfl
  | cons piece t ih =>
      have htail : IsPlain t := fun text hmem => h text (List.mem_cons_of_mem piece hmem)
      cases piece with
      | token token =>
          -- the template's own words are no placeholders
          have htoken : token.raise k = token := by
            cases token with
            | word text =>
                have hhead : text.toList.head? ≠ some '@' := h text List.mem_cons_self
                rw [Token.raise, raiseName_of_head?_ne hhead]
            | _ => rfl
          rw [tokens_token, tokens_token, List.map_cons, htoken, ih htail]
      | slot value =>
          have hnumber : n + 1 + k = n + k + 1 := by omega
          rw [tokens_slot, tokens_slot, List.map_cons, ih htail, hnumber, Token.raise,
            raiseName_placeholder]

/-- Raising the text of a template numbers its slots from a greater number on. -/
theorem Scannable.raise_text {t : Template} (h : t.Scannable) (k n : Nat) :
    raiseText k (t.text n) = t.text (n + k) := by
  have hlex : Token.lex (t.text n).toList = some (t.tokens n) := h.readable.lex_text n
  have htokens : (t.tokens n).map (Token.raise k) = t.tokens (n + k) := h.plain.raise_tokens k n
  simp only [raiseText, hlex, htokens]
  rw [text]

end Template

theorem map_raiseName_numbered (k n : Nat) (values : List Value) :
    (numbered n values).map (fun e => (raiseName k e.1, e.2)) = numbered (n + k) values := by
  induction values generalizing n with
  | nil => rfl
  | cons value values ih =>
      have hnumber : n + 1 + k = n + k + 1 := by omega
      rw [numbered, numbered, List.map_cons, ih, hnumber, raiseName_placeholder]

/-- The values of the second part are numbered from where the first part stops. -/
theorem numbered_append (n : Nat) (vs ws : List Value) :
    numbered n (vs ++ ws) = numbered n vs ++ numbered (n + vs.length) ws := by
  induction vs generalizing n with
  | nil => rfl
  | cons v vs ih =>
      have hnumber : n + 1 + vs.length = n + (vs.length + 1) := by omega
      rw [List.cons_append, numbered, numbered, ih, hnumber, List.cons_append, List.length_cons]

/-- A template written from placeholder `n` on, with its bindings. -/
def BoundSql.writtenFrom (n : Nat) (t : Template) : BoundSql := ⟨t.text n, ⟨numbered n t.values⟩⟩

theorem BoundSql.writtenFrom_zero (t : Template) : writtenFrom 0 t = ofTemplate t := rfl

/-- Raising what is written from placeholder zero on gives what is written from `k` on. -/
theorem BoundSql.raise_ofTemplate {t : Template} (h : t.Scannable) (k : Nat) :
    (ofTemplate t).raise k = writtenFrom k t := by
  have htext : raiseText k (t.text 0) = t.text k := by rw [h.raise_text, Nat.zero_add]
  have hentries : (numbered 0 t.values).map (fun e => (raiseName k e.1, e.2)) =
      numbered k t.values := by rw [map_raiseName_numbered, Nat.zero_add]
  rw [raise, ofTemplate, htext, hentries, writtenFrom]

end EntitySql
