import EntitySql.BoundSql
import EntitySql.Proofs.Checked
import EntitySql.Proofs.Literal

/-! # Templates of SQL text

A template is a list of tokens with slots for the values that are bound. Writing it fills the slots
with placeholders, numbered in order from a given number on. Rendering is specified by templates:
`Writes r t failure` says that the rendering `r` either fails with `failure`, or gives the text of
`t` numbered from where the context stands and binds the values of `t` in order, from every context.

So whatever depends on a template alone — its text, the names of its placeholders — cannot depend
on what else has been rendered, and the order of the slots is the order of the bindings.
-/

namespace EntitySql

/-- A piece of SQL text: a token, or the slot of a bound value. -/
inductive Piece where
  | token (token : Token)
  | slot (value : Value)

/-- SQL text with slots for the bound values. -/
abbrev Template := List Piece

namespace Template

/-- The values of the slots, in order. -/
def values : Template → List Value
  | [] => []
  | .token _ :: t => values t
  | .slot value :: t => value :: values t

/-- The tokens of a template whose slots are numbered from `n` on. -/
def tokens : (n : Nat) → Template → List Token
  | _, [] => []
  | n, .token token :: t => token :: tokens n t
  | n, .slot _ :: t => .word (placeholder n) :: tokens (n + 1) t

/-- The text of a template whose slots are numbered from `n` on. -/
def text (n : Nat) (t : Template) : String := String.ofList (Token.write (tokens n t))

@[simp] theorem values_nil : values [] = [] := rfl

@[simp] theorem values_token (token : Token) (t : Template) :
    values (.token token :: t) = values t := rfl

@[simp] theorem values_slot (value : Value) (t : Template) :
    values (.slot value :: t) = value :: values t := rfl

@[simp] theorem tokens_nil (n : Nat) : tokens n [] = [] := rfl

@[simp] theorem tokens_token (n : Nat) (token : Token) (t : Template) :
    tokens n (.token token :: t) = token :: tokens n t := rfl

@[simp] theorem tokens_slot (n : Nat) (value : Value) (t : Template) :
    tokens n (.slot value :: t) = .word (placeholder n) :: tokens (n + 1) t := rfl

@[simp] theorem values_append (s t : Template) : values (s ++ t) = values s ++ values t := by
  induction s with
  | nil => rfl
  | cons piece s ih =>
      cases piece with
      | token token => simpa using ih
      | slot value => simpa using ih

/-- The second part is numbered from where the first one stops. -/
@[simp] theorem tokens_append (n : Nat) (s t : Template) :
    tokens n (s ++ t) = tokens n s ++ tokens (n + (values s).length) t := by
  induction s generalizing n with
  | nil => rfl
  | cons piece s ih =>
      cases piece with
      | token token => simp [ih]
      | slot value =>
          have hlength : n + 1 + (values s).length = n + ((values s).length + 1) := by omega
          simp [ih, hlength]

theorem text_append (n : Nat) (s t : Template) :
    text n (s ++ t) = text n s ++ text (n + (values s).length) t := by
  simp [text]

/-- The pieces of tokens alone. -/
def ofTokens (ts : List Token) : Template := ts.map .token

@[simp] theorem values_ofTokens (ts : List Token) : values (ofTokens ts) = [] := by
  induction ts with
  | nil => rfl
  | cons t ts ih => simpa [ofTokens] using ih

@[simp] theorem tokens_ofTokens (n : Nat) (ts : List Token) : tokens n (ofTokens ts) = ts := by
  induction ts with
  | nil => rfl
  | cons t ts ih => simpa [ofTokens] using ih

end Template

/-! ## Binding values in order -/

/-- Values under the placeholders from `n` on. -/
def numbered : (n : Nat) → List Value → List (String × Value)
  | _, [] => []
  | n, value :: rest => (placeholder n, value) :: numbered (n + 1) rest

namespace Context

/-- The context in which values have been bound in order. -/
def bindAll (values : List Value) (ctx : Context) : Context := (ctx.bindValues values).2

@[simp] theorem bindAll_nil (ctx : Context) : ctx.bindAll [] = ctx := rfl

@[simp] theorem bindAll_cons (value : Value) (values : List Value) (ctx : Context) :
    ctx.bindAll (value :: values) = (ctx.bindValue value).2.bindAll values := rfl

theorem bindAll_append (vs ws : List Value) (ctx : Context) :
    ctx.bindAll (vs ++ ws) = (ctx.bindAll vs).bindAll ws := by
  induction vs generalizing ctx with
  | nil => rfl
  | cons v vs ih => exact ih _

@[simp] theorem counter_bindAll (values : List Value) (ctx : Context) :
    (ctx.bindAll values).counter = ctx.counter + values.length := by
  induction values generalizing ctx with
  | nil => rfl
  | cons v values ih =>
      have hstep : (ctx.bindValue v).2.counter = ctx.counter + 1 := rfl
      rw [bindAll_cons, ih, hstep, List.length_cons]
      omega

/-- Binding appends the values under the next placeholders. -/
theorem entries_bindAll (values : List Value) (ctx : Context) :
    (ctx.bindAll values).bindings.entries =
      ctx.bindings.entries ++ numbered ctx.counter values := by
  induction values generalizing ctx with
  | nil => simp [numbered]
  | cons v values ih =>
      rw [bindAll_cons, ih]
      simp [bindValue, numbered]

end Context

/-! ## Renderings -/

/-- From every context the rendering fails with `failure`, or without one it gives the text of the
template and binds its values. A rendering that fails may have bound values too. -/
def Writes (r : Rendering) (t : Template) (failure : Option PredicateError) : Prop :=
  ∀ ctx : Context,
    match failure with
    | none => r.run ctx = (.ok (t.text ctx.counter), ctx.bindAll t.values)
    | some cause => ∃ values, r.run ctx = (.error cause, ctx.bindAll values)

namespace Writes

variable {r s : Rendering} {t u : Template} {failure : Option PredicateError}

/-- A text without slots is written as it is. -/
theorem of_pure (ts : List Token) {text : String} (h : text.toList = Token.write ts) :
    Writes (pure text) (.ofTokens ts) none := by
  intro ctx
  have htext : (Template.ofTokens ts).text ctx.counter = text := by
    rw [Template.text, Template.tokens_ofTokens, ← h, String.ofList_toList]
  rw [htext, Template.values_ofTokens]
  rfl

/-- A value is bound to one slot. -/
theorem of_bound (value : Value) : Writes (Expression.bound value) [.slot value] none := by
  intro ctx
  have htext : Template.text ctx.counter [.slot value] = placeholder ctx.counter := by
    simp [Template.text, Token.chars]
  rw [htext]
  rfl

theorem of_throw (cause : PredicateError) (t : Template) : Writes (throw cause) t (some cause) := by
  intro ctx
  exact ⟨[], rfl⟩

theorem run_ok (h : Writes r t none) (ctx : Context) :
    r.run ctx = (.ok (t.text ctx.counter), ctx.bindAll t.values) := h ctx

theorem run_error {cause : PredicateError} (h : Writes r t (some cause)) (ctx : Context) :
    ∃ values, r.run ctx = (.error cause, ctx.bindAll values) := h ctx

/-- The text of a rendering changed by a function is the text of another template with the same
slots. -/
theorem map (f : String → String) (hr : Writes r t failure) (htext : ∀ n, f (t.text n) = u.text n)
    (hvalues : u.values = t.values) : Writes (f <$> r) u failure := by
  intro ctx
  have hrun := hr ctx
  rw [map_eq_pure_bind, run_bind_state]
  cases failure with
  | none =>
      rw [hrun, hvalues, ← htext]
      rfl
  | some cause =>
      -- what was bound before the failure stays bound
      rcases hrun with ⟨values, hrun⟩
      rw [hrun]
      exact ⟨values, rfl⟩

/-- Two renderings one after the other: the second one is numbered from where the first stops, and
it is not reached when the first one fails. -/
theorem seq {w : Template} {failure' : Option PredicateError} (f : String → String → String)
    (hr : Writes r t failure) (hs : Writes s u failure')
    (htext : ∀ n, f (t.text n) (u.text (n + t.values.length)) = w.text n)
    (hvalues : w.values = t.values ++ u.values) :
    Writes (r >>= fun a => s >>= fun b => pure (f a b)) w (failure.or failure') := by
  intro ctx
  have hrun := hr ctx
  rw [run_bind_state]
  cases failure with
  | some cause =>
      rcases hrun with ⟨values, hrun⟩
      rw [hrun]
      exact ⟨values, rfl⟩
  | none =>
      rw [hrun]
      -- the second rendering starts from the context that the first one leaves
      have hrun' := hs (ctx.bindAll t.values)
      rw [Context.counter_bindAll] at hrun'
      cases failure' with
      | some cause =>
          rcases hrun' with ⟨values, hrun'⟩
          -- the second rendering fails after the first one has bound its values
          refine ⟨t.values ++ values, ?_⟩
          change (s >>= fun b => pure (f (t.text ctx.counter) b)).run (ctx.bindAll t.values) = _
          rw [run_bind_state, hrun', Context.bindAll_append]
      | none =>
          change (s >>= fun b => pure (f (t.text ctx.counter) b)).run (ctx.bindAll t.values) = _
          rw [run_bind_state, hrun', hvalues, Context.bindAll_append, ← htext]
          rfl

end Writes

end EntitySql
