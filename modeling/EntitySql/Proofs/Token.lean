import EntitySql.Proofs.Bracketed
import Mathlib.Data.List.Chain
import Mathlib.Data.List.TakeWhile

/-! # Tokens of SQL text

The text of a command as a reader sees it: identifiers in brackets, string literals in quotes, and
outside of both only single marks and words. Operators, keywords, numerals and placeholders are all
words. The lexer refuses what no command may hold outside of brackets and quotes: a statement
separator, a comment, an identifier or a literal without an end.

Main statement: `lex_write`, a list of tokens without two neighbours that run together is what the
lexer reads from its written form.
-/

namespace EntitySql

/-- A token of SQL text. -/
inductive Token where
  | space
  | opening
  | closing
  | comma
  /-- An identifier in brackets. -/
  | name (text : String)
  /-- A string literal. -/
  | quoted (text : String)
  /-- A keyword, an operator, a numeral or a placeholder. -/
  | word (text : String)
  deriving DecidableEq, Repr

/-- The characters of words. -/
def isWordChar (c : Char) : Bool := c.isAlphanum || "@_.+-*/%&|^~=<>".toList.contains c

/-- A comment begins somewhere in the characters. -/
def hasComment : List Char → Bool
  | '-' :: '-' :: _ => true
  | '/' :: '*' :: _ => true
  | _ :: cs => hasComment cs
  | [] => false

/-- The characters are those of one word. -/
def isWord (cs : List Char) : Bool := !cs.isEmpty && cs.all isWordChar && !hasComment cs

namespace Token

/-- The written form of a token. -/
def chars : Token → List Char
  | space => [' ']
  | opening => ['(']
  | closing => [')']
  | comma => [',']
  | name text => Bracketed.quoteChars text.toList
  | quoted text => '\'' :: (text.toList ++ ['\''])
  | word text => text.toList

/-- The token can be read back: a word is one, and a literal holds no quote. -/
def isValid : Token → Bool
  | quoted text => !text.toList.contains '\''
  | word text => isWord text.toList
  | _ => true

/-- Two neighbours do not run together in the text. -/
def Separate : Token → Token → Prop
  | word _, word _ => False
  | _, _ => True

/-! ## The lexer -/

/-- The tokens of a text, if it can be read to its end. A doubled quote is read as the end of one
literal and the beginning of the next, so what stands between quotes is never read as a word. -/
def lex (input : List Char) : Option (List Token) :=
  match input with
  | [] => some []
  | ' ' :: rest => (lex rest).map (space :: ·)
  | '(' :: rest => (lex rest).map (opening :: ·)
  | ')' :: rest => (lex rest).map (closing :: ·)
  | ',' :: rest => (lex rest).map (comma :: ·)
  | '[' :: rest =>
    match _hscan : Bracketed.scanInside rest with
    | none => none
    | some (text, rest') => (lex rest').map (name (String.ofList text) :: ·)
  | '\'' :: rest =>
    match _hdrop : rest.dropWhile (· != '\'') with
    | [] => none
    | _ :: rest' =>
      (lex rest').map (quoted (String.ofList (rest.takeWhile (· != '\''))) :: ·)
  | c :: rest =>
    if isWord (c :: rest.takeWhile isWordChar) then
      (lex (rest.dropWhile isWordChar)).map
        (word (String.ofList (c :: rest.takeWhile isWordChar)) :: ·)
    else none
termination_by input.length
decreasing_by
  all_goals simp only [List.length_cons]
  all_goals try omega
  -- behind an identifier, behind a literal and behind a word
  · have := Bracketed.length_scanInside _hscan
    omega
  · have := List.length_dropWhile_le (· != '\'') rest
    rw [_hdrop, List.length_cons] at this
    omega
  · have := List.length_dropWhile_le isWordChar rest
    omega

/-- A character that may begin a word begins none of the other tokens. -/
theorem isWordChar_not_mark {c : Char} (h : isWordChar c = true) :
    c ≠ ' ' ∧ c ≠ '(' ∧ c ≠ ')' ∧ c ≠ ',' ∧ c ≠ '[' ∧ c ≠ ']' ∧ c ≠ '\'' := by
  refine ⟨?_, ?_, ?_, ?_, ?_, ?_, ?_⟩ <;> rintro rfl <;> exact absurd h (by decide)

/-- The lexer takes a whole word when no character of a word follows it. -/
theorem lex_word {cs rest : List Char} (hword : isWord cs = true)
    (hrest : ∀ c, rest.head? = some c → isWordChar c = false) :
    lex (cs ++ rest) = (lex rest).map (word (String.ofList cs) :: ·) := by
  cases cs with
  | nil => simp [isWord] at hword
  | cons c cs =>
      have hchars : ∀ d ∈ c :: cs, isWordChar d = true := by
        simp only [isWord, Bool.and_eq_true, List.all_eq_true] at hword
        exact hword.1.2
      have htail : ∀ d ∈ cs, isWordChar d = true := fun d hd => hchars d (List.mem_cons_of_mem c hd)
      -- what follows begins with no character of a word, so the word ends here
      have hstop : rest.takeWhile isWordChar = [] ∧ rest.dropWhile isWordChar = rest := by
        cases rest with
        | nil => exact ⟨rfl, rfl⟩
        | cons d rest =>
            have hd : isWordChar d = false := hrest d rfl
            simp [hd]
      have htake : (cs ++ rest).takeWhile isWordChar = cs := by
        rw [List.takeWhile_append_of_pos htail, hstop.1, List.append_nil]
      have hdrop : (cs ++ rest).dropWhile isWordChar = rest := by
        rw [List.dropWhile_append_of_pos htail, hstop.2]
      rcases isWordChar_not_mark (hchars c List.mem_cons_self) with ⟨h1, h2, h3, h4, h5, -, h6⟩
      -- the first character begins no other token, so only the case of words is left
      rw [List.cons_append, lex]
      · rw [htake, hdrop, if_pos hword]
      all_goals assumption

/-- The lexer takes a whole literal. -/
theorem lex_quoted {cs rest : List Char} (h : '\'' ∉ cs) :
    lex ('\'' :: (cs ++ '\'' :: rest)) = (lex rest).map (quoted (String.ofList cs) :: ·) := by
  have hcs : ∀ c ∈ cs, (c != '\'') = true := by
    intro c hc
    rw [bne_iff_ne]
    rintro rfl
    exact h hc
  have hdrop : (cs ++ '\'' :: rest).dropWhile (· != '\'') = '\'' :: rest := by
    rw [List.dropWhile_append_of_pos hcs]
    rfl
  have htake : (cs ++ '\'' :: rest).takeWhile (· != '\'') = cs := by
    rw [List.takeWhile_append_of_pos hcs]
    simp
  rw [lex]
  split
  · next hnil => rw [hdrop] at hnil; cases hnil
  · next c rest' hcons =>
      rw [hdrop] at hcons
      rcases List.cons.inj hcons with ⟨-, rfl⟩
      rw [htake]

/-- The lexer takes a whole identifier. -/
theorem lex_name (cs : List Char) {rest : List Char} (h : rest.head? ≠ some ']') :
    lex (Bracketed.quoteChars cs ++ rest) = (lex rest).map (name (String.ofList cs) :: ·) := by
  have hscan := Bracketed.scanInside_escape cs rest h
  rw [Bracketed.quoteChars_append, lex]
  split
  · next hnone => rw [hscan] at hnone; cases hnone
  · next text rest' hsome =>
      rw [hscan] at hsome
      rcases Prod.mk.inj (Option.some.inj hsome) with ⟨rfl, rfl⟩
      rfl

/-! ## Reading written tokens -/

/-- The written form of a list of tokens. -/
def write (ts : List Token) : List Char := ts.flatMap chars

@[simp] theorem write_nil : write [] = [] := rfl

@[simp] theorem write_cons (t : Token) (ts : List Token) :
    write (t :: ts) = t.chars ++ write ts := by
  simp [write]

@[simp] theorem write_append (ts us : List Token) : write (ts ++ us) = write ts ++ write us := by
  simp [write]

/-- The first character of a valid token is that of a word exactly when the token is one, and it is
never a closing bracket. -/
theorem head?_write {t : Token} {ts : List Token} (h : t.isValid = true) :
    ∃ c, (write (t :: ts)).head? = some c ∧ c ≠ ']' ∧
      ((∀ text, t ≠ word text) → isWordChar c = false) := by
  cases t with
  | space => exact ⟨' ', rfl, by decide, fun _ => by decide⟩
  | opening => exact ⟨'(', rfl, by decide, fun _ => by decide⟩
  | closing => exact ⟨')', rfl, by decide, fun _ => by decide⟩
  | comma => exact ⟨',', rfl, by decide, fun _ => by decide⟩
  | name text => exact ⟨'[', by simp [chars, Bracketed.quoteChars], by decide, fun _ => by decide⟩
  | quoted text => exact ⟨'\'', by simp [chars], by decide, fun _ => by decide⟩
  | word text =>
      simp only [isValid, isWord, Bool.and_eq_true, List.all_eq_true] at h
      rcases h with ⟨⟨hne, hall⟩, -⟩
      cases hcs : text.toList with
      | nil => simp [hcs] at hne
      | cons c cs =>
          have hc : isWordChar c = true := hall c (by rw [hcs]; exact List.mem_cons_self)
          refine ⟨c, by simp [chars, hcs], ?_, fun hno => absurd rfl (hno text)⟩
          exact (isWordChar_not_mark hc).2.2.2.2.2.1

/-- The lexer reads back the tokens of a text that no two neighbours run together in. -/
theorem lex_write {ts : List Token} (hvalid : ∀ t ∈ ts, t.isValid = true)
    (hsep : ts.IsChain Separate) : lex (write ts) = some ts := by
  induction ts with
  | nil => rw [write_nil, lex]
  | cons t ts ih =>
      have hread : lex (write ts) = some ts :=
        ih (fun u hu => hvalid u (List.mem_cons_of_mem t hu)) hsep.tail
      have ht : t.isValid = true := hvalid t List.mem_cons_self
      rw [write_cons]
      -- a mark is read on its own; behind a name or a word the next character counts
      cases t with
      | space => rw [chars, List.singleton_append, lex, hread]; rfl
      | opening => rw [chars, List.singleton_append, lex, hread]; rfl
      | closing => rw [chars, List.singleton_append, lex, hread]; rfl
      | comma => rw [chars, List.singleton_append, lex, hread]; rfl
      | name text =>
          have hhead : (write ts).head? ≠ some ']' := by
            cases ts with
            | nil => simp
            | cons u us =>
                rcases head?_write (hvalid u (by simp)) with ⟨c, hc, hne, -⟩
                rw [hc]
                simpa using hne
          rw [chars, lex_name _ hhead, hread, String.ofList_toList]
          rfl
      | quoted text =>
          have hquote : '\'' ∉ text.toList := by simpa [isValid] using ht
          have hchars : (quoted text).chars ++ write ts =
              '\'' :: (text.toList ++ '\'' :: write ts) := by simp [chars]
          rw [hchars, lex_quoted hquote, hread, String.ofList_toList]
          rfl
      | word text =>
          have hnext : ∀ c, (write ts).head? = some c → isWordChar c = false := by
            intro c hc
            cases ts with
            | nil => simp at hc
            | cons u us =>
                rcases head?_write (hvalid u (by simp)) with ⟨d, hd, -, hword⟩
                obtain rfl : c = d := Option.some.inj (hc.symm.trans hd)
                apply hword
                rintro text' rfl
                exact (List.isChain_cons_cons.mp hsep).1
          rw [chars, lex_word ht hnext, hread, String.ofList_toList]
          rfl

end Token

end EntitySql
