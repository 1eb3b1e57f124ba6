/-!
# Decimal and hexadecimal numerals

Natural numbers are written in ASCII digits without leading zeros and read back digit by digit.
`readUnsigned` is the strict reader for settings and counts: an optional plus sign, then digits,
below a bound, with the first thing wrong as the error.
-/

namespace EntitySql.Numeral

/-! ## Writing -/

/-- The ASCII digit of a number below ten. -/
def digitChar (d : Nat) : Char := Char.ofNat (48 + d)

/-- The decimal digits of `n`, most significant first. -/
def digits (n : Nat) : List Char :=
  if n < 10 then [digitChar n] else digits (n / 10) ++ [digitChar (n % 10)]
termination_by n
decreasing_by exact Nat.div_lt_self (by omega) (by omega)

/-- The decimal digits of `n`, filled up with zeros on the left to at least `width` characters. -/
def paddedDigits (width n : Nat) : List Char :=
  List.replicate (width - (digits n).length) '0' ++ digits n

/-- The decimal text of a natural number. -/
def ofNat (n : Nat) : String := String.ofList (digits n)

/-- The decimal text of an integer, with a minus sign in front of a negative one. -/
def ofInt (n : Int) : String :=
  if n < 0 then "-" ++ ofNat n.natAbs else ofNat n.natAbs

/-- The lower-case hexadecimal digit of a number below sixteen. -/
def hexChar (d : Nat) : Char := if d < 10 then digitChar d else Char.ofNat (87 + d)

/-- The lowest `width` hexadecimal digits of `n`, most significant first. -/
def hexDigits : (width n : Nat) → List Char
  | 0, _ => []
  | width + 1, n => hexDigits width (n / 16) ++ [hexChar (n % 16)]

/-! ## Reading -/

/-- The value of an ASCII decimal digit. -/
def digit? (c : Char) : Option Nat :=
  if '0' ≤ c ∧ c ≤ '9' then some (c.toNat - 48) else none

/-- The value of a hexadecimal digit of either case. -/
def hexDigit? (c : Char) : Option Nat :=
  if '0' ≤ c ∧ c ≤ '9' then some (c.toNat - 48)
  else if 'a' ≤ c ∧ c ≤ 'f' then some (c.toNat - 87)
  else if 'A' ≤ c ∧ c ≤ 'F' then some (c.toNat - 55)
  else none

/-- The number that a list of hexadecimal digits denotes, `none` if one of them is no digit. -/
def hexValue? (cs : List Char) : Option Nat :=
  cs.foldlM (fun n c => (hexDigit? c).map (16 * n + ·)) 0

/-- Why a text is not an unsigned number below its bound. -/
inductive ReadError where
  | empty
  | invalidDigit
  | tooLarge
  deriving DecidableEq, Repr

/-- The text of a failed reading. -/
def ReadError.message : ReadError → String
  | .empty => "cannot parse integer from empty string"
  | .invalidDigit => "invalid digit found in string"
  | .tooLarge => "number too large to fit in target type"

/-- Continues a number `n` by the digits of `cs`; every intermediate value stays below `bound`. -/
def readDigits (bound : Nat) : (n : Nat) → (cs : List Char) → Except ReadError Nat
  | n, [] => .ok n
  | n, c :: cs =>
    match digit? c with
    | none => .error .invalidDigit
    | some d => if 10 * n + d < bound then readDigits bound (10 * n + d) cs else .error .tooLarge

/-- Reads an unsigned number below `bound`: at most one plus sign, then one or more digits. -/
def readUnsigned (bound : Nat) : List Char → Except ReadError Nat
  | [] => .error .empty
  | ['+'] => .error .invalidDigit
  | '+' :: cs => readDigits bound 0 cs
  | cs => readDigits bound 0 cs

/-- The first number that does not fit into 64 bits, `2 ^ 64`. -/
abbrev wordBound : Nat := 18446744073709551616

/-- Takes at most `limit` leading digits off `cs`: their value, their count and what follows. -/
def takeDigits : (limit : Nat) → (cs : List Char) → Nat × Nat × List Char :=
  go 0 0
where
  /-- `n` is the value and `k` the count of the digits taken so far. -/
  go (n k : Nat) : (limit : Nat) → (cs : List Char) → Nat × Nat × List Char
    | 0, cs => (n, k, cs)
    | _, [] => (n, k, [])
    | limit + 1, c :: cs =>
      match digit? c with
      | none => (n, k, c :: cs)
      | some d => go (10 * n + d) (k + 1) limit cs

end EntitySql.Numeral
