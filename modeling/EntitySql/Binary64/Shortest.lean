import EntitySql.Binary64
import EntitySql.Text.Numeral
/-!
# Shortest decimals

The reals that round to a finite float form an interval. The shortest decimal of the float is the
point of that interval on the coarsest decimal grid that has one, and of two such points the nearer
to the float. All comparisons are exact, on natural numbers scaled by a common power of ten.
-/

namespace EntitySql

/-- Which of two equally near decimals is taken. -/
inductive Tie where
  | toEven
  | up
  deriving DecidableEq, Repr

/-- The number `digits * 10 ^ exponent`. -/
structure ScaledDigits where
  digits : Nat
  exponent : Int
  deriving DecidableEq, Repr

namespace Binary64

/-- A positive float and the ends of its interval, all scaled alike: the number meant by `n` is
`n / (one * 10 ^ 350)`. The ends belong to the interval when `closed` is set. -/
structure Span where
  one : Nat
  low : Nat
  value : Nat
  high : Nat
  closed : Bool

/-- The power of ten by which a span is scaled; every grid that matters is a multiple of one
place, since the smallest float is above `10 ^ (-324)` and has few digits. -/
def spanScale : Nat := 350

/-- The span of `mantissa * 2 ^ exponent`. Its ends are half way to the neighbouring floats; below
a power of two the neighbours lie twice as close. -/
def spanOf (mantissa : Nat) (exponent : Int) : Span :=
  let scale := Nat.pow 2 (exponent - 2).toNat * Nat.pow 10 spanScale
  let closer := mantissa == fractionCount && exponent > -1074
  { one := Nat.pow 2 (2 - exponent).toNat
    low := (4 * mantissa - if closer then 1 else 2) * scale
    value := 4 * mantissa * scale
    high := (4 * mantissa + 2) * scale
    closed := mantissa % 2 == 0 }

/-- The point `n` of the scaled line lies in the interval. -/
def Span.contains (s : Span) (n : Nat) : Bool :=
  if s.closed then s.low ≤ n && n ≤ s.high else s.low < n && n < s.high

/-- The multiple of `10 ^ place` to take on that grid, if one of the two neighbours of the float on
it lies in the interval. -/
def Span.onGrid? (s : Span) (tie : Tie) (place : Nat) : Option Nat :=
  let unit := s.one * Nat.pow 10 place
  let below := s.value / unit
  match s.contains (below * unit), s.contains ((below + 1) * unit) with
  | false, false => none
  | true, false => some below
  | false, true => some (below + 1)
  | true, true =>
    -- both read back, so the nearer one is taken
    let rest := s.value - below * unit
    if unit < 2 * rest then some (below + 1)
    else if 2 * rest < unit then some below
    else
      match tie with
      | .up => some (below + 1)
      | .toEven => some (below + below % 2)

/-- The place of the first digit of the float. -/
def Span.firstPlace (s : Span) : Nat := (Numeral.digits (s.value / s.one)).length - 1

/-- Tries the grid of each place from `place` down and takes the first hit. -/
def Span.search (s : Span) (tie : Tie) : (place : Nat) → ScaledDigits
  | 0 => ⟨(s.onGrid? tie 0).getD (s.value / s.one), -spanScale⟩
  | place + 1 =>
    match s.onGrid? tie (place + 1) with
    | some n => ⟨n, (place + 1 : Int) - spanScale⟩
    | none => s.search tie place

end Binary64

/-- Moves factors of ten from the digits to the exponent. -/
def ScaledDigits.stripZeros (d : ScaledDigits) : ScaledDigits :=
  if d.digits = 0 then ⟨0, 0⟩ else go d.digits d.exponent
where
  /-- Divides `n` by ten as long as it is a multiple. -/
  go (n : Nat) (e : Int) : ScaledDigits :=
    if h : 0 < n ∧ n % 10 = 0 then go (n / 10) (e + 1) else ⟨n, e⟩
  termination_by n
  decreasing_by exact Nat.div_lt_self h.1 (by omega)

/-- The shortest decimal that reads back as the magnitude of `d`, without trailing zeros. -/
def Dyadic.shortest (d : Dyadic) (tie : Tie) : ScaledDigits :=
  if d.mantissa = 0 then ⟨0, 0⟩
  else
    let span := Binary64.spanOf d.mantissa d.exponent
    (span.search tie span.firstPlace).stripZeros

end EntitySql
