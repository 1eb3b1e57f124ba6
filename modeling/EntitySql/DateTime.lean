/-!
# Date and time

A civil date of the proleptic Gregorian calendar with a time of day, without a zone. Every minute
may have a sixtieth second, and seconds are divided into nanoseconds.
-/

namespace EntitySql

/-- The year has a 29 February. -/
def isLeapYear (year : Int) : Bool := year % 4 == 0 && (year % 100 != 0 || year % 400 == 0)

/-- The number of days of a month, zero for a number that is no month. -/
def daysInMonth (year : Int) : (month : Nat) → Nat
  | 2 => if isLeapYear year then 29 else 28
  | 4 | 6 | 9 | 11 => 30
  | 1 | 3 | 5 | 7 | 8 | 10 | 12 => 31
  | _ => 0

/-- The parts name a day of the calendar and a time of day. -/
def IsDateTime (year : Int) (month day hour minute second nanosecond : Nat) : Prop :=
  -262143 ≤ year ∧ year ≤ 262142 ∧ 1 ≤ day ∧ day ≤ daysInMonth year month ∧
    hour < 24 ∧ minute < 60 ∧ second ≤ 60 ∧ nanosecond < 1000000000

instance (year : Int) (month day hour minute second nanosecond : Nat) :
    Decidable (IsDateTime year month day hour minute second nanosecond) := by
  unfold IsDateTime; infer_instance

/-- A date and a time of day. -/
structure DateTime where
  year : Int
  month : Nat
  day : Nat
  hour : Nat
  minute : Nat
  second : Nat
  nanosecond : Nat
  valid : IsDateTime year month day hour minute second nanosecond
  deriving DecidableEq

namespace DateTime

/-- The date and time of these parts, if they are in range. -/
def make? (year : Int) (month day hour minute second nanosecond : Nat) : Option DateTime :=
  if h : IsDateTime year month day hour minute second nanosecond then
    some ⟨year, month, day, hour, minute, second, nanosecond, h⟩
  else none

/-- Midnight of 1 January 1970. -/
def epoch : DateTime := ⟨1970, 1, 1, 0, 0, 0, 0, by decide⟩

end DateTime

end EntitySql
