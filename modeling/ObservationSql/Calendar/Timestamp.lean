import ObservationSql.Decimal.Digits

namespace ObservationSql.Calendar

def firstYear : Int := -262143

def lastYear : Int := 262142

def isLeapYear (year : Int) : Bool :=
  year % 4 == 0 && (year % 100 != 0 || year % 400 == 0)

/-- The number of days of a month, none when there is no such month. -/
def daysIn (year : Int) : Nat → Nat
  | 1 | 3 | 5 | 7 | 8 | 10 | 12 => 31
  | 4 | 6 | 9 | 11 => 30
  | 2 => if isLeapYear year then 29 else 28
  | _ => 0

/-- An instant in the Gregorian calendar, extended to both sides, without a time zone and to the
nanosecond. With a thousand million nanoseconds or more it is in a leap second behind its second,
which may be any second of a minute. -/
structure Timestamp where
  year : Int
  month : Nat
  day : Nat
  hour : Nat
  minute : Nat
  second : Nat
  nanos : Nat
  year_mem : firstYear ≤ year ∧ year ≤ lastYear
  day_mem : 1 ≤ day ∧ day ≤ daysIn year month
  clock_mem : hour < 24 ∧ minute < 60 ∧ second < 60
  nanos_mem : nanos < 2000000000
  deriving DecidableEq, Repr

namespace Timestamp

/-- The instant of a date and a time of day. Behind the fifty-ninth second, and only there, the time
of day may be in a leap second. -/
def ofParts? (year : Int) (month day hour minute second nanos : Nat) : Option Timestamp :=
  if hyear : firstYear ≤ year ∧ year ≤ lastYear then
    if hday : 1 ≤ day ∧ day ≤ daysIn year month then
      if hclock : hour < 24 ∧ minute < 60 ∧ second < 60 then
        if hnanos : nanos < 1000000000 ∨ second = 59 ∧ nanos < 2000000000 then
          some ⟨year, month, day, hour, minute, second, nanos, hyear, hday, hclock, by omega⟩
        else none
      else none
    else none
  else none

/-- The first instant. It stands for "not a time". -/
def earliest : Timestamp where
  year := firstYear
  month := 1
  day := 1
  hour := 0
  minute := 0
  second := 0
  nanos := 0
  year_mem := by decide
  day_mem := by decide
  clock_mem := by decide
  nanos_mem := by decide

/-- The last instant. It stands for "not a time" too. -/
def latest : Timestamp where
  year := lastYear
  month := 12
  day := 31
  hour := 23
  minute := 59
  second := 59
  nanos := 999999999
  year_mem := by decide
  day_mem := by decide
  clock_mem := by decide
  nanos_mem := by decide

/-- The two instants that stand for "not a time". -/
def isSentinel (time : Timestamp) : Bool :=
  time = earliest || time = latest

/-- The seconds before the instant, a month being counted as thirty-two days and a year as thirteen
months, so that parts do not run into each other. -/
def seconds (time : Timestamp) : Int :=
  ((((time.year * 13 + time.month) * 32 + time.day) * 24 + time.hour) * 60 + time.minute) * 60
    + time.second

/-- A number that grows with the instant. A leap second follows the second that it extends. -/
def rank (time : Timestamp) : Int :=
  time.seconds * 2000000000 + time.nanos

instance : LE Timestamp := ⟨fun left right => left.rank ≤ right.rank⟩

instance (left right : Timestamp) : Decidable (left ≤ right) :=
  inferInstanceAs (Decidable (left.rank ≤ right.rank))

theorem le_def {left right : Timestamp} : left ≤ right ↔ left.rank ≤ right.rank :=
  Iff.rfl

/-- Four digits for the years 0 to 9999, and a sign with at least four digits for all others. -/
def yearText (year : Int) : String :=
  if year < 0 then "-" ++ Decimal.padded 4 year.natAbs
  else if year ≤ 9999 then Decimal.padded 4 year.natAbs
  else "+" ++ Decimal.padded 4 year.natAbs

/-- The second that a clock shows. A leap second counts as the second after the one that it follows,
which is second sixty after the fifty-ninth. -/
def shownSecond (time : Timestamp) : Nat :=
  if time.nanos < 1000000000 then time.second else time.second + 1

def dateText (time : Timestamp) : String :=
  yearText time.year ++ "-" ++ Decimal.padded 2 time.month ++ "-" ++ Decimal.padded 2 time.day

/-- The time of day as a clock shows it, a leap second as the second behind its own. -/
def clockText (time : Timestamp) : String :=
  Decimal.padded 2 time.hour ++ ":" ++ Decimal.padded 2 time.minute ++ ":"
    ++ Decimal.padded 2 time.shownSecond

/-- The instant to the second, with `separator` between the date and the time of day. -/
def text (separator : String) (time : Timestamp) : String :=
  time.dateText ++ separator ++ time.clockText

/-- The fraction of the second in the fewest of three, six or nine digits that are exact, and
nothing for a whole second. -/
def fractionText (time : Timestamp) : String :=
  let nanos := time.nanos % 1000000000
  if nanos = 0 then ""
  else if nanos % 1000000 = 0 then "." ++ Decimal.padded 3 (nanos / 1000000)
  else if nanos % 1000 = 0 then "." ++ Decimal.padded 6 (nanos / 1000)
  else "." ++ Decimal.padded 9 nanos

def exactText (time : Timestamp) : String :=
  time.text " " ++ time.fractionText

end Timestamp

example : (Timestamp.ofParts? 2016 12 31 23 59 59 1500000000).map (·.exactText)
    = some "2016-12-31 23:59:60.500" := by decide +kernel
example : (Timestamp.mk 2016 7 8 23 56 4 1333333333 (by decide) (by decide) (by decide)
    (by decide)).exactText = "2016-07-08 23:56:05.333333333" := by decide +kernel
example : (Timestamp.ofParts? (-1) 12 31 0 0 0 0).map (·.text "T")
    = some "-0001-12-31T00:00:00" := by decide +kernel
example : Timestamp.ofParts? 2023 2 29 0 0 0 0 = none := by decide

end ObservationSql.Calendar
