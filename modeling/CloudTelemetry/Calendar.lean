/-!
# Moments of the calendar

A `Moment` is a day of the Gregorian calendar, with or without a time of that day. `Moment.make?`
refuses days and times that do not exist. Two moments may be the same although their clocks differ
(`Moment.same`). A moment is written with its greatest part first; inside a collection it is written
as a call that names its parts.
-/

namespace CloudTelemetry

/-- A time of the day, and how many minutes it is ahead of the universal time, where that is
known. -/
structure Clock where
  hour : Nat
  minute : Nat
  second : Nat
  micros : Nat
  ahead : Option Int
deriving DecidableEq, Repr

structure Moment where
  year : Nat
  month : Nat
  day : Nat
  clock : Option Clock
deriving DecidableEq, Repr

def paddedDigits (width n : Nat) : String :=
  let digits := Nat.toDigits 10 n
  String.ofList (List.replicate (width - digits.length) '0' ++ digits)

/-! ### Times of the day -/

namespace Clock

def minutesPerDay : Nat := 1440

/-- Whether there is such a time; it lies less than a day from the universal one. -/
def occurs (c : Clock) : Bool :=
  c.hour < 24 && c.minute < 60 && c.second < 60 &&
    c.ahead.all fun minutes => minutes.natAbs < minutesPerDay

def aheadWritten (minutes : Int) : String :=
  (if minutes < 0 then "-" else "+") ++ paddedDigits 2 (minutes.natAbs / 60) ++ ":" ++
    paddedDigits 2 (minutes.natAbs % 60)

def written (c : Clock) : String :=
  ":".intercalate ([c.hour, c.minute, c.second].map (paddedDigits 2)) ++
    (if c.micros == 0 then "" else "." ++ paddedDigits 6 c.micros) ++
    (c.ahead.map aheadWritten).getD ""

/-- A distance from the universal time as a part of a call; a negative one is a day less and some
seconds more. -/
def aheadPart (minutes : Int) : String :=
  if minutes = 0 then "tzinfo=datetime.timezone.utc"
  else
    "tzinfo=datetime.timezone(datetime.timedelta(" ++
      (if minutes < 0 then "days=-1, " else "") ++
      "seconds=" ++ toString (60 * (minutes % minutesPerDay)) ++ "))"

def parts (c : Clock) : List String :=
  let small :=
    if c.micros != 0 then [c.second, c.micros] else if c.second != 0 then [c.second] else []
  (c.hour :: c.minute :: small).map toString ++ (c.ahead.map aheadPart).toList

end Clock

/-! ### Days -/

namespace Moment

def isLeapYear (year : Nat) : Bool := year % 4 == 0 && (year % 100 != 0 || year % 400 == 0)

def daysIn (year month : Nat) : Nat :=
  if month == 2 then (if isLeapYear year then 29 else 28)
  else if [4, 6, 9, 11].contains month then 30
  else 31

def make? (year month day : Nat) (clock : Option Clock) : Option Moment :=
  if 1 ≤ year ∧ 1 ≤ month ∧ month ≤ 12 ∧ 1 ≤ day ∧ day ≤ daysIn year month ∧
      clock.all Clock.occurs then
    some ⟨year, month, day, clock⟩
  else none

def dayNumber (m : Moment) : Nat :=
  let before := m.year - 1
  365 * before + before / 4 - before / 100 + before / 400 +
    ((List.range (m.month - 1)).map fun i => daysIn m.year (i + 1)).foldl (· + ·) 0 + m.day

/-- The minute of the universal time, counted from year one, where that is known. -/
def universalMinute? (m : Moment) : Option Int := do
  let clock ← m.clock
  let ahead ← clock.ahead
  return (Clock.minutesPerDay * m.dayNumber + 60 * clock.hour + clock.minute : Nat) - ahead

def withinMinute (m : Moment) : Option (Nat × Nat) :=
  m.clock.map fun clock => (clock.second, clock.micros)

/-- Whether two moments are the same. Where both are known in universal time it does not matter by
which clock they are told. -/
def same (a b : Moment) : Bool :=
  match a.universalMinute?, b.universalMinute? with
  | some m, some n => m == n && a.withinMinute == b.withinMinute
  | _, _ => a == b

def written (m : Moment) : String :=
  "-".intercalate [paddedDigits 4 m.year, paddedDigits 2 m.month, paddedDigits 2 m.day] ++
    (m.clock.map fun clock => " " ++ clock.written).getD ""

def nested (m : Moment) : String :=
  let day := [m.year, m.month, m.day].map toString
  match m.clock with
  | none => "datetime.date(" ++ ", ".intercalate day ++ ")"
  | some clock => "datetime.datetime(" ++ ", ".intercalate (day ++ clock.parts) ++ ")"

end Moment

end CloudTelemetry
