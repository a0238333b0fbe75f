import IssueDigest.Fault
/-!
# Dates and moments

The calendar is the proleptic Gregorian one, for the years 1 to 9999. A `Moment` is a date with a
time of day to the microsecond and, if it is known, its offset from universal time, in microseconds
and shorter than a day.
-/

namespace IssueDigest

/-- A day of the calendar. -/
structure Date where
  year : Nat
  month : Nat
  day : Nat
  deriving DecidableEq, Repr, Inhabited

/-- A time of day. -/
structure TimeOfDay where
  hour : Nat
  minute : Nat
  second : Nat
  microsecond : Nat
  deriving DecidableEq, Repr, Inhabited

/-- A date with a time of day and perhaps an offset from universal time. -/
structure Moment where
  date : Date
  time : TimeOfDay
  /-- How far local time is ahead of universal time, in microseconds. -/
  offset : Option Int
  deriving DecidableEq, Repr, Inhabited

namespace Date

/-- Has the year a 29th of February? -/
def isLeap (year : Nat) : Bool := year % 4 == 0 && (year % 100 != 0 || year % 400 == 0)

/-- How many days the month has. -/
def daysInMonth (year month : Nat) : Nat :=
  if month == 2 then (if isLeap year then 29 else 28)
  else if month == 4 || month == 6 || month == 9 || month == 11 then 30
  else 31

/-- How many days the year has. -/
def daysInYear (year : Nat) : Nat := if isLeap year then 366 else 365

/-- How many days of the calendar come before the year. -/
def daysBefore (year : Nat) : Nat :=
  let y := year - 1
  y * 365 + y / 4 - y / 100 + y / 400

/-- The day of the week on which the year starts, Monday being zero. -/
def firstWeekday (year : Nat) : Nat := daysBefore year % 7

/-- How many weeks the year has: a 53rd one if it starts on a Thursday, or on a Wednesday in a leap
year. -/
def weeksInYear (year : Nat) : Nat :=
  if firstWeekday year == 3 || (firstWeekday year == 2 && isLeap year) then 53 else 52

/-- The date of the day so numbered in a year, months from `month` on still to be tried. -/
def ofDayOfMonths (year : Nat) : Nat → Nat → Nat → Date
  | 0, month, day => ⟨year, month, day⟩
  | fuel + 1, month, day =>
    if day ≤ daysInMonth year month then ⟨year, month, day⟩
    else ofDayOfMonths year fuel (month + 1) (day - daysInMonth year month)

/-- The date of the day so numbered in a year, counted from one. -/
def ofDayOfYear (year day : Nat) : Date := ofDayOfMonths year 11 1 day

/-- The date of a day of a week of a year. Week 1 is the first with at least four days in the
year. -/
def ofWeek (year week weekday : Nat) : Date :=
  let start : Int :=
    1 - (firstWeekday year : Int) + (if 3 < firstWeekday year then 7 else 0)
  let day : Int := start + (week - 1 : Nat) * 7 + (weekday - 1 : Nat)
  if day < 1 then ofDayOfYear (year - 1) (day + daysInYear (year - 1)).toNat
  else if (daysInYear year : Int) < day then ofDayOfYear (year + 1) (day - daysInYear year).toNat
  else ofDayOfYear year day.toNat

/-- Refuses a date outside the calendar. -/
def check (d : Date) : Except Fault Unit :=
  if d.year < 1 || 9999 < d.year then .error (.refused (.badYear d.year))
  else if d.month < 1 || 12 < d.month then .error (.refused (.outOfRange .month))
  else if d.day < 1 || daysInMonth d.year d.month < d.day then
    .error (.refused (.outOfRange .day))
  else .ok ()

end Date

/-- Refuses a time outside the day. -/
def TimeOfDay.check (t : TimeOfDay) : Except Fault Unit :=
  if 23 < t.hour then .error (.refused (.outOfRange .hour))
  else if 59 < t.minute then .error (.refused (.outOfRange .minute))
  else if 59 < t.second then .error (.refused (.outOfRange .second))
  else .ok ()

/-- A day, in microseconds. -/
def microsecondsPerDay : Nat := 86400000000

/-- How many days of the year come before the month. -/
def Date.daysBeforeMonth (year month : Nat) : Nat :=
  (List.range (month - 1)).foldl (fun n m => n + daysInMonth year (m + 1)) 0

/-- How many days of the calendar come before the date. -/
def Date.daysUntil (d : Date) : Nat :=
  Date.daysBefore d.year + Date.daysBeforeMonth d.year d.month + (d.day - 1)

/-- The instant of a moment in universal time, in microseconds from the first day of the calendar;
without an offset local time is taken for universal time. -/
def Moment.instant (m : Moment) : Int :=
  let seconds := (m.date.daysUntil * 24 + m.time.hour) * 3600 + m.time.minute * 60 + m.time.second
  (seconds * 1000000 + m.time.microsecond : Nat) - m.offset.getD 0

/-- The parts of a duration in microseconds as messages show them: whole days, then what is left in
seconds and microseconds, parts that are zero left out. -/
def showDuration (total : Int) : Text :=
  let days := Int.fdiv total microsecondsPerDay
  let rest := (Int.fmod total microsecondsPerDay).toNat
  let parts : List Text :=
    (if days ≠ 0 then ["days=" ++ Text.ofInt days] else [])
      ++ (if rest / 1000000 ≠ 0 then ["seconds=" ++ Text.ofNat (rest / 1000000)] else [])
      ++ (if rest % 1000000 ≠ 0 then ["microseconds=" ++ Text.ofNat (rest % 1000000)] else [])
  "datetime.timedelta(" ++ (if parts.isEmpty then Text.ofString "0" else Text.joinWith ", " parts) ++ ")"

/-- Refuses an offset of a day or more. -/
def checkOffset (total : Int) : Except Fault Unit :=
  if total.natAbs < microsecondsPerDay then .ok ()
  else .error (.refused (.badOffset (showDuration total)))

/-- Is every part of the moment in range? -/
def Moment.IsValid (m : Moment) : Prop :=
  m.date.check = .ok () ∧ m.time.check = .ok () ∧ m.time.microsecond < 1000000 ∧
    ∀ o, m.offset = some o → checkOffset o = .ok ()

end IssueDigest
