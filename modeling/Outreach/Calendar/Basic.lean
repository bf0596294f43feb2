import Outreach.Text.Format

/-!
Calendar dates. A date is a day number within the range of the calendar, counted from
the first of March of the year zero, so that a leap day ends its year. Years, months
and days follow the Gregorian rule extended to all years.

Times of day to the nanosecond. A leap second is kept as a second with a billion or more
nanoseconds, which may follow any second of the day.

Moments: a date and a time of day, either local or in universal time. Moments are
ordered by date, second and nanosecond. Whole days can be added as long as the calendar
lasts; adding a positive number of days leaves a leap second for the second before it,
taking days away leaves it for the second after it, and adding none keeps it. The time
between two moments counts a leap second that lies between their times of day.

The written forms of dates and times. Years of more than four digits and years before
zero carry a sign. A fraction of a second has three, six or nine digits, as few as show
it in full, and none when it is zero.
-/

namespace Outreach

def civilDay (year : Int) (month day : Nat) : Int :=
  let y := if month ≤ 2 then year - 1 else year
  let yearOfEra := y % 400
  let shifted : Int := if month ≤ 2 then month + 9 else month - 3
  let dayOfYear := (153 * shifted + 2) / 5 + (day - 1)
  y / 400 * 146097 + (yearOfEra * 365 + yearOfEra / 4 - yearOfEra / 100 + dayOfYear)

def isLeapYear (year : Int) : Bool :=
  year % 4 == 0 && (year % 100 != 0 || year % 400 == 0)

def daysInMonth (year : Int) (month : Nat) : Nat :=
  if month = 2 then if isLeapYear year then 29 else 28
  else if month = 4 ∨ month = 6 ∨ month = 9 ∨ month = 11 then 30
  else 31

def firstDay : Int := -95745824

def lastDay : Int := 95745704

example : civilDay (-262143) 1 1 = firstDay ∧ civilDay 262142 12 31 = lastDay := by decide

structure Date where
  day : Int
  first_le : firstDay ≤ day
  le_last : day ≤ lastDay
  deriving DecidableEq

namespace Date

def ofDay? (day : Int) : Option Date :=
  if h : firstDay ≤ day ∧ day ≤ lastDay then some ⟨day, h.1, h.2⟩ else none

def ofCivil? (year : Int) (month day : Nat) : Option Date :=
  if 1 ≤ month ∧ month ≤ 12 ∧ 1 ≤ day ∧ day ≤ daysInMonth year month then
    ofDay? (civilDay year month day)
  else none

def civil (d : Date) : Int × Nat × Nat :=
  let era := d.day / 146097
  let dayOfEra := d.day % 146097
  let yearOfEra :=
    (dayOfEra - dayOfEra / 1460 + dayOfEra / 36524 - dayOfEra / 146096) / 365
  let dayOfYear := dayOfEra - (365 * yearOfEra + yearOfEra / 4 - yearOfEra / 100)
  let shifted := (5 * dayOfYear + 2) / 153
  let day := dayOfYear - (153 * shifted + 2) / 5 + 1
  let month := if shifted < 10 then shifted + 3 else shifted - 9
  let year := yearOfEra + era * 400 + if month ≤ 2 then 1 else 0
  (year, month.toNat, day.toNat)

def addDays? (d : Date) (n : Int) : Option Date :=
  ofDay? (d.day + n)

theorem ofDay?_day (d : Date) : ofDay? d.day = some d := by
  simp [ofDay?, d.first_le, d.le_last]

theorem day_of_ofDay? {n : Int} {d : Date} (h : ofDay? n = some d) : d.day = n := by
  simp only [ofDay?] at h
  split at h
  · cases h; rfl
  · exact absurd h (by simp)

theorem addDays?_zero (d : Date) : d.addDays? 0 = some d := by
  simp [addDays?, ofDay?_day]

end Date

structure TimeOfDay where
  second : Nat
  nanosecond : Nat
  second_lt : second < 86400
  nanosecond_lt : nanosecond < 2000000000
  deriving DecidableEq

namespace TimeOfDay

def nanosPerSecond : Nat := 1000000000

def midnight : TimeOfDay := ⟨0, 0, by decide, by decide⟩

def isLeap (t : TimeOfDay) : Bool :=
  nanosPerSecond ≤ t.nanosecond

/-- The time of an hour, minute and second; the second sixty is a leap second. -/
def of? (hour minute second : Nat) (nanosecond : Nat) : Option TimeOfDay :=
  let (second, nanosecond) :=
    if second = 60 then (59, nanosecond + nanosPerSecond) else (second, nanosecond)
  if h : hour < 24 ∧ minute < 60 ∧ second < 60 ∧ nanosecond < 2000000000 then
    some ⟨hour * 3600 + minute * 60 + second, nanosecond, by omega, h.2.2.2⟩
  else none

def hour (t : TimeOfDay) : Nat := t.second / 3600

def minute (t : TimeOfDay) : Nat := t.second / 60 % 60

def secondOfMinute (t : TimeOfDay) : Nat :=
  t.second % 60 + if t.isLeap then 1 else 0

def fraction (t : TimeOfDay) : Nat :=
  if t.isLeap then t.nanosecond - nanosPerSecond else t.nanosecond

def dropLeap (t : TimeOfDay) : TimeOfDay :=
  ⟨t.second, t.fraction, t.second_lt, by
    have := t.nanosecond_lt
    simp only [fraction]; split <;> omega⟩

theorem dropLeap_of_not_isLeap {t : TimeOfDay} (h : t.isLeap = false) : t.dropLeap = t := by
  simp [dropLeap, fraction, h]

end TimeOfDay

structure Moment where
  date : Date
  time : TimeOfDay
  deriving DecidableEq

namespace Moment

def ticks (m : Moment) : Int :=
  (m.date.day * 86400 + m.time.second) * 2000000000 + m.time.nanosecond

def before (a b : Moment) : Bool :=
  a.ticks < b.ticks

def addDays? (m : Moment) (n : Int) : Option Moment :=
  if n = 0 ∨ m.time.isLeap = false then
    (m.date.addDays? n).map fun d => ⟨d, m.time⟩
  else if 0 < n then
    (m.date.addDays? n).map fun d => ⟨d, m.time.dropLeap⟩
  else if h : m.time.second + 1 < 86400 then
    (m.date.addDays? n).map fun d =>
      ⟨d, m.time.second + 1, m.time.fraction, h, m.time.dropLeap.nanosecond_lt⟩
  else
    (m.date.addDays? (n + 1)).map fun d =>
      ⟨d, 0, m.time.fraction, TimeOfDay.midnight.second_lt, m.time.dropLeap.nanosecond_lt⟩

/-- The moment at a number of seconds earlier, less than a day; a leap second is kept. -/
def subSeconds? (m : Moment) (seconds : Int) : Option Moment :=
  let second := (m.time.second : Int) - seconds
  (m.date.addDays? (second / 86400)).map fun d =>
    ⟨d, (second % 86400).toNat, m.time.nanosecond, by omega, m.time.nanosecond_lt⟩

def ofNanoseconds? (n : Int) : Option Moment :=
  let seconds := n / 1000000000
  (Date.ofDay? (719468 + seconds / 86400)).map fun d =>
    ⟨d, (seconds % 86400).toNat, (n % 1000000000).toNat, by omega, by omega⟩

/-- The leap second that lies between two times of day, with its sign. -/
def leapBetween (a b : TimeOfDay) : Int :=
  if b.second < a.second ∧ b.isLeap then 1
  else if a.second < b.second ∧ a.isLeap then -1
  else 0

def since (a b : Moment) : Int :=
  ((a.date.day - b.date.day) * 86400 + ((a.time.second : Int) - b.time.second) +
    leapBetween a.time b.time) * 1000000000 + (a.time.nanosecond - b.time.nanosecond)

def daysSince (a b : Moment) : Int :=
  (a.since b).tdiv (86400 * 1000000000)

end Moment

open Text (padded)

def Date.write (d : Date) : List Char :=
  let (year, month, day) := d.civil
  let sign := if year < 0 then ['-'] else if 9999 < year then ['+'] else []
  sign ++ padded 4 year.natAbs ++ '-' :: padded 2 month ++ '-' :: padded 2 day

namespace TimeOfDay

def writeFraction (nanosecond : Nat) : List Char :=
  if nanosecond = 0 then []
  else if nanosecond % 1000000 = 0 then '.' :: padded 3 (nanosecond / 1000000)
  else if nanosecond % 1000 = 0 then '.' :: padded 6 (nanosecond / 1000)
  else '.' :: padded 9 nanosecond

def writeShort (t : TimeOfDay) : List Char :=
  padded 2 t.hour ++ ':' :: padded 2 t.minute

def write (t : TimeOfDay) : List Char :=
  t.writeShort ++ ':' :: padded 2 t.secondOfMinute ++ writeFraction t.fraction

end TimeOfDay

namespace Moment

def writeLocal (m : Moment) : List Char :=
  m.date.write ++ 'T' :: m.time.write

def writeZulu (m : Moment) : List Char :=
  m.writeLocal ++ ['Z']

def writeOffset (m : Moment) : List Char :=
  m.writeLocal ++ ['+', '0', '0', ':', '0', '0']

end Moment

end Outreach
