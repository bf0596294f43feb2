import Outreach.Calendar.Basic
import Outreach.Text.Format

/-!
Reading dates and times from text. The lenient forms allow white space before every
number and, where stated, after it, numbers with fewer digits than are written, and years
of any width behind a sign. The strict form of a moment has every digit in its place.
Each field is checked against its range as soon as it is read; whether the date exists
is seen at the end.
-/

namespace Outreach.Calendar

open Outreach.Text

inductive Fault
  | outOfRange
  | impossible
  | invalid
  | tooShort
  | trailing
  deriving DecidableEq, Repr

def Fault.message : Fault → String
  | outOfRange => "input is out of range"
  | impossible => "no possible date and time matching input"
  | invalid => "input contains invalid characters"
  | tooShort => "premature end of input"
  | trailing => "trailing input"

/-- A run of one to `width` digits, or of any number of them. -/
def number (width : Option Nat) (cs : List Char) : Except Fault (Nat × List Char) :=
  if cs.isEmpty then .error .tooShort
  else
    let run := cs.takeWhile Char.isDigit
    let digits := match width with
      | some w => run.take w
      | none => run
    if digits.isEmpty then .error .invalid
    else
      let n := digitsValue digits
      if n < 9223372036854775808 then .ok (n, cs.drop digits.length) else .error .outOfRange

def ranged (low high : Nat) (reading : Except Fault (Nat × List Char)) :
    Except Fault (Nat × List Char) :=
  match reading with
  | .ok (n, rest) => if low ≤ n ∧ n ≤ high then .ok (n, rest) else .error .outOfRange
  | .error f => .error f

def field (low high : Nat) (cs : List Char) : Except Fault (Nat × List Char) :=
  ranged low high (number (some 2) (trimStart cs))

/-- A year: four digits at most, or any number of them behind a sign. -/
def year (cs : List Char) : Except Fault (Int × List Char) :=
  let signed : Except Fault (Int × List Char) :=
    match trimStart cs with
    | '-' :: rest => (number none rest).map fun (n, rest) => (-(n : Int), rest)
    | '+' :: rest => (number none rest).map fun (n, rest) => ((n : Int), rest)
    | rest => (number (some 4) rest).map fun (n, rest) => ((n : Int), rest)
  match signed with
  | .ok (y, rest) => if -2147483648 ≤ y ∧ y < 2147483648 then .ok (y, rest) else .error .outOfRange
  | .error f => .error f

def literal (x : Char) : List Char → Except Fault (List Char)
  | [] => .error .tooShort
  | c :: rest => if c = x then .ok rest else .error .invalid

def gap (spaced : Bool) (cs : List Char) : List Char :=
  if spaced then trimStart cs else cs

structure DateFields where
  year : Int
  month : Nat
  day : Nat

structure TimeFields where
  hour : Nat
  minute : Nat
  second : Nat
  nanosecond : Nat

def DateFields.date (d : DateFields) : Except Fault Date :=
  match Date.ofCivil? d.year d.month d.day with
  | some date => .ok date
  | none => .error .outOfRange

def TimeFields.time (t : TimeFields) : Except Fault TimeOfDay :=
  match TimeOfDay.of? t.hour t.minute t.second t.nanosecond with
  | some time => .ok time
  | none => .error .outOfRange

def dateFields (spaced : Bool) (cs : List Char) : Except Fault (DateFields × List Char) := do
  let (y, cs) ← year cs
  let cs ← literal '-' (gap spaced cs)
  let (m, cs) ← field 1 12 cs
  let cs ← literal '-' (gap spaced cs)
  let (d, cs) ← field 1 31 cs
  return (⟨y, m, d⟩, cs)

/-- A fraction of a second, if there is one; digits after the ninth are dropped. -/
def nanoseconds : List Char → Except Fault (Nat × List Char)
  | '.' :: rest => do
    let (n, after) ← number (some 9) rest
    return (n * Nat.pow 10 (9 - (rest.length - after.length)), after.dropWhile Char.isDigit)
  | cs => .ok (0, cs)

def hourMinute (spaced : Bool) (cs : List Char) : Except Fault ((Nat × Nat) × List Char) := do
  let (h, cs) ← field 0 23 cs
  let cs ← literal ':' (gap spaced cs)
  let (m, cs) ← field 0 59 cs
  return ((h, m), cs)

def secondFraction (spaced : Bool) (cs : List Char) : Except Fault ((Nat × Nat) × List Char) := do
  let cs ← literal ':' (gap spaced cs)
  let (s, cs) ← field 0 60 cs
  let (n, cs) ← nanoseconds cs
  return ((s, n), cs)

def timeFields (cs : List Char) : Except Fault (TimeFields × List Char) := do
  let ((h, m), cs) ← hourMinute true cs
  let ((s, n), cs) ← secondFraction true cs
  return (⟨h, m, s, n⟩, cs)

def finish (cs : List Char) : Except Fault Unit :=
  if (trimStart cs).isEmpty then .ok () else .error .trailing

def readDate (s : String) : Except Fault Date := do
  let (d, cs) ← dateFields true s.toList
  finish cs
  d.date

def readTime (s : String) : Except Fault TimeOfDay := do
  let ((h, m), cs) ← hourMinute true s.toList
  let ((second, nanosecond), cs) :=
    match secondFraction true cs with
    | .ok r => r
    | .error _ => ((0, 0), cs)
  finish cs
  TimeFields.time ⟨h, m, second, nanosecond⟩

def readLocal (s : String) : Except Fault Moment := do
  let (d, cs) ← dateFields true s.toList
  let cs ← literal 'T' (trimStart cs)
  let (t, cs) ← timeFields cs
  finish cs
  return ⟨← d.date, ← t.time⟩

def separator : List Char → Except Fault (List Char)
  | [] => .error .tooShort
  | c :: rest =>
    if c = 'T' ∨ c = 't' then .ok rest
    else if isBlank c then .ok (trimStart rest)
    else .error .invalid

/-- Two digits, told apart from a text of less than two bytes. -/
def twoDigits : List Char → Except Fault (Nat × List Char)
  | a :: b :: rest =>
    if a.isDigit ∧ b.isDigit then .ok (10 * digitValue a + digitValue b, rest)
    else .error .invalid
  | [a] => if a.utf8Size < 2 then .error .tooShort else .error .invalid
  | [] => .error .tooShort

/-- An offset from universal time in seconds; `colon` passes over what joins its hours and
minutes. -/
def offset (colon : List Char → Except Fault (List Char)) (cs : List Char) :
    Except Fault (Int × List Char) :=
  match cs with
  | [] => .error .tooShort
  | 'Z' :: rest => .ok (0, rest)
  | 'z' :: rest => .ok (0, rest)
  | c :: rest =>
    if c = '+' ∨ c = '-' ∨ c = '\u2212' then do
      let (h, cs) ← twoDigits rest
      let cs ← colon cs
      let (m, cs) ← twoDigits cs
      if 60 ≤ m then .error .outOfRange
      else
        let seconds : Int := h * 3600 + m * 60
        .ok (if c = '+' then seconds else -seconds, cs)
    else .error .invalid

def looseColon (cs : List Char) : Except Fault (List Char) :=
  .ok (cs.dropWhile fun c => c == ':' || isBlank c)

def zone (cs : List Char) : Except Fault (Int × List Char) :=
  if (cs.take 3).map Char.toUpper = ['U', 'T', 'C'] then .ok (0, cs.drop 3)
  else offset looseColon cs

def toUniversal (date : Date) (time : TimeOfDay) (seconds : Int) : Except Fault Moment :=
  if seconds.natAbs < 86400 then
    match (Moment.mk date time).subSeconds? seconds with
    | some m => .ok m
    | none => .error .impossible
  else .error .outOfRange

def readMoment (s : String) : Except Fault Moment := do
  let (d, cs) ← dateFields true s.toList
  let cs ← separator cs
  let (t, cs) ← timeFields cs
  let (seconds, cs) ← zone (trimStart cs)
  finish cs
  toUniversal (← d.date) (← t.time) seconds

def fixed (width : Nat) (cs : List Char) : Option (Nat × List Char) :=
  let digits := cs.take width
  if digits.length = width ∧ digits.all Char.isDigit then
    some (digitsValue digits, cs.drop width)
  else none

def sign (x : Char) : List Char → Option (List Char)
  | [] => none
  | c :: rest => if c = x then some rest else none

def readStrict? (cs : List Char) : Option Moment := do
  let (y, cs) ← fixed 4 cs
  let cs ← sign '-' cs
  let (mo, cs) ← fixed 2 cs
  let cs ← sign '-' cs
  let (d, cs) ← fixed 2 cs
  let cs ← (sign 'T' cs).or ((sign 't' cs).or (sign ' ' cs))
  let (h, cs) ← fixed 2 cs
  let cs ← sign ':' cs
  let (mi, cs) ← fixed 2 cs
  let cs ← sign ':' cs
  let (s, cs) ← fixed 2 cs
  let (n, cs) ← (nanoseconds cs).toOption
  let (seconds, cs) ← (offset (literal ':') cs).toOption
  if cs.isEmpty then
    let date ← Date.ofCivil? y mo d
    let time ← TimeOfDay.of? h mi s n
    (toUniversal date time seconds).toOption
  else none

def readDay? (cs : List Char) : Option Date :=
  match dateFields false cs with
  | .ok (d, []) => d.date.toOption
  | _ => none

/-- A time of day as hour and minute, or with a second; there is no white space after the
numbers. -/
def readClock? (s : String) : Option TimeOfDay :=
  match hourMinute false s.toList with
  | .ok ((h, m), []) => TimeOfDay.of? h m 0 0
  | .ok ((h, m), cs) =>
    match literal ':' cs with
    | .ok cs =>
      match field 0 60 cs with
      | .ok (second, []) => TimeOfDay.of? h m second 0
      | _ => none
    | .error _ => none
  | .error _ => none

end Outreach.Calendar
