import Outreach.Calendar.Reading
import Outreach.Json.Basic
import Outreach.Number.Reader

/-!
The scalar values of a TOML document. Strings are quoted in two ways, each on one line
or, with three quotes, on several. Numbers may have underscores between their digits.
Dates and times are kept as their text, the digits of a second cut to nine.
-/

namespace Outreach.Toml

open Outreach.Text Outreach.Calendar

def isBlank (c : Char) : Bool := c = ' ' || c = '\t'

def isPrintable (c : Char) : Bool := c = '\t' || (0x20 ≤ c.toNat && c.toNat ≠ 0x7F)

def newline? : List Char → Option (List Char)
  | '\n' :: rest => some rest
  | '\r' :: '\n' :: rest => some rest
  | _ => none

def unicode? (width : Nat) (cs : List Char) : Option (Char × List Char) :=
  let digits := cs.take width
  if digits.length ≠ width then none
  else
    match hexNumber? digits with
    | some n => if n.isValidChar then some (Char.ofNat n, cs.drop width) else none
    | none => none

def escape? : List Char → Option (Char × List Char)
  | 'b' :: rest => some ('\x08', rest)
  | 't' :: rest => some ('\t', rest)
  | 'n' :: rest => some ('\n', rest)
  | 'f' :: rest => some ('\x0c', rest)
  | 'r' :: rest => some ('\r', rest)
  | '"' :: rest => some ('"', rest)
  | '\\' :: rest => some ('\\', rest)
  | 'u' :: rest => unicode? 4 rest
  | 'U' :: rest => unicode? 8 rest
  | _ => none

def lineString? (quote : Char) : Nat → List Char → List Char → Option (List Char × List Char)
  | 0, _, _ => none
  | fuel + 1, read, cs =>
    match cs with
    | [] => none
    | c :: rest =>
      if c = quote then some (read.reverse, rest)
      else if c = '\\' ∧ quote = '"' then
        match escape? rest with
        | some (x, rest) => lineString? quote fuel (x :: read) rest
        | none => none
      else if isPrintable c then lineString? quote fuel (c :: read) rest
      else none

def lineJoin? (cs : List Char) : Option (List Char) :=
  let rest := cs.dropWhile isBlank
  match newline? rest with
  | some _ => some (rest.dropWhile fun c => isBlank c || c = '\n' || c = '\r')
  | none => none

/-- The rest of a string on several lines, after its opening quotes. One or two quotes may
stand before the closing ones. -/
def longString? (quote : Char) : Nat → List Char → List Char → Option (List Char × List Char)
  | 0, _, _ => none
  | fuel + 1, read, cs =>
    match cs with
    | [] => none
    | c :: rest =>
      if c = quote then
        let run := cs.takeWhile (· = quote)
        if run.length < 3 then
          longString? quote fuel (run ++ read) (cs.drop run.length)
        else if run.length ≤ 5 then
          some (read.reverse ++ run.drop 3, cs.drop run.length)
        else none
      else if c = '\\' ∧ quote = '"' then
        match lineJoin? rest with
        | some rest => longString? quote fuel read rest
        | none =>
          match escape? rest with
          | some (x, rest) => longString? quote fuel (x :: read) rest
          | none => none
      else
        match newline? cs with
        | some rest => longString? quote fuel ('\n' :: read) rest
        | none => if isPrintable c then longString? quote fuel (c :: read) rest else none

def string? (quote : Char) (cs : List Char) : Option (String × List Char) :=
  let opening := cs.takeWhile (· = quote)
  let found :=
    if 3 ≤ opening.length then
      let rest := cs.drop 3
      longString? quote (cs.length + 1) [] ((newline? rest).getD rest)
    else lineString? quote (cs.length + 1) [] (cs.drop 1)
  found.map fun (s, rest) => (String.ofList s, rest)

/-- The digits of a run whose underscores stand between digits. -/
def digits? (isDigit : Char → Bool) : List Char → Option (List Char)
  | [] => none
  | [c] => if isDigit c then some [c] else none
  | c :: '_' :: rest =>
    if isDigit c then (digits? isDigit rest).map (c :: ·) else none
  | c :: rest => if isDigit c then (digits? isDigit rest).map (c :: ·) else none

def unsignedDigits? (cs : List Char) : Option (List Char) :=
  (digits? Char.isDigit cs).filter fun ds => ds.length = 1 || ds.head? ≠ some '0'

def signed (cs : List Char) : Bool × List Char :=
  match cs with
  | '-' :: rest => (true, rest)
  | '+' :: rest => (false, rest)
  | _ => (false, cs)

def ofBase? (base : Nat) (cs : List Char) : Option Nat :=
  (digits? (fun c => match hexNumber? [c] with
    | some n => n < base
    | none => false) cs).map fun ds =>
      ds.foldl (fun n c => base * n + ((hexNumber? [c]).getD 0)) 0

def integer? (cs : List Char) : Option Int :=
  let n? : Option Int :=
    match cs with
    | '0' :: 'x' :: rest => (ofBase? 16 rest).map Int.ofNat
    | '0' :: 'o' :: rest => (ofBase? 8 rest).map Int.ofNat
    | '0' :: 'b' :: rest => (ofBase? 2 rest).map Int.ofNat
    | _ =>
      let (negative, rest) := signed cs
      (unsignedDigits? rest).map fun ds =>
        if negative then -(digitsValue ds : Int) else digitsValue ds
  n?.filter fun n => -9223372036854775808 ≤ n ∧ n < 9223372036854775808

def exponent? (cs : List Char) : Option Int :=
  let (negative, rest) := signed cs
  (digits? Char.isDigit rest).map fun ds =>
    if negative then -(digitsValue ds : Int) else digitsValue ds

/-- A float with a fraction, an exponent or both; a positive one that is too large is none. -/
def float? (cs : List Char) : Option Float :=
  let (negative, rest) := signed cs
  let sign (x : Float) : Float := if negative then -x else x
  if rest = ['i', 'n', 'f'] then some (sign (1.0 / 0.0))
  else if rest = ['n', 'a', 'n'] then some (sign (0.0 / 0.0))
  else
    let isMark (c : Char) : Bool := c = 'e' || c = 'E'
    let mantissa := rest.takeWhile fun c => !isMark c
    let whole := mantissa.takeWhile (· ≠ '.')
    let fraction? :=
      match mantissa.drop whole.length with
      | [] => some []
      | _ :: fraction => digits? Char.isDigit fraction
    let exponent? :=
      match rest.drop mantissa.length with
      | [] => some 0
      | _ :: e => exponent? e
    match unsignedDigits? whole, fraction?, exponent? with
    | some whole', some fraction, some e =>
      if whole.length = rest.length then none
      else
        let x := nearestFloat (digitsValue (whole' ++ fraction)) (e - fraction.length)
        if x.isInf ∧ negative = false then none else some (sign x)
    | _, _, _ => none

def dateText? (cs : List Char) : Option (List Char × List Char) := do
  let (y, rest) ← fixed 4 cs
  let rest ← sign '-' rest
  let (m, rest) ← fixed 2 rest
  let rest ← sign '-' rest
  let (d, rest) ← fixed 2 rest
  if 1 ≤ m ∧ m ≤ 12 ∧ 1 ≤ d ∧ d ≤ daysInMonth y m then some (cs.take 10, rest) else none

def fractionText? : List Char → Option (List Char × List Char)
  | '.' :: rest =>
    let digits := rest.takeWhile Char.isDigit
    if digits.isEmpty then none
    else
      let shown := ((digits.take 9).reverse.dropWhile (· = '0')).reverse
      some (if shown.isEmpty then [] else '.' :: shown, rest.drop digits.length)
  | cs => some ([], cs)

def timeText? (cs : List Char) : Option (List Char × List Char) := do
  let (h, rest) ← fixed 2 cs
  let rest ← sign ':' rest
  let (m, rest) ← fixed 2 rest
  let rest ← sign ':' rest
  let (s, rest) ← fixed 2 rest
  let (fraction, rest) ← fractionText? rest
  if h ≤ 23 ∧ m ≤ 59 ∧ s ≤ 60 then some (cs.take 8 ++ fraction, rest) else none

/-- An offset that ends a text; minus zero is written as plus zero. -/
def offsetText? : List Char → Option (List Char)
  | [] => some []
  | ['Z'] => some ['Z']
  | ['z'] => some ['Z']
  | c :: rest => do
    if c ≠ '+' ∧ c ≠ '-' then failure
    let (h, after) ← fixed 2 rest
    let after ← sign ':' after
    let (m, after) ← fixed 2 after
    if h ≤ 23 ∧ m ≤ 59 ∧ after.isEmpty then
      some ((if h = 0 ∧ m = 0 then '+' else c) :: rest)
    else failure

def momentText? (cs : List Char) : Option (List Char) :=
  match dateText? cs with
  | some (date, []) => some date
  | some (date, c :: rest) => do
    if c ≠ 'T' ∧ c ≠ 't' ∧ c ≠ ' ' then failure
    let (time, rest) ← timeText? rest
    let offset ← offsetText? rest
    some (date ++ 'T' :: time ++ offset)
  | none =>
    match timeText? cs with
    | some (time, []) => some time
    | _ => none

def isToken (c : Char) : Bool :=
  c.isAlphanum || c = '_' || c = '+' || c = '-' || c = '.' || c = ':'

/-- The run of characters of a number, a date, a time or a word; a date and a time may be
joined by a space. -/
def token (cs : List Char) : List Char :=
  let first := cs.takeWhile isToken
  match (dateText? first).map (·.2), cs.drop first.length with
  | some [], ' ' :: c :: rest =>
    if c.isDigit then first ++ ' ' :: (c :: rest).takeWhile isToken else first
  | _, _ => first

def ofToken? (cs : List Char) : Option Json :=
  if cs = ['t', 'r', 'u', 'e'] then some (.bool true)
  else if cs = ['f', 'a', 'l', 's', 'e'] then some (.bool false)
  else
    match momentText? cs with
    | some text => some (.string (String.ofList text))
    | none =>
      match integer? cs with
      | some n => some (.integer n)
      | none => (float? cs).map fun x => .number (.real x)

end Outreach.Toml
