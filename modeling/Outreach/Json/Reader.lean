import Outreach.Json.Cursor
import Outreach.Number.Reader

/-!
Reading a JSON value from a text. The reader goes through the text once and stops at
the first fault. Arrays and objects may be nested up to a fixed depth. Every call of the
reader passes at least one character, so the length of the text bounds its calls.
-/

namespace Outreach.Json

def hexValue? (c : Char) : Option Nat :=
  if c.isDigit then some (c.toNat - '0'.toNat)
  else if 'a' ≤ c ∧ c ≤ 'f' then some (c.toNat - 'a'.toNat + 10)
  else if 'A' ≤ c ∧ c ≤ 'F' then some (c.toNat - 'A'.toNat + 10)
  else none

def hexDigits? (digits : List Char) : Option Nat :=
  digits.foldlM (fun n c => (hexValue? c).map (16 * n + ·)) 0

namespace Cursor

def hexEscape (c : Cursor) : Except SyntaxFault (Nat × Cursor) :=
  match skipBytes 4 c.rest c.line c.column with
  | none => (toEnd c.rest c.line c.column).fault .endOfString
  | some after =>
    match hexDigits? (c.rest.take 4) with
    | some n => .ok (n, after)
    | none => after.fault .invalidEscape

def isHighSurrogate (n : Nat) : Bool := 0xD800 ≤ n && n ≤ 0xDBFF

def isLowSurrogate (n : Nat) : Bool := 0xDC00 ≤ n && n ≤ 0xDFFF

def expectInEscape (c : Cursor) (x : Char) : Except SyntaxFault Cursor :=
  match c.rest with
  | [] => c.fault .endOfString
  | y :: _ => if y = x then .ok c.next else c.faultAhead .endOfEscape

def unicodeEscape (c : Cursor) : Except SyntaxFault (Char × Cursor) := do
  let (high, c) ← c.hexEscape
  if isLowSurrogate high then
    c.fault .loneSurrogate
  else if isHighSurrogate high then
    let c ← c.expectInEscape '\\'
    let c ← c.expectInEscape 'u'
    let (low, c) ← c.hexEscape
    if isLowSurrogate low then
      .ok (Char.ofNat ((high - 0xD800) * 0x400 + (low - 0xDC00) + 0x10000), c)
    else c.fault .loneSurrogate
  else .ok (Char.ofNat high, c)

def escape (c : Cursor) : Except SyntaxFault (Char × Cursor) :=
  match c.rest with
  | [] => c.fault .endOfString
  | '"' :: _ => .ok ('"', c.next)
  | '\\' :: _ => .ok ('\\', c.next)
  | '/' :: _ => .ok ('/', c.next)
  | 'b' :: _ => .ok ('\x08', c.next)
  | 'f' :: _ => .ok ('\x0c', c.next)
  | 'n' :: _ => .ok ('\n', c.next)
  | 'r' :: _ => .ok ('\r', c.next)
  | 't' :: _ => .ok ('\t', c.next)
  | 'u' :: _ => c.next.unicodeEscape
  | _ => c.faultAhead .invalidEscape

def stringTail : Nat → List Char → Cursor → Except SyntaxFault (String × Cursor)
  | 0, _, c => c.fault .endOfString
  | fuel + 1, read, c =>
    match c.rest with
    | [] => c.fault .endOfString
    | '"' :: _ => .ok (String.ofList read.reverse, c.next)
    | '\\' :: _ => do
      let (x, c) ← c.next.escape
      stringTail fuel (x :: read) c
    | x :: _ =>
      if x.toNat < 0x20 then c.faultAhead .controlCharacter
      else stringTail fuel (x :: read) c.next

def string (c : Cursor) : Except SyntaxFault (String × Cursor) :=
  stringTail (c.rest.length + 1) [] c

def word : List Char → Cursor → Except SyntaxFault Cursor
  | [], c => .ok c
  | x :: letters, c =>
    match c.rest with
    | [] => c.fault .endOfValue
    | y :: _ => if x = y then word letters c.next else c.faultAhead .expectedIdentifier

/-- The digits of an exponent; one that leaves the range of exponents is decided at once
by the sign of the exponent and by whether the number is zero. -/
def exponentDigits (isZero positive : Bool) :
    List Char → Nat → Cursor → Except SyntaxFault (Option Nat × Cursor)
  | x :: rest, n, c =>
    if x.isDigit then
      let m := 10 * n + (x.toNat - '0'.toNat)
      if m < 2147483648 then exponentDigits isZero positive rest m c.next
      else if !isZero && positive then c.next.fault .numberOutOfRange
      else .ok (none, c.takeDigits.2)
    else .ok (some n, c)
  | [], n, c => .ok (some n, c)

def float (negative : Bool) (x : Float) : Number :=
  .real (if negative then -x else x)

def scaled (negative : Bool) (d : LeadingDigits) (c : Cursor) :
    Except SyntaxFault (Number × Cursor) :=
  match d.toFloat? with
  | some x => .ok (float negative x, c)
  | none => c.fault .numberOutOfRange

def exponent (negative : Bool) (d : LeadingDigits) (c : Cursor) :
    Except SyntaxFault (Number × Cursor) := do
  let c := c.next
  let (positive, c) :=
    match c.rest with
    | '+' :: _ => (true, c.next)
    | '-' :: _ => (false, c.next)
    | _ => (true, c)
  match c.rest with
  | [] => c.fault .endOfValue
  | x :: _ =>
    if x.isDigit then
      match ← exponentDigits (d.significand == 0) positive c.rest 0 c with
      | (some n, c) =>
        scaled negative ⟨d.significand, if positive then d.exponent + n else d.exponent - n⟩ c
      | (none, c) => .ok (float negative 0, c)
    else c.faultAhead .invalidNumber

def exponentOrEnd (negative : Bool) (d : LeadingDigits) (c : Cursor) :
    Except SyntaxFault (Number × Cursor) :=
  match c.rest with
  | 'e' :: _ => exponent negative d c
  | 'E' :: _ => exponent negative d c
  | _ => scaled negative d c

def fraction (negative : Bool) (d : LeadingDigits) (c : Cursor) :
    Except SyntaxFault (Number × Cursor) :=
  let (digits, after) := c.next.takeDigits
  if digits.isEmpty then
    match after.rest with
    | [] => after.fault .endOfValue
    | _ => after.faultAhead .invalidNumber
  else exponentOrEnd negative (d.pushFraction digits) after

/-- A whole number without point and exponent; minus zero, and one that does not fit into
sixty-four bits, is a float. -/
def wholeNumber (negative : Bool) (n : Nat) : Number :=
  if !negative then .integer n
  else if n = 0 ∨ 9223372036854775808 < n then float true (Float.ofNat n)
  else .integer (-n)

def number (negative : Bool) (c : Cursor) : Except SyntaxFault (Number × Cursor) :=
  match c.rest with
  | [] => c.fault .endOfValue
  | x :: _ =>
    if !x.isDigit then c.faultAhead .invalidNumber
    else
      let (digits, after) := if x = '0' then ([0], c.next) else c.takeDigits
      match x, after.rest with
      | '0', y :: _ =>
        if y.isDigit then after.faultAhead .invalidNumber
        else numberTail negative digits after
      | _, _ => numberTail negative digits after
where
  numberTail (negative : Bool) (digits : List Nat) (c : Cursor) :
      Except SyntaxFault (Number × Cursor) :=
    let d := LeadingDigits.pushWhole ⟨0, 0⟩ digits
    match c.rest with
    | '.' :: _ => fraction negative d c
    | 'e' :: _ => exponent negative d c
    | 'E' :: _ => exponent negative d c
    | _ =>
      if d.exponent = 0 then .ok (wholeNumber negative d.significand, c)
      else scaled negative d c

/-- Whether another item of an array starts; then the cursor is before it, otherwise
before the closing bracket. -/
def nextItem (first : Bool) (c : Cursor) : Except SyntaxFault (Bool × Cursor) :=
  let c := c.skipBlank
  match c.rest with
  | [] => c.fault .endOfList
  | ']' :: _ => .ok (false, c)
  | x :: _ =>
    if first then .ok (true, c)
    else if x = ',' then
      let c := c.next.skipBlank
      match c.rest with
      | [] => c.fault .endOfValue
      | ']' :: _ => c.faultAhead .trailingComma
      | _ => .ok (true, c)
    else c.faultAhead .expectedListSeparator

/-- The next key of an object, if there is one; then the cursor is past it, otherwise
before the closing brace. -/
def nextKey (first : Bool) (c : Cursor) : Except SyntaxFault (Option String × Cursor) :=
  let c := c.skipBlank
  match c.rest with
  | [] => c.fault .endOfObject
  | '\x7d' :: _ => .ok (none, c)
  | x :: _ =>
    if first then
      if x = '"' then (c.next.string).map fun (key, c) => (some key, c)
      else c.faultAhead .keyNotString
    else if x = ',' then
      let c := c.next.skipBlank
      match c.rest with
      | [] => c.fault .endOfValue
      | '"' :: _ => (c.next.string).map fun (key, c) => (some key, c)
      | '\x7d' :: _ => c.faultAhead .trailingComma
      | _ => c.faultAhead .keyNotString
    else c.faultAhead .expectedObjectSeparator

def colon (c : Cursor) : Except SyntaxFault Cursor :=
  let c := c.skipBlank
  match c.rest with
  | [] => c.fault .endOfObject
  | ':' :: _ => .ok c.next
  | _ => c.faultAhead .expectedColon

mutual

/-- One value. An object keeps its entries in the order of the text. -/
def value : Nat → Nat → Cursor → Except SyntaxFault (Json × Cursor)
  | 0, _, c => c.fault .endOfValue
  | fuel + 1, depth, c => do
    let c := c.skipBlank
    match c.rest with
    | [] => c.fault .endOfValue
    | 'n' :: _ => return (.null, ← word ['u', 'l', 'l'] c.next)
    | 't' :: _ => return (.bool true, ← word ['r', 'u', 'e'] c.next)
    | 'f' :: _ => return (.bool false, ← word ['a', 'l', 's', 'e'] c.next)
    | '"' :: _ =>
      let (s, c) ← c.next.string
      return (.string s, c)
    | '-' :: _ =>
      let (n, c) ← c.next.number true
      return (.number n, c)
    | '[' :: _ =>
      match depth with
      | 0 => c.faultAhead .tooDeep
      | depth + 1 =>
        let (items, c) ← items fuel depth true c.next
        return (.array items, c.next)
    | '\x7b' :: _ =>
      match depth with
      | 0 => c.faultAhead .tooDeep
      | depth + 1 =>
        let (entries, c) ← entries fuel depth true c.next
        return (.object entries, c.next)
    | x :: _ =>
      if x.isDigit then
        let (n, c) ← c.number false
        return (.number n, c)
      else c.faultAhead .expectedValue

def items : Nat → Nat → Bool → Cursor → Except SyntaxFault (List Json × Cursor)
  | 0, _, _, c => c.fault .endOfList
  | fuel + 1, depth, first, c => do
    match ← c.nextItem first with
    | (false, c) => return ([], c)
    | (true, c) =>
      let (j, c) ← value fuel depth c
      let (rest, c) ← items fuel depth false c
      return (j :: rest, c)

def entries : Nat → Nat → Bool → Cursor → Except SyntaxFault (List (String × Json) × Cursor)
  | 0, _, _, c => c.fault .endOfObject
  | fuel + 1, depth, first, c => do
    match ← c.nextKey first with
    | (none, c) => return ([], c)
    | (some key, c) =>
      let c ← c.colon
      let (j, c) ← value fuel depth c
      let (rest, c) ← entries fuel depth false c
      return ((key, j) :: rest, c)

end

def maxDepth : Nat := 127

def finish (c : Cursor) : Except SyntaxFault Unit :=
  let c := c.skipBlank
  if c.rest.isEmpty then .ok () else c.faultAhead .trailingCharacters

end Cursor

def readRaw (text : String) : Except SyntaxFault Json := do
  let c := Cursor.start text
  let (j, c) ← c.value (2 * c.rest.length + 2) Cursor.maxDepth
  c.finish
  return j

def read (text : String) : Except SyntaxFault Json :=
  (readRaw text).map canonical

end Outreach.Json
