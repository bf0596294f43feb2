import Outreach.Json.Reader

/-!
Passing over a JSON value whose content does not matter. Only what keeps the text in
step is checked: neither the size of numbers nor the meaning of escapes, and values may
be nested to any depth.
-/

namespace Outreach.Json.Cursor

def passExponent (c : Cursor) : Except SyntaxFault Cursor :=
  let c := c.next
  let c := match c.rest with
    | '+' :: _ => c.next
    | '-' :: _ => c.next
    | _ => c
  match c.rest with
  | x :: _ => if x.isDigit then .ok c.takeDigits.2 else c.faultAhead .invalidNumber
  | [] => c.fault .invalidNumber

def passExponentOrEnd (c : Cursor) : Except SyntaxFault Cursor :=
  match c.rest with
  | 'e' :: _ => c.passExponent
  | 'E' :: _ => c.passExponent
  | _ => .ok c

def passFraction (c : Cursor) : Except SyntaxFault Cursor :=
  let (digits, c) := c.next.takeDigits
  if digits.isEmpty then c.faultAhead .invalidNumber else c.passExponentOrEnd

def passNumber (c : Cursor) : Except SyntaxFault Cursor :=
  match c.rest with
  | [] => c.fault .invalidNumber
  | '0' :: y :: _ => if y.isDigit then c.next.faultAhead .invalidNumber else tail c.next
  | x :: _ => if x.isDigit then tail c.takeDigits.2 else c.faultAhead .invalidNumber
where
  tail (c : Cursor) : Except SyntaxFault Cursor :=
    match c.rest with
    | '.' :: _ => c.passFraction
    | _ => c.passExponentOrEnd

def passEscape (c : Cursor) : Except SyntaxFault Cursor :=
  match c.rest with
  | [] => c.fault .endOfString
  | 'u' :: _ => (c.next.hexEscape).map (·.2)
  | x :: _ =>
    if ['"', '\\', '/', 'b', 'f', 'n', 'r', 't'].contains x then .ok c.next
    else c.faultAhead .invalidEscape

def passString : Nat → Cursor → Except SyntaxFault Cursor
  | 0, c => c.fault .endOfString
  | fuel + 1, c =>
    match c.rest with
    | [] => c.fault .endOfString
    | '"' :: _ => .ok c.next
    | '\\' :: _ => do passString fuel (← c.next.passEscape)
    | x :: _ =>
      if x.toNat < 0x20 then c.fault .controlCharacter else passString fuel c.next

def passKey (c : Cursor) : Except SyntaxFault Cursor := do
  let c := c.skipBlank
  match c.rest with
  | [] => c.fault .endOfObject
  | '"' :: _ => (← passString (c.rest.length + 1) c.next).colon
  | _ => c.faultAhead .keyNotString

mutual

/-- Passes over the rest of a value whose parts are in the brackets of `open`, the
innermost first; `true` stands for an array. -/
def passValue : Nat → List Bool → Cursor → Except SyntaxFault Cursor
  | 0, _, c => c.fault .endOfValue
  | fuel + 1, brackets, c => do
    let c := c.skipBlank
    match c.rest with
    | [] => c.fault .endOfValue
    | 'n' :: _ => passRest fuel brackets true (← word ['u', 'l', 'l'] c.next)
    | 't' :: _ => passRest fuel brackets true (← word ['r', 'u', 'e'] c.next)
    | 'f' :: _ => passRest fuel brackets true (← word ['a', 'l', 's', 'e'] c.next)
    | '"' :: _ => passRest fuel brackets true (← passString (c.rest.length + 1) c.next)
    | '-' :: _ => passRest fuel brackets true (← c.next.passNumber)
    | '[' :: _ => passRest fuel (true :: brackets) false c.next
    | '\x7b' :: _ => passRest fuel (false :: brackets) false c.next
    | x :: _ =>
      if x.isDigit then passRest fuel brackets true (← c.passNumber)
      else c.faultAhead .expectedValue

/-- Goes on after an opening bracket or, if a comma may follow, after a value. -/
def passRest : Nat → List Bool → Bool → Cursor → Except SyntaxFault Cursor
  | _, [], _, c => .ok c
  | 0, _, _, c => c.fault .endOfValue
  | fuel + 1, isArray :: outer, afterValue, c => do
    let c := c.skipBlank
    match c.rest with
    | [] => c.fault (if isArray then .endOfList else .endOfObject)
    | x :: _ =>
      if afterValue ∧ x = ',' then
        let c ← if isArray then pure c.next else c.next.passKey
        passValue fuel (isArray :: outer) c
      else if x = (if isArray then ']' else '\x7d') then passRest fuel outer true c.next
      else if afterValue then
        c.faultAhead (if isArray then .expectedListSeparator else .expectedObjectSeparator)
      else
        let c ← if isArray then pure c else c.passKey
        passValue fuel (isArray :: outer) c

end

def pass (c : Cursor) : Except SyntaxFault Cursor :=
  passValue (2 * c.rest.length + 2) [] c

end Outreach.Json.Cursor
