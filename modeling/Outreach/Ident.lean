import Outreach.Json.Mismatch

/-!
Identifiers of stored records: thirty-two hexadecimal digits, written in lower case in
five groups joined by hyphens. They are read in either case, with the hyphens or without
them, and with them also in braces or after a fixed prefix.
-/

namespace Outreach

structure Ident where
  digits : List (Fin 16)
  length_eq : digits.length = 32
  deriving DecidableEq

namespace Ident

instance : Inhabited Ident := ⟨⟨List.replicate 32 0, by decide⟩⟩

def hexDigit (d : Fin 16) : Char :=
  Nat.digitChar d.val

def hexValue? (c : Char) : Option (Fin 16) :=
  if '0' ≤ c ∧ c ≤ '9' then some (Fin.ofNat 16 (c.toNat - '0'.toNat))
  else if 'a' ≤ c ∧ c ≤ 'f' then some (Fin.ofNat 16 (c.toNat - 'a'.toNat + 10))
  else if 'A' ≤ c ∧ c ≤ 'F' then some (Fin.ofNat 16 (c.toNat - 'A'.toNat + 10))
  else none

def grouped {α : Type} (hyphen : α) (cs : List α) : List α :=
  cs.take 8 ++ hyphen :: (cs.drop 8).take 4 ++ hyphen :: (cs.drop 12).take 4 ++
    hyphen :: (cs.drop 16).take 4 ++ hyphen :: cs.drop 20

def write (i : Ident) : String :=
  String.ofList (grouped '-' (i.digits.map hexDigit))

instance : ToString Ident := ⟨write⟩

def toJson (i : Ident) : Json := .string i.write

/-- Why a text is no identifier. -/
inductive Fault
  | invalidCharacter (c : Char) (position : Nat)
  | wrongLength (found : Nat)
  | wrongGroupCount (found : Nat)
  | wrongGroupLength (group expected found : Nat)
  deriving DecidableEq, Repr

def Fault.message : Fault → String
  | invalidCharacter c position => s!"invalid character: found `{c}` at {position}"
  | wrongLength found => s!"invalid length: found {found}"
  | wrongGroupCount found => s!"invalid group count: expected 5, found {found}"
  | wrongGroupLength group expected found =>
    s!"invalid group length in group {group}: expected {expected}, found {found}"

def ofHex? (cs : List Char) : Option Ident :=
  match cs.mapM hexValue? with
  | some digits => if h : digits.length = 32 then some ⟨digits, h⟩ else none
  | none => none

def ungrouped? (cs : List Char) : Option (List Char) :=
  if cs.length = 36 ∧ [8, 13, 18, 23].all (fun k => cs[k]? == some '-') then
    some (cs.take 8 ++ (cs.drop 9).take 4 ++ (cs.drop 14).take 4 ++ (cs.drop 19).take 4 ++
      cs.drop 24)
  else none

/-- The part of a text inside braces or after the prefix, how far it lies from the start,
and whether the text has neither. -/
def body (cs : List Char) : List Char × Nat × Bool :=
  let urn := "urn:uuid:".toList
  if cs.head? = some '\x7b' ∧ cs.getLast? = some '\x7d' ∧ 2 ≤ cs.length then
    (cs.tail.dropLast, 1, false)
  else if urn.isPrefixOf cs then (cs.drop urn.length, urn.length, false)
  else (cs, 0, true)

/-- The first character that is neither a digit nor a hyphen, with its place in bytes. -/
def foreign? : List Char → Nat → Option (Char × Nat)
  | [], _ => none
  | c :: rest, position =>
    if c = '-' ∨ (hexValue? c).isSome then foreign? rest (position + 1) else some (c, position)

def diagnose (cs : List Char) : Fault :=
  let (part, offset, bare) := body cs
  match foreign? part offset with
  | some (c, position) => .invalidCharacter c position
  | none =>
    let hyphens := (List.range part.length).filter fun k => part[k]? == some '-'
    if hyphens.isEmpty && bare then .wrongLength cs.length
    else
      match hyphens with
      | [a, b, c, d] =>
        if a ≠ 8 then .wrongGroupLength 0 8 a
        else if b ≠ 13 then .wrongGroupLength 1 4 (b - 9)
        else if c ≠ 18 then .wrongGroupLength 2 4 (c - 14)
        else if d ≠ 23 then .wrongGroupLength 3 4 (d - 19)
        else .wrongGroupLength 4 12 (cs.length - 24)
      | _ => .wrongGroupCount (hyphens.length + 1)

def read (s : String) : Except Fault Ident :=
  let cs := s.toList
  let (part, _, bare) := body cs
  let found :=
    match ungrouped? part with
    | some digits => ofHex? digits
    | none => if bare then ofHex? cs else none
  match found with
  | some i => .ok i
  | none => .error (diagnose cs)

def ofJson (j : Json) : Except Mismatch Ident := do
  let s ← j.asText "a formatted UUID string"
  match read s with
  | .ok i => .ok i
  | .error f => .error (.refused ("UUID parsing failed: " ++ f.message))

def before (a b : Ident) : Bool :=
  a.digits.map (·.val) < b.digits.map (·.val)

def ofNat (n : Nat) : Ident :=
  ⟨(List.range 32).reverse.map fun k => Fin.ofNat 16 (n >>> (4 * k)), by simp⟩

end Ident

end Outreach
