import Outreach.Json.Record
import Outreach.Json.Skip

/-!
Reading a list of records from a text in one go. The fields of the records are scalars.
A value is held against its field as soon as it is read, so faults of the text and
mismatches come in the order of the text, and a mismatch names its position: after a
scalar, and before the bracket of a value that cannot be a scalar.
-/

namespace Outreach.Json

/-- Why a text is no list of records. -/
inductive TextFault
  | malformed (fault : SyntaxFault)
  | mismatch (mismatch : Mismatch) (line column : Nat)
  deriving DecidableEq, Repr

def TextFault.message : TextFault → String
  | malformed fault => fault.message
  | mismatch m line column => m.message ++ atPosition line column

namespace Cursor

def mismatch {α : Type} (c : Cursor) (m : Mismatch) : Except TextFault α :=
  .error (.mismatch m c.line c.column)

def sound {α : Type} (r : Except SyntaxFault α) : Except TextFault α :=
  r.mapError .malformed

/-- A value that `check` accepts if it is a scalar. -/
def scalar (check : Json → Except Mismatch Unit) (c : Cursor) :
    Except TextFault (Json × Cursor) := do
  let c := c.skipBlank
  let bracket? : Option Json :=
    match c.rest with
    | '[' :: _ => some (.array [])
    | '\x7b' :: _ => some (.object [])
    | _ => none
  match bracket? with
  | some j =>
    match check j with
    | .error m => c.mismatch m
    | .ok () => sound (c.value (2 * c.rest.length + 2) maxDepth)
  | none =>
    let (j, after) ← sound (c.value 1 0)
    match check j with
    | .error m => after.mismatch m
    | .ok () => return (j, after)

def recordEntries (fields : List Field) :
    Nat → Bool → Entries → Cursor → Except TextFault (Entries × Cursor)
  | 0, _, _, c => sound (c.fault .endOfObject)
  | fuel + 1, first, read, c => do
    match ← sound (c.nextKey first) with
    | (none, c) => return (read.reverse, c)
    | (some key, c) =>
      match Field.find? fields key with
      | none =>
        let c ← sound (do (← c.colon).pass)
        recordEntries fields fuel false read c
      | some f =>
        if (read.lookup key).isSome then c.skipBlank.mismatch (.repeatedField key)
        else
          let c ← sound c.colon
          let (j, c) ← scalar f.check c
          recordEntries fields fuel false ((key, j) :: read) c

def closeArray (c : Cursor) : Except SyntaxFault Cursor :=
  let c := c.skipBlank
  match c.rest with
  | [] => c.fault .endOfList
  | ']' :: _ => .ok c.next
  | ',' :: _ =>
    let c := c.next.skipBlank
    match c.rest with
    | ']' :: _ => c.faultAhead .trailingComma
    | _ => c.faultAhead .trailingCharacters
  | _ => c.faultAhead .trailingCharacters

def recordItems (label : String) (total : Nat) :
    List Field → Bool → Nat → Cursor → Except TextFault (Entries × Cursor)
  | [], _, _, c => return ([], c)
  | f :: fields, first, position, c => do
    let (more, c) ← sound (c.nextItem first)
    if more then
      let (j, c) ← scalar f.check c
      let (rest, c) ← recordItems label total fields false (position + 1) c
      return ((f.name, j) :: rest, c)
    else if f.isOptional then recordItems label total fields first (position + 1) c
    else c.next.mismatch (.wrongLength position (Field.countLabel label total))

def record (label : String) (fields : List Field) (c : Cursor) :
    Except TextFault (Entries × Cursor) := do
  let c := c.skipBlank
  match c.rest with
  | '\x7b' :: _ =>
    let (entries, c) ← recordEntries fields (c.rest.length + 1) true [] c.next
    match Field.missing? fields entries with
    | some name => c.next.mismatch (.missingField name)
    | none => return (entries, c.next)
  | '[' :: _ =>
    let (entries, c) ← recordItems label fields.length fields true 0 c.next
    return (entries, ← sound c.closeArray)
  | _ =>
    let (j, c) ← sound (c.value 1 0)
    c.mismatch (.wrongType j.describe label)

def records (label : String) (fields : List Field) :
    Nat → Bool → Cursor → Except TextFault (List Entries × Cursor)
  | 0, _, c => sound (c.fault .endOfList)
  | fuel + 1, first, c => do
    match ← sound (c.nextItem first) with
    | (false, c) => return ([], c)
    | (true, c) =>
      let (r, c) ← c.record label fields
      let (rest, c) ← records label fields fuel false c
      return (r :: rest, c)

end Cursor

def readRecords (label : String) (fields : List Field) (text : String) :
    Except TextFault (List Entries) := do
  let c := (Cursor.start text).skipBlank
  match c.rest with
  | '[' :: _ =>
    let (rs, c) ← c.next.records label fields (c.rest.length + 1) true
    Cursor.sound c.next.finish
    return rs
  | '\x7b' :: _ => c.mismatch (.wrongType (Json.object []).describe "a sequence")
  | _ =>
    let (j, c) ← Cursor.sound (c.value 1 0)
    c.mismatch (.wrongType j.describe "a sequence")

end Outreach.Json
