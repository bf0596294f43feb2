import Outreach.Json.Mismatch

/-!
Reading a record from JSON. A record has named fields in a fixed order, each with a way
to read its value and perhaps a default. It is read from an object, whose unknown keys
are passed over, or from an array of its fields in order. The entries of an object are
checked in their own order and the first bad one decides; a field that is missing is
noticed afterwards.
-/

namespace Outreach

abbrev Entries := List (String × Json)

structure Member (α : Type) where
  name : String
  read : Json → Except Mismatch α
  default? : Option α

def Member.required {α : Type} (name : String) (read : Json → Except Mismatch α) : Member α :=
  ⟨name, read, none⟩

def Member.optional {α : Type} (name : String) (read : Json → Except Mismatch α) (default : α) :
    Member α :=
  ⟨name, read, some default⟩

def Member.nullable {α : Type} (name : String) (read : Json → Except Mismatch α) :
    Member (Option α) :=
  ⟨name, Json.nullable read, some none⟩

def Member.get {α : Type} (m : Member α) (entries : Entries) : Except Mismatch α :=
  match entries.lookup m.name with
  | some j => m.read j
  | none =>
    match m.default? with
    | some a => .ok a
    | none => .error (.missingField m.name)

/-- A member without the type of its value. -/
structure Field where
  name : String
  isOptional : Bool
  check : Json → Except Mismatch Unit

def Member.field {α : Type} (m : Member α) : Field :=
  ⟨m.name, m.default?.isSome, fun j => (m.read j).map fun _ => ()⟩

namespace Field

def find? (fields : List Field) (key : String) : Option Field :=
  fields.find? fun f => f.name == key

/-- Checks the entries of an object in order; `seen` are the fields met before. -/
def checkEntries (fields : List Field) (seen : List String) :
    Entries → Except Mismatch Unit
  | [] => .ok ()
  | (key, j) :: rest =>
    match find? fields key with
    | none => checkEntries fields seen rest
    | some f =>
      if seen.contains key then .error (.repeatedField key)
      else
        match f.check j with
        | .error m => .error m
        | .ok () => checkEntries fields (key :: seen) rest

def missing? (fields : List Field) (entries : Entries) : Option String :=
  (fields.find? fun f => !f.isOptional && (entries.lookup f.name).isNone).map (·.name)

def countLabel (label : String) (n : Nat) : String :=
  if n = 1 then s!"{label} with 1 element" else s!"{label} with {n} elements"

/-- Checks the items of an array against the fields in order; `position` counts the
fields already met, out of `total`. -/
def checkItems (label : String) (total : Nat) :
    List Field → List Json → Nat → Except Mismatch Entries
  | [], _, _ => .ok []
  | f :: fields, [], position =>
    if f.isOptional then checkItems label total fields [] (position + 1)
    else .error (.wrongLength position (countLabel label total))
  | f :: fields, j :: items, position =>
    match f.check j with
    | .error m => .error m
    | .ok () => (checkItems label total fields items (position + 1)).map ((f.name, j) :: ·)

end Field

def Json.record (label : String) (fields : List Field) (j : Json) : Except Mismatch Entries :=
  match j with
  | .object entries => do
    Field.checkEntries fields [] entries
    match Field.missing? fields entries with
    | some name => .error (.missingField name)
    | none => .ok entries
  | .array items => do
    let entries ← Field.checkItems label fields.length fields items 0
    if fields.length < items.length then
      .error (.wrongLength items.length "fewer elements in array")
    else .ok entries
  | _ => j.mistyped label

end Outreach
