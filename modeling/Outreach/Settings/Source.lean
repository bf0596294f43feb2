import Outreach.Json.Basic
import Outreach.Number.Reader
import Outreach.Text.Lowercase

/-!
Where settings come from: a table read from a file, and variables whose names lead to a
place in it. Keys are kept in lower case. What is stored later takes the place of what
was there, except that tables are merged.
-/

namespace Outreach.Settings

/-- One step of the way to a value. -/
inductive Part
  | key (name : String)
  | index (position : Int)
  deriving DecidableEq, Repr

def lower (s : String) : String :=
  String.ofList (Text.lowercase s.toList)

def entriesOf : Json → List (String × Json)
  | .object es => es
  | _ => []

mutual

def merge (old : Option Json) : Json → Json
  | .object es => .object (mergeEntries ((old.map entriesOf).getD []) es)
  | j => j

def mergeEntries (table : List (String × Json)) :
    List (String × Json) → List (String × Json)
  | [] => table
  | (name, j) :: rest =>
    mergeEntries (Json.insertEntry (lower name) (merge (table.lookup (lower name)) j) table) rest

end

def place (length : Nat) (position : Int) : Nat :=
  if 0 ≤ position then position.toNat else length - position.natAbs

def store (value : Json) : List Part → Option Json → Json
  | [], _ => value
  | [.key name], table =>
    let entries := (table.map entriesOf).getD []
    .object (Json.insertEntry (lower name) (merge (entries.lookup (lower name)) value) entries)
  | .key name :: path, table =>
    let entries := (table.map entriesOf).getD []
    .object (Json.insertEntry (lower name) (store value path (entries.lookup (lower name))) entries)
  | .index position :: path, list =>
    let items := match list with
      | some (.array items) => items
      | _ => []
    let n := place items.length position
    let items := items ++ List.replicate (n + 1 - items.length) .null
    .array (items.set n (store value path items[n]?))

def isNameChar (c : Char) : Bool :=
  c.isAlphanum || c = ' ' || c = '_' || c = '-' || c = ':'

def pathTail : Nat → List Char → Option (List Part)
  | 0, _ => none
  | _ + 1, [] => some []
  | fuel + 1, '.' :: rest =>
    let name := rest.takeWhile isNameChar
    if name.isEmpty then none
    else (pathTail fuel (rest.drop name.length)).map (.key (String.ofList name) :: ·)
  | fuel + 1, '[' :: rest =>
    let inner := rest.takeWhile (· ≠ ']')
    match Text.readInt 9223372036854775808 inner, rest.drop inner.length with
    | some n, _ :: rest => (pathTail fuel rest).map (.index n :: ·)
    | _, _ => none
  | _, _ => none

/-- The path that a key spells; a key that is no path is a single name. -/
def pathOf (key : String) : List Part :=
  let cs := key.toList
  let name := cs.takeWhile isNameChar
  let tail := if name.isEmpty then none else pathTail (cs.length + 1) (cs.drop name.length)
  match tail with
  | some parts => .key (String.ofList name) :: parts
  | none => [.key key]

def pointed : List Char → List Char
  | '_' :: '_' :: rest => '.' :: pointed rest
  | c :: rest => c :: pointed rest
  | [] => []

def variablePrefix : List Char := "audience__".toList

def variableValue (text : String) : Json :=
  let word := lower text
  if word = "true" then .bool true
  else if word = "false" then .bool false
  else
    match Text.readInt 9223372036854775808 text.toList with
    | some n => .integer n
    | none =>
      match Text.readFloat text.toList with
      | some x => .number (.real x)
      | none => .string text

def storeVariable (table : Json) (v : String × String) : Json :=
  let name := Text.lowercase v.1.toList
  if variablePrefix.isPrefixOf name then
    let key := String.ofList (pointed (name.drop variablePrefix.length))
    store (variableValue v.2) (pathOf key) (some table)
  else table

def gather (file : Option Json) (environment : List (String × String)) : Json :=
  let stored := (file.map entriesOf).getD []
  let table := stored.foldl (fun t e => store e.2 (pathOf e.1) (some t)) (.object [])
  environment.foldl storeVariable table

end Outreach.Settings
