/-!
JSON values. Numbers keep apart the integers and the floats that a document wrote.
An object is the list of its entries; objects in canonical form have their keys in
ascending order, each once.
-/

namespace Outreach

inductive Json.Number
  | integer (n : Int)
  | real (x : Float)

inductive Json
  | null
  | bool (b : Bool)
  | number (n : Json.Number)
  | string (s : String)
  | array (items : List Json)
  | object (entries : List (String × Json))

namespace Json

instance : Inhabited Json := ⟨.null⟩

def integer (n : Int) : Json := .number (.integer n)

def nat (n : Nat) : Json := .number (.integer n)

/-- A float as a value; there is no number for one that is not finite, and null stands for it. -/
def real (x : Float) : Json := if x.isFinite then .number (.real x) else .null

def ofOption {α : Type} (write : α → Json) : Option α → Json
  | none => .null
  | some a => write a

def ofList {α : Type} (write : α → Json) (xs : List α) : Json :=
  .array (xs.map write)

def isNull : Json → Bool
  | .null => true
  | _ => false

def get? : Json → String → Option Json
  | .object entries, key => entries.lookup key
  | _, _ => none

def get (j : Json) (key : String) : Json :=
  (j.get? key).getD .null

/-- Inserts an entry before the first larger key; an entry with the same key is replaced. -/
def insertEntry (key : String) (value : Json) :
    List (String × Json) → List (String × Json)
  | [] => [(key, value)]
  | (k, v) :: rest =>
    if key < k then (key, value) :: (k, v) :: rest
    else if key = k then (key, value) :: rest
    else (k, v) :: insertEntry key value rest

/-- Entries in ascending order of their keys; of entries with one key the last stays. -/
def sortEntries (entries : List (String × Json)) : List (String × Json) :=
  entries.foldl (fun sorted e => insertEntry e.1 e.2 sorted) []

mutual

def canonical : Json → Json
  | .array items => .array (canonicalItems items)
  | .object entries => .object (sortEntries (canonicalEntries entries))
  | j => j

def canonicalItems : List Json → List Json
  | [] => []
  | j :: rest => canonical j :: canonicalItems rest

def canonicalEntries : List (String × Json) → List (String × Json)
  | [] => []
  | (key, j) :: rest => (key, canonical j) :: canonicalEntries rest

end

end Json

end Outreach
