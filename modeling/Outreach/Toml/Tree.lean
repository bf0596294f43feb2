import Outreach.Json.Basic

/-!
The tables of a TOML document while it is read. A table comes from a header, is implied
by the header of a table inside it, or comes from a dotted key. A header may not name a
table again except one that is only implied, and a dotted key may only go through tables
that no header has named. A header in double brackets starts another table of a list; a
path through a list goes on in its last table.
-/

namespace Outreach.Toml

inductive TableKind
  | header
  | implied
  | dotted
  deriving DecidableEq, Repr

inductive Node
  | leaf (value : Json)
  | table (kind : TableKind) (entries : List (String × Node))
  | tables (items : List (List (String × Node)))

abbrev Entries := List (String × Node)

def replace (key : String) (n : Node) (es : Entries) : Entries :=
  es.map fun e => if e.1 = key then (key, n) else e

def onLast (f : Entries → Option Entries) : List Entries → Option (List Entries)
  | [] => none
  | [es] => (f es).map ([·])
  | es :: rest => (onLast f rest).map (es :: ·)

def define (key : String) (value : Json) : List String → Entries → Option Entries
  | [], es => if (es.lookup key).isSome then none else some (es ++ [(key, .leaf value)])
  | k :: path, es =>
    match es.lookup k with
    | none => (define key value path []).map fun inner => es ++ [(k, .table .dotted inner)]
    | some (.table kind inner) =>
      if kind = .header ∨ (path.isEmpty ∧ kind ≠ .dotted) then none
      else (define key value path inner).map fun inner => replace k (.table kind inner) es
    | some (.tables items) =>
      if path.isEmpty then none
      else (onLast (define key value path) items).map fun items => replace k (.tables items) es
    | some (.leaf _) => none

/-- Starts a table at the last key of a path, another one of a list if `listed`. -/
def openTable (listed : Bool) (key : String) : List String → Entries → Option Entries
  | [], es =>
    match es.lookup key with
    | none => some (es ++ [(key, if listed then .tables [[]] else .table .header [])])
    | some (.table kind inner) =>
      if listed ∨ kind ≠ .implied then none else some (replace key (.table .header inner) es)
    | some (.tables items) =>
      if listed then some (replace key (.tables (items ++ [[]])) es) else none
    | some (.leaf _) => none
  | k :: path, es =>
    match es.lookup k with
    | none => (openTable listed key path []).map fun inner => es ++ [(k, .table .implied inner)]
    | some (.table kind inner) =>
      (openTable listed key path inner).map fun inner => replace k (.table kind inner) es
    | some (.tables items) =>
      (onLast (openTable listed key path) items).map fun items => replace k (.tables items) es
    | some (.leaf _) => none

def within (f : Entries → Option Entries) : List String → Entries → Option Entries
  | [], es => f es
  | k :: path, es =>
    match es.lookup k with
    | some (.table kind inner) =>
      (within f path inner).map fun inner => replace k (.table kind inner) es
    | some (.tables items) =>
      (onLast (within f path) items).map fun items => replace k (.tables items) es
    | _ => none

mutual

def Node.toJson : Node → Json
  | .leaf value => value
  | .table _ es => .object (jsonEntries es)
  | .tables items => .array (jsonItems items)

def jsonEntries : List (String × Node) → List (String × Json)
  | [] => []
  | (key, n) :: rest => (key, n.toJson) :: jsonEntries rest

def jsonItems : List (List (String × Node)) → List Json
  | [] => []
  | es :: rest => .object (jsonEntries es) :: jsonItems rest

end

end Outreach.Toml
