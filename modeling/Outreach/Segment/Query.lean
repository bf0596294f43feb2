import Outreach.Problem
import Outreach.Segment.Definition
import Outreach.Segment.Evaluation
import Outreach.Settings.Basic

/-!
Queries over the customers that a definition matches: how many there are, who they are
up to a limit, and a preview that also shows the first feature tested other than the
e-mail address. A limit must be positive and is cut to the largest one allowed; without
a limit the default applies. Queries by identifier look up the segment first, then the
customers.
-/

namespace Outreach

def countInParts {α : Type} (p : α → Bool) (xs : List α) : Nat :=
  if xs.length < 2 then xs.countP p
  else
    countInParts p (xs.take (xs.length / 2)) + countInParts p (xs.drop (xs.length / 2))
  termination_by xs.length
  decreasing_by all_goals simp only [List.length_take, List.length_drop]; omega

structure PreviewRow where
  id : Ident
  name : String
  email : String
  cell : Option (Feature × Json)

structure Preview where
  segment : Option Ident
  total : Nat
  columns : List String
  rows : List PreviewRow

structure SegmentCount where
  segment : Ident
  name : String
  count : Nat

/-- Where queries find segments and customers; either may be out of reach. -/
structure Directory where
  segments : Except Problem (Table Segment)
  customers : Except Problem (List Customer)

namespace PreviewRow

def toJson (r : PreviewRow) : Json :=
  let cell := match r.cell with
    | some (f, j) => [(f.name, j)]
    | none => []
  .object (Json.sortEntries
    ([("email", .string r.email), ("id", r.id.toJson), ("name", .string r.name)] ++ cell))

end PreviewRow

namespace Preview

def toJson (p : Preview) : Json :=
  .object [("columns", Json.ofList .string p.columns),
    ("customers", Json.ofList PreviewRow.toJson p.rows),
    ("segment_id", Json.ofOption Ident.toJson p.segment), ("total_count", .nat p.total)]

end Preview

namespace SegmentCount

def toJson (s : SegmentCount) : Json :=
  .object [("count", .nat s.count), ("name", .string s.name), ("segment_id", s.segment.toJson)]

end SegmentCount

def Feature.cell (f : Feature) (c : Customer) (now : Moment) : Json :=
  match f with
  | .totalOrderValue => .real c.totalOrderValue
  | .orderCount => .nat c.orderCount.toNat
  | .lastOrderDate =>
    match c.lastOrderDate with
    | some d => .string (String.ofList d.writeOffset)
    | none => .string "-"
  | .daysSinceLastOrder => .integer (c.orderAge now)
  | .shippingState => .string (c.shippingState.getD "-")
  | .shippingCountry => .string (c.shippingCountry.getD "-")
  | .email => .string c.email
  | .marketingOptIn => .bool c.marketingOptIn

namespace MatchSettings

def limit (s : MatchSettings) : Option Nat → Except DefinitionFault Nat
  | none => .ok s.defaultLimit
  | some 0 => .error .limitNotPositive
  | some n => .ok (min n s.maxLimit)

def parallelCount (_ : MatchSettings) (d : Definition) (customers : List Customer)
    (now : Moment) : Except DefinitionFault Nat := do
  d.check
  return countInParts (fun c => d.holds c now) customers

def count (s : MatchSettings) (d : Definition) (customers : List Customer) (now : Moment) :
    Except DefinitionFault Nat :=
  if s.parallelThreshold < customers.length then s.parallelCount d customers now
  else do
    d.check
    return customers.countP fun c => d.holds c now

def matching (s : MatchSettings) (d : Definition) (customers : List Customer) (now : Moment)
    (limit : Option Nat) : Except DefinitionFault (List Customer) := do
  let n ← s.limit limit
  d.check
  return (customers.filter fun c => d.holds c now).take n

end MatchSettings

namespace Definition

def allMatches (d : Definition) (customers : List Customer) (now : Moment) :
    Except DefinitionFault (List Customer) := do
  d.check
  return customers.filter fun c => d.holds c now

/-- The feature that a preview shows besides name and address. -/
def shownFeature? (d : Definition) : Option Feature :=
  d.features.find? fun f => f != .email

end Definition

namespace Preview

def row (feature : Option Feature) (now : Moment) (c : Customer) : PreviewRow :=
  ⟨c.id, c.displayName, c.email, feature.map fun f => (f, f.cell c now)⟩

/-- One match more: it is counted, and it has a row as long as there are fewer of them than the
limit. -/
def countRow (limit : Nat) (feature : Option Feature) (now : Moment)
    (seen : Nat × List PreviewRow) (c : Customer) : Nat × List PreviewRow :=
  (seen.1 + 1, if seen.2.length < limit then seen.2 ++ [row feature now c] else seen.2)

end Preview

namespace MatchSettings

def preview (s : MatchSettings) (d : Definition) (customers : List Customer) (now : Moment)
    (limit : Option Nat) : Except DefinitionFault Preview := do
  let n ← s.limit limit
  d.check
  let feature := d.shownFeature?
  let (total, rows) :=
    (customers.filter fun c => d.holds c now).foldl (Preview.countRow n feature now) (0, [])
  return {
    segment := none
    total := total
    columns := ["name", "email"] ++ (feature.map Feature.name).toList
    rows := rows }

end MatchSettings

namespace Directory

def resolve (d : Directory) (id : Ident) : Except Problem Segment := do
  match (← d.segments).get? id with
  | some s => return s
  | none => throw (.notFound "Segment" id.write)

def lookup (d : Directory) (id : Ident) : Except Problem (Segment × List Customer) := do
  let s ← d.resolve id
  return (s, ← d.customers)

def countById (d : Directory) (m : MatchSettings) (id : Ident) (now : Moment) :
    Except Problem Nat := do
  let (s, customers) ← d.lookup id
  (m.count s.definition customers now).mapError .invalidDefinition

def matchingById (d : Directory) (m : MatchSettings) (id : Ident) (now : Moment)
    (limit : Option Nat) : Except Problem (List Customer) := do
  let (s, customers) ← d.lookup id
  (m.matching s.definition customers now limit).mapError .invalidDefinition

def previewById (d : Directory) (m : MatchSettings) (id : Ident) (now : Moment)
    (limit : Option Nat) : Except Problem Preview := do
  let (s, customers) ← d.lookup id
  let p ← (m.preview s.definition customers now limit).mapError .invalidDefinition
  return { p with segment := some id }

/-- The count of every segment in a listing; those that cannot be evaluated are left out. -/
def counts (d : Directory) (m : MatchSettings) (now : Moment) :
    Except Problem (List SegmentCount) := do
  let customers ← d.customers
  let segments ← d.segments
  return (Segment.listing segments).filterMap fun s =>
    match m.count s.definition customers now with
    | .ok n => some ⟨s.id, s.name, n⟩
    | .error _ => none

end Directory

end Outreach
