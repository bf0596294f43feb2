import Outreach.Flow.Schedule
import Outreach.Table

/-!
Flows: the steps that the customers of one segment go through, and the event that brings a customer
in. A segment owns at most one flow: a flow that is stored takes the place of the one its segment
owned before, and gives up the segment it had itself. An index leads from each segment to its flow.
-/

namespace Outreach

inductive EntryCondition
  | signup
  | firstPurchase
  | cartAbandoned
  | orderCompleted
  | subscriptionRenewal
  deriving DecidableEq, Repr

namespace EntryCondition

def name : EntryCondition → String
  | signup => "signup"
  | firstPurchase => "first_purchase"
  | cartAbandoned => "cart_abandoned"
  | orderCompleted => "order_completed"
  | subscriptionRenewal => "subscription_renewal"

def names : List (String × EntryCondition) :=
  [signup, firstPurchase, cartAbandoned, orderCompleted, subscriptionRenewal].map
    fun c => (c.name, c)

end EntryCondition

structure Flow where
  id : Ident
  segment : Ident
  name : Option String
  entryKind : Option EntryCondition
  entryRule : Option String
  steps : List Step
  createdAt : Moment
  deriving DecidableEq

namespace Flow

def check (f : Flow) : Except FlowFault Unit := do
  let _ ← Step.sequence f.steps

def ofJson (j : Json) : Except Mismatch Flow := do
  let id := Member.required "id" Ident.ofJson
  let segment := Member.required "segment_id" Ident.ofJson
  let name := Member.nullable "name" Json.text
  let entryKind := Member.nullable "entry_condition_type" (Json.name EntryCondition.names)
  let entryRule := Member.nullable "entry_condition" Json.text
  let steps := Member.optional "steps" (Json.list Step.ofJson) []
  let createdAt := Member.required "created_at" Moment.ofJson
  let entries ← j.record "struct Flow" [id.field, segment.field, name.field, entryKind.field,
    entryRule.field, steps.field, createdAt.field]
  return {
    id := ← id.get entries
    segment := ← segment.get entries
    name := ← name.get entries
    entryKind := ← entryKind.get entries
    entryRule := ← entryRule.get entries
    steps := ← steps.get entries
    createdAt := ← createdAt.get entries }

def toJson (f : Flow) : Json :=
  .object [("created_at", f.createdAt.toJson),
    ("entry_condition", Json.ofOption .string f.entryRule),
    ("entry_condition_type", Json.ofOption (fun c => .string c.name) f.entryKind),
    ("id", f.id.toJson), ("name", Json.ofOption .string f.name),
    ("segment_id", f.segment.toJson), ("steps", Json.ofList Step.toJson f.steps)]

end Flow

structure FlowTable where
  flows : Table Flow
  owned : Table Ident

namespace FlowTable

def empty : FlowTable := ⟨Table.empty, Table.empty⟩

def get? (t : FlowTable) (id : Ident) : Option Flow :=
  t.flows.get? id

def ofSegment? (t : FlowTable) (segment : Ident) : Option Flow :=
  (t.owned.get? segment).bind t.flows.get?

def stepsOf? (t : FlowTable) (segment : Ident) : Option (List Step) :=
  (t.ofSegment? segment).map (·.steps)

/-- The index without the segment that a flow had before. -/
def release (t : FlowTable) (f : Flow) : Table Ident :=
  match t.flows.get? f.id with
  | some old =>
    if old.segment ≠ f.segment ∧ t.owned.get? old.segment = some f.id then
      t.owned.erase old.segment
    else t.owned
  | none => t.owned

/-- The flows without the one that the segment of a flow owned before. -/
def displace (t : FlowTable) (f : Flow) : Table Flow :=
  match t.owned.get? f.segment with
  | some previous => if previous ≠ f.id then t.flows.erase previous else t.flows
  | none => t.flows

def insert (t : FlowTable) (f : Flow) : FlowTable :=
  ⟨(t.displace f).insert f.id f, (t.release f).insert f.segment f.id⟩

def replaceSteps (t : FlowTable) (id : Ident) (steps : List Step) : FlowTable :=
  ⟨t.flows.modify id fun f => { f with steps := steps }, t.owned⟩

def exchangeSteps (t : FlowTable) (id : Ident) (steps : List Step) : Bool × FlowTable :=
  (t.flows.contains id, t.replaceSteps id steps)

end FlowTable

end Outreach
