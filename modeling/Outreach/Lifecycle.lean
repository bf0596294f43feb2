import Outreach.Calendar.Reading
import Outreach.Campaign.Request
import Outreach.Delivery.Recorder
import Outreach.Event
import Outreach.Segment.Query
import Outreach.Store

/-!
The lifecycle of campaigns. An operation works on the state of its lifecycle step by step;
when it fails it gives a problem, and what it has changed until then stays changed. All
conditions are therefore checked first. Activating and resuming a campaign evaluates its
segment, schedules its flow and makes a pass of deliveries; dispatching again does the same
from the start of the last schedule on.
-/

namespace Outreach

/-- Why a part of the surroundings is out of reach, if it is. -/
structure Outages where
  customers : Option String
  segments : Option String
  flows : Option String
  campaignReads : Option String
  campaignWrites : Option String
  deriving DecidableEq, Repr

def Outages.none : Outages := ⟨.none, .none, .none, .none, .none⟩

/-- The settings and the surroundings of a lifecycle. -/
structure Lifecycle where
  matching : MatchSettings
  dedupe : Bool
  sendTime : TimeOfDay
  sink : Sink
  outages : Outages

/-- What a lifecycle changes. -/
structure LifecycleState where
  store : Store
  ledger : Ledger
  totals : Table Totals
  events : List Event

def LifecycleState.empty : LifecycleState := ⟨Store.empty, Ledger.empty, Table.empty, []⟩

namespace LifecycleState

def totalsOf (s : LifecycleState) (campaign : Ident) : Totals :=
  (s.totals.get? campaign).getD Totals.zero

def log (s : LifecycleState) (e : Event) : LifecycleState :=
  { s with events := s.events ++ [e] }

def putCampaign (s : LifecycleState) (c : Campaign) : LifecycleState :=
  { s with store := s.store.putCampaign c }

end LifecycleState

/-- Works on the state of a lifecycle, which an operation that fails does not restore. -/
abbrev Operation (α : Type) := EStateM Problem LifecycleState α

namespace Operation

variable {α : Type}

def ask (f : Store → Except Problem α) : Operation α := fun s =>
  match f s.store with
  | .ok a => .ok a s
  | .error p => .error p s

def check (e : Except Problem α) : Operation α := ask fun _ => e

def log (e : Event) : Operation Unit := modify (·.log e)

def result (x : Operation α) (s : LifecycleState) : Except Problem (α × LifecycleState) :=
  match x s with
  | .ok a s => .ok (a, s)
  | .error p _ => .error p

end Operation

namespace Lifecycle

def create (settings : Settings) (sink : Sink) (outages : Outages) :
    Except Problem Lifecycle :=
  match Calendar.readClock? settings.defaultSendTime with
  | some time => .ok ⟨settings.matching, settings.dedupe, time, sink, outages⟩
  | none =>
    .error (.misconfigured
      s!"invalid scheduling.default_send_time '{settings.defaultSendTime}'")

def reach {α : Type} (outage : Option String) (a : α) : Except Problem α :=
  match outage with
  | some reason => .error (.unavailable reason)
  | none => .ok a

def directory (l : Lifecycle) (s : Store) : Directory :=
  ⟨reach l.outages.segments s.segments, reach l.outages.customers s.customers.values⟩

def campaign (l : Lifecycle) (id : Ident) (s : Store) : Except Problem Campaign := do
  match (← reach l.outages.campaignReads s.campaigns).get? id with
  | some c => return c
  | none => throw (.notFound "Campaign" id.write)

def campaigns (l : Lifecycle) (s : Store) : Except Problem (List Campaign) :=
  reach l.outages.campaignReads s.campaignListing

def flow (l : Lifecycle) (id : Ident) (s : Store) : Except Problem Flow := do
  match (← reach l.outages.flows s.flows).get? id with
  | some f => return f
  | none => throw (.notFound "Flow" id.write)

def findFlow (l : Lifecycle) (id : Option Ident) (s : Store) : Except Problem Unit :=
  match id with
  | some id => (l.flow id s).map fun _ => ()
  | none => .ok ()

def save (l : Lifecycle) (c : Campaign) : Operation Unit := do
  let c ← .check (reach l.outages.campaignWrites c)
  modify (·.putCampaign c)

def advance (c : Campaign) (e : CampaignEvent) : Except Problem Status :=
  match c.status.next? e with
  | some status => .ok status
  | none => .error (.invalidTransition c.status.name e.name)

def blastStep (c : Campaign) : Step :=
  match c.blast with
  | some b => ⟨1, .email b.subject b.body⟩
  | none => ⟨1, .email c.name ""⟩

/-- The steps of a campaign: those of its flow, which must belong to the same segment,
or a single message if there are none. -/
def steps (l : Lifecycle) (c : Campaign) (s : Store) : Except Problem (List Step) := do
  match c.flow with
  | none => return [blastStep c]
  | some id =>
    let f ← l.flow id s
    if f.segment ≠ c.segment then
      throw (.segmentMismatch f.segment.write c.segment.write)
    if f.steps.isEmpty then return [blastStep c] else return f.steps

def plan (l : Lifecycle) (c : Campaign) (start now : Moment) (s : Store) :
    Except Problem (List ScheduledStep × List Customer) := do
  let d := l.directory s
  let segment ← d.resolve c.segment
  let steps ← l.steps c s
  let schedule ← (Schedule.ofSteps steps start).mapError .invalidFlow
  let customers ← d.customers
  let recipients ← (segment.definition.allMatches customers now).mapError .invalidDefinition
  return (schedule, recipients)

def deliver (l : Lifecycle) (campaign : Ident) (occasion : Occasion)
    (schedule : List ScheduledStep) (recipients : List Customer) (s : LifecycleState) :
    Report × LifecycleState :=
  let (attempts, ledger) :=
    Ledger.pass l.sink l.dedupe (dispatches campaign schedule recipients) s.ledger
  let report := Report.ofAttempts campaign occasion schedule recipients attempts
  (report,
    { store := s.store
      ledger := ledger
      totals := s.totals.insert campaign ((s.totalsOf campaign).add report)
      events := s.events ++ report.failures.map (Event.ofFailure campaign) })

def createCampaign (l : Lifecycle) (id : Ident) (r : NewCampaign) (now : Moment) :
    Operation Campaign := do
  let _ ← .ask fun s => (l.directory s).resolve r.segment
  .ask (l.findFlow r.flow)
  let c := r.draft id now
  l.save c
  return c

def edit (l : Lifecycle) (id : Ident) (r : Change) (now : Moment) : Operation Campaign := do
  let c ← .ask (l.campaign id)
  let _ ← .check (advance c .edit)
  .ask (l.findFlow r.flow.join)
  let c := c.change r now
  l.save c
  .log (.ofTransition c.id .edit)
  return c

def transition (l : Lifecycle) (e : CampaignEvent) (id : Ident) (now : Moment) :
    Operation Campaign := do
  let c ← .ask (l.campaign id)
  let status ← .check (advance c e)
  let c := { c with status := status, updatedAt := now }
  l.save c
  .log (.ofTransition c.id e)
  return c

def pause (l : Lifecycle) (id : Ident) (now : Moment) : Operation Campaign :=
  l.transition .pause id now

def complete (l : Lifecycle) (id : Ident) (now : Moment) : Operation Campaign :=
  l.transition .complete id now

def launch (l : Lifecycle) (e : CampaignEvent) (occasion : Occasion) (c : Campaign)
    (start now : Moment) : Operation Report := do
  let status ← .check (advance c e)
  let (schedule, recipients) ← .ask (l.plan c start now)
  l.save { c with
    status := status
    scheduleStart := some start
    updatedAt := now
    activatedAt := if e = .activate then some now else c.activatedAt }
  let report ← modifyGet (l.deliver c.id occasion schedule recipients)
  .log (.ofPass e start report)
  return report

def activate (l : Lifecycle) (id : Ident) (now : Moment) : Operation Report := do
  let c ← .ask (l.campaign id)
  l.launch .activate .activate c (c.start l.sendTime) now

def resume (l : Lifecycle) (id : Ident) (now : Moment) : Operation Report := do
  let c ← .ask (l.campaign id)
  l.launch .resume .resume c now now

def redispatch (l : Lifecycle) (id : Ident) (now : Moment) : Operation Report := do
  let c ← .ask (l.campaign id)
  .check (if c.status = .active then .ok ()
    else .error (.invalidTransition c.status.name "redispatch"))
  let start := c.scheduleStart.getD (c.start l.sendTime)
  let (schedule, recipients) ← .ask (l.plan c start now)
  modifyGet (l.deliver c.id .redispatch schedule recipients)

end Lifecycle

end Outreach
