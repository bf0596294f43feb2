import Outreach.Delivery.Basic
import Outreach.Table

/-!
Passes of deliveries and what they leave on record. A pass goes through every step of a schedule for
every recipient, step by step; with deduplication a pair whose key was delivered is skipped. The
answer to a message may depend on all messages handed out before and their answers. A recorder
delivers every message, except to customers for whom failures have been arranged.
-/

namespace Outreach

/-- A message handed out and the answer to it. -/
structure Call where
  dispatch : Dispatch
  outcome : Outcome

/-- Answers a message, given the calls before it. -/
abbrev Sink := List Call → Dispatch → Outcome

/-- The keys delivered so far and all calls in their order. -/
structure Ledger where
  delivered : List DeliveryKey
  calls : List Call

namespace Ledger

def empty : Ledger := ⟨[], []⟩

def record (l : Ledger) (c : Call) : Ledger :=
  ⟨match c.outcome with
    | .delivered => c.dispatch.key :: l.delivered
    | .failed _ => l.delivered,
    l.calls ++ [c]⟩

end Ledger

/-- A pair of a pass: skipped if there is no outcome. -/
structure Attempt where
  dispatch : Dispatch
  outcome : Option Outcome

def dispatches (campaign : Ident) (schedule : List ScheduledStep) (recipients : List Customer) :
    List Dispatch :=
  schedule.flatMap fun s => recipients.map fun c => ⟨campaign, s, c⟩

namespace Ledger

def pass (sink : Sink) (dedupe : Bool) : List Dispatch → Ledger → List Attempt × Ledger
  | [], l => ([], l)
  | d :: rest, l =>
    if dedupe && l.delivered.contains d.key then
      let (attempts, l) := pass sink dedupe rest l
      (⟨d, none⟩ :: attempts, l)
    else
      let outcome := sink l.calls d
      let (attempts, l) := pass sink dedupe rest (l.record ⟨d, outcome⟩)
      (⟨d, some outcome⟩ :: attempts, l)

end Ledger

namespace Attempt

def isSkipped (a : Attempt) : Bool := a.outcome.isNone

def isSent (a : Attempt) : Bool := a.outcome == some .delivered

def failure? (a : Attempt) : Option Undelivered :=
  match a.outcome with
  | some (.failed reason) =>
    some ⟨a.dispatch.customer.id, a.dispatch.customer.email, a.dispatch.step.step.order,
      a.dispatch.step.sendAt, reason⟩
  | _ => none

end Attempt

def Report.ofAttempts (campaign : Ident) (occasion : Occasion) (schedule : List ScheduledStep)
    (recipients : List Customer) (attempts : List Attempt) : Report :=
  { campaign := campaign
    occasion := occasion
    scheduled := schedule
    recipients := recipients.length
    sent := attempts.countP Attempt.isSent
    skipped := attempts.countP Attempt.isSkipped
    failures := attempts.filterMap Attempt.failure? }

def deliveries (calls : List Call) : List Delivery :=
  calls.filterMap fun c => if c.outcome = .delivered then some c.dispatch.delivery else none

/-- The customers whose messages fail, each with the reason. -/
structure Recorder where
  failing : Table String

namespace Recorder

def empty : Recorder := ⟨Table.empty⟩

def failFor (r : Recorder) (customer : Ident) (reason : String) : Recorder :=
  ⟨r.failing.insert customer reason⟩

def sink (r : Recorder) : Sink := fun _ d =>
  match r.failing.get? d.customer.id with
  | some reason => .failed reason
  | none => .delivered

end Recorder

def deliveriesTo (customer : Ident) (calls : List Call) : List Delivery :=
  (deliveries calls).filter fun d => d.customer = customer

end Outreach
