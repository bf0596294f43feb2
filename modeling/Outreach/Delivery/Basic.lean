import Outreach.Customer
import Outreach.Flow.Schedule

/-!
Deliveries: a message that is due is handed out for a customer, and the answer says
whether it was delivered. A delivery is known by its key of campaign, step and customer.
A report accounts for one pass over a schedule and its recipients; the totals of a
campaign add up its reports.
-/

namespace Outreach

inductive Outcome
  | delivered
  | failed (reason : String)
  deriving DecidableEq, Repr

/-- A message handed out for a customer. -/
structure Dispatch where
  campaign : Ident
  step : ScheduledStep
  customer : Customer

structure DeliveryKey where
  campaign : Ident
  step : UInt32
  customer : Ident
  deriving DecidableEq

def Dispatch.key (d : Dispatch) : DeliveryKey :=
  ⟨d.campaign, d.step.step.order, d.customer.id⟩

/-- What a pass of deliveries was made for. -/
inductive Occasion
  | activate
  | resume
  | redispatch
  deriving DecidableEq, Repr

structure Undelivered where
  customer : Ident
  email : String
  step : UInt32
  sendAt : Moment
  reason : String
  deriving DecidableEq

structure Report where
  campaign : Ident
  occasion : Occasion
  scheduled : List ScheduledStep
  recipients : Nat
  sent : Nat
  skipped : Nat
  failures : List Undelivered
  deriving DecidableEq

/-- Totals of a campaign, in words of sixty-four bits. -/
structure Totals where
  sent : UInt64
  delivered : UInt64
  failed : UInt64
  deriving DecidableEq

structure Delivery where
  campaign : Ident
  customer : Ident
  step : UInt32
  kind : StepKind
  sendAt : Moment
  deriving DecidableEq

def Dispatch.delivery (d : Dispatch) : Delivery :=
  ⟨d.campaign, d.customer.id, d.step.step.order, d.step.step.kind, d.step.sendAt⟩

namespace Report

def attempted (r : Report) : Nat :=
  (r.sent + r.skipped + r.failures.length) % UInt64.size

def isComplete (r : Report) : Bool :=
  r.failures.isEmpty

end Report

namespace Totals

def zero : Totals := ⟨0, 0, 0⟩

def add (t : Totals) (r : Report) : Totals :=
  ⟨t.sent + UInt64.ofNat (r.sent + r.failures.length), t.delivered + UInt64.ofNat r.sent,
    t.failed + UInt64.ofNat r.failures.length⟩

end Totals

end Outreach
