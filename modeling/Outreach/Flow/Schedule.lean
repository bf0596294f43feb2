import Outreach.Calendar.Wire
import Outreach.Flow.Step

/-!
The sequence of a flow's steps. Steps may be listed in any order; sorted, their orders
must count from one without gaps, every action must pass its check, and there may be
only one exit.

The schedule of a flow. A clock starts at the first moment; every message is sent when
the clock says so, a wait moves the clock, and the exit ends the schedule. The summary
of a schedule counts its messages and measures how many days they span.
-/

namespace Outreach

namespace Step

def sorted (steps : List Step) : List Step :=
  steps.mergeSort fun a b => a.order ≤ b.order

def checkFrom (expected : Nat) : List Step → Except FlowFault Unit
  | [] => .ok ()
  | s :: rest =>
    if s.order.toNat ≠ expected then .error (.notContiguous expected s.order)
    else
      match s.action.check with
      | .error f => .error f
      | .ok () => checkFrom (expected + 1) rest

def exits (steps : List Step) : Nat :=
  steps.countP fun s => s.kind == .exit

def sequence (steps : List Step) : Except FlowFault (List Step) := do
  let steps := sorted steps
  checkFrom 1 steps
  if 1 < exits steps then .error (.manyExits (exits steps)) else .ok steps

end Step

/-- A step with the moment at which it is due. -/
structure ScheduledStep where
  step : Step
  sendAt : Moment
  deriving DecidableEq

namespace ScheduledStep

def toJson (s : ScheduledStep) : Json :=
  .object [("send_at", s.sendAt.localToJson), ("step", s.step.toJson)]

def ofJson (j : Json) : Except Mismatch ScheduledStep := do
  let step := Member.required "step" Step.ofJson
  let sendAt := Member.required "send_at" Moment.localOfJson
  let entries ← j.record "struct ScheduledStep" [step.field, sendAt.field]
  return ⟨← step.get entries, ← sendAt.get entries⟩

end ScheduledStep

namespace Schedule

def advance (clock : Moment) (days : Int64) : Except FlowFault Moment :=
  match clock.addDays? days.toInt with
  | some m => .ok m
  | none => .error (.beyondCalendar days)

def fromClock (clock : Moment) : List Step → Except FlowFault (List ScheduledStep)
  | [] => .ok []
  | s :: rest =>
    match s.action with
    | .exit => .ok []
    | .wait days => do fromClock (← advance clock days) rest
    | _ => do return ⟨s, clock⟩ :: (← fromClock clock rest)

def ofSteps (steps : List Step) (start : Moment) : Except FlowFault (List ScheduledStep) := do
  fromClock start (← Step.sequence steps)

def startMoment (date : Date) (time : Option TimeOfDay) : Moment :=
  ⟨date, time.getD TimeOfDay.midnight⟩

structure Summary where
  sends : Nat
  emails : Nat
  pushes : Nat
  firstSend : Option Moment
  lastSend : Option Moment
  spanDays : Int
  deriving DecidableEq

def summary (schedule : List ScheduledStep) : Summary :=
  let first := schedule.head?.map (·.sendAt)
  let last := schedule.getLast?.map (·.sendAt)
  { sends := schedule.length
    emails := schedule.countP fun s => s.step.kind == .email
    pushes := schedule.countP fun s => s.step.kind == .push
    firstSend := first
    lastSend := last
    spanDays :=
      match first, last with
      | some first, some last => last.daysSince first
      | _, _ => 0 }

def Summary.toJson (s : Summary) : Json :=
  .object [("emails", .nat s.emails),
    ("first_send", Json.ofOption Moment.localToJson s.firstSend),
    ("last_send", Json.ofOption Moment.localToJson s.lastSend),
    ("pushes", .nat s.pushes), ("sends", .nat s.sends), ("span_days", .integer s.spanDays)]

end Schedule

end Outreach
