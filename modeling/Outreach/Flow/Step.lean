import Outreach.Json.Record
import Outreach.Text.Format

/-!
Steps of a flow: messages to send, waits, and the exit. An e-mail needs a subject that
is not blank and a wait must not be negative; steps read from JSON keep these rules. A
fault says why a flow or one of its steps is refused.
-/

namespace Outreach

inductive FlowFault
  | badOrder (order : Int64)
  | badSettings (step : String) (mismatch : Mismatch)
  | blankSubject
  | negativeWait (days : Int64)
  | notContiguous (expected : Nat) (found : UInt32)
  | manyExits (count : Nat)
  | beyondCalendar (days : Int64)
  /-- A rule of the caller, in its own words. -/
  | stated (reason : String)
  deriving DecidableEq, Repr

namespace FlowFault

def message : FlowFault → String
  | badOrder order => s!"invalid step_order {order}"
  | badSettings step mismatch => s!"{step} config: {mismatch.message}"
  | blankSubject => "SEND_EMAIL requires a non-empty subject"
  | negativeWait days => s!"WAIT duration_days must be >= 0, got {days}"
  | notContiguous expected found =>
    s!"step orders must be contiguous from 1: expected {expected}, found {found}"
  | manyExits count => s!"a flow may contain at most one EXIT step, found {count}"
  | beyondCalendar days => s!"WAIT of {days} days overflows the calendar"
  | stated reason => reason

def report (f : FlowFault) : String :=
  "Invalid flow: " ++ f.message

end FlowFault

inductive StepKind
  | email
  | wait
  | push
  | exit
  deriving DecidableEq, Repr

namespace StepKind

def isSend : StepKind → Bool
  | email => true
  | push => true
  | _ => false

def name : StepKind → String
  | email => "SEND_EMAIL"
  | wait => "WAIT"
  | push => "SEND_PUSH"
  | exit => "EXIT"

def title : StepKind → String
  | email => "SendEmail"
  | wait => "Wait"
  | push => "SendPush"
  | exit => "Exit"

def names : List (String × StepKind) :=
  [email, wait, push, exit].map fun k => (k.name, k)

end StepKind

inductive Action
  | email (subject body : String)
  | wait (days : Int64)
  | push (title message : String)
  | exit
  deriving DecidableEq, Repr

namespace Action

def kind : Action → StepKind
  | email _ _ => .email
  | wait _ => .wait
  | push _ _ => .push
  | exit => .exit

def check : Action → Except FlowFault Unit
  | email subject _ => if Text.isBlankText subject then .error .blankSubject else .ok ()
  | wait days => if days < 0 then .error (.negativeWait days) else .ok ()
  | _ => .ok ()

def emailOfJson (j : Json) : Except Mismatch Action := do
  let subject := Member.required "subject" Json.text
  let body := Member.optional "body_text" Json.text ""
  let entries ← j.record "struct EmailConfig" [subject.field, body.field]
  return .email (← subject.get entries) (← body.get entries)

def waitOfJson (j : Json) : Except Mismatch Action := do
  let days := Member.required "duration_days" Json.signed64
  let entries ← j.record "struct WaitConfig" [days.field]
  return .wait (← days.get entries)

def pushOfJson (j : Json) : Except Mismatch Action := do
  let title := Member.required "title" Json.text
  let message := Member.optional "message" Json.text ""
  let entries ← j.record "struct PushConfig" [title.field, message.field]
  return .push (← title.get entries) (← message.get entries)

def ofSettings (kind : StepKind) (settings : Json) : Except FlowFault Action :=
  let action :=
    match kind with
    | .email => emailOfJson settings
    | .wait => waitOfJson settings
    | .push => pushOfJson settings
    | .exit => .ok .exit
  match action with
  | .ok a => .ok a
  | .error m => .error (.badSettings kind.title m)

def settings : Action → Json
  | email subject body => .object [("body_text", .string body), ("subject", .string subject)]
  | wait days => .object [("duration_days", .integer days.toInt)]
  | push title message => .object [("message", .string message), ("title", .string title)]
  | exit => .object []

end Action

structure Step where
  order : UInt32
  action : Action
  deriving DecidableEq, Repr

namespace Step

def kind (s : Step) : StepKind := s.action.kind

def create (order : UInt32) (action : Action) : Except FlowFault Step := do
  action.check
  return ⟨order, action⟩

def ofParts (order : Int64) (kind : StepKind) (settings : Json) : Except FlowFault Step :=
  if 0 ≤ order.toInt ∧ order.toInt < 4294967296 then do
    create (UInt32.ofNat order.toInt.toNat) (← Action.ofSettings kind settings)
  else .error (.badOrder order)

def ofJson (j : Json) : Except Mismatch Step := do
  let kind := Member.required "step_type" (Json.name StepKind.names)
  let order := Member.required "step_order" Json.signed64
  let settings := Member.optional "config" (fun j => .ok j.canonical) .null
  let entries ← j.record "struct RawFlowStep" [kind.field, order.field, settings.field]
  match ofParts (← order.get entries) (← kind.get entries) (← settings.get entries) with
  | .ok s => return s
  | .error f => throw (.refused f.report)

def toJson (s : Step) : Json :=
  .object [("config", s.action.settings), ("step_order", .nat s.order.toNat),
    ("step_type", .string s.kind.name)]

end Step

end Outreach
