import Outreach.Json.Mismatch

/-!
The life of a campaign: its statuses, the events that may happen to it, and the table of
transitions. Nothing happens to a completed campaign any more.
-/

namespace Outreach

inductive Status
  | draft
  | active
  | paused
  | completed
  deriving DecidableEq, Repr

inductive CampaignEvent
  | activate
  | pause
  | resume
  | complete
  | edit
  deriving DecidableEq, Repr

namespace Status

def name : Status → String
  | draft => "draft"
  | active => "active"
  | paused => "paused"
  | completed => "completed"

def names : List (String × Status) :=
  [draft, active, paused, completed].map fun s => (s.name, s)

end Status

namespace CampaignEvent

def name : CampaignEvent → String
  | activate => "activate"
  | pause => "pause"
  | resume => "resume"
  | complete => "complete"
  | edit => "edit"

def names : List (String × CampaignEvent) :=
  [activate, pause, resume, complete, edit].map fun e => (e.name, e)

end CampaignEvent

structure Transition where
  source : Status
  event : CampaignEvent
  target : Status
  deriving DecidableEq, Repr

namespace Transition

def table : List Transition :=
  [⟨.draft, .activate, .active⟩, ⟨.draft, .edit, .draft⟩, ⟨.active, .pause, .paused⟩,
    ⟨.active, .complete, .completed⟩, ⟨.paused, .resume, .active⟩,
    ⟨.paused, .complete, .completed⟩]

def toJson (t : Transition) : Json :=
  .object [("event", .string t.event.name), ("from", .string t.source.name),
    ("to", .string t.target.name)]

end Transition

namespace Status

def next? (s : Status) (e : CampaignEvent) : Option Status :=
  (Transition.table.find? fun t => t.source == s && t.event == e).map (·.target)

def available (s : Status) : List CampaignEvent :=
  (Transition.table.filter fun t => t.source == s).map (·.event)

end Status

end Outreach
