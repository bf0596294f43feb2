import Outreach.Campaign.Status
import Outreach.Delivery.Basic

/-!
The log of what happened to campaigns: an event for every transition and for every
message that could not be delivered.
-/

namespace Outreach

inductive EventKind
  | edited
  | activated
  | paused
  | resumed
  | completed
  | deliveryFailed
  deriving DecidableEq, Repr

namespace EventKind

def name : EventKind → String
  | edited => "campaign_edited"
  | activated => "campaign_activated"
  | paused => "campaign_paused"
  | resumed => "campaign_resumed"
  | completed => "campaign_completed"
  | deliveryFailed => "delivery_failed"

def names : List (String × EventKind) :=
  [edited, activated, paused, resumed, completed, deliveryFailed].map fun k => (k.name, k)

def ofTransition : CampaignEvent → EventKind
  | .activate => activated
  | .pause => paused
  | .resume => resumed
  | .complete => completed
  | .edit => edited

def transition? : EventKind → Option CampaignEvent
  | edited => some .edit
  | activated => some .activate
  | paused => some .pause
  | resumed => some .resume
  | completed => some .complete
  | deliveryFailed => none

theorem transition?_ofTransition (e : CampaignEvent) :
    (ofTransition e).transition? = some e := by
  cases e <;> rfl

end EventKind

structure Event where
  kind : EventKind
  campaign : Ident
  customer : Option Ident
  detail : Json

namespace Event

def toJson (e : Event) : Json :=
  .object [("campaign_id", e.campaign.toJson),
    ("customer_id", Json.ofOption Ident.toJson e.customer), ("detail", e.detail),
    ("event_type", .string e.kind.name)]

def ofFailure (campaign : Ident) (u : Undelivered) : Event :=
  ⟨.deliveryFailed, campaign, some u.customer,
    .object [("reason", .string u.reason), ("step_order", .nat u.step.toNat)]⟩

def ofTransition (campaign : Ident) (e : CampaignEvent) : Event :=
  ⟨EventKind.ofTransition e, campaign, none, .null⟩

def ofPass (e : CampaignEvent) (start : Moment) (r : Report) : Event :=
  ⟨EventKind.ofTransition e, r.campaign, none,
    .object [("failed", .nat r.failures.length), ("recipients", .nat r.recipients),
      ("schedule_start", start.localToJson), ("scheduled_steps", .nat r.scheduled.length),
      ("sent", .nat r.sent), ("skipped", .nat r.skipped)]⟩

end Event

end Outreach
