import Outreach.Delivery.Basic

/-!
Deliveries, outcomes and reports in JSON documents.
-/

namespace Outreach

namespace Occasion

def name : Occasion → String
  | activate => "activate"
  | resume => "resume"
  | redispatch => "redispatch"

def names : List (String × Occasion) :=
  [activate, resume, redispatch].map fun o => (o.name, o)

end Occasion

namespace Outcome

def statusOfJson : Json → Except Mismatch Bool
  | .string "delivered" => .ok true
  | .string "failed" => .ok false
  | .string s => .error (.unknownName s ["delivered", "failed"])
  | j => j.mistyped "variant identifier"

def ofEntries (entries : Entries) : Except Mismatch Outcome :=
  match entries.lookup "status" with
  | none => .error (.missingField "status")
  | some status => do
    if ← statusOfJson status then return .delivered
    else
      let reason := Member.required "reason" Json.text
      let entries ← Json.record "struct variant DeliveryResult::Failed" [reason.field]
        (.object (entries.filter fun e => e.1 != "status"))
      return .failed (← reason.get entries)

def ofItems : List Json → Except Mismatch Outcome
  | [] => .error (.missingField "status")
  | status :: items => do
    if ← statusOfJson status then
      if items.isEmpty then return .delivered
      else throw (.wrongLength items.length "0 elements in sequence")
    else
      match items with
      | [] => throw (.wrongLength 0 "struct variant DeliveryResult::Failed with 1 element")
      | reason :: surplus =>
        let reason ← reason.text
        if surplus.isEmpty then return .failed reason
        else throw (.wrongLength items.length "1 element in sequence")

def ofJson : Json → Except Mismatch Outcome
  | .object entries => ofEntries entries
  | .array items => ofItems items
  | j => j.mistyped "internally tagged enum DeliveryResult"

def toJson : Outcome → Json
  | delivered => .object [("status", .string "delivered")]
  | failed reason => .object [("reason", .string reason), ("status", .string "failed")]

end Outcome

namespace DeliveryKey

def ofJson (j : Json) : Except Mismatch DeliveryKey := do
  let campaign := Member.required "campaign_id" Ident.ofJson
  let step := Member.required "step_order" Json.unsigned32
  let customer := Member.required "customer_id" Ident.ofJson
  let entries ← j.record "struct DeliveryKey" [campaign.field, step.field, customer.field]
  return ⟨← campaign.get entries, ← step.get entries, ← customer.get entries⟩

def toJson (k : DeliveryKey) : Json :=
  .object [("campaign_id", k.campaign.toJson), ("customer_id", k.customer.toJson),
    ("step_order", .nat k.step.toNat)]

end DeliveryKey

namespace Undelivered

def ofJson (j : Json) : Except Mismatch Undelivered := do
  let customer := Member.required "customer_id" Ident.ofJson
  let email := Member.required "email" Json.text
  let step := Member.required "step_order" Json.unsigned32
  let sendAt := Member.required "send_at" Moment.localOfJson
  let reason := Member.required "reason" Json.text
  let entries ← j.record "struct UndeliveredPair" [customer.field, email.field, step.field,
    sendAt.field, reason.field]
  return ⟨← customer.get entries, ← email.get entries, ← step.get entries,
    ← sendAt.get entries, ← reason.get entries⟩

def toJson (u : Undelivered) : Json :=
  .object [("customer_id", u.customer.toJson), ("email", .string u.email),
    ("reason", .string u.reason), ("send_at", u.sendAt.localToJson),
    ("step_order", .nat u.step.toNat)]

end Undelivered

namespace Report

def ofJson (j : Json) : Except Mismatch Report := do
  let campaign := Member.required "campaign_id" Ident.ofJson
  let occasion := Member.required "activation" (Json.name Occasion.names)
  let scheduled := Member.required "scheduled_steps" (Json.list ScheduledStep.ofJson)
  let recipients := Member.required "recipients" Json.size
  let sent := Member.required "sent" Json.size
  let skipped := Member.required "skipped" Json.size
  let failures := Member.required "failures" (Json.list Undelivered.ofJson)
  let entries ← j.record "struct DeliveryReport" [campaign.field, occasion.field,
    scheduled.field, recipients.field, sent.field, skipped.field, failures.field]
  return {
    campaign := ← campaign.get entries
    occasion := ← occasion.get entries
    scheduled := ← scheduled.get entries
    recipients := ← recipients.get entries
    sent := ← sent.get entries
    skipped := ← skipped.get entries
    failures := ← failures.get entries }

def toJson (r : Report) : Json :=
  .object [("activation", .string r.occasion.name), ("campaign_id", r.campaign.toJson),
    ("failures", Json.ofList Undelivered.toJson r.failures),
    ("recipients", .nat r.recipients),
    ("scheduled_steps", Json.ofList ScheduledStep.toJson r.scheduled), ("sent", .nat r.sent),
    ("skipped", .nat r.skipped)]

end Report

def Totals.toJson (t : Totals) : Json :=
  .object [("delivered", .nat t.delivered.toNat), ("failed", .nat t.failed.toNat),
    ("sent", .nat t.sent.toNat)]

namespace Delivery

def ofJson (j : Json) : Except Mismatch Delivery := do
  let campaign := Member.required "campaign_id" Ident.ofJson
  let customer := Member.required "customer_id" Ident.ofJson
  let step := Member.required "step_order" Json.unsigned32
  let kind := Member.required "step_type" (Json.name StepKind.names)
  let sendAt := Member.required "send_at" Moment.localOfJson
  let entries ← j.record "struct RecordedDelivery" [campaign.field, customer.field,
    step.field, kind.field, sendAt.field]
  return ⟨← campaign.get entries, ← customer.get entries, ← step.get entries,
    ← kind.get entries, ← sendAt.get entries⟩

def toJson (d : Delivery) : Json :=
  .object [("campaign_id", d.campaign.toJson), ("customer_id", d.customer.toJson),
    ("send_at", d.sendAt.localToJson), ("step_order", .nat d.step.toNat),
    ("step_type", .string d.kind.name)]

end Delivery

end Outreach
