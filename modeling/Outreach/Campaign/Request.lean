import Outreach.Campaign.Basic

/-!
Requests to create a campaign and to change a draft. In a change, a field that is left
out stays as it is, and null clears a field that may be empty; a null name or start date
counts as left out.
-/

namespace Outreach

structure NewCampaign where
  name : String
  description : Option String
  segment : Ident
  flow : Option Ident
  startDate : Option Date
  startTime : Option TimeOfDay
  blast : Option Blast
  deriving DecidableEq

namespace NewCampaign

def ofJson (j : Json) : Except Mismatch NewCampaign := do
  let name := Member.required "name" Json.text
  let description := Member.nullable "description" Json.text
  let segment := Member.required "segment_id" Ident.ofJson
  let flow := Member.nullable "flow_id" Ident.ofJson
  let startDate := Member.nullable "start_date" Date.ofJson
  let startTime := Member.optional "start_time_of_day" TimeOfDay.shortOfJson none
  let blast := Member.nullable "blast" Blast.ofJson
  let entries ← j.record "struct CreateCampaignRequest" [name.field, description.field,
    segment.field, flow.field, startDate.field, startTime.field, blast.field]
  return {
    name := ← name.get entries
    description := ← description.get entries
    segment := ← segment.get entries
    flow := ← flow.get entries
    startDate := ← startDate.get entries
    startTime := ← startTime.get entries
    blast := ← blast.get entries }

def toJson (r : NewCampaign) : Json :=
  .object [("blast", Json.ofOption Blast.toJson r.blast),
    ("description", Json.ofOption .string r.description),
    ("flow_id", Json.ofOption Ident.toJson r.flow), ("name", .string r.name),
    ("segment_id", r.segment.toJson), ("start_date", Json.ofOption Date.toJson r.startDate),
    ("start_time_of_day", TimeOfDay.shortToJson r.startTime)]

def draft (r : NewCampaign) (id : Ident) (now : Moment) : Campaign :=
  { id := id
    name := r.name
    description := r.description
    segment := r.segment
    flow := r.flow
    status := .draft
    startDate := r.startDate.getD now.date
    startTime := r.startTime
    blast := r.blast
    scheduleStart := none
    activatedAt := none
    createdAt := now
    updatedAt := now }

end NewCampaign

/-- A change of a draft: `none` leaves a field, `some none` clears it. -/
structure Change where
  name : Option String
  description : Option (Option String)
  flow : Option (Option Ident)
  startDate : Option Date
  startTime : Option (Option TimeOfDay)
  blast : Option (Option Blast)
  deriving DecidableEq

namespace Change

def clearable {α : Type} (name : String) (read : Json → Except Mismatch (Option α)) :
    Member (Option (Option α)) :=
  .optional name (fun j => (read j).map some) none

def ofJson (j : Json) : Except Mismatch Change := do
  let name := Member.nullable "name" Json.text
  let description := clearable "description" (Json.nullable Json.text)
  let flow := clearable "flow_id" (Json.nullable Ident.ofJson)
  let startDate := Member.nullable "start_date" Date.ofJson
  let startTime := clearable "start_time_of_day" TimeOfDay.shortOfJson
  let blast := clearable "blast" (Json.nullable Blast.ofJson)
  let entries ← j.record "struct UpdateCampaignRequest" [name.field, description.field,
    flow.field, startDate.field, startTime.field, blast.field]
  return {
    name := ← name.get entries
    description := ← description.get entries
    flow := ← flow.get entries
    startDate := ← startDate.get entries
    startTime := ← startTime.get entries
    blast := ← blast.get entries }

end Change

def Campaign.change (c : Campaign) (r : Change) (now : Moment) : Campaign :=
  { c with
    name := r.name.getD c.name
    description := r.description.getD c.description
    flow := r.flow.getD c.flow
    startDate := r.startDate.getD c.startDate
    startTime := r.startTime.getD c.startTime
    blast := r.blast.getD c.blast
    updatedAt := now }

end Outreach
