import Outreach.Calendar.Wire
import Outreach.Campaign.Status
import Outreach.Ident

/-!
Campaigns: who is written to, with which flow or single message, from when on, and how
far the campaign has come. The start of the most recent schedule is kept with it.
-/

namespace Outreach

/-- The single message of a campaign without a flow. -/
structure Blast where
  subject : String
  body : String
  deriving DecidableEq, Repr

namespace Blast

def ofJson (j : Json) : Except Mismatch Blast := do
  let subject := Member.required "subject" Json.text
  let body := Member.optional "body_text" Json.text ""
  let entries ← j.record "struct BlastMessage" [subject.field, body.field]
  return ⟨← subject.get entries, ← body.get entries⟩

def toJson (b : Blast) : Json :=
  .object [("body_text", .string b.body), ("subject", .string b.subject)]

end Blast

structure Campaign where
  id : Ident
  name : String
  description : Option String
  segment : Ident
  flow : Option Ident
  status : Status
  startDate : Date
  startTime : Option TimeOfDay
  blast : Option Blast
  scheduleStart : Option Moment
  activatedAt : Option Moment
  createdAt : Moment
  updatedAt : Moment
  deriving DecidableEq

namespace Campaign

namespace Members

def id : Member Ident := .required "id" Ident.ofJson

def name : Member String := .required "name" Json.text

def description : Member (Option String) := .nullable "description" Json.text

def segment : Member Ident := .required "segment_id" Ident.ofJson

def flow : Member (Option Ident) := .nullable "flow_id" Ident.ofJson

def status : Member Status := .required "status" (Json.name Status.names)

def startDate : Member Date := .required "start_date" Date.ofJson

def startTime : Member (Option TimeOfDay) :=
  .optional "start_time_of_day" TimeOfDay.shortOfJson none

def blast : Member (Option Blast) := .nullable "blast" Blast.ofJson

def scheduleStart : Member (Option Moment) := .nullable "schedule_start" Moment.localOfJson

def activatedAt : Member (Option Moment) := .nullable "activated_at" Moment.ofJson

def createdAt : Member Moment := .required "created_at" Moment.ofJson

def updatedAt : Member Moment := .required "updated_at" Moment.ofJson

end Members

def fields : List Field :=
  [Members.id.field, Members.name.field, Members.description.field, Members.segment.field,
    Members.flow.field, Members.status.field, Members.startDate.field, Members.startTime.field,
    Members.blast.field, Members.scheduleStart.field, Members.activatedAt.field,
    Members.createdAt.field, Members.updatedAt.field]

def ofEntries (entries : Entries) : Except Mismatch Campaign := do
  return {
    id := ← Members.id.get entries
    name := ← Members.name.get entries
    description := ← Members.description.get entries
    segment := ← Members.segment.get entries
    flow := ← Members.flow.get entries
    status := ← Members.status.get entries
    startDate := ← Members.startDate.get entries
    startTime := ← Members.startTime.get entries
    blast := ← Members.blast.get entries
    scheduleStart := ← Members.scheduleStart.get entries
    activatedAt := ← Members.activatedAt.get entries
    createdAt := ← Members.createdAt.get entries
    updatedAt := ← Members.updatedAt.get entries }

def ofJson (j : Json) : Except Mismatch Campaign := do
  ofEntries (← j.record "struct Campaign" fields)

def entries (c : Campaign) : Entries :=
  [("activated_at", Json.ofOption Moment.toJson c.activatedAt),
    ("blast", Json.ofOption Blast.toJson c.blast), ("created_at", c.createdAt.toJson),
    ("description", Json.ofOption .string c.description),
    ("flow_id", Json.ofOption Ident.toJson c.flow), ("id", c.id.toJson),
    ("name", .string c.name),
    ("schedule_start", Json.ofOption Moment.localToJson c.scheduleStart),
    ("segment_id", c.segment.toJson), ("start_date", c.startDate.toJson),
    ("start_time_of_day", TimeOfDay.shortToJson c.startTime),
    ("status", .string c.status.name), ("updated_at", c.updatedAt.toJson)]

def toJson (c : Campaign) : Json := .object c.entries

/-- The moment at which the campaign starts; `usual` is the time of day of campaigns that
give none. -/
def start (c : Campaign) (usual : TimeOfDay) : Moment :=
  ⟨c.startDate, c.startTime.getD usual⟩

end Campaign

end Outreach
