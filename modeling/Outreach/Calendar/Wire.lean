import Outreach.Calendar.Reading
import Outreach.Json.Record

/-!
Dates and times in JSON documents: strings in their written forms. A time of day is
written as hour and minute; null and the empty string stand for none.
-/

namespace Outreach

def Json.dated {α : Type} (expected : String) (read : String → Except Calendar.Fault α)
    (j : Json) : Except Mismatch α := do
  let s ← j.asText expected
  match read s with
  | .ok a => .ok a
  | .error f => .error (.refused f.message)

def Date.toJson (d : Date) : Json := .string (String.ofList d.write)

def Date.ofJson : Json → Except Mismatch Date :=
  Json.dated "a formatted date string" Calendar.readDate

def TimeOfDay.ofJson : Json → Except Mismatch TimeOfDay :=
  Json.dated "a formatted time string" Calendar.readTime

namespace Moment

def toJson (m : Moment) : Json := .string (String.ofList m.writeZulu)

def ofJson : Json → Except Mismatch Moment :=
  Json.dated "an RFC 3339 formatted date and time string" Calendar.readMoment

def localToJson (m : Moment) : Json := .string (String.ofList m.writeLocal)

def localOfJson : Json → Except Mismatch Moment :=
  Json.dated "a formatted date and time string" Calendar.readLocal

end Moment

namespace TimeOfDay

def shortToJson : Option TimeOfDay → Json :=
  Json.ofOption fun t => .string (String.ofList t.writeShort)

def shortOfJson (j : Json) : Except Mismatch (Option TimeOfDay) := do
  match ← Json.nullable Json.text j with
  | none => return none
  | some s =>
    if s = "" then return none
    else
      match Calendar.readClock? s with
      | some t => return some t
      | none => .error (.refused s!"invalid time of day '{s}'")

end TimeOfDay

end Outreach
