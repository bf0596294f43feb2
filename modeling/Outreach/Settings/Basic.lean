import Outreach.Json.Record

/-!
Settings: the limits of listings, the time of day at which campaigns start unless they
say otherwise, and whether a message that was delivered is ever sent again.
-/

namespace Outreach

structure MatchSettings where
  defaultLimit : Nat
  maxLimit : Nat
  /-- Larger collections of customers are counted in parts. -/
  parallelThreshold : Nat
  deriving DecidableEq, Repr

structure Settings where
  matching : MatchSettings
  defaultSendTime : String
  dedupe : Bool
  deriving DecidableEq, Repr

namespace MatchSettings

def default : MatchSettings := ⟨100, 10000, 50000⟩

def ofJson (j : Json) : Except Mismatch MatchSettings := do
  let defaultLimit := Member.optional "default_match_limit" Json.size default.defaultLimit
  let maxLimit := Member.optional "max_match_limit" Json.size default.maxLimit
  let threshold := Member.optional "parallel_threshold" Json.size default.parallelThreshold
  let entries ← j.record "struct SegmentationConfig"
    [defaultLimit.field, maxLimit.field, threshold.field]
  return ⟨← defaultLimit.get entries, ← maxLimit.get entries, ← threshold.get entries⟩

def shown (s : MatchSettings) : String :=
  "SegmentService \x7b config: SegmentationConfig \x7b default_match_limit: " ++
    s!"{s.defaultLimit}, max_match_limit: {s.maxLimit}, parallel_threshold: " ++
    s!"{s.parallelThreshold}" ++ " \x7d \x7d"

end MatchSettings

namespace Settings

def default : Settings := ⟨MatchSettings.default, "00:00", true⟩

def sendTimeOfJson (j : Json) : Except Mismatch String := do
  let time := Member.optional "default_send_time" Json.text default.defaultSendTime
  let entries ← j.record "struct SchedulingConfig" [time.field]
  time.get entries

def dedupeOfJson (j : Json) : Except Mismatch Bool := do
  let dedupe := Member.optional "dedupe" Json.boolean default.dedupe
  let entries ← j.record "struct DeliveryConfig" [dedupe.field]
  dedupe.get entries

def ofJson (j : Json) : Except Mismatch Settings := do
  let matching := Member.optional "segmentation" MatchSettings.ofJson default.matching
  let time := Member.optional "scheduling" sendTimeOfJson default.defaultSendTime
  let dedupe := Member.optional "delivery" dedupeOfJson default.dedupe
  let entries ← j.record "struct AppConfig" [matching.field, time.field, dedupe.field]
  return ⟨← matching.get entries, ← time.get entries, ← dedupe.get entries⟩

def toJson (s : Settings) : Json :=
  .object [("dedupe", .bool s.dedupe), ("default_match_limit", .nat s.matching.defaultLimit),
    ("default_send_time", .string s.defaultSendTime),
    ("max_match_limit", .nat s.matching.maxLimit),
    ("parallel_threshold", .nat s.matching.parallelThreshold)]

end Settings

end Outreach
