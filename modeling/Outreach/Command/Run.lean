import Outreach.Command.Arguments
import Outreach.Delivery.Recorder
import Outreach.Delivery.Wire
import Outreach.Demo.Seed
import Outreach.Json.Records
import Outreach.Lifecycle
import Outreach.Settings.Load
import Outreach.Toml.Reader

/-!
Running a command. It prints JSON documents and may then fail, with a chain of messages
from what was attempted to its cause. Settings that cannot be loaded are passed over and
the defaults are used in their place.
-/

namespace Outreach

/-- What a command has at its disposal: files by their paths, variables, the time, and
new identifiers by number. -/
structure Surroundings where
  file : String → Except String String
  environment : List (String × String)
  now : Moment
  fresh : Nat → Ident

/-- The documents printed, and the messages of a failure. -/
structure Printout where
  documents : List Json
  failure : Option (List String)

namespace Command

/-- The last part of a name behind a point, if the point does not start the name. -/
def extension (path : String) : String :=
  let name := (path.toList.reverse.takeWhile (· ≠ '/')).reverse
  let ending := (name.reverse.takeWhile (· ≠ '.')).reverse
  if ending.length + 1 < name.length then String.ofList ending else ""

def table? (kind text : String) : Option Json :=
  match kind with
  | "toml" => Toml.read text
  | "json" =>
    match Json.read text with
    | .ok (.object entries) => some (.object entries)
    | _ => none
  | _ => none

def settingsPaths (path : String) : List String := [path, path ++ ".toml", path ++ ".json"]

def firstTable? (s : Surroundings) : List String → Option Json
  | [] => none
  | path :: rest =>
    match s.file path with
    | .ok text => table? (extension path) text
    | .error _ => firstTable? s rest

def loadedSettings (s : Surroundings) (config : Option String) : Option Settings :=
  match config with
  | none => Settings.load none s.environment
  | some path =>
    match firstTable? s (settingsPaths path) with
    | some table => Settings.load (some table) s.environment
    | none => none

def settings (s : Surroundings) (i : Invocation) : Settings :=
  let loaded := (loadedSettings s i.config).getD Settings.default
  { matching := { loaded.matching with maxLimit := i.maxLimit.getD loaded.matching.maxLimit }
    defaultSendTime := i.sendTime.getD loaded.defaultSendTime
    dedupe := loaded.dedupe }

def readFile (s : Surroundings) (path : String) : Except (List String) String :=
  (s.file path).mapError fun reason => [s!"reading {path}", reason]

def unparsed {α : Type} (path reason : String) : Except (List String) α :=
  .error [s!"parsing {path}", reason]

def readDefinition (s : Surroundings) (path : String) : Except (List String) Definition := do
  match Json.read (← readFile s path) with
  | .error f => unparsed path f.message
  | .ok j =>
    match Definition.ofMember j with
    | .error m => unparsed path m.message
    | .ok d => .ok d

def readCustomers (s : Surroundings) (path : String) : Except (List String) (List Customer) := do
  let text ← readFile s path
  match Json.readRecords Customer.label (Customer.fields (s.fresh 0)) text with
  | .error f => unparsed path f.message
  | .ok records =>
    match records.zipIdx.mapM fun (r, k) => Customer.ofEntries (s.fresh k) r with
    | .error m => unparsed path m.message
    | .ok customers => .ok customers

def readSteps (s : Surroundings) (path : String) : Except (List String) (List Step) := do
  match Json.readRaw (← readFile s path) with
  | .error f => unparsed path f.message
  | .ok j =>
    match Flow.ofJson j with
    | .ok f => .ok f.steps
    | .error _ =>
      match Json.list Step.ofJson j with
      | .ok steps => .ok steps
      | .error _ => unparsed path "data did not match any variant of untagged enum FlowFile"

def previewOf (s : Surroundings) (m : MatchSettings) (definition customers : String)
    (limit : Option Nat) (now : Option Moment) : Except (List String) Json := do
  let d ← readDefinition s definition
  let cs ← readCustomers s customers
  let p ← (m.preview d cs (now.getD s.now) limit).mapError fun f => [f.report]
  return p.toJson

def scheduleOf (s : Surroundings) (flow : String) (startDate : Date) (time : Option TimeOfDay) :
    Except (List String) Json := do
  let steps ← readSteps s flow
  let scheduled ←
    (Schedule.ofSteps steps (Schedule.startMoment startDate time)).mapError fun f => [f.report]
  return .object [("schedule", Json.ofList ScheduledStep.toJson scheduled),
    ("summary", (Schedule.summary scheduled).toJson)]

def print (j : Json) : ExceptT Problem (StateM (List Json)) Unit :=
  modify (· ++ [j])

def demonstrate (s : Surroundings) (settings : Settings) :
    ExceptT Problem (StateM (List Json)) Unit := do
  let seed ← Demo.seed s.fresh s.now
  let l ← Lifecycle.create settings Recorder.empty.sink Outages.none
  let store := seed.store
  let preview ← (l.directory store).previewById l.matching seed.segment s.now none
  print preview.toJson
  if let some f := store.flows.ofSegment? seed.segment then
    let scheduled ← (Schedule.ofSteps f.steps s.now).mapError Problem.invalidFlow
    print (Schedule.summary scheduled).toJson
  let state := { LifecycleState.empty with store := store }
  let (report, state) ← (l.activate seed.campaign s.now).result state
  print report.toJson
  let (_, state) ← (l.pause seed.campaign s.now).result state
  let (report, state) ← (l.resume seed.campaign s.now).result state
  print report.toJson
  let (_, state) ← (l.complete seed.campaign s.now).result state
  print (state.totalsOf seed.campaign).toJson

def printed : Except (List String) Json → Printout
  | .ok j => ⟨[j], none⟩
  | .error chain => ⟨[], some chain⟩

def run (s : Surroundings) (i : Invocation) : Printout :=
  let settings := settings s i
  match i.command with
  | .segment definition customers limit now =>
    printed (previewOf s settings.matching definition customers limit now)
  | .plan flow startDate time => printed (scheduleOf s flow startDate time)
  | .demo =>
    let (result, documents) := (demonstrate s settings).run.run []
    match result with
    | .ok () => ⟨documents, none⟩
    | .error p => ⟨documents, some [p.message]⟩

def paths (i : Invocation) : List String :=
  let config := match i.config with
    | some path => settingsPaths path
    | none => []
  config ++ match i.command with
    | .segment definition customers _ _ => [definition, customers]
    | .plan flow _ _ => [flow]
    | .demo => []

end Command

end Outreach
