import Outreach.Calendar.Reading

/-!
The command line. General options come before the command and its own options after it;
an option is followed by its value or joined to it by an equals sign, and may be given
once. A value that follows its option must not look like an option. General options that
are not given are taken from variables.
-/

namespace Outreach

inductive Command
  | segment (definition customers : String) (limit : Option Nat) (now : Option Moment)
  | plan (flow : String) (startDate : Date) (time : Option TimeOfDay)
  | demo

/-- A command with the general options. -/
structure Invocation where
  config : Option String
  sendTime : Option String
  maxLimit : Option Nat
  command : Command

/-- Why there is nothing to run: help was asked for, or the arguments are wrong. -/
inductive Stop
  | help
  | usage
  deriving DecidableEq, Repr

/-- An option with the values it accepts. -/
structure CommandOption where
  name : String
  accepts : String → Bool

namespace Arguments

def size? (s : String) : Option Nat := Text.readNat UInt64.size s.toList

def path? (s : String) : Option String := if s = "" then none else some s

def moment? (s : String) : Option Moment := (Calendar.readMoment s).toOption

def date? (s : String) : Option Date := (Calendar.readDate s).toOption

def general : List CommandOption :=
  [⟨"config", fun s => (path? s).isSome⟩, ⟨"default-send-time", fun _ => true⟩,
    ⟨"max-match-limit", fun s => (size? s).isSome⟩]

def ofSegment : List CommandOption :=
  [⟨"definition", fun s => (path? s).isSome⟩, ⟨"customers", fun s => (path? s).isSome⟩,
    ⟨"limit", fun s => (size? s).isSome⟩, ⟨"now", fun s => (moment? s).isSome⟩]

def ofPlan : List CommandOption :=
  [⟨"flow", fun s => (path? s).isSome⟩, ⟨"start-date", fun s => (date? s).isSome⟩,
    ⟨"time", fun s => (Calendar.readClock? s).isSome⟩]

abbrev Given := List (String × String)

def isValue (s : String) : Bool := s = "-" || s.toList.head? ≠ some '-'

def note (known : List CommandOption) (given : Given) (name value : String) :
    Except Stop Given :=
  match known.find? fun o => o.name == name with
  | none => .error .usage
  | some o =>
    if (given.lookup name).isSome ∨ o.accepts value = false then .error .usage
    else .ok ((name, value) :: given)

/-- Whether an argument asks for help; the version is shown only before a command. -/
def asksHelp (withVersion : Bool) (arg : String) : Bool :=
  match arg.toList with
  | '-' :: '-' :: name =>
    name = "help".toList || (withVersion && name = "version".toList)
  | '-' :: c :: _ => c = 'h' || (withVersion && c = 'V')
  | _ => false

def options (known : List CommandOption) (withVersion : Bool) (given : Given) :
    List String → Except Stop (Given × List String)
  | [] => .ok (given, [])
  | arg :: rest =>
    if asksHelp withVersion arg then .error .help
    else
      match arg.toList with
      | '-' :: '-' :: text =>
        let name := text.takeWhile (· ≠ '=')
        match text.drop name.length with
        | _ :: value =>
          match note known given (String.ofList name) (String.ofList value) with
          | .ok given => options known withVersion given rest
          | .error stop => .error stop
        | [] =>
          if text.isEmpty then if rest.isEmpty then .ok (given, []) else .error .usage
          else
            match rest with
            | [] => .error .usage
            | value :: rest =>
              if isValue value then
                match note known given (String.ofList name) value with
                | .ok given => options known withVersion given rest
                | .error stop => .error stop
              else .error .usage
      | '-' :: _ :: _ => .error .usage
      | _ => .ok (given, arg :: rest)

def onlyOptions (known : List CommandOption) (args : List String) : Except Stop Given := do
  let (given, rest) ← options known false [] args
  if rest.isEmpty then .ok given else .error .usage

def needed {α : Type} (given : Given) (name : String) (read : String → Option α) :
    Except Stop α :=
  match (given.lookup name).bind read with
  | some a => .ok a
  | none => .error .usage

def command (name : String) (args : List String) : Except Stop Command := do
  match name with
  | "segment" =>
    let given ← onlyOptions ofSegment args
    return .segment (← needed given "definition" path?) (← needed given "customers" path?)
      ((given.lookup "limit").bind size?) ((given.lookup "now").bind moment?)
  | "plan" =>
    let given ← onlyOptions ofPlan args
    return .plan (← needed given "flow" path?) (← needed given "start-date" date?)
      ((given.lookup "time").bind Calendar.readClock?)
  | "demo" =>
    let _ ← onlyOptions [] args
    return .demo
  | "help" =>
    match args with
    | [] => throw .help
    | [topic] =>
      if topic ∈ ["segment", "plan", "demo", "help"] then throw .help else throw .usage
    | _ => throw .usage
  | _ => throw .usage

def fromEnvironment : List (String × String) :=
  [("config", "AUDIENCE_CONFIG"),
    ("default-send-time", "AUDIENCE__SCHEDULING__DEFAULT_SEND_TIME"),
    ("max-match-limit", "AUDIENCE__SEGMENTATION__MAX_MATCH_LIMIT")]

def complete (environment : List (String × String)) (given : Given) : Except Stop Given :=
  fromEnvironment.foldlM (fun given (option, v) =>
    match given.lookup option, environment.lookup v with
    | none, some value => note general given option value
    | _, _ => .ok given) given

def read (args : List String) (environment : List (String × String)) :
    Except Stop Invocation := do
  let (given, rest) ← options general true [] args
  match rest with
  | [] => throw .usage
  | name :: rest =>
    let c ← command name rest
    let given ← complete environment given
    return ⟨(given.lookup "config").bind path?, given.lookup "default-send-time",
      (given.lookup "max-match-limit").bind size?, c⟩

end Arguments

end Outreach
