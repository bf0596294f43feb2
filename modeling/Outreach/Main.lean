import Outreach.Command.Run
import Outreach.Json.Writer
import Std.Time.DateTime.Timestamp

/-!
The program: it takes a command from its arguments, gathers the files, variables, time
and identifiers that the command may use, and prints what the command gives.
-/

namespace Outreach.Program

def usage : String :=
  "Usage: outreach [OPTIONS] <COMMAND>\n\n" ++
    "Commands:\n" ++
    "  segment --definition <FILE> --customers <FILE> [--limit <N>] [--now <TIME>]\n" ++
    "  plan --flow <FILE> --start-date <DATE> [--time <HH:MM>]\n" ++
    "  demo\n\n" ++
    "Options:\n" ++
    "  --config <FILE>\n" ++
    "  --default-send-time <HH:MM>\n" ++
    "  --max-match-limit <N>"

def variableNames : List String :=
  ["AUDIENCE_CONFIG", "AUDIENCE__SEGMENTATION__DEFAULT_MATCH_LIMIT",
    "AUDIENCE__SEGMENTATION__MAX_MATCH_LIMIT", "AUDIENCE__SEGMENTATION__PARALLEL_THRESHOLD",
    "AUDIENCE__SCHEDULING__DEFAULT_SEND_TIME", "AUDIENCE__DELIVERY__DEDUPE"]

def environment : IO (List (String × String)) :=
  variableNames.filterMapM fun name => do
    return (← IO.getEnv name).map fun value => (name, value)

def reason : IO.Error → String
  | .noFileOrDirectory .. => "No such file or directory (os error 2)"
  | .permissionDenied .. => "Permission denied (os error 13)"
  | e => toString e

def fileText (path : String) : IO (Except String String) := do
  try
    match String.fromUTF8? (← IO.FS.readBinFile path) with
    | some text => return .ok text
    | none => return .error "stream did not contain valid UTF-8"
  catch e => return .error (reason e)

def now : IO Moment := do
  let t ← Std.Time.Timestamp.now
  match Moment.ofNanoseconds? t.toNanosecondsSinceUnixEpoch.toInt with
  | some m => return m
  | none => throw (IO.userError "the time lies beyond the calendar")

/-- New identifiers, which share their random part. -/
def freshIdents : IO (Nat → Ident) := do
  let bytes ← IO.getRandomBytes 12
  let base := bytes.toList.foldl (fun n b => n * 256 + b.toNat) 0
  return fun n => Ident.ofNat (base <<< 32 + n)

def surroundings (i : Invocation) (vars : List (String × String)) : IO Surroundings := do
  let files ← (Command.paths i).mapM fun path => do return (path, ← fileText path)
  let file (path : String) : Except String String :=
    (files.lookup path).getD (.error "No such file or directory (os error 2)")
  return ⟨file, vars, ← now, ← freshIdents⟩

def failureText : List String → String
  | [] => "Error"
  | [m] => "Error: " ++ m
  | [m, cause] => "Error: " ++ m ++ "\n\nCaused by:\n    " ++ cause
  | m :: causes =>
    "Error: " ++ m ++ "\n\nCaused by:" ++
      String.join (causes.zipIdx.map fun (cause, k) => s!"\n    {k}: {cause}")

def run (args : List String) : IO UInt32 := do
  let vars ← environment
  match Arguments.read args vars with
  | .error .help =>
    IO.println usage
    return 0
  | .error .usage =>
    IO.eprintln usage
    return 2
  | .ok i =>
    let printout := Command.run (← surroundings i vars) i
    printout.documents.forM fun j => IO.println j.pretty
    match printout.failure with
    | none => return 0
    | some chain =>
      IO.eprintln (failureText chain)
      return 1

end Outreach.Program

def main (args : List String) : IO UInt32 :=
  Outreach.Program.run args
