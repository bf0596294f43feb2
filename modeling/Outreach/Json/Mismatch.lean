import Outreach.Json.Writer
import Outreach.Text.Format

/-!
Why a JSON value is not the value asked for. A mismatch names what was found and what
was expected, a missing or repeated field of a record, a name outside a list of names,
or carries the words of the rule that refused the value.
-/

namespace Outreach

inductive Mismatch
  | wrongType (found expected : String)
  | wrongValue (found expected : String)
  | wrongLength (length : Nat) (expected : String)
  | missingField (name : String)
  | repeatedField (name : String)
  | unknownName (name : String) (known : List String)
  | refused (reason : String)
  deriving DecidableEq, Repr

namespace Mismatch

def oneOf : List String → String
  | [] => "there are no variants"
  | [a] => s!"expected `{a}`"
  | [a, b] => s!"expected `{a}` or `{b}`"
  | names => "expected one of " ++ String.intercalate ", " (names.map fun a => s!"`{a}`")

def message : Mismatch → String
  | wrongType found expected => s!"invalid type: {found}, expected {expected}"
  | wrongValue found expected => s!"invalid value: {found}, expected {expected}"
  | wrongLength length expected => s!"invalid length {length}, expected {expected}"
  | missingField name => s!"missing field `{name}`"
  | repeatedField name => s!"duplicate field `{name}`"
  | unknownName name known => s!"unknown variant `{name}`, " ++ oneOf known
  | refused reason => reason

end Mismatch

namespace Json

def describe : Json → String
  | .null => "null"
  | .bool b => if b then "boolean `true`" else "boolean `false`"
  | .number (.integer n) => s!"integer `{n}`"
  | .number (.real x) => "floating point `" ++ writeFloat x ++ "`"
  | .string s => "string " ++ Text.quoted s
  | .array _ => "sequence"
  | .object _ => "map"

def mistyped {α : Type} (j : Json) (expected : String) : Except Mismatch α :=
  .error (.wrongType j.describe expected)

def misvalued {α : Type} (j : Json) (expected : String) : Except Mismatch α :=
  .error (.wrongValue j.describe expected)

def asText (expected : String) : Json → Except Mismatch String
  | .string s => .ok s
  | j => j.mistyped expected

def text : Json → Except Mismatch String := asText "a string"

def boolean : Json → Except Mismatch Bool
  | .bool b => .ok b
  | j => j.mistyped "a boolean"

def Number.toFloat : Number → Float
  | .integer n => Float.ofInt n
  | .real x => x

def float : Json → Except Mismatch Float
  | .number n => .ok n.toFloat
  | j => j.mistyped "f64"

/-- A whole number of a range; a float is never one. -/
def inRange (low high : Int) (expected : String) : Json → Except Mismatch Int
  | .number (.integer n) =>
    if low ≤ n ∧ n < high then .ok n else (integer n).misvalued expected
  | j => j.mistyped expected

def unsigned32 (j : Json) : Except Mismatch UInt32 :=
  (j.inRange 0 4294967296 "u32").map fun n => UInt32.ofNat n.toNat

def signed64 (j : Json) : Except Mismatch Int64 :=
  (j.inRange (-9223372036854775808) 9223372036854775808 "i64").map Int64.ofInt

def size (j : Json) : Except Mismatch Nat :=
  (j.inRange 0 18446744073709551616 "usize").map Int.toNat

def nullable {α : Type} (read : Json → Except Mismatch α) : Json → Except Mismatch (Option α)
  | .null => .ok none
  | j => (read j).map some

def list {α : Type} (read : Json → Except Mismatch α) : Json → Except Mismatch (List α)
  | .array items => items.mapM read
  | j => j.mistyped "a sequence"

/-- A name out of a list of names, with the value it stands for. A name is also read
from an object whose only key it is, with null as its value. -/
def name {α : Type} (known : List (String × α)) (j : Json) : Except Mismatch α :=
  match j with
  | .string s => named s
  | .object [(key, value)] => do
    let a ← named key
    if value.isNull then return a else value.mistyped "unit"
  | .object _ => j.misvalued "map with a single key"
  | _ => j.mistyped "string or map"
where
  named (s : String) : Except Mismatch α :=
    match known.lookup s with
    | some a => .ok a
    | none => .error (.unknownName s (known.map (·.1)))

end Json

end Outreach
