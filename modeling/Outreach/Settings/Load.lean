import Outreach.Number.Reader
import Outreach.Number.Writer
import Outreach.Settings.Basic
import Outreach.Settings.Source

/-!
Settings from gathered values, which are taken generously: words stand for truth values,
truth values for zero and one, numbers for text, and floats are rounded. A value that
cannot be understood refuses the settings as a whole. What is not given has its default.
-/

namespace Outreach.Settings

def looseSize : Json → Option Nat
  | .number (.integer n) => if 0 ≤ n then some n.toNat else none
  | .number (.real x) => some (Number.roundNat (UInt64.size - 1) x)
  | .bool b => some b.toNat
  | .string s =>
    let word := lower s
    if word ∈ ["true", "on", "yes"] then some 1
    else if word ∈ ["false", "off", "no"] then some 0
    else Text.readNat UInt64.size s.toList
  | _ => none

def looseFlag : Json → Option Bool
  | .number (.integer n) => some (n != 0)
  | .number (.real x) => some (!(x == 0))
  | .bool b => some b
  | .string s =>
    let word := lower s
    if word ∈ ["1", "true", "on", "yes"] then some true
    else if word ∈ ["0", "false", "off", "no"] then some false
    else none
  | _ => none

def looseText : Json → Option String
  | .number (.integer n) => some (toString n)
  | .number (.real x) => some (NumberStyle.plain.write x)
  | .bool b => some (toString b)
  | .string s => some s
  | _ => none

/-- The value of a section by its name or, in a list, by its position. -/
def part? (section? : Json) (position : Nat) (name : String) : Option (Option Json) :=
  match section? with
  | .object entries => some (entries.lookup name)
  | .array items => some items[position]?
  | _ => none

def setting {α : Type} (section? : Option Json) (position : Nat) (name : String)
    (read : Json → Option α) (default : α) : Option α :=
  match section? with
  | none => some default
  | some j =>
    match part? j position name with
    | none => none
    | some none => some default
    | some (some value) => read value

def ofTable (table : Json) : Option Settings := do
  let matching := table.get? "segmentation"
  let defaultLimit ←
    setting matching 0 "default_match_limit" looseSize default.matching.defaultLimit
  let maxLimit ← setting matching 1 "max_match_limit" looseSize default.matching.maxLimit
  let threshold ←
    setting matching 2 "parallel_threshold" looseSize default.matching.parallelThreshold
  let time ←
    setting (table.get? "scheduling") 0 "default_send_time" looseText default.defaultSendTime
  let dedupe ← setting (table.get? "delivery") 0 "dedupe" looseFlag default.dedupe
  return ⟨⟨defaultLimit, maxLimit, threshold⟩, time, dedupe⟩

def load (file : Option Json) (environment : List (String × String)) : Option Settings :=
  ofTable (gather file environment)

end Outreach.Settings
