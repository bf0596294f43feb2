import Outreach.Calendar.Wire
import Outreach.Segment.Feature

/-!
The value that a criterion compares with. A date is either a moment or a number of days
before the time of evaluation, written with a prefix.
-/

namespace Outreach

inductive Operand
  | number (x : Float)
  | text (s : String)
  | flag (b : Bool)
  | moment (m : Moment)
  | daysAgo (days : UInt32)

namespace Operand

def relativePrefix : List Char := "relative_".toList

def fits : Operand → Kind → Bool
  | number _, .numeric => true
  | text _, .text => true
  | flag _, .boolean => true
  | moment _, .date => true
  | daysAgo _, .date => true
  | _, _ => false

/-- A number of days behind the prefix, a moment in the strict form, or a day, which
stands for its midnight. -/
def ofDateText? (s : String) : Option Operand :=
  let cs := s.toList
  if relativePrefix.isPrefixOf cs then
    (Text.readNat UInt32.size (cs.drop relativePrefix.length)).map fun n => daysAgo (UInt32.ofNat n)
  else
    match Calendar.readStrict? cs with
    | some m => some (moment m)
    | none => (Calendar.readDay? cs).map fun d => moment ⟨d, TimeOfDay.midnight⟩

def ofJson? (kind : Kind) (j : Json) : Option Operand :=
  match kind, j with
  | .numeric, .number n => some (number n.toFloat)
  | .text, .string s => some (text s)
  | .boolean, .bool b => some (flag b)
  | .date, .string s => ofDateText? s
  | _, _ => none

def toJson : Operand → Json
  | number x => .real x
  | text s => .string s
  | flag b => .bool b
  | moment m => .string (String.ofList m.writeOffset)
  | daysAgo days => .string (String.ofList (relativePrefix ++ Nat.toDigits 10 days.toNat))

def shown : Operand → String
  | number x => s!"Number({NumberStyle.message.write x})"
  | text s => s!"Text({Text.quoted s})"
  | flag b => s!"Bool({b})"
  | moment m => s!"Date({String.ofList m.writeZulu})"
  | daysAgo days => s!"RelativeDays({days})"

end Operand

end Outreach
