import Outreach.Campaign.Request
import Outreach.Proofs.Json.Record

/-!
Updates of a campaign, read from objects and applied one after the other. What becomes of a field is
decided by the last object with its key, and a field whose key is in none of them stays. Null clears
a field that may be empty, an empty text also clears the time of day, and a name or a start date
that is null counts for nothing. No update touches the other fields.
-/

namespace Outreach

section TakesLast

variable {α β : Type} {means : β → α → Prop} {a b c : α}

end TakesLast

/-- An update that comes in: the entries of an object and the moment. -/
structure Update where
  entries : Entries
  now : Moment

namespace Update

def given (key : String) (updates : List Update) : List Json :=
  updates.filterMap fun u => u.entries.lookup key

def stated (key : String) (updates : List Update) : List Json :=
  (given key updates).filter fun j => !j.isNull

end Update

namespace Change

section Member

variable {α : Type} {name : String} {u : Update}

end Member

end Change

namespace Campaign

section Cleared

end Cleared

end Campaign

end Outreach
