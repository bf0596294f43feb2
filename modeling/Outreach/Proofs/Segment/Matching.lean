import Outreach.Proofs.Except
import Outreach.Segment.Query

/-!
All matches of a definition. Counting them is the same in one go and in parts, and of a
sound definition they are the customers that it evaluates to true.
-/

namespace Outreach

theorem countInParts_eq_countP {α : Type} (p : α → Bool) (xs : List α) :
    countInParts p xs = xs.countP p := by
  fun_induction countInParts p xs with
  | case1 xs short => rfl
  | case2 xs long front back =>
    rw [front, back, ← List.countP_append, List.take_append_drop]

namespace Definition

def accepts (d : Definition) (c : Customer) (now : Moment) : Bool :=
  match d.evaluate c now with
  | .ok b => b
  | .error _ => false

section Sound

variable {d : Definition} (sound : d.check = .ok ())
include sound

theorem accepts_eq_holds (c : Customer) (now : Moment) : d.accepts c now = d.holds c now := by
  simp [accepts, evaluate, sound]

/-- Whether a count is made in parts does not matter. -/
theorem count_eq_ok (m : MatchSettings) (customers : List Customer) (now : Moment) :
    m.count d customers now = .ok (customers.countP fun c => d.accepts c now) := by
  unfold MatchSettings.count MatchSettings.parallelCount
  simp only [sound, countInParts_eq_countP, accepts_eq_holds sound, Except.ok_bind, Except.pure_eq,
    ite_self]

end Sound

theorem allMatches_eq_ok_iff {d : Definition} {customers found : List Customer} {now : Moment} :
    d.allMatches customers now = .ok found ↔
      d.check = .ok () ∧ found = customers.filter fun c => d.accepts c now := by
  unfold allMatches
  cases sound : d.check with
  | ok u => simp [accepts_eq_holds sound, eq_comm]
  | error f => simp

end Definition

end Outreach
