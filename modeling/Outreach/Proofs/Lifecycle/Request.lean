import Outreach.Proofs.Lifecycle.Operation

/-!
What can be asked of a lifecycle, and everything that a request which succeeds does. A
request names its campaign; the one that creates a campaign brings the identifier with it.
-/

namespace Outreach

inductive Request
  | create (id : Ident) (r : NewCampaign)
  | edit (id : Ident) (r : Change)
  | activate (id : Ident)
  | pause (id : Ident)
  | resume (id : Ident)
  | complete (id : Ident)
  | redispatch (id : Ident)

inductive Answer
  | campaign (c : Campaign)
  | report (r : Report)

namespace Lifecycle

def perform (l : Lifecycle) (now : Moment) : Request → Operation Answer
  | .create id r => do return .campaign (← l.createCampaign id r now)
  | .edit id r => do return .campaign (← l.edit id r now)
  | .activate id => do return .report (← l.activate id now)
  | .pause id => do return .campaign (← l.pause id now)
  | .resume id => do return .report (← l.resume id now)
  | .complete id => do return .campaign (← l.complete id now)
  | .redispatch id => do return .report (← l.redispatch id now)

def attempts (l : Lifecycle) (campaign : Ident) (schedule : List ScheduledStep)
    (recipients : List Customer) (s : LifecycleState) : List Attempt × Ledger :=
  Ledger.pass l.sink l.dedupe (dispatches campaign schedule recipients) s.ledger

section Deliver

variable (l : Lifecycle) (campaign : Ident) (occasion : Occasion)
  (schedule : List ScheduledStep) (recipients : List Customer) (s : LifecycleState)

theorem deliver_report :
    (l.deliver campaign occasion schedule recipients s).1 =
      Report.ofAttempts campaign occasion schedule recipients
        (l.attempts campaign schedule recipients s).1 := rfl

@[simp] theorem deliver_store :
    (l.deliver campaign occasion schedule recipients s).2.store = s.store := rfl

end Deliver

theorem reach_eq_ok {α : Type} {outage : Option String} {a b : α} :
    reach outage a = .ok b ↔ outage = none ∧ a = b := by
  cases outage <;> simp [reach]

theorem campaign_eq_ok {l : Lifecycle} {id : Ident} {s : Store} {c : Campaign} :
    l.campaign id s = .ok c ↔
      l.outages.campaignReads = none ∧ s.campaigns.get? id = some c := by
  unfold campaign
  cases hr : l.outages.campaignReads <;> cases hc : s.campaigns.get? id <;>
    simp [reach, hc]

theorem flow_eq_ok {l : Lifecycle} {id : Ident} {s : Store} {f : Flow} :
    l.flow id s = .ok f ↔ l.outages.flows = none ∧ s.flows.get? id = some f := by
  unfold flow
  cases hr : l.outages.flows <;> cases hf : s.flows.get? id <;>
    simp [reach, hf]

theorem advance_eq_ok {c : Campaign} {e : CampaignEvent} {status : Status} :
    advance c e = .ok status ↔ c.status.next? e = some status := by
  unfold advance
  cases c.status.next? e <;> simp

theorem save_eq_ok {l : Lifecycle} {c : Campaign} {s s' : LifecycleState} {u : Unit} :
    l.save c s = .ok u s' ↔ l.outages.campaignWrites = none ∧ s' = s.putCampaign c := by
  unfold save
  simp only [Operation.bind_eq_ok, Operation.check_eq_ok, reach_eq_ok]
  constructor
  · rintro ⟨d, t, ⟨⟨ho, rfl⟩, rfl⟩, h⟩
    exact ⟨ho, (Operation.modifyGet_eq_ok.mp h).2⟩
  · rintro ⟨ho, rfl⟩
    exact ⟨c, s, ⟨⟨ho, rfl⟩, rfl⟩, rfl⟩

end Lifecycle

/-- What a request that succeeds has done: the state after it, with everything that was
checked before. -/
inductive Done (l : Lifecycle) (now : Moment) (s : LifecycleState) :
    Request → Answer → LifecycleState → Prop
  | create {id : Ident} {r : NewCampaign} {g : Segment}
      (segment : (l.directory s.store).resolve r.segment = .ok g)
      (flow : l.findFlow r.flow s.store = .ok ()) :
      Done l now s (.create id r) (.campaign (r.draft id now)) (s.putCampaign (r.draft id now))
  | edit {id : Ident} {r : Change} {c : Campaign}
      (stored : s.store.campaigns.get? id = some c) (draft : c.status = .draft)
      (flow : l.findFlow r.flow.join s.store = .ok ()) :
      Done l now s (.edit id r) (.campaign (c.change r now))
        ((s.putCampaign (c.change r now)).log (.ofTransition c.id .edit))
  | pause {id : Ident} {c : Campaign}
      (stored : s.store.campaigns.get? id = some c) (active : c.status = .active) :
      Done l now s (.pause id) (.campaign { c with status := .paused, updatedAt := now })
        ((s.putCampaign { c with status := .paused, updatedAt := now }).log
          (.ofTransition c.id .pause))
  | complete {id : Ident} {c : Campaign}
      (stored : s.store.campaigns.get? id = some c)
      (started : c.status = .active ∨ c.status = .paused) :
      Done l now s (.complete id) (.campaign { c with status := .completed, updatedAt := now })
        ((s.putCampaign { c with status := .completed, updatedAt := now }).log
          (.ofTransition c.id .complete))
  | activate {id : Ident} {c : Campaign} {schedule : List ScheduledStep}
      {recipients : List Customer} {t : LifecycleState}
      (stored : s.store.campaigns.get? id = some c) (draft : c.status = .draft)
      (plan : l.plan c (c.start l.sendTime) now s.store = .ok (schedule, recipients))
      (saved : t = s.putCampaign { c with
        status := .active, scheduleStart := some (c.start l.sendTime), updatedAt := now,
        activatedAt := some now }) :
      Done l now s (.activate id) (.report (l.deliver c.id .activate schedule recipients t).1)
        ((l.deliver c.id .activate schedule recipients t).2.log
          (.ofPass .activate (c.start l.sendTime)
            (l.deliver c.id .activate schedule recipients t).1))
  | resume {id : Ident} {c : Campaign} {schedule : List ScheduledStep}
      {recipients : List Customer} {t : LifecycleState}
      (stored : s.store.campaigns.get? id = some c) (paused : c.status = .paused)
      (plan : l.plan c now now s.store = .ok (schedule, recipients))
      (saved : t = s.putCampaign { c with
        status := .active, scheduleStart := some now, updatedAt := now }) :
      Done l now s (.resume id) (.report (l.deliver c.id .resume schedule recipients t).1)
        ((l.deliver c.id .resume schedule recipients t).2.log
          (.ofPass .resume now (l.deliver c.id .resume schedule recipients t).1))
  | redispatch {id : Ident} {c : Campaign} {schedule : List ScheduledStep}
      {recipients : List Customer}
      (stored : s.store.campaigns.get? id = some c) (active : c.status = .active)
      (plan : l.plan c (c.scheduleStart.getD (c.start l.sendTime)) now s.store =
        .ok (schedule, recipients)) :
      Done l now s (.redispatch id)
        (.report (l.deliver c.id .redispatch schedule recipients s).1)
        (l.deliver c.id .redispatch schedule recipients s).2

/-- The statuses that an event joins are those of a row of the table. -/
theorem Status.next?_eq_some_iff {s t : Status} {e : CampaignEvent} :
    s.next? e = some t ↔ ⟨s, e, t⟩ ∈ Transition.table := by
  cases s <;> cases e <;> cases t <;> decide

namespace Lifecycle

variable {l : Lifecycle} {id : Ident} {now : Moment} {s s' : LifecycleState}

theorem done_of_createCampaign {r : NewCampaign} {c : Campaign}
    (h : l.createCampaign id r now s = .ok c s') :
    Done l now s (.create id r) (.campaign c) s' := by
  simp only [createCampaign, Operation.bind_eq_ok, Operation.ask_eq_ok, save_eq_ok,
    Operation.pure_eq_ok] at h
  obtain ⟨g, _, ⟨segment, rfl⟩, _, _, ⟨flow, rfl⟩, _, _, ⟨_, rfl⟩, rfl, rfl⟩ := h
  exact .create segment flow

theorem done_of_edit {r : Change} {c : Campaign} (h : l.edit id r now s = .ok c s') :
    Done l now s (.edit id r) (.campaign c) s' := by
  simp only [edit, Operation.bind_eq_ok, Operation.ask_eq_ok, Operation.check_eq_ok,
    campaign_eq_ok, advance_eq_ok, save_eq_ok, Operation.log_eq_ok, Operation.pure_eq_ok] at h
  obtain ⟨d, _, ⟨⟨_, stored⟩, rfl⟩, status, _, ⟨moved, rfl⟩, _, _, ⟨flow, rfl⟩, _, _, ⟨_, rfl⟩,
    _, _, rfl, rfl, rfl⟩ := h
  obtain ⟨draft, _⟩ : d.status = .draft ∧ status = .draft := by
    simpa [Transition.table] using Status.next?_eq_some_iff.mp moved
  exact .edit stored draft flow

theorem transition_eq_ok {e : CampaignEvent} {c : Campaign}
    (h : l.transition e id now s = .ok c s') :
    ∃ d status, s.store.campaigns.get? id = some d ∧ ⟨d.status, e, status⟩ ∈ Transition.table ∧
      c = { d with status := status, updatedAt := now } ∧
      s' = (s.putCampaign c).log (.ofTransition d.id e) := by
  simp only [transition, Operation.bind_eq_ok, Operation.ask_eq_ok, Operation.check_eq_ok,
    campaign_eq_ok, advance_eq_ok, save_eq_ok, Operation.log_eq_ok, Operation.pure_eq_ok] at h
  obtain ⟨d, _, ⟨⟨_, stored⟩, rfl⟩, status, _, ⟨moved, rfl⟩, _, _, ⟨_, rfl⟩, _, _, rfl, rfl,
    rfl⟩ := h
  exact ⟨d, status, stored, Status.next?_eq_some_iff.mp moved, rfl, rfl⟩

theorem done_of_pause {c : Campaign} (h : l.pause id now s = .ok c s') :
    Done l now s (.pause id) (.campaign c) s' := by
  obtain ⟨d, status, stored, row, rfl, rfl⟩ := transition_eq_ok h
  obtain ⟨active, rfl⟩ : d.status = .active ∧ status = .paused := by
    simpa [Transition.table] using row
  exact .pause stored active

theorem done_of_complete {c : Campaign} (h : l.complete id now s = .ok c s') :
    Done l now s (.complete id) (.campaign c) s' := by
  obtain ⟨d, status, stored, row, rfl, rfl⟩ := transition_eq_ok h
  obtain ⟨started, rfl⟩ : (d.status = .active ∨ d.status = .paused) ∧ status = .completed := by
    rcases (by simpa [Transition.table] using row) with ⟨hd, hs⟩ | ⟨hd, hs⟩
    · exact ⟨Or.inl hd, hs⟩
    · exact ⟨Or.inr hd, hs⟩
  exact .complete stored started

theorem launch_eq_ok {e : CampaignEvent} {occasion : Occasion} {c : Campaign} {start : Moment}
    {r : Report} (h : l.launch e occasion c start now s = .ok r s') :
    ∃ status schedule recipients t, ⟨c.status, e, status⟩ ∈ Transition.table ∧
      l.plan c start now s.store = .ok (schedule, recipients) ∧
      t = s.putCampaign { c with
        status := status, scheduleStart := some start, updatedAt := now,
        activatedAt := if e = .activate then some now else c.activatedAt } ∧
      r = (l.deliver c.id occasion schedule recipients t).1 ∧
      s' = (l.deliver c.id occasion schedule recipients t).2.log (.ofPass e start r) := by
  simp only [launch, Operation.bind_eq_ok, Operation.ask_eq_ok, Operation.check_eq_ok,
    advance_eq_ok, save_eq_ok, Operation.modifyGet_eq_ok, Operation.log_eq_ok,
    Operation.pure_eq_ok] at h
  obtain ⟨status, _, ⟨moved, rfl⟩, ⟨schedule, recipients⟩, _, ⟨plan, rfl⟩, _, _, ⟨_, rfl⟩, _, _,
    ⟨rfl, rfl⟩, _, _, rfl, rfl, rfl⟩ := h
  exact ⟨status, schedule, recipients, _, Status.next?_eq_some_iff.mp moved, plan, rfl, rfl, rfl⟩

theorem done_of_activate {r : Report} (h : l.activate id now s = .ok r s') :
    Done l now s (.activate id) (.report r) s' := by
  simp only [activate, Operation.bind_eq_ok, Operation.ask_eq_ok, campaign_eq_ok] at h
  obtain ⟨c, _, ⟨⟨_, stored⟩, rfl⟩, h⟩ := h
  obtain ⟨status, schedule, recipients, t, row, plan, saved, rfl, rfl⟩ := launch_eq_ok h
  obtain ⟨draft, rfl⟩ : c.status = .draft ∧ status = .active := by
    simpa [Transition.table] using row
  exact .activate stored draft plan saved

theorem done_of_resume {r : Report} (h : l.resume id now s = .ok r s') :
    Done l now s (.resume id) (.report r) s' := by
  simp only [resume, Operation.bind_eq_ok, Operation.ask_eq_ok, campaign_eq_ok] at h
  obtain ⟨c, _, ⟨⟨_, stored⟩, rfl⟩, h⟩ := h
  obtain ⟨status, schedule, recipients, t, row, plan, saved, rfl, rfl⟩ := launch_eq_ok h
  obtain ⟨paused, rfl⟩ : c.status = .paused ∧ status = .active := by
    simpa [Transition.table] using row
  exact .resume stored paused plan saved

theorem done_of_redispatch {r : Report} (h : l.redispatch id now s = .ok r s') :
    Done l now s (.redispatch id) (.report r) s' := by
  simp only [redispatch, Operation.bind_eq_ok, Operation.ask_eq_ok, Operation.check_eq_ok,
    campaign_eq_ok, Operation.modifyGet_eq_ok] at h
  obtain ⟨c, _, ⟨⟨_, stored⟩, rfl⟩, _, _, ⟨guard, rfl⟩, ⟨schedule, recipients⟩, _,
    ⟨plan, rfl⟩, rfl, rfl⟩ := h
  by_cases active : c.status = .active
  · exact .redispatch stored active plan
  · simp [active] at guard

/-- Every request that succeeds is done in one of the listed ways. -/
theorem done_of_perform {r : Request} {a : Answer} (h : l.perform now r s = .ok a s') :
    Done l now s r a s' := by
  cases r <;>
    simp only [perform, Operation.bind_eq_ok, Operation.pure_eq_ok] at h <;>
    obtain ⟨x, t, h, rfl, rfl⟩ := h
  case create => exact done_of_createCampaign h
  case edit => exact done_of_edit h
  case activate => exact done_of_activate h
  case pause => exact done_of_pause h
  case resume => exact done_of_resume h
  case complete => exact done_of_complete h
  case redispatch => exact done_of_redispatch h

end Lifecycle

/-- The ledger changes by a pass only, though it may be one over no messages. -/
theorem Done.ledger_eq_pass {l : Lifecycle} {now : Moment} {s s' : LifecycleState} {r : Request}
    {a : Answer} (h : Done l now s r a s') :
    ∃ ds, s'.ledger = (Ledger.pass l.sink l.dedupe ds s.ledger).2 := by
  cases h with
  | create segment flow => exact ⟨[], rfl⟩
  | edit stored draft flow => exact ⟨[], rfl⟩
  | pause stored active => exact ⟨[], rfl⟩
  | complete stored started => exact ⟨[], rfl⟩
  | activate stored draft plan saved =>
    subst saved
    exact ⟨dispatches _ _ _, rfl⟩
  | resume stored paused plan saved =>
    subst saved
    exact ⟨dispatches _ _ _, rfl⟩
  | redispatch stored active plan => exact ⟨dispatches _ _ _, rfl⟩

end Outreach
