import Outreach.Proofs.Lifecycle.Failure

/-!
What a turn does to the record of one campaign. The record is new, as the draft of the
request that creates it, or it moves with a request for it, or it stays. Records move along
the rows of the table of transitions.
-/

namespace Outreach

def Request.writes? : Request → Option Ident
  | .create id _ | .edit id _ | .activate id | .pause id | .resume id | .complete id => some id
  | .redispatch _ => none

def Request.event? : Request → Option (Ident × CampaignEvent)
  | .edit id _ => some (id, .edit)
  | .activate id => some (id, .activate)
  | .pause id => some (id, .pause)
  | .resume id => some (id, .resume)
  | .complete id => some (id, .complete)
  | .create _ _ | .redispatch _ => none

theorem Request.event?_ne {id : Ident} {r : Request} (h : r.writes? ≠ some id)
    (e : CampaignEvent) : r.event? ≠ some (id, e) := by
  intro event
  apply h
  cases r <;> cases event <;> rfl

namespace Campaign

/-- A campaign before and after a request for it; `usual` is the time of day of campaigns that
give none. -/
inductive Moves (usual : TimeOfDay) (now : Moment) (c : Campaign) : Request → Campaign → Prop
  | edit {r : Change} (draft : c.status = .draft) :
      Moves usual now c (.edit c.id r) (c.change r now)
  | activate (draft : c.status = .draft) :
      Moves usual now c (.activate c.id) { c with
        status := .active, scheduleStart := some (c.start usual), updatedAt := now,
        activatedAt := some now }
  | pause (active : c.status = .active) :
      Moves usual now c (.pause c.id) { c with status := .paused, updatedAt := now }
  | resume (paused : c.status = .paused) :
      Moves usual now c (.resume c.id) { c with
        status := .active, scheduleStart := some now, updatedAt := now }
  | complete (started : c.status = .active ∨ c.status = .paused) :
      Moves usual now c (.complete c.id) { c with status := .completed, updatedAt := now }

/-- The record of an identifier before and after a turn, given the request that succeeds in
it. -/
inductive Step (usual : TimeOfDay) (id : Ident) :
    Option (Request × Moment) → Option Campaign → Option Campaign → Prop
  | created {r : NewCampaign} {now : Moment} :
      Step usual id (some (.create id r, now)) none (some (r.draft id now))
  | moved {c d : Campaign} {r : Request} {now : Moment} (same : c.id = id)
      (moves : c.Moves usual now r d) : Step usual id (some (r, now)) (some c) (some d)
  | kept {success : Option (Request × Moment)} {stored : Option Campaign}
      (other : ∀ r now, success = some (r, now) → r.writes? ≠ some id) :
      Step usual id success stored stored

section Moves

variable {usual : TimeOfDay} {now : Moment} {c d : Campaign} {r : Request}

theorem Moves.id_eq (h : c.Moves usual now r d) : d.id = c.id := by
  cases h <;> rfl

theorem Moves.writes?_eq (h : c.Moves usual now r d) : r.writes? = some c.id := by
  cases h <;> rfl

/-- A record moves along a row of the table, with the event that the request is. -/
theorem Moves.mem_table (h : c.Moves usual now r d) :
    ∃ e, r.event? = some (c.id, e) ∧ ⟨c.status, e, d.status⟩ ∈ Transition.table := by
  cases h with
  | edit draft => exact ⟨.edit, rfl, by simp [change, draft, Transition.table]⟩
  | activate draft => exact ⟨.activate, rfl, by simp [draft, Transition.table]⟩
  | pause active => exact ⟨.pause, rfl, by simp [active, Transition.table]⟩
  | resume paused => exact ⟨.resume, rfl, by simp [paused, Transition.table]⟩
  | complete started =>
    refine ⟨.complete, rfl, ?_⟩
    rcases started with active | paused
    · simp [active, Transition.table]
    · simp [paused, Transition.table]

end Moves

theorem Step.id_eq {usual : TimeOfDay} {id : Ident} {success : Option (Request × Moment)}
    {stored : Option Campaign} {d : Campaign} (h : Step usual id success stored (some d))
    (keyed : ∀ c, stored = some c → c.id = id) : d.id = id := by
  cases h with
  | created => rfl
  | moved same moves => rw [moves.id_eq, same]
  | kept other => exact keyed d rfl

end Campaign

def Store.Keyed (s : Store) : Prop :=
  ∀ id c, s.campaigns.get? id = some c → c.id = id

section Step

variable {l : Lifecycle} {s s' : LifecycleState}

@[simp] theorem LifecycleState.log_store (s : LifecycleState) (e : Event) :
    (s.log e).store = s.store := rfl

theorem LifecycleState.get?_putCampaign (s : LifecycleState) (c : Campaign) (id : Ident) :
    (s.putCampaign c).store.campaigns.get? id =
      if id = c.id then some c else s.store.campaigns.get? id :=
  Table.get?_insert _ _ _ _

/-- Storing a campaign that has moved is a step for every identifier. -/
theorem Campaign.Moves.step {usual : TimeOfDay} {now : Moment} {c d : Campaign} {r : Request}
    (h : c.Moves usual now r d) (stored : s.store.campaigns.get? c.id = some c) (id : Ident) :
    Step usual id (some (r, now)) (s.store.campaigns.get? id)
      ((s.putCampaign d).store.campaigns.get? id) := by
  rw [s.get?_putCampaign, h.id_eq]
  by_cases same : id = c.id
  · subst same
    rw [if_pos rfl, stored]
    exact .moved rfl h
  · rw [if_neg same]
    apply Step.kept
    rintro _ _ ⟨⟩ writes
    rw [h.writes?_eq] at writes
    exact same (Option.some.inj writes).symm

theorem Done.step {now : Moment} {r : Request} {a : Answer} (h : Done l now s r a s')
    (keyed : s.store.Keyed)
    (fresh : ∀ id q, r = .create id q → s.store.campaigns.get? id = none) (id : Ident) :
    Campaign.Step l.sendTime id (some (r, now)) (s.store.campaigns.get? id)
      (s'.store.campaigns.get? id) := by
  cases h with
  | @create k r g segment flow =>
    rw [s.get?_putCampaign, show (r.draft k now).id = k from rfl]
    by_cases same : id = k
    · subst same
      rw [if_pos rfl, fresh id r rfl]
      exact .created
    · rw [if_neg same]
      apply Campaign.Step.kept
      rintro _ _ ⟨⟩ writes
      exact same (Option.some.inj writes).symm
  | edit stored draft flow =>
    obtain rfl := keyed _ _ stored
    exact (Campaign.Moves.edit draft).step stored id
  | pause stored active =>
    obtain rfl := keyed _ _ stored
    exact (Campaign.Moves.pause active).step stored id
  | complete stored started =>
    obtain rfl := keyed _ _ stored
    exact (Campaign.Moves.complete started).step stored id
  | activate stored draft plan saved =>
    subst saved
    obtain rfl := keyed _ _ stored
    exact (Campaign.Moves.activate draft).step stored id
  | resume stored paused plan saved =>
    subst saved
    obtain rfl := keyed _ _ stored
    exact (Campaign.Moves.resume paused).step stored id
  | redispatch stored active plan =>
    apply Campaign.Step.kept
    rintro _ _ ⟨⟩ writes
    cases writes

theorem Turn.Effect.step {t : Turn} (h : t.Effect l s s') (keyed : s.store.Keyed)
    (fresh : t.Fresh s) (id : Ident) :
    Campaign.Step l.sendTime id (t.success? l s) (s.store.campaigns.get? id)
      (s'.store.campaigns.get? id) := by
  cases h with
  | done success done =>
    rw [success]
    apply done.step keyed _ id
    rintro k q rfl
    exact fresh
  | failed success =>
    rw [success]
    exact .kept (by simp)
  | restocked store => exact .kept (by simp [Turn.success?])

end Step

namespace Lifecycle

variable {l : Lifecycle} {h : History}

theorem get?_after_nil (id : Ident) : (l.after []).store.campaigns.get? id = none := rfl

theorem keyed_after (fresh : l.FreshIdents h) : (l.after h).store.Keyed := by
  induction h with
  | nil =>
    intro id c stored
    rw [get?_after_nil] at stored
    cases stored
  | cons t h ih =>
    intro id d stored
    have step := (t.effect l (l.after h)).step (ih fresh.2) fresh.1 id
    rw [← after_cons, stored] at step
    exact step.id_eq fun c before => ih fresh.2 id c before

/-- Every turn of a history is a step for every identifier. -/
theorem step_after {t : Turn} (fresh : l.FreshIdents (t :: h)) (id : Ident) :
    Campaign.Step l.sendTime id (t.success? l (l.after h))
      ((l.after h).store.campaigns.get? id) ((l.after (t :: h)).store.campaigns.get? id) :=
  (t.effect l (l.after h)).step (keyed_after fresh.2) fresh.1 id

end Lifecycle

end Outreach
