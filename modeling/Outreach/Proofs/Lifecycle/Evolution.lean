import Outreach.Proofs.Lifecycle.Record

/-!
The record of a campaign over whole histories. While it is a draft it has neither been
activated nor has a schedule start, and from the first activation on it has both. What it
says of itself is frozen then, and its status only moves along the table of transitions.
-/

namespace Outreach

namespace Campaign

/-- The times of a campaign fit its status. -/
structure Timed (c : Campaign) : Prop where
  draft_iff : c.status = .draft ↔ c.activatedAt = none
  start_iff : c.activatedAt = none ↔ c.scheduleStart = none

theorem Timed.start_of_active {c : Campaign} (h : c.Timed) (active : c.status = .active) :
    ∃ start, c.scheduleStart = some start := by
  apply Option.ne_none_iff_exists'.mp
  rw [Ne, ← h.start_iff, ← h.draft_iff, active]
  decide

/-- A campaign and its later self. -/
structure Evolves (c d : Campaign) : Prop where
  id_eq : d.id = c.id
  segment_eq : d.segment = c.segment
  createdAt_eq : d.createdAt = c.createdAt
  started : c.status ≠ .draft → d.status ≠ .draft
  completed : c.status = .completed → d.status = .completed
  name_eq : c.status ≠ .draft → d.name = c.name
  description_eq : c.status ≠ .draft → d.description = c.description
  flow_eq : c.status ≠ .draft → d.flow = c.flow
  startDate_eq : c.status ≠ .draft → d.startDate = c.startDate
  startTime_eq : c.status ≠ .draft → d.startTime = c.startTime
  blast_eq : c.status ≠ .draft → d.blast = c.blast
  activatedAt_eq : c.status ≠ .draft → d.activatedAt = c.activatedAt

theorem Evolves.refl (c : Campaign) : c.Evolves c := by
  constructor <;> simp

theorem Evolves.trans {b c d : Campaign} (h : b.Evolves c) (h' : c.Evolves d) : b.Evolves d where
  id_eq := h'.id_eq.trans h.id_eq
  segment_eq := h'.segment_eq.trans h.segment_eq
  createdAt_eq := h'.createdAt_eq.trans h.createdAt_eq
  started hb := h'.started (h.started hb)
  completed hb := h'.completed (h.completed hb)
  name_eq hb := (h'.name_eq (h.started hb)).trans (h.name_eq hb)
  description_eq hb := (h'.description_eq (h.started hb)).trans (h.description_eq hb)
  flow_eq hb := (h'.flow_eq (h.started hb)).trans (h.flow_eq hb)
  startDate_eq hb := (h'.startDate_eq (h.started hb)).trans (h.startDate_eq hb)
  startTime_eq hb := (h'.startTime_eq (h.started hb)).trans (h.startTime_eq hb)
  blast_eq hb := (h'.blast_eq (h.started hb)).trans (h.blast_eq hb)
  activatedAt_eq hb := (h'.activatedAt_eq (h.started hb)).trans (h.activatedAt_eq hb)

theorem timed_draft (r : NewCampaign) (id : Ident) (now : Moment) : (r.draft id now).Timed := by
  constructor <;> simp [NewCampaign.draft]

section Moves

variable {usual : TimeOfDay} {now : Moment} {c d : Campaign} {r : Request}

theorem Moves.timed (h : c.Moves usual now r d) (timed : c.Timed) : d.Timed := by
  obtain ⟨draft_iff, start_iff⟩ := timed
  cases h with
  | edit draft => exact ⟨draft_iff, start_iff⟩
  | activate draft => constructor <;> simp
  | pause active =>
    have activated : c.activatedAt ≠ none := by simp [← draft_iff, active]
    exact ⟨by simp [activated], start_iff⟩
  | resume paused =>
    have activated : c.activatedAt ≠ none := by simp [← draft_iff, paused]
    constructor <;> simp [activated]
  | complete started =>
    have activated : c.activatedAt ≠ none := by
      rw [Ne, ← draft_iff]
      rcases started with active | paused
      · simp [active]
      · simp [paused]
    exact ⟨by simp [activated], start_iff⟩

/-- Only a draft is edited or activated; the other requests change the status, the schedule
start and the time of the last change. -/
theorem Moves.evolves (h : c.Moves usual now r d) : c.Evolves d := by
  cases h with
  | edit draft => constructor <;> simp [change, draft]
  | activate draft => constructor <;> simp [draft]
  | pause active => constructor <;> simp [active]
  | resume paused => constructor <;> simp [paused]
  | complete started => constructor <;> simp

end Moves

section Step

variable {usual : TimeOfDay} {id : Ident} {success : Option (Request × Moment)}
  {stored stored' : Option Campaign}

theorem Step.timed (h : Step usual id success stored stored')
    (timed : ∀ c, stored = some c → c.Timed) : ∀ d, stored' = some d → d.Timed := by
  rintro d rfl
  cases h with
  | created => exact timed_draft _ _ _
  | moved same moves => exact moves.timed (timed _ rfl)
  | kept other => exact timed d rfl

theorem Step.evolves {c : Campaign} (h : Step usual id success (some c) stored') :
    ∃ d, stored' = some d ∧ c.Evolves d := by
  cases h with
  | moved same moves => exact ⟨_, rfl, moves.evolves⟩
  | kept other => exact ⟨c, rfl, .refl c⟩

/-- A record stays unless an event happens to it that the table allows. -/
theorem Step.mem_table {c : Campaign} (h : Step usual id success (some c) stored') :
    ∃ d, stored' = some d ∧ (d = c ∨ ∃ r now e, success = some (r, now) ∧
      r.event? = some (id, e) ∧ ⟨c.status, e, d.status⟩ ∈ Transition.table) := by
  cases h with
  | moved same moves =>
    subst same
    obtain ⟨e, event, row⟩ := moves.mem_table
    exact ⟨_, rfl, Or.inr ⟨_, _, e, rfl, event, row⟩⟩
  | kept other => exact ⟨c, rfl, Or.inl rfl⟩

end Step

end Campaign

def Request.activates? (id : Ident) (x : Request × Moment) : Option Moment :=
  if x.1.event? = some (id, .activate) then some x.2 else none

theorem Campaign.Step.activatedAt {usual : TimeOfDay} {id : Ident}
    {success : Option (Request × Moment)} {stored stored' : Option Campaign}
    (h : Step usual id success stored stored') (timed : ∀ c, stored = some c → c.Timed) :
    stored'.bind (·.activatedAt) =
      (stored.bind (·.activatedAt)).or (success.bind (Request.activates? id)) := by
  cases h with
  | created => rfl
  | @moved c d r now same moves =>
    subst same
    cases moves with
    | activate draft =>
      have unset := (timed c rfl).draft_iff.mp draft
      simp [unset, Request.activates?, Request.event?]
    | edit draft => simp [change, Request.activates?, Request.event?]
    | pause active => simp [Request.activates?, Request.event?]
    | resume paused => simp [Request.activates?, Request.event?]
    | complete started => simp [Request.activates?, Request.event?]
  | kept other =>
    cases success with
    | none => simp
    | some x => simp [Request.activates?, Request.event?_ne (other x.1 x.2 rfl)]

namespace Lifecycle

def activation? (l : Lifecycle) (id : Ident) : History → Option Moment
  | [] => none
  | t :: h =>
    (l.activation? id h).or ((t.success? l (l.after h)).bind (Request.activates? id))

variable {l : Lifecycle} {h : History} {id : Ident}

theorem timed_after (fresh : l.FreshIdents h) {c : Campaign}
    (stored : (l.after h).store.campaigns.get? id = some c) : c.Timed := by
  induction h generalizing c with
  | nil =>
    rw [get?_after_nil] at stored
    cases stored
  | cons t h ih => exact (step_after fresh id).timed (fun c => ih fresh.2) c stored

theorem activatedAt_after (fresh : l.FreshIdents h) (id : Ident) :
    ((l.after h).store.campaigns.get? id).bind (·.activatedAt) = l.activation? id h := by
  induction h with
  | nil => rfl
  | cons t h ih =>
    have step := (step_after fresh id).activatedAt fun c => timed_after fresh.2
    rw [step, ih fresh.2, activation?]

theorem evolves_after {later : History} (fresh : l.FreshIdents (later ++ h)) {c : Campaign}
    (stored : (l.after h).store.campaigns.get? id = some c) :
    ∃ d, (l.after (later ++ h)).store.campaigns.get? id = some d ∧ c.Evolves d := by
  induction later with
  | nil => exact ⟨c, stored, .refl c⟩
  | cons t later ih =>
    rw [List.cons_append] at fresh ⊢
    obtain ⟨d, between, first⟩ := ih fresh.2
    have step := step_after fresh id
    rw [between] at step
    obtain ⟨e, last, second⟩ := step.evolves
    exact ⟨e, last, first.trans second⟩

/-- The record of a campaign after a history, with what can become of it. -/
structure Recorded (l : Lifecycle) (h : History) (id : Ident) (c : Campaign) : Prop where
  id_eq : c.id = id
  draft_iff : c.status = .draft ↔ c.activatedAt = none
  start_iff : c.activatedAt = none ↔ c.scheduleStart = none
  activatedAt_eq : c.activatedAt = l.activation? id h
  /-- Dispatching again therefore never has to make up a start. -/
  start_of_active : c.status = .active → ∃ start, c.scheduleStart = some start
  /-- In one turn the status stays, with the whole record, or moves along the table. -/
  mem_table : ∀ t, t.Fresh (l.after h) → ∃ d,
    (l.after (t :: h)).store.campaigns.get? id = some d ∧ (d = c ∨ ∃ r now e,
      t.success? l (l.after h) = some (r, now) ∧ r.event? = some (id, e) ∧
        ⟨c.status, e, d.status⟩ ∈ Transition.table)
  evolves : ∀ later, l.FreshIdents (later ++ h) → ∃ d,
    (l.after (later ++ h)).store.campaigns.get? id = some d ∧ c.Evolves d

/-- Over any history, what is stored under an identifier is the record of its campaign. -/
theorem recorded_of_stored (fresh : l.FreshIdents h) {c : Campaign}
    (stored : (l.after h).store.campaigns.get? id = some c) : l.Recorded h id c := by
  have timed := timed_after fresh stored
  constructor
  · exact keyed_after fresh id c stored
  · exact timed.draft_iff
  · exact timed.start_iff
  · have activated := activatedAt_after fresh id
    rwa [stored] at activated
  · exact timed.start_of_active
  · intro t freshTurn
    have step := step_after (h := h) (t := t) ⟨freshTurn, fresh⟩ id
    rw [stored] at step
    exact step.mem_table
  · intro later freshLater
    exact evolves_after freshLater stored

theorem recorded_of_stored_started :
    Sample.lifecycle.FreshIdents Sample.started ∧ ∃ c,
      (Sample.lifecycle.after Sample.started).store.campaigns.get? Sample.campaign = some c ∧
        Sample.lifecycle.Recorded Sample.started Sample.campaign c := by
  have fresh : Sample.lifecycle.FreshIdents Sample.started := by decide +kernel
  have stored : ((Sample.lifecycle.after Sample.started).store.campaigns.get?
      Sample.campaign).isSome = true := by decide +kernel
  obtain ⟨c, stored⟩ := Option.isSome_iff_exists.mp stored
  exact ⟨fresh, c, stored, recorded_of_stored fresh stored⟩

end Lifecycle

end Outreach
