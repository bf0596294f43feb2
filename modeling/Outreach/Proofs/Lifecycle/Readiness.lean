import Outreach.Proofs.Flow.Schedule
import Outreach.Proofs.Lifecycle.History
import Outreach.Proofs.Lifecycle.Plan

/-!
When a campaign can be started or resumed. A campaign is ready if its segment is stored and
sound, its flow is stored and belongs to the segment, and its steps can be scheduled. One that
is not ready is refused for the first of these that is missing. Who the recipients are, and
whether there are any, does not matter.
-/

namespace Outreach

namespace Campaign

def blastSubject (c : Campaign) : String :=
  match c.blast with
  | some b => b.subject
  | none => c.name

/-- What a campaign needs in the store so that its schedule can start at a moment. -/
structure Ready (s : Store) (c : Campaign) (start : Moment) : Prop where
  segment : ∃ g, s.segments.get? c.segment = some g ∧ g.definition.check = .ok ()
  flow : ∀ id, c.flow = some id → ∃ f, s.flows.get? id = some f ∧ f.segment = c.segment
  steps : ∀ id f, c.flow = some id → s.flows.get? id = some f → f.steps ≠ [] →
    (∃ seq, Step.sequence f.steps = .ok seq) ∧
      InCalendar (start.date.day + Step.waited f.steps (Step.BeforeExit f.steps))
  subject : (c.flow = none ∨ ∃ id f, c.flow = some id ∧ s.flows.get? id = some f ∧ f.steps = []) →
    ∃ x ∈ c.blastSubject.toList, Text.isBlank x = false

/-- Why a campaign is refused; what comes before the reason is there. -/
inductive Refused (s : Store) (c : Campaign) (start : Moment) : Problem → Prop
  | segment (unknown : s.segments.get? c.segment = none) :
      Refused s c start (.notFound "Segment" c.segment.write)
  | flow {g : Segment} {id : Ident} (segment : s.segments.get? c.segment = some g)
      (named : c.flow = some id) (unknown : s.flows.get? id = none) :
      Refused s c start (.notFound "Flow" id.write)
  | mismatch {g : Segment} {id : Ident} {f : Flow} (segment : s.segments.get? c.segment = some g)
      (named : c.flow = some id) (stored : s.flows.get? id = some f)
      (foreign : f.segment ≠ c.segment) :
      Refused s c start (.segmentMismatch f.segment.write c.segment.write)
  | schedule {g : Segment} {steps : List Step} {fault : FlowFault}
      (segment : s.segments.get? c.segment = some g) (sends : c.Sends s steps)
      (unplanned : Schedule.ofSteps steps start = .error fault) :
      Refused s c start (.invalidFlow fault)
  | definition {g : Segment} {steps : List Step} {schedule : List ScheduledStep}
      {fault : DefinitionFault} (segment : s.segments.get? c.segment = some g)
      (sends : c.Sends s steps) (planned : Schedule.ofSteps steps start = .ok schedule)
      (unsound : g.definition.check = .error fault) :
      Refused s c start (.invalidDefinition fault)

end Campaign

/-- A single message is due at the start, so that only its subject matters. -/
theorem Schedule.exists_ofSteps_blastStep_iff (c : Campaign) (start : Moment) :
    (∃ schedule, ofSteps [Lifecycle.blastStep c] start = .ok schedule) ↔
      ∃ x ∈ c.blastSubject.toList, Text.isBlank x = false := by
  have email : ∃ body, Lifecycle.blastStep c = ⟨1, .email c.blastSubject body⟩ := by
    unfold Lifecycle.blastStep Campaign.blastSubject
    cases c.blast with
    | none => exact ⟨_, rfl⟩
    | some b => exact ⟨_, rfl⟩
  obtain ⟨body, email⟩ := email
  have check : (Action.email c.blastSubject body).check = .ok () ↔
      ∃ x ∈ c.blastSubject.toList, Text.isBlank x = false :=
    Action.check_eq_ok_iff
  rw [exists_ofSteps_iff, email, Step.exists_sequence_singleton_iff rfl, check]
  have still : Step.waited [⟨1, .email c.blastSubject body⟩]
      (Step.BeforeExit [⟨1, .email c.blastSubject body⟩]) = 0 := by
    rw [Step.waited_cons]
    simp [Step.days, Step.waited]
  rw [still, Int.add_zero]
  exact and_iff_left start.date.inCalendar

namespace Lifecycle

variable {l : Lifecycle} {s : Store} {c : Campaign} {start now : Moment}

theorem steps_of_sends (inMemory : l.outages = Outages.none) {steps : List Step}
    (h : c.Sends s steps) : l.steps c s = .ok steps := by
  unfold Lifecycle.steps
  cases h with
  | noFlow named =>
    simp only [named]
    rfl
  | @flow id f named stored owned steps =>
    simp only [named, flow_eq_ok.mpr ⟨congrArg Outages.flows inMemory, stored⟩]
    simp [owned, steps]
  | @emptyFlow id f named stored owned steps =>
    simp only [named, flow_eq_ok.mpr ⟨congrArg Outages.flows inMemory, stored⟩]
    simp [owned, steps]

theorem resolve_of_unknown (inMemory : l.outages = Outages.none) {id : Ident}
    (unknown : s.segments.get? id = none) :
    (l.directory s).resolve id = .error (.notFound "Segment" id.write) := by
  simp [Directory.resolve, directory, inMemory, Outages.none, reach, unknown]

theorem flow_of_unknown (inMemory : l.outages = Outages.none) {id : Ident}
    (unknown : s.flows.get? id = none) : l.flow id s = .error (.notFound "Flow" id.write) := by
  simp [flow, inMemory, Outages.none, reach, unknown]

theorem steps_of_unknown (inMemory : l.outages = Outages.none) {id : Ident}
    (named : c.flow = some id) (unknown : s.flows.get? id = none) :
    l.steps c s = .error (.notFound "Flow" id.write) := by
  simp only [Lifecycle.steps, named, flow_of_unknown inMemory unknown, Except.error_bind]

theorem steps_of_foreign (inMemory : l.outages = Outages.none) {id : Ident} {f : Flow}
    (named : c.flow = some id) (stored : s.flows.get? id = some f)
    (foreign : f.segment ≠ c.segment) :
    l.steps c s = .error (.segmentMismatch f.segment.write c.segment.write) := by
  have found := flow_eq_ok.mpr ⟨congrArg Outages.flows inMemory, stored⟩
  simp [Lifecycle.steps, named, found, foreign]

end Lifecycle

namespace Campaign

variable {s : Store} {c : Campaign} {start : Moment}

theorem Sends.eq_of_noFlow {steps : List Step} (sends : c.Sends s steps) (none : c.flow = none) :
    steps = [Lifecycle.blastStep c] := by
  cases sends with
  | noFlow _ => rfl
  | flow named | emptyFlow named => simp [none] at named

theorem Sends.of_named {steps : List Step} (sends : c.Sends s steps) {id : Ident}
    (named : c.flow = some id) : ∃ f, s.flows.get? id = some f ∧ f.segment = c.segment ∧
      (f.steps ≠ [] → steps = f.steps) ∧ (f.steps = [] → steps = [Lifecycle.blastStep c]) := by
  cases sends with
  | noFlow none => simp [none] at named
  | @flow id' f named' stored owned filled =>
    obtain rfl := Option.some.inj (named'.symm.trans named)
    exact ⟨f, stored, owned, fun _ => rfl, fun empty => absurd empty filled⟩
  | @emptyFlow id' f named' stored owned empty =>
    obtain rfl := Option.some.inj (named'.symm.trans named)
    exact ⟨f, stored, owned, fun filled => absurd empty filled, fun _ => rfl⟩

/-- A campaign is ready if all that a plan is made from is there. -/
theorem ready_iff :
    c.Ready s start ↔ ∃ g steps, s.segments.get? c.segment = some g ∧
      g.definition.check = .ok () ∧ c.Sends s steps ∧
      ∃ schedule, Schedule.ofSteps steps start = .ok schedule := by
  constructor
  · rintro ⟨⟨g, segment, sound⟩, owned, steps, subject⟩
    cases named : c.flow with
    | none =>
      exact ⟨g, _, segment, sound, .noFlow named,
        (Schedule.exists_ofSteps_blastStep_iff c start).mpr (subject (Or.inl named))⟩
    | some id =>
      obtain ⟨f, stored, own⟩ := owned id named
      by_cases empty : f.steps = []
      · exact ⟨g, _, segment, sound, .emptyFlow named stored own empty,
          (Schedule.exists_ofSteps_blastStep_iff c start).mpr
            (subject (Or.inr ⟨id, f, named, stored, empty⟩))⟩
      · exact ⟨g, _, segment, sound, .flow named stored own empty,
          (Schedule.exists_ofSteps_iff _ _).mpr (steps id f named stored empty)⟩
  · rintro ⟨g, steps, segment, sound, sends, planned⟩
    refine ⟨⟨g, segment, sound⟩, ?_, ?_, ?_⟩
    · intro id named
      obtain ⟨f, stored, owned, _⟩ := sends.of_named named
      exact ⟨f, stored, owned⟩
    · intro id f named stored filled
      obtain ⟨f', stored', _, same, _⟩ := sends.of_named named
      obtain rfl := Option.some.inj (stored.symm.trans stored')
      rw [same filled] at planned
      exact (Schedule.exists_ofSteps_iff _ _).mp planned
    · intro single
      have same : steps = [Lifecycle.blastStep c] := by
        rcases single with none | ⟨id, f, named, stored, empty⟩
        · exact sends.eq_of_noFlow none
        · obtain ⟨f', stored', _, _, same⟩ := sends.of_named named
          obtain rfl := Option.some.inj (stored.symm.trans stored')
          exact same empty
      rw [same] at planned
      exact (Schedule.exists_ofSteps_blastStep_iff c start).mp planned

/-- A campaign has steps to send unless its flow is missing or foreign. -/
theorem sends_or_refused {g : Segment} (segment : s.segments.get? c.segment = some g)
    (start : Moment) : (∃ steps, c.Sends s steps) ∨ ∃ p, c.Refused s start p := by
  cases named : c.flow with
  | none => exact Or.inl ⟨_, .noFlow named⟩
  | some id =>
    cases stored : s.flows.get? id with
    | none => exact Or.inr ⟨_, .flow segment named stored⟩
    | some f =>
      by_cases own : f.segment = c.segment
      · by_cases empty : f.steps = []
        · exact Or.inl ⟨_, .emptyFlow named stored own empty⟩
        · exact Or.inl ⟨_, .flow named stored own empty⟩
      · exact Or.inr ⟨_, .mismatch segment named stored own⟩

theorem ready_or_refused (s : Store) (c : Campaign) (start : Moment) :
    c.Ready s start ∨ ∃ p, c.Refused s start p := by
  cases segment : s.segments.get? c.segment with
  | none => exact Or.inr ⟨_, .segment segment⟩
  | some g =>
    rcases sends_or_refused segment start with ⟨steps, sends⟩ | refused
    · cases planned : Schedule.ofSteps steps start with
      | error fault => exact Or.inr ⟨_, .schedule segment sends planned⟩
      | ok schedule =>
        cases sound : g.definition.check with
        | error fault => exact Or.inr ⟨_, .definition segment sends planned sound⟩
        | ok u => exact Or.inl (ready_iff.mpr ⟨g, steps, segment, sound, sends, schedule, planned⟩)
    · exact Or.inr refused

end Campaign

namespace Lifecycle

section Plan

variable {l : Lifecycle} (inMemory : l.outages = Outages.none) {s : Store} {c : Campaign}
  {start now : Moment}
include inMemory

theorem resolve_of_stored {id : Ident} {g : Segment} (segment : s.segments.get? id = some g) :
    (l.directory s).resolve id = .ok g :=
  resolve_eq_ok.mpr ⟨congrArg Outages.segments inMemory, segment⟩

theorem customers_of_inMemory : (l.directory s).customers = .ok s.customers.values :=
  customers_eq_ok.mpr ⟨congrArg Outages.customers inMemory, rfl⟩

theorem plan_of_ready (h : c.Ready s start) (now : Moment) :
    ∃ x, l.plan c start now s = .ok x := by
  obtain ⟨g, steps, segment, sound, sends, schedule, planned⟩ := Campaign.ready_iff.mp h
  have matched : g.definition.allMatches s.customers.values now =
      .ok (s.audience g.definition now) := Definition.allMatches_eq_ok_iff.mpr ⟨sound, rfl⟩
  simp only [plan, resolve_of_stored inMemory segment, steps_of_sends inMemory sends,
    customers_of_inMemory inMemory, Except.mapError_eq_ok.mpr planned,
    Except.mapError_eq_ok.mpr matched, Except.ok_bind]
  exact ⟨_, rfl⟩

theorem plan_of_refused {p : Problem} (h : c.Refused s start p) :
    l.plan c start now s = .error p := by
  cases h with
  | segment unknown =>
    simp only [plan, resolve_of_unknown inMemory unknown, Except.error_bind]
  | flow segment named unknown =>
    simp only [plan, resolve_of_stored inMemory segment,
      steps_of_unknown inMemory named unknown, Except.ok_bind, Except.error_bind]
  | mismatch segment named stored foreign =>
    simp only [plan, resolve_of_stored inMemory segment,
      steps_of_foreign inMemory named stored foreign, Except.ok_bind, Except.error_bind]
  | schedule segment sends unplanned =>
    simp only [plan, resolve_of_stored inMemory segment, steps_of_sends inMemory sends,
      Except.mapError_eq_error unplanned, Except.ok_bind, Except.error_bind]
  | @definition g steps schedule fault segment sends planned unsound =>
    have unmatched : g.definition.allMatches s.customers.values now = .error fault := by
      rw [Definition.allMatches, unsound, Except.error_bind]
    simp only [plan, resolve_of_stored inMemory segment, steps_of_sends inMemory sends,
      customers_of_inMemory inMemory, Except.mapError_eq_ok.mpr planned,
      Except.mapError_eq_error unmatched, Except.ok_bind, Except.error_bind]

end Plan

/-- Whether a campaign is ready decides whether an operation makes its pass; if not, nothing
has changed. -/
structure Decided (x : Operation Report) (s : LifecycleState) (c : Campaign) (start : Moment) :
    Prop where
  succeeds_iff : x.succeeds s = true ↔ c.Ready s.store start
  error_iff : ∀ p s', x s = .error p s' ↔ c.Refused s.store start p ∧ s' = s

theorem Decided.congr {x y : Operation Report} {s : LifecycleState} {c : Campaign}
    {start : Moment} (h : Decided y s c start) (same : x s = y s) : Decided x s c start := by
  constructor
  · rw [Operation.succeeds, same]
    exact h.succeeds_iff
  · rw [same]
    exact h.error_iff

section Launch

variable {l : Lifecycle} (inMemory : l.outages = Outages.none) {s : LifecycleState}
  {e : CampaignEvent} {c : Campaign} {status : Status} (allowed : c.status.next? e = some status)
  (occasion : Occasion) {id : Ident} {start now : Moment}
include allowed

theorem launch_of_plan_error {p : Problem} (h : l.plan c start now s.store = .error p) :
    l.launch e occasion c start now s = .error p s := by
  rw [launch, Operation.bind_of_ok (Operation.check_eq_ok.mpr ⟨advance_eq_ok.mpr allowed, rfl⟩)]
  exact Operation.bind_of_error (Operation.ask_of_error h)

include inMemory

theorem launch_of_plan_ok {schedule : List ScheduledStep} {recipients : List Customer}
    (h : l.plan c start now s.store = .ok (schedule, recipients)) :
    ∃ r s', l.launch e occasion c start now s = .ok r s' := by
  rw [launch, Operation.bind_of_ok (Operation.check_eq_ok.mpr ⟨advance_eq_ok.mpr allowed, rfl⟩),
    Operation.bind_of_ok (Operation.ask_eq_ok.mpr ⟨h, rfl⟩)]
  have saved (d : Campaign) : l.save d s = .ok () (s.putCampaign d) :=
    save_eq_ok.mpr ⟨congrArg Outages.campaignWrites inMemory, rfl⟩
  exact ⟨_, _, Operation.bind_of_ok (saved _)⟩

theorem decided_launch : Decided (l.launch e occasion c start now) s c start := by
  have launched : c.Ready s.store start →
      ∃ r s', l.launch e occasion c start now s = .ok r s' := by
    intro ready
    obtain ⟨⟨schedule, recipients⟩, h⟩ := plan_of_ready inMemory ready now
    exact launch_of_plan_ok inMemory allowed occasion h
  have refused : ∀ p, c.Refused s.store start p →
      l.launch e occasion c start now s = .error p s :=
    fun p h => launch_of_plan_error allowed occasion (plan_of_refused inMemory h)
  constructor
  · rw [Operation.succeeds_eq_true_iff]
    refine ⟨?_, launched⟩
    rintro ⟨r, s', h⟩
    rcases c.ready_or_refused s.store start with ready | ⟨p, why⟩
    · exact ready
    · rw [refused p why] at h
      cases h
  · intro p s'
    constructor
    · intro h
      rcases c.ready_or_refused s.store start with ready | ⟨q, why⟩
      · obtain ⟨r, t, ok⟩ := launched ready
        rw [ok] at h
        cases h
      · rw [refused q why] at h
        cases h
        exact ⟨why, rfl⟩
    · rintro ⟨why, rfl⟩
      exact refused p why

end Launch

theorem ask_campaign {l : Lifecycle} (inMemory : l.outages = Outages.none) {s : LifecycleState}
    {id : Ident} {c : Campaign} (stored : s.store.campaigns.get? id = some c) :
    Operation.ask (l.campaign id) s = .ok c s :=
  Operation.ask_eq_ok.mpr
    ⟨campaign_eq_ok.mpr ⟨congrArg Outages.campaignReads inMemory, stored⟩, rfl⟩

/-- Over a store without outages, whether a draft can be activated or a paused campaign be
resumed depends on its readiness only. -/
theorem decided_of_stored {l : Lifecycle} (inMemory : l.outages = Outages.none)
    {s : LifecycleState} {id : Ident} {c : Campaign}
    (stored : s.store.campaigns.get? id = some c) (now : Moment) :
    (c.status = .draft → Decided (l.activate id now) s c (c.start l.sendTime)) ∧
    (c.status = .paused → Decided (l.resume id now) s c now) := by
  have asked := ask_campaign inMemory stored
  constructor
  · intro draft
    have allowed : c.status.next? .activate = some .active := by rw [draft]; rfl
    exact (decided_launch inMemory allowed .activate).congr (Operation.bind_of_ok asked)
  · intro paused
    have allowed : c.status.next? .resume = some .active := by rw [paused]; rfl
    exact (decided_launch inMemory allowed .resume).congr (Operation.bind_of_ok asked)

/-- There are no customers any more and the flow is empty: a draft is activated and a paused
campaign resumed with their names as the subject. -/
theorem decided_of_stored_without_customers :
    let l := Sample.lifecycle
    let store := (Store.empty.addSegment Sample.segment).addFlow { Sample.flow with steps := [] }
    let draft : Ident := .ofNat 7
    let s := l.after
      (.restock store :: .request (.create draft Sample.draft) (Sample.moment 3) Outages.none ::
        .request (.pause Sample.campaign) (Sample.moment 2) Outages.none :: Sample.started)
    let now := Sample.moment 4
    l.outages = Outages.none ∧ ∃ c d,
      s.store.campaigns.get? draft = some c ∧ c.status = .draft ∧
      Decided (l.activate draft now) s c (c.start l.sendTime) ∧
      s.store.campaigns.get? Sample.campaign = some d ∧ d.status = .paused ∧
      Decided (l.resume Sample.campaign now) s d now ∧
      (l.activate draft now).succeeds s = true ∧
      (l.resume Sample.campaign now).succeeds s = true := by
  intro l store draft s now
  have first : (s.store.campaigns.get? draft).map (·.status) = some .draft := by decide +kernel
  have second : (s.store.campaigns.get? Sample.campaign).map (·.status) = some .paused := by
    decide +kernel
  obtain ⟨c, stored, isDraft⟩ := Option.map_eq_some_iff.mp first
  obtain ⟨d, stored', isPaused⟩ := Option.map_eq_some_iff.mp second
  exact ⟨rfl, c, d, stored, isDraft, (decided_of_stored rfl stored now).1 isDraft, stored',
    isPaused, (decided_of_stored rfl stored' now).2 isPaused, by decide +kernel,
    by decide +kernel⟩

end Lifecycle

end Outreach
