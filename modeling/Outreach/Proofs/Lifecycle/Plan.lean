import Outreach.Proofs.Lifecycle.Request
import Outreach.Proofs.Segment.Matching

/-!
What a pass is planned from: the definition of the campaign's segment, the steps of its flow
or its single message, and the customers that the definition accepts, in the order in which
they are stored.
-/

namespace Outreach

/-- The steps that a campaign has to send. -/
inductive Campaign.Sends (s : Store) (c : Campaign) : List Step → Prop
  | flow {id : Ident} {f : Flow} (named : c.flow = some id) (stored : s.flows.get? id = some f)
      (owned : f.segment = c.segment) (steps : f.steps ≠ []) : Sends s c f.steps
  | emptyFlow {id : Ident} {f : Flow} (named : c.flow = some id)
      (stored : s.flows.get? id = some f) (owned : f.segment = c.segment) (steps : f.steps = []) :
      Sends s c [Lifecycle.blastStep c]
  | noFlow (named : c.flow = none) : Sends s c [Lifecycle.blastStep c]

def Store.audience (s : Store) (d : Definition) (now : Moment) : List Customer :=
  s.customers.values.filter fun c => d.accepts c now

namespace Lifecycle

variable {l : Lifecycle} {s : Store}

theorem resolve_eq_ok {id : Ident} {g : Segment} :
    (l.directory s).resolve id = .ok g ↔
      l.outages.segments = none ∧ s.segments.get? id = some g := by
  unfold directory Directory.resolve
  cases hr : l.outages.segments <;> cases hg : s.segments.get? id <;>
    simp [reach, hg]

theorem customers_eq_ok {customers : List Customer} :
    (l.directory s).customers = .ok customers ↔
      l.outages.customers = none ∧ s.customers.values = customers :=
  reach_eq_ok

theorem sends_of_steps {c : Campaign} {steps : List Step} (h : l.steps c s = .ok steps) :
    c.Sends s steps := by
  unfold Lifecycle.steps at h
  cases named : c.flow with
  | none =>
    simp only [named] at h
    cases h
    exact .noFlow named
  | some id =>
    simp only [named] at h
    obtain ⟨f, found, h⟩ := Except.bind_eq_ok.mp h
    have stored := (flow_eq_ok.mp found).2
    by_cases owned : f.segment = c.segment
    · by_cases empty : f.steps = []
      · simp [owned, empty] at h
        subst h
        exact .emptyFlow named stored owned empty
      · simp [owned, empty] at h
        subst h
        exact .flow named stored owned empty
    · simp [owned] at h

/-- Everything that a plan was made from. -/
theorem plan_eq_ok {c : Campaign} {start now : Moment} {schedule : List ScheduledStep}
    {recipients : List Customer} (h : l.plan c start now s = .ok (schedule, recipients)) :
    ∃ g steps, s.segments.get? c.segment = some g ∧ c.Sends s steps ∧
      Schedule.ofSteps steps start = .ok schedule ∧ recipients = s.audience g.definition now ∧
      (l.directory s).countById l.matching c.segment now = .ok recipients.length := by
  unfold plan at h
  simp only [Except.bind_eq_ok, Except.mapError_eq_ok, Definition.allMatches_eq_ok_iff] at h
  obtain ⟨g, resolved, steps, sent, planned, scheduled, customers, read, found, ⟨sound, rfl⟩, h⟩ :=
    h
  obtain ⟨rfl, rfl⟩ := Prod.mk.inj (Except.ok.inj h)
  obtain rfl := (customers_eq_ok.mp read).2
  refine ⟨g, steps, (resolve_eq_ok.mp resolved).2, sends_of_steps sent, scheduled, rfl, ?_⟩
  simp only [Directory.countById, Directory.lookup, Except.bind_eq_ok, Except.mapError_eq_ok]
  refine ⟨(g, s.customers.values), ⟨g, resolved, _, read, rfl⟩, ?_⟩
  rw [Definition.count_eq_ok sound, List.countP_eq_length_filter]

end Lifecycle

end Outreach
