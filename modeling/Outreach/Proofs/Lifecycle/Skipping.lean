import Outreach.Proofs.Lifecycle.AtMostOnce
import Outreach.Proofs.Lifecycle.Pass

/-!
What a skipped message stands for. A key names the order of a step and not what it sends, so a
message is skipped for the step that had the same order when an earlier pass delivered it. That
is the same step if the campaign had it then already; if the flow has changed in between, it
may be another one.
-/

namespace Outreach

/-- A call that a pass over a campaign has made, out of the steps that the campaign had then. -/
structure Handed (s s' : LifecycleState) (c : Campaign) (steps : List Step) (x : Call) : Prop where
  called : ∃ new, s'.ledger.calls = s.ledger.calls ++ new ∧ x ∈ new
  own : x.dispatch.campaign = c.id
  sends : c.Sends s.store steps
  sequenced : ∃ seq, Step.Sequenced steps seq
  mem : x.dispatch.step.step ∈ steps

/-- The calls of a pass come on top of those before it. -/
theorem Turn.Passes.handed {l : Lifecycle} {s s' : LifecycleState} {c : Campaign} {t : Turn}
    (h : t.Passes l s c s') {x : Call} (called : x ∈ s'.ledger.calls) :
    x ∈ s.ledger.calls ∨ ∃ steps, Handed s s' c steps x := by
  cases h with
  | intro success stored made =>
    have all := made.calls_eq
    rw [all, List.mem_append] at called
    rcases called with before | new
    · exact Or.inl before
    · obtain ⟨steps, sends, scheduled⟩ := made.planned
      obtain ⟨own, step, _⟩ := mem_dispatches.mp (Lifecycle.mem_dispatches_of_mem_calls new)
      obtain ⟨seq, sequence⟩ := ((Schedule.exists_ofSteps_iff _ _).mp ⟨_, scheduled⟩).1
      have mem := ((Schedule.planned_of_ofSteps scheduled).mem_iff _).mp step
      exact Or.inr ⟨steps, ⟨_, all, new⟩, own, sends,
        ⟨seq, Step.sequenced_of_sequence sequence⟩, mem.1⟩

namespace Lifecycle

def Origin (l : Lifecycle) (h : History) (x : Call) (steps : List Step) : Prop :=
  ∃ t earlier c, (t :: earlier) <:+ h ∧ t.Passes l (l.after earlier) c (l.after (t :: earlier)) ∧
    Handed (l.after earlier) (l.after (t :: earlier)) c steps x

theorem origin_of_mem_calls {l : Lifecycle} {h : History} (fresh : l.FreshIdents h) {x : Call}
    (called : x ∈ (l.after h).ledger.calls) : ∃ steps, l.Origin h x steps := by
  induction h with
  | nil => cases called
  | cons t h ih =>
    have before : x ∈ (l.after h).ledger.calls → ∃ steps, l.Origin (t :: h) x steps := by
      intro called
      obtain ⟨steps, t', earlier, c, part, passes, handed⟩ := ih fresh.2 called
      exact ⟨steps, t', earlier, c, part.trans (List.suffix_cons t h), passes, handed⟩
    rcases ledger_after_cons fresh with same | ⟨c, passes⟩
    · exact before (same ▸ called)
    · rcases passes.handed called with old | ⟨steps, handed⟩
      · exact before old
      · exact ⟨steps, t, h, c, List.suffix_refl _, passes, handed⟩

/-- Whatever a pass skips, an earlier pass over the campaign has delivered to the customer the
step that had the same order then; and this is the step that is skipped if the campaign had
that step already. -/
theorem origin_of_skipped {l : Lifecycle} (dedupe : l.dedupe = true) {h : History}
    (fresh : l.FreshIdents h) (stocked : ∀ t ∈ h, t.Stocked) {occasion : Occasion} {id : Ident}
    {now : Moment} {r : Report} {s' : LifecycleState}
    (made : l.pass id now occasion (l.after h) = .ok r s') :
    ∃ c start recipients, (l.after h).store.campaigns.get? id = some c ∧ c.id = id ∧
      l.Made (l.after h) occasion now c start recipients r s' ∧
      ∀ a ∈ (l.attempts id r.scheduled recipients (l.after h)).1, a.outcome = none →
        ∃ x ∈ (l.after h).ledger.calls, x.outcome = .delivered ∧
          x.dispatch.key = a.dispatch.key ∧ ∃ steps, l.Origin h x steps ∧
            (a.dispatch.step.step ∈ steps → x.dispatch.step.step = a.dispatch.step.step) := by
  obtain ⟨c, start, recipients, stored, rfl, made'⟩ := made_of_pass fresh made
  refine ⟨c, start, recipients, stored, rfl, made', ?_⟩
  intro a attempted skipped
  have distinct := l.nodup_customers_after stocked
  have held := made'.mem_delivered_of_skipped distinct dedupe attempted skipped
  rw [(valid_after dedupe h).mem_delivered, mem_deliveredKeys] at held
  obtain ⟨x, called, delivered, same⟩ := held
  obtain ⟨steps, origin⟩ := origin_of_mem_calls fresh called
  refine ⟨x, called, delivered, same, steps, origin, ?_⟩
  intro kept
  obtain ⟨_, _, _, _, _, handed⟩ := origin
  obtain ⟨seq, sequenced⟩ := handed.sequenced
  exact sequenced.eq_of_order_eq handed.mem kept (congrArg DeliveryKey.step same)

end Lifecycle

namespace Sample

theorem stocked_renewed : ∀ t ∈ renewed, t.Stocked := by
  simp only [renewed, started, List.forall_mem_cons]
  exact ⟨.steps stocked_store _ _, trivial, trivial, trivial, stocked_store,
    List.forall_mem_nil _⟩

end Sample

namespace Lifecycle

theorem origin_of_skipped_renewed :
    let l := Sample.lifecycle
    let h := Sample.renewed
    l.dedupe = true ∧ l.FreshIdents h ∧ (∀ t ∈ h, t.Stocked) ∧ ∃ c start recipients r s',
      l.pass Sample.campaign (Sample.moment 3) .resume (l.after h) = .ok r s' ∧
      l.Made (l.after h) .resume (Sample.moment 3) c start recipients r s' ∧ r.skipped = 1 ∧
      ∀ a ∈ (l.attempts Sample.campaign r.scheduled recipients (l.after h)).1, a.outcome = none →
        ∃ x ∈ (l.after h).ledger.calls, x.outcome = .delivered ∧
          x.dispatch.key = a.dispatch.key ∧ ∃ steps, l.Origin h x steps ∧
            (a.dispatch.step.step ∈ steps → x.dispatch.step.step = a.dispatch.step.step) := by
  intro l h
  have fresh : l.FreshIdents h := by decide +kernel
  have success : (l.pass Sample.campaign (Sample.moment 3) .resume).succeeds (l.after h) =
      true := by decide +kernel
  have skips : (match l.pass Sample.campaign (Sample.moment 3) .resume (l.after h) with
      | .ok r _ => r.skipped
      | .error _ _ => 0) = 1 := by decide +kernel
  obtain ⟨r, s', made⟩ := Operation.succeeds_eq_true_iff.mp success
  rw [made] at skips
  obtain ⟨c, start, recipients, _, _, made', origin⟩ :=
    origin_of_skipped rfl fresh Sample.stocked_renewed made
  exact ⟨rfl, fresh, Sample.stocked_renewed, c, start, recipients, r, s', made, made', skips,
    origin⟩

/-- Nobody was sent the new message, and yet it is skipped for the customer to whom the former
one was delivered. -/
theorem skipped_without_same_action :
    let l := Sample.lifecycle
    let h := Sample.renewed
    l.dedupe = true ∧ l.outages = Outages.none ∧ l.FreshIdents h ∧ (∀ t ∈ h, t.Stocked) ∧
    ∃ c start recipients r s',
      l.pass Sample.campaign (Sample.moment 3) .resume (l.after h) = .ok r s' ∧
      l.Made (l.after h) .resume (Sample.moment 3) c start recipients r s' ∧
      ∃ a ∈ (l.attempts c.id r.scheduled recipients (l.after h)).1, a.outcome = none ∧
        ∀ x ∈ (l.after h).ledger.calls,
          x.dispatch.step.step.action ≠ a.dispatch.step.step.action := by
  intro l h
  have fresh : l.FreshIdents h := by decide +kernel
  have success : (l.pass Sample.campaign (Sample.moment 3) .resume).succeeds (l.after h) =
      true := by decide +kernel
  have report : (match l.pass Sample.campaign (Sample.moment 3) .resume (l.after h) with
      | .ok r _ => (r.skipped, r.scheduled.map (·.step.action))
      | .error _ _ => (0, [])) = (1, [.email "Discount" ""]) := by decide +kernel
  have former : ∀ action ∈ (l.after h).ledger.calls.map (·.dispatch.step.step.action),
      action = .email "Welcome" "" := by decide +kernel
  obtain ⟨r, s', made⟩ := Operation.succeeds_eq_true_iff.mp success
  rw [made] at report
  obtain ⟨skips, scheduled⟩ := Prod.mk.inj report
  obtain ⟨c, start, recipients, _, _, made'⟩ := made_of_pass fresh made
  have some : 0 < (l.attempts c.id r.scheduled recipients (l.after h)).1.countP
      Attempt.isSkipped := by
    rw [← made'.skipped_eq, skips]
    exact Nat.one_pos
  obtain ⟨a, attempted, skipped⟩ := List.countP_pos_iff.mp some
  have new : a.dispatch.step.step.action = .email "Discount" "" := by
    have step := (mem_dispatches.mp (mem_dispatches_of_mem_attempts attempted)).2.1
    have action := List.mem_map_of_mem step (f := (·.step.action))
    rw [scheduled] at action
    exact List.mem_singleton.mp action
  refine ⟨rfl, rfl, fresh, Sample.stocked_renewed, c, start, recipients, r, s', made, made', a,
    attempted, Option.isNone_iff_eq_none.mp skipped, ?_⟩
  intro x called
  have old := former _ (List.mem_map_of_mem called)
  rw [old, new]
  decide

end Lifecycle

end Outreach
