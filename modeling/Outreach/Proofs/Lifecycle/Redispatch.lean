import Outreach.Proofs.Lifecycle.AtMostOnce
import Outreach.Proofs.Lifecycle.Pass
import Outreach.Proofs.Lifecycle.Readiness

/-!
Dispatching again. Since its last pass a campaign that is still active has kept its messages
and the start of its schedule, and the ledger the keys that the pass has delivered for it. With
the same stock the same messages are therefore attempted again, and of these the failed ones
are called. Once nothing has failed, nothing is ever due again.
-/

namespace Outreach

/-- A started campaign keeps the start of its schedule until it is resumed. -/
theorem Campaign.Step.scheduleStart_kept {usual : TimeOfDay} {id : Ident}
    {success : Option (Request × Moment)} {c : Campaign} {stored' : Option Campaign}
    (h : Step usual id success (some c) stored') (started : c.status ≠ .draft)
    (unresumed : ∀ r now, success = some (r, now) → r ≠ .resume id) :
    ∃ d, stored' = some d ∧ d.scheduleStart = c.scheduleStart := by
  cases h with
  | kept other => exact ⟨c, rfl, rfl⟩
  | moved same moves =>
    cases moves with
    | edit draft => exact absurd draft started
    | activate draft => exact absurd draft started
    | pause active => exact ⟨_, rfl, rfl⟩
    | resume paused => exact absurd (by rw [same]) (unresumed _ _ rfl)
    | complete running => exact ⟨_, rfl, rfl⟩

theorem Campaign.Evolves.sameMessages {c d : Campaign} (h : c.Evolves d)
    (started : c.status ≠ .draft) : c.SameMessages d :=
  ⟨h.name_eq started, h.segment_eq, h.flow_eq started, h.blast_eq started⟩

theorem Campaign.SameMessages.trans {b c d : Campaign} (h : b.SameMessages c)
    (h' : c.SameMessages d) : b.SameMessages d :=
  ⟨h'.name.trans h.name, h'.segment.trans h.segment, h'.flow.trans h.flow,
    h'.blast.trans h.blast⟩

namespace Lifecycle

def Without (l : Lifecycle) (kind : Request → Prop) (h : History) : History → Prop
  | [] => True
  | t :: later =>
    (∀ r now, t.success? l (l.after (later ++ h)) = some (r, now) → ¬kind r) ∧
      l.Without kind h later

theorem Without.imp {l : Lifecycle} {h later : History} {kind kind' : Request → Prop}
    (without : l.Without kind h later) (sub : ∀ r, kind' r → kind r) :
    l.Without kind' h later := by
  induction later with
  | nil => trivial
  | cons t later ih =>
    refine ⟨?_, ih without.2⟩
    intro r now success other
    exact without.1 r now success (sub r other)

section Later

variable {l : Lifecycle} {h later : History} {id : Ident}

theorem freshIdents_of_append (fresh : l.FreshIdents (later ++ h)) : l.FreshIdents h := by
  induction later with
  | nil => exact fresh
  | cons t later ih => exact ih fresh.2

/-- What is delivered stays so. -/
theorem delivered_subset_after (l : Lifecycle) (h later : History) :
    (l.after h).ledger.delivered ⊆ (l.after (later ++ h)).ledger.delivered := by
  induction later with
  | nil => exact fun _ held => held
  | cons t later ih =>
    obtain ⟨ds, eq⟩ := (t.effect l (l.after (later ++ h))).ledger_eq_pass
    rw [List.cons_append, after_cons, eq]
    exact fun _ held => Ledger.delivered_subset_pass ds _ (ih held)

/-- Only a pass over its campaign delivers a key. -/
theorem delivered_of_passes {s s' : LifecycleState} {c : Campaign} {t : Turn} {k : DeliveryKey}
    (passes : t.Passes l s c s') (held : k ∈ s'.ledger.delivered) :
    k ∈ s.ledger.delivered ∨ k.campaign = c.id := by
  cases passes with
  | intro success stored made =>
    rw [made.ledger] at held
    rcases Ledger.mem_delivered_pass held with before | ⟨d, hd, rfl⟩
    · exact Or.inl before
    · exact Or.inr (mem_dispatches.mp hd).1

/-- Without a pass over a campaign the keys of its messages stay as they are. -/
theorem delivered_iff_of_without (fresh : l.FreshIdents (later ++ h))
    (without : l.Without (fun r => ∃ o : Occasion, r = o.request id) h later) {k : DeliveryKey}
    (own : k.campaign = id) :
    k ∈ (l.after (later ++ h)).ledger.delivered ↔ k ∈ (l.after h).ledger.delivered := by
  refine ⟨?_, fun held => delivered_subset_after l h later held⟩
  induction later with
  | nil => exact fun held => held
  | cons t later ih =>
    intro held
    -- No turn in between has added the key, for only a pass over its campaign could.
    apply ih fresh.2 without.2
    rw [List.cons_append] at held fresh
    rcases ledger_after_cons fresh with same | ⟨c, passes⟩
    · rwa [same] at held
    · rcases delivered_of_passes passes held with before | other
      · exact before
      · cases passes with
        | intro success stored made =>
          exact absurd ⟨_, by rw [← own, other]⟩ (without.1 _ _ success)

theorem stored_of_unresumed (fresh : l.FreshIdents (later ++ h)) {c : Campaign}
    (stored : (l.after h).store.campaigns.get? id = some c) (started : c.status ≠ .draft)
    (unresumed : l.Without (· = .resume id) h later) :
    ∃ d, (l.after (later ++ h)).store.campaigns.get? id = some d ∧ c.SameMessages d ∧
      d.scheduleStart = c.scheduleStart := by
  suffices ∃ d, (l.after (later ++ h)).store.campaigns.get? id = some d ∧ c.Evolves d ∧
      d.scheduleStart = c.scheduleStart by
    obtain ⟨d, last, evolves, kept⟩ := this
    exact ⟨d, last, evolves.sameMessages started, kept⟩
  induction later with
  | nil => exact ⟨c, stored, .refl c, rfl⟩
  | cons t later ih =>
    rw [List.cons_append] at fresh ⊢
    obtain ⟨d, between, first, kept⟩ := ih fresh.2 unresumed.2
    have step := step_after fresh id
    rw [between] at step
    obtain ⟨e, last, second⟩ := step.evolves
    obtain ⟨e', last', kept'⟩ := step.scheduleStart_kept (first.started started) unresumed.1
    obtain rfl := Option.some.inj (last.symm.trans last')
    exact ⟨e, last, first.trans second, kept'.trans kept⟩

end Later

section Redispatch

variable {l : Lifecycle} {s : LifecycleState} {id : Ident} {c : Campaign} {start now : Moment}
  {schedule : List ScheduledStep} {recipients : List Customer}

theorem redispatch_of_plan (inMemory : l.outages = Outages.none)
    (stored : s.store.campaigns.get? id = some c) (active : c.status = .active)
    (remembered : c.scheduleStart = some start)
    (plan : l.plan c start now s.store = .ok (schedule, recipients)) :
    l.redispatch id now s = .ok (l.deliver c.id .redispatch schedule recipients s).1
      (l.deliver c.id .redispatch schedule recipients s).2 := by
  have asked := ask_campaign inMemory stored
  have allowed : Operation.check (if c.status = .active then .ok () else
      .error (.invalidTransition c.status.name "redispatch")) s = .ok () s :=
    Operation.check_eq_ok.mpr ⟨if_pos active, rfl⟩
  have planned : Operation.ask (l.plan c (c.scheduleStart.getD (c.start l.sendTime)) now) s =
      .ok (schedule, recipients) s := by
    rw [remembered]
    exact Operation.ask_eq_ok.mpr ⟨plan, rfl⟩
  rw [redispatch, Operation.bind_of_ok asked, Operation.bind_of_ok allowed,
    Operation.bind_of_ok planned]
  rfl

/-- Dispatching again succeeds if there is a plan for the start that the campaign remembers. -/
theorem made_redispatch (inMemory : l.outages = Outages.none)
    (stored : s.store.campaigns.get? c.id = some c) (active : c.status = .active)
    (remembered : c.scheduleStart = some start)
    (plan : l.plan c start now s.store = .ok (schedule, recipients)) :
    ∃ r s', l.redispatch c.id now s = .ok r s' ∧ r.scheduled = schedule ∧
      l.Made s .redispatch now c start recipients r s' :=
  ⟨_, _, redispatch_of_plan inMemory stored active remembered plan, rfl, plan, rfl, rfl,
    ⟨rfl, rfl, rfl⟩, c, stored, active, remembered, ⟨rfl, rfl, rfl, rfl⟩⟩

end Redispatch

/-- A pass that calls what an earlier one has reported as failed, and nothing else. -/
structure Retries (id : Ident) (earlier : Report) (s : LifecycleState) (r : Report)
    (s' : LifecycleState) : Prop where
  calls : ∃ new, s'.ledger.calls = s.ledger.calls ++ new ∧
    new.map (·.dispatch.address) = earlier.failures.map (·.address) ∧
    (new.map (·.dispatch.key)).Nodup ∧
    ∀ x ∈ new, x.dispatch.campaign = id ∧ x.dispatch.step ∈ r.scheduled
  skipped : r.skipped = earlier.sent + earlier.skipped

/-- A pass that calls nothing. -/
structure Idle (s : LifecycleState) (r : Report) (s' : LifecycleState) : Prop where
  calls : s'.ledger.calls = s.ledger.calls
  sent : r.sent = 0
  failures : r.failures = []

/-- Since a pass over a campaign it has stayed active, and the stock is that of the pass. -/
structure Settled (l : Lifecycle) (id : Ident) (h : History) (pass : Turn) (later : History) :
    Prop where
  fresh : l.FreshIdents (later ++ pass :: h)
  stock : (l.after h).store.SameStock (l.after (later ++ pass :: h)).store
  active : ∃ c, (l.after (later ++ pass :: h)).store.campaigns.get? id = some c ∧
    c.status = .active
  unresumed : l.Without (· = .resume id) (pass :: h) later

/-- What the pass was planned from is still there. -/
theorem Settled.plan {l : Lifecycle} {h later : History} {pass : Turn} {s' : LifecycleState}
    {occasion : Occasion} {now start : Moment} {c : Campaign} {recipients : List Customer}
    {r : Report} (settled : l.Settled c.id h pass later)
    (made : l.Made (l.after h) occasion now c start recipients r s')
    (passed : l.after (pass :: h) = s') :
    let t := l.after (later ++ pass :: h)
    ∃ d, d.id = c.id ∧ t.store.campaigns.get? d.id = some d ∧ d.status = .active ∧
      d.scheduleStart = some start ∧
        l.plan d start now t.store = .ok (r.scheduled, recipients) := by
  intro t
  obtain ⟨d, stored, active⟩ := settled.active
  obtain ⟨e, kept, awake, remembered, messages⟩ := made.stored
  rw [← passed] at kept
  have started : e.status ≠ .draft := by simp [awake]
  obtain ⟨d', stored', messages', start'⟩ :=
    stored_of_unresumed settled.fresh kept started settled.unresumed
  obtain rfl := Option.some.inj (stored.symm.trans stored')
  have same : d.id = c.id := keyed_after settled.fresh _ _ stored
  have plan := l.plan_congr (messages.trans messages') settled.stock start now
  rw [made.plan] at plan
  exact ⟨d, same, by rwa [same], active, start'.trans remembered, plan⟩

section Again

variable {l : Lifecycle} {s s' t t' : LifecycleState} {occasion : Occasion} {now start : Moment}
  {c d : Campaign} {recipients : List Customer} {r r' : Report}
  (dedupe : l.dedupe = true) (distinct : (s.store.customers.values.map (·.id)).Nodup)
  (made : l.Made s occasion now c start recipients r s')
  (again : l.Made t .redispatch now d start recipients r' t') (same : d.id = c.id)
  (scheduled : r'.scheduled = r.scheduled) (stock : s.store.SameStock t.store)
include dedupe distinct made again same scheduled stock

/-- The same pass again retries the failures if it finds the ledger as the first has left it. -/
theorem Made.retries (held : ∀ k : DeliveryKey, k.campaign = c.id →
      (k ∈ t.ledger.delivered ↔ k ∈ s'.ledger.delivered)) :
    Retries c.id r t r' t' := by
  have distinct' : (t.store.customers.values.map (·.id)).Nodup := by rwa [stock.customers]
  have due : t.ledger.due (dispatches d.id r'.scheduled recipients) =
      s'.ledger.due (dispatches c.id r.scheduled recipients) := by
    rw [same, scheduled]
    apply Ledger.due_congr
    intro e he
    exact held e.key (mem_dispatches.mp he).1
  have called := again.map_dispatch_calls distinct' dedupe
  have failed := made.map_address_failures distinct dedupe
  have addresses : (l.calls d.id r'.scheduled recipients t).map (·.dispatch.address) =
      r.failures.map (·.address) := by
    rw [failed, ← due, ← called, List.map_map]
    rfl
  have keys : (l.calls d.id r'.scheduled recipients t).map (·.dispatch.key) =
      (t.ledger.due (dispatches d.id r'.scheduled recipients)).map Dispatch.key := by
    rw [← called, List.map_map]
    rfl
  constructor
  · refine ⟨_, again.calls_eq, addresses, ?_, ?_⟩
    · rw [keys]
      exact (again.nodup_keys distinct').sublist (List.filter_sublist.map _)
    · intro x hx
      obtain ⟨campaign, step, _⟩ := mem_dispatches.mp (mem_dispatches_of_mem_calls hx)
      exact ⟨campaign.trans same, step⟩
  · have length := congrArg List.length addresses
    rw [List.length_map, List.length_map] at length
    have first := made.sent_add_skipped_add_failures
    have second := again.called_add_skipped
    rw [length, same, scheduled] at second
    omega

/-- If all is delivered, the same pass again has nothing to do. -/
theorem Made.idle (complete : r.failures = [])
    (held : s'.ledger.delivered ⊆ t.ledger.delivered) : Idle t r' t' := by
  have distinct' : (t.store.customers.values.map (·.id)).Nodup := by rwa [stock.customers]
  have failed := made.map_address_failures distinct dedupe
  have settled : ∀ e ∈ dispatches c.id r.scheduled recipients, e.key ∈ s'.ledger.delivered := by
    rw [complete, List.map_nil, eq_comm, List.map_eq_nil_iff, Ledger.due,
      List.filter_eq_nil_iff] at failed
    simpa using failed
  have due : t.ledger.due (dispatches d.id r'.scheduled recipients) = [] := by
    rw [same, scheduled, Ledger.due, List.filter_eq_nil_iff]
    intro e he
    simpa using held (settled e he)
  have called := again.map_dispatch_calls distinct' dedupe
  rw [due, List.map_eq_nil_iff] at called
  have all := again.called_add_skipped
  have sum := again.sent_add_skipped_add_failures
  rw [called, List.length_nil] at all
  constructor
  · rw [again.calls_eq, called, List.append_nil]
  · omega
  · apply List.eq_nil_of_length_eq_zero
    omega

end Again

/-- While its stock stays the same, dispatching an active campaign again retries what the last
pass has reported as failed; and when a pass has reported none, it does nothing any more. -/
theorem retried_of_pass {l : Lifecycle} (dedupe : l.dedupe = true)
    (inMemory : l.outages = Outages.none) {h later : History} (stocked : ∀ t ∈ h, t.Stocked)
    {occasion : Occasion} {id : Ident} {now : Moment} {r : Report} {s' : LifecycleState}
    (made : l.pass id now occasion (l.after h) = .ok r s')
    (settled : l.Settled id h (.request (occasion.request id) now l.outages) later) :
    let passed : History := .request (occasion.request id) now l.outages :: h
    let t := l.after (later ++ passed)
    ∃ r' t', l.redispatch id now t = .ok r' t' ∧ r'.scheduled = r.scheduled ∧
      r'.recipients = r.recipients ∧
      (l.Without (fun q => ∃ o : Occasion, q = o.request id) passed later →
        Retries id r t r' t') ∧
      (r.failures = [] → Idle t r' t') := by
  intro passed t
  have fresh : l.FreshIdents passed := freshIdents_of_append settled.fresh
  have distinct := l.nodup_customers_after stocked
  have passed_eq : l.after passed = s' := after_pass made
  obtain ⟨c, start, recipients, _, rfl, first⟩ := made_of_pass fresh.2 made
  obtain ⟨d, same, stored, active, remembered, plan⟩ := settled.plan first passed_eq
  obtain ⟨r', t', done, scheduled, again⟩ :=
    made_redispatch inMemory stored active remembered plan
  rw [same] at done
  refine ⟨r', t', done, scheduled, ?_, ?_, ?_⟩
  · rw [again.recipients_eq, first.recipients_eq]
  · intro without
    apply first.retries dedupe distinct again same scheduled settled.stock
    intro k own
    rw [← passed_eq]
    exact delivered_iff_of_without settled.fresh without own
  · intro complete
    apply first.idle dedupe distinct again same scheduled settled.stock complete
    rw [← passed_eq]
    exact delivered_subset_after l passed later

/-- The stock is lost and found again after an activation with a failure. -/
theorem retried_of_pass_restocked :
    let l := Sample.lifecycle
    let now := Sample.moment 1
    let h : History := [.request (.create Sample.campaign Sample.draft) now Outages.none,
      .restock Sample.store]
    let passed : History := .request (.activate Sample.campaign) now Outages.none :: h
    let later : History := [.restock Sample.store,
      .request (.resume Sample.campaign) (Sample.moment 2) Outages.none, .restock Store.empty]
    let t := l.after (later ++ passed)
    ∃ r s' r' t', l.pass Sample.campaign now .activate (l.after h) = .ok r s' ∧
      r.failures.map (·.email) = ["b@example.com"] ∧
      l.redispatch Sample.campaign now t = .ok r' t' ∧ r'.scheduled = r.scheduled ∧
      r'.recipients = r.recipients ∧ Retries Sample.campaign r t r' t' := by
  intro l now h passed later t
  have success : (l.pass Sample.campaign now .activate).succeeds (l.after h) = true := by
    decide +kernel
  obtain ⟨r, s', made⟩ := Operation.succeeds_eq_true_iff.mp success
  have failed : (match l.pass Sample.campaign now .activate (l.after h) with
      | .ok r _ => r.failures.map (·.email)
      | .error _ _ => []) = ["b@example.com"] := by decide +kernel
  rw [made] at failed
  have stocked : ∀ t ∈ h, t.Stocked := by
    simp only [h, List.forall_mem_cons]
    exact ⟨trivial, Sample.stocked_store, List.forall_mem_nil _⟩
  have active : ((t.store.campaigns.get? Sample.campaign).map (·.status)) = some .active := by
    decide +kernel
  have refused : (Turn.request (.resume Sample.campaign) (Sample.moment 2) Outages.none).success? l
      (l.after (.restock Store.empty :: passed)) = none := by decide +kernel
  have without : l.Without (fun q => ∃ o : Occasion, q = o.request Sample.campaign) passed later :=
    ⟨by simp [Turn.success?], by simp [refused], by simp [Turn.success?], trivial⟩
  have unresumed : l.Without (· = .resume Sample.campaign) passed later :=
    without.imp fun _ resumes => ⟨.resume, resumes⟩
  have settled : l.Settled Sample.campaign h (.request (.activate Sample.campaign) now l.outages)
      later :=
    ⟨by decide +kernel, ⟨rfl, rfl, rfl⟩, Option.map_eq_some_iff.mp active, unresumed⟩
  obtain ⟨r', t', done, scheduled, recipients, retries, _⟩ :=
    retried_of_pass rfl rfl stocked made settled
  exact ⟨r, s', r', t', made, failed, done, scheduled, recipients, retries without⟩

end Lifecycle

end Outreach
