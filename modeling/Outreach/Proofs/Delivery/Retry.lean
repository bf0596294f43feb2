import Outreach.Proofs.Delivery.Pass

/-!
Passes over messages with different keys. Such a pass calls exactly the messages whose keys
have not been delivered before it, and leaves exactly those that have failed; so the next pass
over the same messages calls the failed ones. The messages of a schedule and its recipients
have different keys if no order and no recipient occurs twice.
-/

namespace Outreach

def Dispatch.address (d : Dispatch) : Ident × String × UInt32 × Moment :=
  (d.customer.id, d.customer.email, d.step.step.order, d.step.sendAt)

def Undelivered.address (u : Undelivered) : Ident × String × UInt32 × Moment :=
  (u.customer, u.email, u.step, u.sendAt)

namespace Attempt

def isFailed (a : Attempt) : Bool :=
  match a.outcome with
  | some (.failed _) => true
  | _ => false

section Outcomes

variable (d : Dispatch) (o : Outcome) (reason : String)

@[simp] theorem isSkipped_none : isSkipped ⟨d, none⟩ = true := rfl

@[simp] theorem isSkipped_some : isSkipped ⟨d, some o⟩ = false := rfl

@[simp] theorem isSent_none : isSent ⟨d, none⟩ = false := rfl

@[simp] theorem isSent_delivered : isSent ⟨d, some .delivered⟩ = true := rfl

@[simp] theorem isSent_failed : isSent ⟨d, some (.failed reason)⟩ = false := rfl

@[simp] theorem isFailed_none : isFailed ⟨d, none⟩ = false := rfl

@[simp] theorem isFailed_delivered : isFailed ⟨d, some .delivered⟩ = false := rfl

@[simp] theorem isFailed_failed : isFailed ⟨d, some (.failed reason)⟩ = true := rfl

@[simp] theorem failure?_none : failure? ⟨d, none⟩ = none := rfl

@[simp] theorem failure?_delivered : failure? ⟨d, some .delivered⟩ = none := rfl

@[simp] theorem failure?_failed : failure? ⟨d, some (.failed reason)⟩ =
    some ⟨d.customer.id, d.customer.email, d.step.step.order, d.step.sendAt, reason⟩ := rfl

end Outcomes

/-- The failures of attempts tell of the messages that failed, in their order. -/
theorem map_address_failures (attempts : List Attempt) :
    (attempts.filterMap failure?).map (·.address) =
      ((attempts.filter isFailed).map (·.dispatch)).map (·.address) := by
  induction attempts with
  | nil => rfl
  | cons a rest ih =>
    obtain ⟨d, outcome⟩ := a
    match outcome with
    | none => simpa [List.filterMap_cons] using ih
    | some .delivered => simpa [List.filterMap_cons] using ih
    | some (.failed reason) =>
      simpa [List.filterMap_cons, List.filter_cons, Undelivered.address, Dispatch.address] using ih

/-- Every attempt was sent, skipped or has failed. -/
theorem sent_add_skipped_add_failed (attempts : List Attempt) :
    attempts.countP isSent + attempts.countP isSkipped + (attempts.filterMap failure?).length =
      attempts.length := by
  induction attempts with
  | nil => rfl
  | cons a rest ih =>
    obtain ⟨d, outcome⟩ := a
    match outcome with
    | none =>
      simp [List.countP_cons, List.filterMap_cons]
      omega
    | some .delivered =>
      simp [List.countP_cons, List.filterMap_cons]
      omega
    | some (.failed reason) =>
      simp
      omega

theorem called_add_skipped (attempts : List Attempt) :
    (attempts.filterMap call?).length + attempts.countP isSkipped = attempts.length := by
  induction attempts with
  | nil => rfl
  | cons a rest ih =>
    obtain ⟨d, outcome⟩ := a
    cases outcome with
    | none =>
      simp [List.countP_cons, List.filterMap_cons]
      omega
    | some o =>
      simp
      omega

end Attempt

namespace Ledger

def due (l : Ledger) (ds : List Dispatch) : List Dispatch :=
  ds.filter fun d => d.key ∉ l.delivered

variable {sink : Sink} {dedupe : Bool} {d : Dispatch} {ds : List Dispatch} {l : Ledger}

theorem due_cons_of_mem (h : d.key ∈ l.delivered) : l.due (d :: ds) = l.due ds := by
  simp [due, h]

theorem due_cons_of_not_mem (h : d.key ∉ l.delivered) : l.due (d :: ds) = d :: l.due ds := by
  simp [due, h]

theorem due_congr {l l' : Ledger}
    (h : ∀ d ∈ ds, d.key ∈ l.delivered ↔ d.key ∈ l'.delivered) : l.due ds = l'.due ds := by
  apply List.filter_congr
  intro d hd
  exact decide_eq_decide.mpr (not_congr (h d hd))

/-- What a pass delivers is among its messages. -/
theorem mem_delivered_pass {k : DeliveryKey} (h : k ∈ (pass sink dedupe ds l).2.delivered) :
    k ∈ l.delivered ∨ ∃ d ∈ ds, d.key = k := by
  rcases mem_delivered_pass_iff.mp h with before | ⟨a, ha, -, key⟩
  · exact Or.inl before
  · have among : a.dispatch ∈ ds := pass_dispatches ds l ▸ List.mem_map_of_mem ha
    exact Or.inr ⟨a.dispatch, among, key⟩

section Distinct

variable (distinct : (ds.map Dispatch.key).Nodup)
include distinct

/-- A pass calls the messages that are due. -/
theorem map_dispatch_calls_pass (sink : Sink) (l : Ledger) :
    ((pass sink true ds l).1.filterMap Attempt.call?).map (·.dispatch) = l.due ds := by
  induction ds generalizing l with
  | nil => rfl
  | cons d ds ih =>
    obtain ⟨new, distinct⟩ := List.nodup_cons.mp distinct
    by_cases held : d.key ∈ l.delivered
    · rw [pass_cons_of_delivered ⟨rfl, held⟩, due_cons_of_mem held]
      exact ih distinct l
    · rw [pass_cons_of_not_delivered (fun h => held h.2), due_cons_of_not_mem held]
      rw [List.filterMap_cons_some (Attempt.call?_some _ _), List.map_cons, ih distinct]
      congr 1
      apply due_congr
      intro e he
      rw [mem_delivered_record, or_iff_right]
      rintro ⟨_, same⟩
      exact new (same ▸ List.mem_map_of_mem he)

/-- What a pass skips was delivered before it. -/
theorem mem_delivered_of_skipped (l : Ledger) :
    ∀ a ∈ (pass sink true ds l).1, a.outcome = none → a.dispatch.key ∈ l.delivered := by
  induction ds generalizing l with
  | nil => exact fun a ha => absurd ha List.not_mem_nil
  | cons d ds ih =>
    obtain ⟨new, distinct⟩ := List.nodup_cons.mp distinct
    intro a ha skipped
    by_cases held : d.key ∈ l.delivered
    · rw [pass_cons_of_delivered ⟨rfl, held⟩] at ha
      rcases List.mem_cons.mp ha with rfl | ha
      · exact held
      · exact ih distinct l a ha skipped
    · rw [pass_cons_of_not_delivered (fun h => held h.2)] at ha
      rcases List.mem_cons.mp ha with rfl | ha
      · cases skipped
      · rcases mem_delivered_record.mp (ih distinct _ a ha skipped) with ⟨_, same⟩ | before
        · have later : a.dispatch ∈ ds := pass_dispatches ds _ ▸ List.mem_map_of_mem ha
          exact absurd (List.mem_map_of_mem later) (same ▸ new)
        · exact before

/-- The messages that are due after a pass are those that have failed in it. -/
theorem map_dispatch_failed_pass (sink : Sink) (l : Ledger) :
    ((pass sink true ds l).1.filter Attempt.isFailed).map (·.dispatch) =
      (pass sink true ds l).2.due ds := by
  induction ds generalizing l with
  | nil => rfl
  | cons d ds ih =>
    obtain ⟨new, distinct⟩ := List.nodup_cons.mp distinct
    by_cases held : d.key ∈ l.delivered
    · rw [pass_cons_of_delivered ⟨rfl, held⟩]
      rw [due_cons_of_mem (delivered_subset_pass ds l held), ← ih distinct l]
      simp
    · rw [pass_cons_of_not_delivered (fun h => held h.2)]
      cases outcome : sink l.calls d with
      | delivered =>
        have now : d.key ∈ (l.record ⟨d, .delivered⟩).delivered :=
          mem_delivered_record.mpr (Or.inl ⟨rfl, rfl⟩)
        rw [due_cons_of_mem (delivered_subset_pass ds _ now), ← ih distinct]
        simp
      | failed reason =>
        -- What comes later in the pass has other keys.
        have never : d.key ∉ (pass sink true ds (l.record ⟨d, .failed reason⟩)).2.delivered := by
          intro h
          rcases mem_delivered_pass h with before | ⟨e, he, same⟩
          · rcases mem_delivered_record.mp before with ⟨⟨⟩, _⟩ | before
            exact held before
          · exact new (same ▸ List.mem_map_of_mem he)
        rw [due_cons_of_not_mem never, ← ih distinct]
        simp [List.filter_cons]

end Distinct

end Ledger

theorem mem_dispatches {campaign : Ident} {schedule : List ScheduledStep}
    {recipients : List Customer} {d : Dispatch} :
    d ∈ dispatches campaign schedule recipients ↔
      d.campaign = campaign ∧ d.step ∈ schedule ∧ d.customer ∈ recipients := by
  obtain ⟨k, x, c⟩ := d
  simp only [dispatches, List.mem_flatMap, List.mem_map, Dispatch.mk.injEq]
  constructor
  · rintro ⟨y, hy, e, he, rfl, rfl, rfl⟩
    exact ⟨rfl, hy, he⟩
  · rintro ⟨rfl, hx, hc⟩
    exact ⟨x, hx, c, hc, rfl, rfl, rfl⟩

/-- Keys of a schedule and its recipients are as different as the orders and the recipients. -/
theorem nodup_keys_dispatches {schedule : List ScheduledStep} {recipients : List Customer}
    (ascending : schedule.Pairwise fun a b => a.step.order < b.step.order)
    (distinct : (recipients.map (·.id)).Nodup) (campaign : Ident) :
    ((dispatches campaign schedule recipients).map Dispatch.key).Nodup := by
  induction ascending with
  | nil => exact List.nodup_nil
  | @cons x rest first ascending ih =>
    have row :
        ((recipients.map fun c => (⟨campaign, x, c⟩ : Dispatch)).map Dispatch.key).Nodup := by
      rw [List.map_map]
      rw [List.Nodup, List.pairwise_map] at distinct ⊢
      apply distinct.imp
      intro a b ne same
      exact ne (congrArg DeliveryKey.customer same)
    change ((_ ++ dispatches campaign rest recipients).map Dispatch.key).Nodup
    rw [List.map_append, List.nodup_append]
    refine ⟨row, ih, ?_⟩
    rintro _ ha _ hb rfl
    obtain ⟨d, hd, rfl⟩ := List.mem_map.mp ha
    obtain ⟨c, _, rfl⟩ := List.mem_map.mp hd
    obtain ⟨e, he, same⟩ := List.mem_map.mp hb
    have later := first e.step (mem_dispatches.mp he).2.1
    exact absurd (congrArg DeliveryKey.step same).symm (UInt32.ne_of_lt later)

end Outreach
