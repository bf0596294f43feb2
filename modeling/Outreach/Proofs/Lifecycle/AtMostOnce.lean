import Outreach.Proofs.Delivery.Pass
import Outreach.Proofs.Lifecycle.Failure

/-!
With deduplication a message is delivered at most once. The keys that a ledger holds are
those that its calls have delivered, in whatever pass, and no call has the key of an earlier
one that was delivered. A call keeps this, as it is only made for a key that is not held.
-/

namespace Outreach

def AtMostOnce (calls : List Call) : Prop :=
  calls.Pairwise fun a b => a.outcome = .delivered → b.dispatch.key ≠ a.dispatch.key

def deliveredKeys (calls : List Call) : List DeliveryKey :=
  (calls.filter fun c => c.outcome = .delivered).map fun c => c.dispatch.key

theorem mem_deliveredKeys {calls : List Call} {k : DeliveryKey} :
    k ∈ deliveredKeys calls ↔ ∃ c ∈ calls, c.outcome = .delivered ∧ c.dispatch.key = k := by
  simp [deliveredKeys, and_assoc]

theorem AtMostOnce.nodup_deliveredKeys {calls : List Call} (h : AtMostOnce calls) :
    (deliveredKeys calls).Nodup := by
  rw [deliveredKeys, List.Nodup, List.pairwise_map, List.pairwise_filter]
  apply List.Pairwise.imp _ h
  intro a b hab delivered _ same
  exact hab (of_decide_eq_true delivered) same.symm

namespace Ledger

structure Valid (l : Ledger) : Prop where
  mem_delivered : ∀ k, k ∈ l.delivered ↔ k ∈ deliveredKeys l.calls
  atMostOnce : AtMostOnce l.calls

theorem valid_empty : empty.Valid := ⟨fun _ => Iff.rfl, .nil⟩

theorem Valid.record {l : Ledger} (h : l.Valid) {c : Call} (new : c.dispatch.key ∉ l.delivered) :
    (l.record c).Valid := by
  constructor
  · intro k
    rw [mem_delivered_record, h.mem_delivered, record_calls, mem_deliveredKeys,
      mem_deliveredKeys]
    simp only [List.mem_append, List.mem_singleton, or_and_right, exists_or, exists_eq_left]
    exact or_comm
  · rw [record_calls, AtMostOnce, List.pairwise_append]
    refine ⟨h.atMostOnce, List.pairwise_singleton _ _, ?_⟩
    intro a ha b hb delivered same
    obtain rfl := List.mem_singleton.mp hb
    exact new ((h.mem_delivered _).mpr (mem_deliveredKeys.mpr ⟨a, ha, delivered, same.symm⟩))

theorem Valid.pass {sink : Sink} {l : Ledger} (h : l.Valid) (ds : List Dispatch) :
    (pass sink true ds l).2.Valid :=
  pass_preserves (fun _ _ ht new => ht.record fun held => new ⟨rfl, held⟩) ds l h

end Ledger

theorem Turn.Effect.ledger_eq_pass {l : Lifecycle} {s s' : LifecycleState} {t : Turn}
    (h : t.Effect l s s') : ∃ ds, s'.ledger = (Ledger.pass l.sink l.dedupe ds s.ledger).2 := by
  cases h with
  | done success done => exact done.ledger_eq_pass
  | failed success => exact ⟨[], rfl⟩
  | restocked store => exact ⟨[], rfl⟩

namespace Lifecycle

theorem valid_after {l : Lifecycle} (hd : l.dedupe = true) (h : History) :
    (l.after h).ledger.Valid := by
  induction h with
  | nil => exact Ledger.valid_empty
  | cons t h ih =>
    obtain ⟨ds, eq⟩ := (t.effect l (l.after h)).ledger_eq_pass
    rw [after_cons, eq, hd]
    exact ih.pass ds

/-- Over any history, with whatever answers, no message is handed out for a key that has been
delivered; so no key is delivered twice. -/
theorem atMostOnce_calls {l : Lifecycle} (hd : l.dedupe = true) (h : History) :
    AtMostOnce (l.after h).ledger.calls ∧ (deliveredKeys (l.after h).ledger.calls).Nodup :=
  have once := (valid_after hd h).atMostOnce
  ⟨once, once.nodup_deliveredKeys⟩

/-- The first customer is stored twice, and the second is written to again. -/
theorem atMostOnce_calls_repeated :
    let customers := Sample.store.customers.insert (.ofNat 7) (.new (.ofNat 2) "a@example.org")
    let h : History :=
      [.request (.redispatch Sample.campaign) (Sample.moment 2) Outages.none,
        .request (.activate Sample.campaign) (Sample.moment 1) Outages.none,
        .request (.create Sample.campaign Sample.draft) (Sample.moment 1) Outages.none,
        .restock { Sample.store with customers := customers }]
    let calls := (Sample.lifecycle.after h).ledger.calls
    Sample.lifecycle.dedupe = true ∧
      calls.map (·.outcome) = [.delivered, .failed "gateway timeout", .delivered] ∧
      AtMostOnce calls ∧ (deliveredKeys calls).Nodup := by
  intro customers h calls
  exact ⟨rfl, by decide +kernel, atMostOnce_calls rfl h⟩

end Lifecycle

end Outreach
