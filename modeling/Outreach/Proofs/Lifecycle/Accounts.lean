import Mathlib.Data.Finset.Card
import Mathlib.Data.Finset.Dedup
import Outreach.Proofs.Delivery.Recording
import Outreach.Proofs.Lifecycle.AtMostOnce
import Outreach.Proofs.Lifecycle.Invariant
import Outreach.Proofs.Lifecycle.Pass

/-!
The accounts of a campaign. A campaign is accounted for in four places: its totals, the calls
made for it, the events of its failures, and the keys that were delivered. A pass enters its
report into the totals and its failures into the events; what it adds there is what its calls
add up to. So the four agree after every history.
-/

namespace Outreach

namespace Outcome

def isDelivered : Outcome → Bool
  | delivered => true
  | failed _ => false

def isFailed : Outcome → Bool
  | delivered => false
  | failed _ => true

theorem isFailed_eq_not (o : Outcome) : o.isFailed = !o.isDelivered := by
  cases o <;> rfl

theorem isDelivered_iff {o : Outcome} : o.isDelivered = true ↔ o = delivered := by
  cases o <;> simp [isDelivered]

end Outcome

def callsFor (id : Ident) (calls : List Call) : List Call :=
  calls.filter fun c => c.dispatch.campaign = id

def Event.isFailureOf (id : Ident) (e : Event) : Bool :=
  e.kind = .deliveryFailed ∧ e.campaign = id

def Totals.ofCalls (calls : List Call) : Totals :=
  ⟨.ofNat calls.length, .ofNat (calls.countP (·.outcome.isDelivered)),
    .ofNat (calls.countP (·.outcome.isFailed))⟩

section Calls

theorem callsFor_append (id : Ident) (calls new : List Call) :
    callsFor id (calls ++ new) = callsFor id calls ++ callsFor id new :=
  List.filter_append ..

theorem callsFor_eq_self {id : Ident} {calls : List Call}
    (own : ∀ c ∈ calls, c.dispatch.campaign = id) : callsFor id calls = calls :=
  List.filter_eq_self.mpr fun c hc => decide_eq_true (own c hc)

theorem callsFor_eq_nil {id id' : Ident} {calls : List Call}
    (own : ∀ c ∈ calls, c.dispatch.campaign = id') (other : id ≠ id') : callsFor id calls = [] :=
  List.filter_eq_nil_iff.mpr fun c hc => by simpa [own c hc] using other.symm

theorem length_eq_delivered_add_failed (calls : List Call) :
    calls.length = calls.countP (·.outcome.isDelivered) + calls.countP (·.outcome.isFailed) := by
  rw [List.length_eq_countP_add_countP (p := fun c : Call => c.outcome.isDelivered)]
  congr 1
  apply List.countP_congr
  intro c _
  simp [Outcome.isFailed_eq_not]

/-- The keys of the calls that were delivered, counted by campaign. -/
theorem countP_deliveredKeys (id : Ident) (calls : List Call) :
    (deliveredKeys calls).countP (fun k => k.campaign = id) =
      (callsFor id calls).countP (·.outcome.isDelivered) := by
  rw [deliveredKeys, callsFor, List.countP_map, List.countP_filter, List.countP_filter]
  apply List.countP_congr
  intro c _
  simp [Outcome.isDelivered_iff, Dispatch.key, and_comm]

theorem countP_deliveries (id : Ident) (calls : List Call) :
    (deliveries calls).countP (fun d => d.campaign = id) =
      (callsFor id calls).countP (·.outcome.isDelivered) := by
  rw [deliveries, callsFor, List.countP_filterMap, List.countP_filter]
  apply List.countP_congr
  intro c _
  by_cases delivered : c.outcome = .delivered
  · simp [delivered, Outcome.isDelivered, Dispatch.delivery]
  · simp [delivered, Outcome.isDelivered_iff]

end Calls

namespace Attempt

/-- What was sent in a pass are its calls that were delivered. -/
theorem countP_isSent (attempts : List Attempt) :
    attempts.countP isSent = (attempts.filterMap call?).countP (·.outcome.isDelivered) := by
  induction attempts with
  | nil => rfl
  | cons a rest ih =>
    obtain ⟨d, outcome⟩ := a
    match outcome with
    | none => simpa [List.countP_cons, List.filterMap_cons] using ih
    | some .delivered => simpa [List.countP_cons, Outcome.isDelivered] using ih
    | some (.failed reason) => simpa [List.countP_cons, Outcome.isDelivered] using ih

/-- What a pass reports as failed are its calls that have failed. -/
theorem length_failures (attempts : List Attempt) :
    (attempts.filterMap failure?).length =
      (attempts.filterMap call?).countP (·.outcome.isFailed) := by
  have sum := sent_add_skipped_add_failed attempts
  have all := called_add_skipped attempts
  rw [countP_isSent] at sum
  rw [length_eq_delivered_add_failed] at all
  omega

end Attempt

theorem Totals.ofCalls_append {calls new : List Call} {r : Report}
    (sent : r.sent = new.countP (·.outcome.isDelivered))
    (failures : r.failures.length = new.countP (·.outcome.isFailed)) :
    ofCalls (calls ++ new) = (ofCalls calls).add r := by
  simp only [ofCalls, add, List.length_append, List.countP_append, sent, failures,
    length_eq_delivered_add_failed new, UInt64.ofNat_add]

namespace Lifecycle

section Deliver

variable {l : Lifecycle} {s : LifecycleState} {campaign : Ident} (id : Ident)
  (occasion : Occasion) (schedule : List ScheduledStep) (recipients : List Customer)

theorem totalsOf_deliver :
    (l.deliver campaign occasion schedule recipients s).2.totalsOf id =
      if id = campaign then
        (s.totalsOf campaign).add (l.deliver campaign occasion schedule recipients s).1
      else s.totalsOf id := by
  unfold LifecycleState.totalsOf deliver
  dsimp only
  rw [Table.get?_insert]
  split <;> rfl

theorem calls_deliver : (l.deliver campaign occasion schedule recipients s).2.ledger.calls =
    s.ledger.calls ++ l.calls campaign schedule recipients s :=
  Ledger.pass_calls _ _

theorem callsFor_deliver :
    callsFor id (l.deliver campaign occasion schedule recipients s).2.ledger.calls =
      if id = campaign then
        callsFor campaign s.ledger.calls ++ l.calls campaign schedule recipients s
      else callsFor id s.ledger.calls := by
  have own : ∀ c ∈ l.calls campaign schedule recipients s, c.dispatch.campaign = campaign :=
    fun c hc => (mem_dispatches.mp (mem_dispatches_of_mem_calls hc)).1
  rw [calls_deliver, callsFor_append]
  by_cases same : id = campaign
  · rw [if_pos same, same, callsFor_eq_self own]
  · rw [if_neg same, callsFor_eq_nil own same, List.append_nil]

theorem failures_deliver :
    (l.deliver campaign occasion schedule recipients s).2.events.countP (Event.isFailureOf id) =
      s.events.countP (Event.isFailureOf id) + if id = campaign then
        (l.deliver campaign occasion schedule recipients s).1.failures.length else 0 := by
  rw [events_deliver, List.countP_append, List.countP_map]
  congr 1
  by_cases same : id = campaign
  · rw [if_pos same, List.countP_eq_length]
    intro u _
    simp [Event.isFailureOf, Event.ofFailure, same]
  · rw [if_neg same, List.countP_eq_zero]
    intro u _
    simp [Event.isFailureOf, Event.ofFailure, Ne.symm same]

end Deliver

end Lifecycle

namespace LifecycleState

/-- The totals of a campaign and the events of its failures are what its calls add up to. -/
structure Balanced (id : Ident) (s : LifecycleState) : Prop where
  totals : s.totalsOf id = Totals.ofCalls (callsFor id s.ledger.calls)
  failures : s.events.countP (Event.isFailureOf id) =
    (callsFor id s.ledger.calls).countP (·.outcome.isFailed)

theorem balanced_empty (id : Ident) : Balanced id empty := ⟨rfl, rfl⟩

theorem Balanced.deliver {l : Lifecycle} {id campaign : Ident} {s : LifecycleState}
    (h : Balanced id s) (occasion : Occasion) (schedule : List ScheduledStep)
    (recipients : List Customer) :
    Balanced id (l.deliver campaign occasion schedule recipients s).2 := by
  have sent : (l.deliver campaign occasion schedule recipients s).1.sent =
      (l.calls campaign schedule recipients s).countP (·.outcome.isDelivered) :=
    Attempt.countP_isSent _
  have failed : (l.deliver campaign occasion schedule recipients s).1.failures.length =
      (l.calls campaign schedule recipients s).countP (·.outcome.isFailed) :=
    Attempt.length_failures _
  constructor
  · rw [Lifecycle.totalsOf_deliver, Lifecycle.callsFor_deliver]
    by_cases same : id = campaign
    · subst same
      rw [if_pos rfl, if_pos rfl, h.totals, Totals.ofCalls_append sent failed]
    · rw [if_neg same, if_neg same, h.totals]
  · rw [Lifecycle.failures_deliver, Lifecycle.callsFor_deliver, h.failures]
    by_cases same : id = campaign
    · subst same
      rw [if_pos rfl, if_pos rfl, List.countP_append, failed]
    · rw [if_neg same, if_neg same, Nat.add_zero]

theorem Balanced.log {id : Ident} {s : LifecycleState} (h : Balanced id s) {e : Event}
    (other : e.kind ≠ .deliveryFailed) : Balanced id (s.log e) := by
  refine ⟨h.totals, ?_⟩
  have no : ¬Event.isFailureOf id e = true := by simp [Event.isFailureOf, other]
  change (s.events ++ [e]).countP _ = _
  rw [List.countP_append, List.countP_cons_of_neg no]
  exact h.failures

end LifecycleState

namespace Lifecycle

variable {l : Lifecycle} {h : History} {id : Ident}

theorem balanced_after (l : Lifecycle) (h : History) (id : Ident) :
    (l.after h).Balanced id := by
  apply maintained_after (l := l) (P := LifecycleState.Balanced id)
  · exact ⟨fun _ balanced => ⟨balanced.totals, balanced.failures⟩,
      fun occasion schedule recipients _ balanced =>
        balanced.deliver occasion schedule recipients,
      fun _ other balanced => balanced.log other⟩
  · exact LifecycleState.balanced_empty id
  · exact fun s store balanced => ⟨balanced.totals, balanced.failures⟩

theorem answered_after (l : Lifecycle) (h : History) :
    AnsweredFrom l.sink [] (l.after h).ledger.calls := by
  induction h with
  | nil => trivial
  | cons t h ih =>
    obtain ⟨ds, eq⟩ := (t.effect l (l.after h)).ledger_eq_pass
    rw [after_cons, eq]
    exact Ledger.answered_pass ih ds

/-- With deduplication every call that is delivered brings a new key. -/
theorem card_delivered_after (dedupe : l.dedupe = true) (h : History) (id : Ident) :
    ((l.after h).ledger.delivered.toFinset.filter fun k => k.campaign = id).card =
      (callsFor id (l.after h).ledger.calls).countP (·.outcome.isDelivered) := by
  have valid := valid_after dedupe h
  have keys : (l.after h).ledger.delivered.toFinset.filter (fun k => k.campaign = id) =
      ((deliveredKeys (l.after h).ledger.calls).filter fun k => k.campaign = id).toFinset := by
    ext k
    simp [valid.mem_delivered]
  rw [keys, List.toFinset_card_of_nodup (valid.atMostOnce.nodup_deliveredKeys.filter _),
    ← List.countP_eq_length_filter]
  exact countP_deliveredKeys id _

/-- A campaign whose totals, calls, events and keys agree. -/
structure Accounted (l : Lifecycle) (s : LifecycleState) (id : Ident) : Prop where
  sent : (s.totalsOf id).sent.toNat = (callsFor id s.ledger.calls).length
  delivered : (s.totalsOf id).delivered.toNat =
    (callsFor id s.ledger.calls).countP (·.outcome.isDelivered)
  failed : (s.totalsOf id).failed.toNat = (callsFor id s.ledger.calls).countP (·.outcome.isFailed)
  failures : (s.totalsOf id).failed.toNat = s.events.countP (Event.isFailureOf id)
  keys : l.dedupe = true → (s.totalsOf id).delivered.toNat =
    (s.ledger.delivered.toFinset.filter fun k => k.campaign = id).card
  recorded : ∀ arranged, l.sink = Recorder.sinkOver arranged → (s.totalsOf id).delivered.toNat =
    (Recorder.recorded arranged s.ledger.calls).countP fun d => d.campaign = id

/-- After every history, with whatever answers, the accounts of a campaign agree, as long as its
totals fit their words. -/
theorem accounted_after (l : Lifecycle) (h : History) (id : Ident)
    (fits : (callsFor id (l.after h).ledger.calls).length < UInt64.size) :
    l.Accounted (l.after h) id := by
  obtain ⟨totals, failures⟩ := balanced_after l h id
  have sum := length_eq_delivered_add_failed (callsFor id (l.after h).ledger.calls)
  have delivered : ((l.after h).totalsOf id).delivered.toNat =
      (callsFor id (l.after h).ledger.calls).countP (·.outcome.isDelivered) := by
    rw [totals]
    exact UInt64.toNat_ofNat_of_lt (by omega)
  have failed : ((l.after h).totalsOf id).failed.toNat =
      (callsFor id (l.after h).ledger.calls).countP (·.outcome.isFailed) := by
    rw [totals]
    exact UInt64.toNat_ofNat_of_lt (by omega)
  constructor
  · rw [totals]
    exact UInt64.toNat_ofNat_of_lt fits
  · exact delivered
  · exact failed
  · rw [failed, failures]
  · intro dedupe
    rw [delivered, card_delivered_after dedupe]
  · intro arranged recorder
    have answered := answered_after l h
    rw [recorder] at answered
    rw [Recorder.recorded_eq_deliveries answered, delivered, countP_deliveries]

/-- A recorder fails for one customer at first; the second pass reaches that customer as well. -/
theorem accounted_after_retried :
    let arranged : List Call → Recorder := fun calls =>
      if calls.length < 2 then Recorder.empty.failFor (.ofNat 3) "mailbox full" else .empty
    let l : Lifecycle := { Sample.lifecycle with sink := Recorder.sinkOver arranged }
    let s := l.after (.request (.redispatch Sample.campaign) (Sample.moment 2) Outages.none ::
      Sample.started)
    (callsFor Sample.campaign s.ledger.calls).length < UInt64.size ∧
      s.totalsOf Sample.campaign = ⟨3, 2, 1⟩ ∧ l.Accounted s Sample.campaign ∧
      (Recorder.recorded arranged s.ledger.calls).countP (fun d => d.campaign = Sample.campaign) =
        2 := by
  intro arranged l s
  have fits : (callsFor Sample.campaign s.ledger.calls).length < UInt64.size := by decide +kernel
  have totals : s.totalsOf Sample.campaign = ⟨3, 2, 1⟩ := by decide +kernel
  have accounted : l.Accounted s Sample.campaign := accounted_after l _ _ fits
  have recorded := accounted.recorded arranged rfl
  rw [totals] at recorded
  exact ⟨fits, totals, accounted, recorded.symm⟩

end Lifecycle

end Outreach
