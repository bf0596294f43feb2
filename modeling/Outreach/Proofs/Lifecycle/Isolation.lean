import Mathlib.Data.List.Forall2
import Outreach.Proofs.Delivery.Agreement
import Outreach.Proofs.Lifecycle.Simulation

/-!
One customer's messages and the others. Two sinks without a memory may answer the messages for
one customer differently. The same turns then succeed or fail alike with either of them and
leave the same store, and nothing that concerns another customer tells the two runs apart.
-/

namespace Outreach

/-- Two reports that differ at most in the failures of a customer, and in what is counted. -/
structure Report.SameBut (customer : Ident) (r r' : Report) : Prop where
  campaign : r'.campaign = r.campaign
  occasion : r'.occasion = r.occasion
  scheduled : r'.scheduled = r.scheduled
  recipients : r'.recipients = r.recipients
  failures : (r'.failures.filter fun u => u.customer ≠ customer) =
    r.failures.filter fun u => u.customer ≠ customer

def Event.failsOther (customer : Ident) (e : Event) : Bool :=
  e.kind = .deliveryFailed ∧ e.customer ≠ some customer

namespace LifecycleState

/-- Two states that differ at most in the keys, calls and failures of a customer, and in what is
counted. -/
structure SameBut (customer : Ident) (s t : LifecycleState) : Prop where
  store : t.store = s.store
  ledger : s.ledger.Agree (fun k => k.customer ≠ customer) t.ledger
  failures : t.events.filter (Event.failsOther customer) =
    s.events.filter (Event.failsOther customer)

section SameBut

variable {customer : Ident} {s t : LifecycleState}

theorem SameBut.refl (customer : Ident) (s : LifecycleState) : SameBut customer s s :=
  ⟨rfl, .refl _ _, rfl⟩

theorem SameBut.put (h : SameBut customer s t) (c : Campaign) :
    SameBut customer (s.putCampaign c) (t.putCampaign c) :=
  { h with store := congrArg (Store.putCampaign · c) h.store }

theorem SameBut.restock (h : SameBut customer s t) (store : Store) :
    SameBut customer { s with store := s.store.restocked store }
      { t with store := t.store.restocked store } :=
  { h with store := congrArg (Store.restocked · store) h.store }

/-- An event that is not a failure may be another one in either state. -/
theorem SameBut.log (h : SameBut customer s t) {e e' : Event} (kind : e.kind ≠ .deliveryFailed)
    (kind' : e'.kind ≠ .deliveryFailed) : SameBut customer (s.log e) (t.log e') := by
  have none (f : Event) (kind : f.kind ≠ .deliveryFailed) :
      [f].filter (Event.failsOther customer) = [] := by
    simp [Event.failsOther, kind]
  refine { h with failures := ?_ }
  change (t.events ++ [e']).filter _ = (s.events ++ [e]).filter _
  rw [List.filter_append, List.filter_append, none e kind, none e' kind', h.failures]

end SameBut

end LifecycleState

/-- The failures of other customers are those of the attempts for them. -/
theorem Attempt.filter_failures (customer : Ident) (attempts : List Attempt) :
    ((attempts.filterMap failure?).filter fun u => u.customer ≠ customer) =
      (attempts.filter fun a => a.dispatch.key.customer ≠ customer).filterMap failure? := by
  induction attempts with
  | nil => rfl
  | cons a rest ih =>
    obtain ⟨d, outcome⟩ := a
    match outcome with
    | none | some .delivered | some (.failed _) =>
      by_cases own : d.customer.id = customer
      · simpa [List.filterMap_cons, List.filter_cons, Dispatch.key, own] using ih
      · simpa [List.filterMap_cons, List.filter_cons, Dispatch.key, own] using ih

theorem Event.filter_ofFailure (customer campaign : Ident) (failures : List Undelivered) :
    (failures.map (Event.ofFailure campaign)).filter (Event.failsOther customer) =
      (failures.filter fun u => u.customer ≠ customer).map (Event.ofFailure campaign) := by
  rw [List.filter_map]
  congr 2
  funext u
  simp [Event.failsOther, Event.ofFailure]

namespace Turn

def answer? (l : Lifecycle) (s : LifecycleState) : Turn → Option (Except Problem Answer)
  | request r now outages => some (({ l with outages := outages }.perform now r).respond s).1
  | restock _ => none

/-- The state behind a request is that of its operation. -/
theorem state_request (l : Lifecycle) (s : LifecycleState) (r : Request) (now : Moment)
    (outages : Outages) : (request r now outages).state l s =
      (({ l with outages := outages }.perform now r).respond s).2 := by
  rw [state, Operation.respond]
  cases ({ l with outages := outages } : Lifecycle).perform now r s with
  | ok a t => rfl
  | error p t => rfl

end Turn

namespace Lifecycle

open LifecycleState

/-- The state after turns from a state on, the latest turn first. -/
def afterFrom (l : Lifecycle) (s : LifecycleState) : History → LifecycleState
  | [] => s
  | t :: h => t.state l (l.afterFrom s h)

def answersFrom (l : Lifecycle) (s : LifecycleState) :
    History → List (Option (Except Problem Answer))
  | [] => []
  | t :: h => t.answer? l (l.afterFrom s h) :: l.answersFrom s h

section Runs

variable {l : Lifecycle} {sink : Sink} {customer : Ident}
  (answers : l.sink.Agree (fun k => k.customer ≠ customer) sink) {s t : LifecycleState}
include answers

theorem sameBut_deliver (h : SameBut customer s t) (campaign : Ident) (occasion : Occasion)
    (schedule : List ScheduledStep) (recipients : List Customer) :
    (l.deliver campaign occasion schedule recipients s).1.SameBut customer
        ({ l with sink := sink }.deliver campaign occasion schedule recipients t).1 ∧
      SameBut customer (l.deliver campaign occasion schedule recipients s).2
        ({ l with sink := sink }.deliver campaign occasion schedule recipients t).2 := by
  obtain ⟨attempts, ledgers⟩ := Ledger.agree_pass_pass answers l.dedupe
    (dispatches campaign schedule recipients) h.ledger
  have failures : (({ l with sink := sink }.deliver campaign occasion schedule recipients
        t).1.failures.filter fun u => u.customer ≠ customer) =
      (l.deliver campaign occasion schedule recipients s).1.failures.filter
        fun u => u.customer ≠ customer := by
    rw [deliver_report, deliver_report]
    exact (Attempt.filter_failures _ _).trans
      ((congrArg _ attempts.symm).trans (Attempt.filter_failures _ _).symm)
  refine ⟨⟨rfl, rfl, rfl, rfl, failures⟩, h.store, ledgers, ?_⟩
  rw [events_deliver, events_deliver, List.filter_append, List.filter_append,
    Event.filter_ofFailure, Event.filter_ofFailure, h.failures, failures]

theorem simulates_sameBut :
    l.Simulates sink (fun _ => True) (SameBut customer) (Report.SameBut customer) where
  stock h := by
    rw [h.store]
    exact ⟨rfl, rfl, rfl⟩
  record _ h := by rw [h.store]
  keyed _ _ _ := trivial
  put c h := h.put c
  deliver occasion schedule recipients _ h :=
    sameBut_deliver answers h _ occasion schedule recipients
  log _ e h := h.log (EventKind.ofTransition_ne e) (EventKind.ofTransition_ne e)
  logPass e _ _ h := h.log (EventKind.ofTransition_ne e) (EventKind.ofTransition_ne e)

/-- A turn is answered alike from both states and leaves states that differ no more than before. -/
theorem sameBut_turn (h : SameBut customer s t) (turn : Turn) :
    Option.Rel (Alike (Answer.Alike (Report.SameBut customer))) (turn.answer? l s)
        (turn.answer? { l with sink := sink } t) ∧
      SameBut customer (turn.state l s) (turn.state { l with sink := sink } t) := by
  cases turn with
  | restock store => exact ⟨.none, h.restock store⟩
  | request r now outages =>
    have answers' : ({ l with outages := outages } : Lifecycle).sink.Agree
      (fun k => k.customer ≠ customer) sink := answers
    obtain ⟨alike, states⟩ :=
      (simulates_sameBut answers').relates_perform now (r := r) trivial s t h
    rw [Turn.state_request, Turn.state_request]
    exact ⟨.some alike, states⟩

theorem sameBut_afterFrom (s : LifecycleState) (h : History) :
    SameBut customer (l.afterFrom s h) (Lifecycle.afterFrom { l with sink := sink } s h) := by
  induction h with
  | nil => exact .refl customer s
  | cons turn h ih => exact (sameBut_turn answers ih turn).2

theorem alike_answersFrom (s : LifecycleState) (h : History) :
    List.Forall₂ (Option.Rel (Alike (Answer.Alike (Report.SameBut customer))))
      (l.answersFrom s h) (Lifecycle.answersFrom { l with sink := sink } s h) := by
  induction h with
  | nil => exact .nil
  | cons turn h ih =>
    have states := sameBut_afterFrom answers s h
    exact .cons (sameBut_turn answers states turn).1 ih

end Runs

/-- With sinks that differ for one customer only, the same turns from the same state on are
answered alike and do the same but for that customer. For the other customers the first sink has
no memory either; and as the stores stay equal all along, a change of stock is the same for
both. -/
theorem isolated_of_memoryless (l : Lifecycle) {sink : Sink} (memoryless : sink.Memoryless)
    {customer : Ident}
    (agree : ∀ calls d, d.customer.id ≠ customer → l.sink calls d = sink calls d)
    (s : LifecycleState) (h : History) :
    let k : Lifecycle := { l with sink := sink }
    SameBut customer (l.afterFrom s h) (k.afterFrom s h) ∧
      List.Forall₂ (Option.Rel (Alike (Answer.Alike (Report.SameBut customer))))
        (l.answersFrom s h) (k.answersFrom s h) := by
  intro k
  have answers : l.sink.Agree (fun key => key.customer ≠ customer) sink := by
    intro calls calls' d other
    have same := agree calls d (of_decide_eq_true other)
    exact same.trans (memoryless calls calls' d)
  exact ⟨sameBut_afterFrom answers s h, alike_answersFrom answers s h⟩

/-- The messages for a customer fail, and the second pass hands them out again; everybody else is
written to as without these failures. -/
theorem isolated_of_memoryless_failing :
    let customer : Ident := .ofNat 3
    let sink : Sink := fun _ d =>
      if d.customer.id = customer then .failed "mailbox full" else .delivered
    let l : Lifecycle := { Sample.lifecycle with sink := fun _ _ => .delivered }
    let k : Lifecycle := { l with sink := sink }
    let h : History :=
      .request (.redispatch Sample.campaign) (Sample.moment 2) Outages.none :: Sample.started
    SameBut customer (l.afterFrom .empty h) (k.afterFrom .empty h) ∧
      (l.afterFrom .empty h).ledger.calls.map (·.dispatch.customer.id) = [.ofNat 2, customer] ∧
      (k.afterFrom .empty h).ledger.calls.map (·.dispatch.customer.id) =
        [.ofNat 2, customer, customer] := by
  intro customer sink l k h
  have agree : ∀ calls d, d.customer.id ≠ customer → l.sink calls d = sink calls d := by
    intro calls d other
    exact (if_neg other).symm
  have isolated := isolated_of_memoryless l (fun _ _ _ => rfl) agree .empty h
  exact ⟨isolated.1, by decide +kernel, by decide +kernel⟩

end Lifecycle

end Outreach
