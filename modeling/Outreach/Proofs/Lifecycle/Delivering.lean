import Outreach.Proofs.Lifecycle.Accounts

/-!
The account of one pass of deliveries, from whatever state and with whatever sink. The pairs are
visited step by step, and for each step recipient by recipient. A pair whose key has been delivered
is skipped, if that is asked for; every other pair is called. The report counts and lists what the
sink has answered, and the keys that it has delivered are delivered from then on.
-/

namespace Outreach

section Dispatches

variable {campaign : Ident} {schedule : List ScheduledStep} {recipients : List Customer}

theorem length_dispatches : (dispatches campaign schedule recipients).length =
    schedule.length * recipients.length := by
  simp [dispatches, List.length_flatMap]

/-- The pair of a step and a recipient comes after those of all steps before it. -/
theorem getElem?_dispatches {i j : Nat} {x : ScheduledStep} {c : Customer}
    (step : schedule[i]? = some x) (recipient : recipients[j]? = some c) :
    (dispatches campaign schedule recipients)[i * recipients.length + j]? =
      some ⟨campaign, x, c⟩ := by
  induction schedule generalizing i with
  | nil => simp at step
  | cons first rest ih =>
    have bound : j < recipients.length := (List.getElem?_eq_some_iff.mp recipient).1
    have parts : dispatches campaign (first :: rest) recipients =
        (recipients.map fun c => ⟨campaign, first, c⟩) ++ dispatches campaign rest recipients :=
      List.flatMap_cons
    cases i with
    | zero =>
      obtain rfl : first = x := by simpa using step
      rw [parts, List.getElem?_append_left (by simpa using bound)]
      simp [recipient]
    | succ i =>
      have place : (i + 1) * recipients.length + j =
          recipients.length + (i * recipients.length + j) := by
        rw [Nat.succ_mul]
        omega
      rw [parts, place, List.getElem?_append_right (by simp), ← ih (by simpa using step)]
      simp

end Dispatches

def Call.undelivered? (x : Call) : Option Undelivered :=
  match x.outcome with
  | .delivered => none
  | .failed reason =>
    some ⟨x.dispatch.customer.id, x.dispatch.customer.email, x.dispatch.step.step.order,
      x.dispatch.step.sendAt, reason⟩

/-- What a pass reports as failed are its calls that have failed, in their order. -/
theorem Attempt.filterMap_failure (attempts : List Attempt) :
    attempts.filterMap failure? = (attempts.filterMap call?).filterMap Call.undelivered? := by
  rw [List.filterMap_filterMap]
  apply List.filterMap_congr
  rintro ⟨d, outcome⟩ -
  match outcome with
  | none | some .delivered | some (.failed _) => rfl

namespace Lifecycle

/-- A pass of deliveries made from one state to another, with its report. -/
structure Delivers (l : Lifecycle) (campaign : Ident) (schedule : List ScheduledStep)
    (recipients : List Customer) (s : LifecycleState) (attempts : List Attempt) (r : Report)
    (s' : LifecycleState) : Prop where
  /-- There is one attempt for each step and recipient. -/
  length : attempts.length = schedule.length * recipients.length
  /-- The attempts are made step by step, and for each step recipient by recipient. -/
  dispatch : ∀ (i j : Nat) (x : ScheduledStep) (c : Customer), schedule[i]? = some x →
    recipients[j]? = some c →
    (attempts[i * recipients.length + j]?).map (·.dispatch) = some ⟨campaign, x, c⟩
  follows : ∀ (before : List Attempt) (a : Attempt) (after : List Attempt),
    attempts = before ++ a :: after → Attempt.Follows l.sink l.dedupe s.ledger before a
  calls : s'.ledger.calls = s.ledger.calls ++ attempts.filterMap Attempt.call?
  total : r.sent + r.skipped + r.failures.length = schedule.length * recipients.length
  sent : r.sent = (attempts.filterMap Attempt.call?).countP (·.outcome.isDelivered)
  failures : r.failures = (attempts.filterMap Attempt.call?).filterMap Call.undelivered?
  delivered : ∀ k, k ∈ s'.ledger.delivered ↔ k ∈ s.ledger.delivered ∨
    ∃ a ∈ attempts, a.outcome = some .delivered ∧ a.dispatch.key = k

/-- Every pass makes one attempt for each pair, calls the pairs that are not skipped, and reports
what has become of them. -/
theorem exists_delivers (l : Lifecycle) (campaign : Ident) (occasion : Occasion)
    (schedule : List ScheduledStep) (recipients : List Customer) (s : LifecycleState) :
    ∃ attempts, l.Delivers campaign schedule recipients s attempts
      (l.deliver campaign occasion schedule recipients s).1
      (l.deliver campaign occasion schedule recipients s).2 := by
  have visited := l.map_dispatch_attempts campaign schedule recipients s
  have length : (l.attempts campaign schedule recipients s).1.length =
      schedule.length * recipients.length :=
    (l.length_attempts campaign schedule recipients s).trans length_dispatches
  refine ⟨(l.attempts campaign schedule recipients s).1, ?_⟩
  exact {
    length := length
    dispatch := by
      intro i j x c step recipient
      rw [← List.getElem?_map, visited]
      exact getElem?_dispatches step recipient
    follows := fun before a after parts => Ledger.follows_of_pass parts
    calls := Ledger.pass_calls _ _
    total := by
      rw [← length]
      exact Attempt.sent_add_skipped_add_failed _
    sent := Attempt.countP_isSent _
    failures := Attempt.filterMap_failure _
    delivered := fun k => Ledger.mem_delivered_pass_iff }

end Lifecycle

end Outreach
