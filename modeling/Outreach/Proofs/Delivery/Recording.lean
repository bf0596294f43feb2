import Outreach.Delivery.Recorder
import Outreach.Proofs.Delivery.Pass

/-!
What a recorder takes down. It answers a message by the failures that are arranged by then, and
takes down each message that it delivers. Every call of a ledger was answered by its sink, given
the calls before it; so what a recorder has taken down are the deliveries of the calls.
-/

namespace Outreach

/-- Calls that follow others, each answered by a sink that knows those before it. -/
def AnsweredFrom (sink : Sink) : List Call → List Call → Prop
  | _, [] => True
  | before, c :: rest =>
    c.outcome = sink before c.dispatch ∧ AnsweredFrom sink (before ++ [c]) rest

theorem AnsweredFrom.concat {sink : Sink} {before calls : List Call} {c : Call}
    (h : AnsweredFrom sink before calls) (answer : c.outcome = sink (before ++ calls) c.dispatch) :
    AnsweredFrom sink before (calls ++ [c]) := by
  induction calls generalizing before with
  | nil => exact ⟨by rwa [List.append_nil] at answer, trivial⟩
  | cons first rest ih =>
    refine ⟨h.1, ih h.2 ?_⟩
    rwa [List.append_assoc, List.singleton_append]

/-- A sink answers every call of a pass. -/
theorem Ledger.answered_pass {sink : Sink} {dedupe : Bool} {l : Ledger}
    (h : AnsweredFrom sink [] l.calls) (ds : List Dispatch) :
    AnsweredFrom sink [] (pass sink dedupe ds l).2.calls := by
  apply pass_preserves (P := fun l => AnsweredFrom sink [] l.calls) _ ds l h
  intro l d answered _
  exact answered.concat rfl

namespace Recorder

def dispatch (r : Recorder) (kept : List Delivery) (d : Dispatch) : Outcome × List Delivery :=
  match r.failing.get? d.customer.id with
  | some reason => (.failed reason, kept)
  | none => (.delivered, kept ++ [d.delivery])

/-- The sink of a recorder whose failures may be arranged anew before each call. -/
def sinkOver (arranged : List Call → Recorder) : Sink :=
  fun calls d => (arranged calls).sink calls d

theorem dispatch_answer (r : Recorder) (kept : List Delivery) (calls : List Call) (d : Dispatch) :
    (r.dispatch kept d).1 = r.sink calls d := by
  unfold dispatch sink
  cases r.failing.get? d.customer.id <;> rfl

theorem dispatch_kept (r : Recorder) (kept : List Delivery) (d : Dispatch) :
    (r.dispatch kept d).2 = kept ++ deliveries [⟨d, (r.dispatch kept d).1⟩] := by
  unfold dispatch
  cases r.failing.get? d.customer.id <;> simp [deliveries]

def recordedFrom (arranged : List Call → Recorder) :
    List Call → List Delivery → List Call → List Delivery
  | _, kept, [] => kept
  | before, kept, c :: rest =>
    recordedFrom arranged (before ++ [c]) ((arranged before).dispatch kept c.dispatch).2 rest

def recorded (arranged : List Call → Recorder) (calls : List Call) : List Delivery :=
  recordedFrom arranged [] [] calls

theorem recordedFrom_eq {arranged : List Call → Recorder} {before calls : List Call}
    (answered : AnsweredFrom (sinkOver arranged) before calls) (kept : List Delivery) :
    recordedFrom arranged before kept calls = kept ++ deliveries calls := by
  induction calls generalizing before kept with
  | nil => exact (List.append_nil kept).symm
  | cons c rest ih =>
    obtain ⟨answer, answered⟩ := answered
    have same : (⟨c.dispatch, ((arranged before).dispatch kept c.dispatch).1⟩ : Call) = c := by
      rw [dispatch_answer _ kept before]
      exact congrArg (Call.mk c.dispatch) answer.symm
    rw [recordedFrom, ih answered, dispatch_kept, same, List.append_assoc]
    congr 1
    exact (@List.filterMap_append _ _ [c] rest _).symm

theorem recorded_eq_deliveries {arranged : List Call → Recorder} {calls : List Call}
    (answered : AnsweredFrom (sinkOver arranged) [] calls) :
    recorded arranged calls = deliveries calls :=
  recordedFrom_eq answered []

end Recorder

end Outreach
