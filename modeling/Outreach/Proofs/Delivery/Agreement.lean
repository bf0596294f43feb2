import Outreach.Proofs.Delivery.Pass

/-!
Two passes compared. Only some keys are of concern: two ledgers agree if they hold the same keys
of concern and have made the same calls for them, whatever else they hold. If the answers to the
messages of concern depend on nothing but the message, two passes over the same messages treat
those of concern alike, and the ledgers still agree after them.
-/

namespace Outreach

def Sink.Memoryless (sink : Sink) : Prop :=
  ∀ calls calls' d, sink calls d = sink calls' d

/-- The messages of concern are answered alike, whatever was called before. -/
def Sink.Agree (concern : DeliveryKey → Bool) (sink sink' : Sink) : Prop :=
  ∀ calls calls' d, concern d.key = true → sink calls d = sink' calls' d

theorem Sink.Memoryless.agree {sink : Sink} (h : sink.Memoryless) (concern : DeliveryKey → Bool) :
    sink.Agree concern sink :=
  fun calls calls' d _ => h calls calls' d

namespace Ledger

/-- Two ledgers that differ only in keys that are not of concern. -/
structure Agree (concern : DeliveryKey → Bool) (l l' : Ledger) : Prop where
  delivered : ∀ k, concern k = true → (k ∈ l.delivered ↔ k ∈ l'.delivered)
  calls : (l.calls.filter fun c => concern c.dispatch.key) =
    l'.calls.filter fun c => concern c.dispatch.key

section Agree

variable {concern : DeliveryKey → Bool} {l l' l'' : Ledger}

theorem Agree.refl (concern : DeliveryKey → Bool) (l : Ledger) : l.Agree concern l :=
  ⟨fun _ _ => Iff.rfl, rfl⟩

theorem Agree.symm (h : l.Agree concern l') : l'.Agree concern l :=
  ⟨fun k hk => (h.delivered k hk).symm, h.calls.symm⟩

theorem Agree.trans (h : l.Agree concern l') (h' : l'.Agree concern l'') : l.Agree concern l'' :=
  ⟨fun k hk => (h.delivered k hk).trans (h'.delivered k hk), h.calls.trans h'.calls⟩

theorem Agree.record (h : l.Agree concern l') (c : Call) :
    (l.record c).Agree concern (l'.record c) := by
  constructor
  · intro k hk
    rw [mem_delivered_record, mem_delivered_record, h.delivered k hk]
  · rw [record_calls, record_calls, List.filter_append, List.filter_append, h.calls]

/-- A call that is not of concern changes nothing that is. -/
theorem agree_record {c : Call} (other : concern c.dispatch.key = false) (l : Ledger) :
    l.Agree concern (l.record c) := by
  constructor
  · intro k hk
    rw [mem_delivered_record, or_iff_right]
    rintro ⟨_, rfl⟩
    rw [other] at hk
    cases hk
  · rw [record_calls, List.filter_append, List.filter_cons_of_neg (by simp [other]),
      List.filter_nil, List.append_nil]

end Agree

variable {sink sink' : Sink} {dedupe : Bool} {concern : DeliveryKey → Bool} {l l' : Ledger}

/-- The first message of a pass is skipped or called, and then the rest has its turn. -/
theorem exists_pass_cons (sink : Sink) (dedupe : Bool) (d : Dispatch) (ds : List Dispatch)
    (l : Ledger) : ∃ outcome t, (t = l ∨ ∃ o, t = l.record ⟨d, o⟩) ∧
      pass sink dedupe (d :: ds) l =
        (⟨d, outcome⟩ :: (pass sink dedupe ds t).1, (pass sink dedupe ds t).2) := by
  by_cases held : dedupe = true ∧ d.key ∈ l.delivered
  · exact ⟨none, l, Or.inl rfl, pass_cons_of_delivered held⟩
  · exact ⟨_, _, Or.inr ⟨_, rfl⟩, pass_cons_of_not_delivered held⟩

/-- A pass without messages of concern changes nothing that is. -/
theorem agree_pass (sink : Sink) (dedupe : Bool) {ds : List Dispatch}
    (other : ∀ d ∈ ds, concern d.key = false) (l : Ledger) :
    l.Agree concern (pass sink dedupe ds l).2 := by
  induction ds generalizing l with
  | nil => exact .refl concern l
  | cons d ds ih =>
    obtain ⟨outcome, t, step, eq⟩ := exists_pass_cons sink dedupe d ds l
    have rest := ih (fun e he => other e (List.mem_cons_of_mem d he)) t
    rw [eq]
    rcases step with rfl | ⟨o, rfl⟩
    · exact rest
    · exact (agree_record (other d (List.mem_cons_self ..)) l).trans rest

/-- Two passes over the same messages treat those of concern alike. -/
theorem agree_pass_pass (answers : sink.Agree concern sink') (dedupe : Bool) (ds : List Dispatch)
    (h : l.Agree concern l') :
    ((pass sink dedupe ds l).1.filter fun a => concern a.dispatch.key) =
        ((pass sink' dedupe ds l').1.filter fun a => concern a.dispatch.key) ∧
      (pass sink dedupe ds l).2.Agree concern (pass sink' dedupe ds l').2 := by
  induction ds generalizing l l' with
  | nil => exact ⟨rfl, h⟩
  | cons d ds ih =>
    cases own : concern d.key with
    | false =>
      -- Whether it is skipped or called on either side, the ledgers agree behind it.
      obtain ⟨o, t, step, eq⟩ := exists_pass_cons sink dedupe d ds l
      obtain ⟨o', t', step', eq'⟩ := exists_pass_cons sink' dedupe d ds l'
      have left : l.Agree concern t := by
        rcases step with rfl | ⟨x, rfl⟩
        · exact .refl concern t
        · exact agree_record own l
      have right : l'.Agree concern t' := by
        rcases step' with rfl | ⟨x, rfl⟩
        · exact .refl concern t'
        · exact agree_record own l'
      rw [eq, eq', List.filter_cons_of_neg (by simp [own]), List.filter_cons_of_neg (by simp [own])]
      exact ih ((left.symm.trans h).trans right)
    | true =>
      by_cases held : dedupe = true ∧ d.key ∈ l.delivered
      · have held' : dedupe = true ∧ d.key ∈ l'.delivered :=
          ⟨held.1, (h.delivered _ own).mp held.2⟩
        obtain ⟨attempts, ledgers⟩ := ih h
        rw [pass_cons_of_delivered held, pass_cons_of_delivered held']
        exact ⟨by simpa [List.filter_cons, own] using attempts, ledgers⟩
      · have held' : ¬(dedupe = true ∧ d.key ∈ l'.delivered) :=
          fun k => held ⟨k.1, (h.delivered _ own).mpr k.2⟩
        have answer : sink l.calls d = sink' l'.calls d := answers _ _ d own
        obtain ⟨attempts, ledgers⟩ := ih (h.record ⟨d, sink l.calls d⟩)
        rw [pass_cons_of_not_delivered held, pass_cons_of_not_delivered held', ← answer]
        exact ⟨by simpa [List.filter_cons, own] using attempts, ledgers⟩

end Ledger

end Outreach
