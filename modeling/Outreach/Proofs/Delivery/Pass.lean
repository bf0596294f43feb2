import Outreach.Delivery.Recorder

/-!
What a pass does. It attempts its messages in their order, each once, and the calls of the
attempts follow those made before. With deduplication exactly the messages are skipped whose
key has been delivered by then, be it in the same pass.
-/

namespace Outreach

def Attempt.call? (a : Attempt) : Option Call :=
  a.outcome.map fun o => ⟨a.dispatch, o⟩

@[simp] theorem Attempt.call?_none (d : Dispatch) : Attempt.call? ⟨d, none⟩ = none := rfl

@[simp] theorem Attempt.call?_some (d : Dispatch) (o : Outcome) :
    Attempt.call? ⟨d, some o⟩ = some ⟨d, o⟩ := rfl

namespace Ledger

@[simp] theorem record_calls (l : Ledger) (c : Call) : (l.record c).calls = l.calls ++ [c] := rfl

theorem mem_delivered_record {l : Ledger} {c : Call} {k : DeliveryKey} :
    k ∈ (l.record c).delivered ↔
      c.outcome = .delivered ∧ c.dispatch.key = k ∨ k ∈ l.delivered := by
  unfold record
  cases c.outcome with
  | delivered => simp [eq_comm]
  | failed reason => simp

variable {sink : Sink} {dedupe : Bool} {d : Dispatch} {ds : List Dispatch} {l : Ledger}

theorem pass_cons_of_delivered (h : dedupe = true ∧ d.key ∈ l.delivered) :
    pass sink dedupe (d :: ds) l =
      (⟨d, none⟩ :: (pass sink dedupe ds l).1, (pass sink dedupe ds l).2) := by
  simp [pass, h]

theorem pass_cons_of_not_delivered (h : ¬(dedupe = true ∧ d.key ∈ l.delivered)) :
    pass sink dedupe (d :: ds) l =
      (⟨d, some (sink l.calls d)⟩ :: (pass sink dedupe ds (l.record ⟨d, sink l.calls d⟩)).1,
        (pass sink dedupe ds (l.record ⟨d, sink l.calls d⟩)).2) := by
  simp [pass, h]

/-- What every call of a pass preserves holds after it. -/
theorem pass_preserves {P : Ledger → Prop}
    (step : ∀ (l : Ledger) (d : Dispatch), P l → ¬(dedupe = true ∧ d.key ∈ l.delivered) →
      P (l.record ⟨d, sink l.calls d⟩))
    (ds : List Dispatch) (l : Ledger) (h : P l) : P (pass sink dedupe ds l).2 := by
  induction ds generalizing l with
  | nil => exact h
  | cons d ds ih =>
    by_cases hd : dedupe = true ∧ d.key ∈ l.delivered
    · rw [pass_cons_of_delivered hd]
      exact ih l h
    · rw [pass_cons_of_not_delivered hd]
      exact ih _ (step l d h hd)

/-- What is delivered stays so. -/
theorem delivered_subset_pass (ds : List Dispatch) (l : Ledger) :
    l.delivered ⊆ (pass sink dedupe ds l).2.delivered := by
  apply pass_preserves (P := fun t => l.delivered ⊆ t.delivered)
  · intro t d h _ k hk
    exact mem_delivered_record.mpr (Or.inr (h hk))
  · exact fun _ h => h

theorem pass_dispatches (ds : List Dispatch) (l : Ledger) :
    (pass sink dedupe ds l).1.map (·.dispatch) = ds := by
  induction ds generalizing l with
  | nil => rfl
  | cons d ds ih =>
    by_cases hd : dedupe = true ∧ d.key ∈ l.delivered
    · simp [pass_cons_of_delivered hd, ih]
    · simp [pass_cons_of_not_delivered hd, ih]

theorem pass_calls (ds : List Dispatch) (l : Ledger) :
    (pass sink dedupe ds l).2.calls =
      l.calls ++ (pass sink dedupe ds l).1.filterMap Attempt.call? := by
  induction ds generalizing l with
  | nil => simp [pass]
  | cons d ds ih =>
    by_cases hd : dedupe = true ∧ d.key ∈ l.delivered
    · simp [pass_cons_of_delivered hd, ih, List.filterMap_cons]
    · simp [pass_cons_of_not_delivered hd, ih]

/-- A pass adds the keys of the attempts that were delivered. -/
theorem mem_delivered_pass_iff {k : DeliveryKey} :
    k ∈ (pass sink dedupe ds l).2.delivered ↔
      k ∈ l.delivered ∨ ∃ a ∈ (pass sink dedupe ds l).1,
        a.outcome = some .delivered ∧ a.dispatch.key = k := by
  induction ds generalizing l with
  | nil => simp [pass]
  | cons d ds ih =>
    by_cases hd : dedupe = true ∧ d.key ∈ l.delivered
    · simp [pass_cons_of_delivered hd, ih]
    · rw [pass_cons_of_not_delivered hd, ih, mem_delivered_record, or_comm (b := k ∈ l.delivered),
        or_assoc]
      simp [or_and_right, exists_or]

end Ledger

/-- An attempt that follows others in a pass. It is skipped if its key has been delivered, be it
before the pass or by one of them; else the sink answers it, given all calls so far. -/
structure Attempt.Follows (sink : Sink) (dedupe : Bool) (l : Ledger) (before : List Attempt)
    (a : Attempt) : Prop where
  skipped_iff : a.outcome = none ↔ dedupe = true ∧ (a.dispatch.key ∈ l.delivered ∨
    ∃ b ∈ before, b.outcome = some .delivered ∧ b.dispatch.key = a.dispatch.key)
  answer : ∀ o, a.outcome = some o →
    o = sink (l.calls ++ before.filterMap Attempt.call?) a.dispatch

section Follows

variable {sink : Sink} {dedupe : Bool} {l : Ledger} {before : List Attempt} {a : Attempt}

theorem Attempt.Follows.first_skipped {d : Dispatch} (h : dedupe = true ∧ d.key ∈ l.delivered) :
    Attempt.Follows sink dedupe l [] ⟨d, none⟩ :=
  ⟨⟨fun _ => ⟨h.1, .inl h.2⟩, fun _ => rfl⟩, nofun⟩

theorem Attempt.Follows.first_called {d : Dispatch} (h : ¬(dedupe = true ∧ d.key ∈ l.delivered)) :
    Attempt.Follows sink dedupe l [] ⟨d, some (sink l.calls d)⟩ := by
  constructor
  · simpa using h
  · rintro o ⟨⟩
    simp

theorem Attempt.Follows.after_skipped {d : Dispatch}
    (h : Attempt.Follows sink dedupe l before a) :
    Attempt.Follows sink dedupe l (⟨d, none⟩ :: before) a := by
  constructor
  · simpa using h.skipped_iff
  · simpa [List.filterMap_cons] using h.answer

theorem Attempt.Follows.after_called {c : Call}
    (h : Attempt.Follows sink dedupe (l.record c) before a) :
    Attempt.Follows sink dedupe l (⟨c.dispatch, some c.outcome⟩ :: before) a := by
  constructor
  · rw [h.skipped_iff, Ledger.mem_delivered_record, or_comm (b := _ ∈ l.delivered), or_assoc]
    simp [or_and_right, exists_or]
  · simpa using h.answer

/-- Each attempt of a pass follows those before it. -/
theorem Ledger.follows_of_pass {ds : List Dispatch} {after : List Attempt}
    (h : (pass sink dedupe ds l).1 = before ++ a :: after) :
    Attempt.Follows sink dedupe l before a := by
  induction ds generalizing l before with
  | nil => exact absurd h.symm (List.append_ne_nil_of_right_ne_nil _ (List.cons_ne_nil _ _))
  | cons d ds ih =>
    by_cases hd : dedupe = true ∧ d.key ∈ l.delivered
    · rw [pass_cons_of_delivered hd] at h
      cases before with
      | nil =>
        obtain ⟨rfl, -⟩ := List.cons.inj h
        exact .first_skipped hd
      | cons b before =>
        obtain ⟨rfl, rest⟩ := List.cons.inj h
        exact (ih rest).after_skipped
    · rw [pass_cons_of_not_delivered hd] at h
      cases before with
      | nil =>
        obtain ⟨rfl, -⟩ := List.cons.inj h
        exact .first_called hd
      | cons b before =>
        obtain ⟨rfl, rest⟩ := List.cons.inj h
        exact (ih rest).after_called

end Follows

end Outreach
