import Outreach.Lifecycle
import Outreach.Proofs.Except

/-!
How operations succeed and fail. A sequence succeeds when each of its parts does, and its
parts say what it did. An operation is atomic when it fails only where it has changed
nothing: first come parts that only look, then at most one atomic part, and after it only
parts that never fail.
-/

namespace Outreach

namespace Operation

variable {α β : Type} {s s' : LifecycleState} {p : Problem}

theorem bind_eq_ok {x : Operation α} {f : α → Operation β} {b : β} :
    (x >>= f) s = .ok b s' ↔ ∃ a t, x s = .ok a t ∧ f a t = .ok b s' := by
  change EStateM.bind x f s = .ok b s' ↔ _
  unfold EStateM.bind
  cases x s with
  | ok a t =>
    constructor
    · intro h
      exact ⟨a, t, rfl, h⟩
    · rintro ⟨_, _, ⟨⟩, h⟩
      exact h
  | error e t => simp

theorem bind_eq_error {x : Operation α} {f : α → Operation β} :
    (x >>= f) s = .error p s' ↔
      x s = .error p s' ∨ ∃ a t, x s = .ok a t ∧ f a t = .error p s' := by
  change EStateM.bind x f s = .error p s' ↔ _
  unfold EStateM.bind
  cases x s with
  | ok a t =>
    constructor
    · intro h
      exact Or.inr ⟨a, t, rfl, h⟩
    · rintro (h | ⟨_, _, ⟨⟩, h⟩)
      · cases h
      · exact h
  | error e t => simp

theorem bind_of_ok {x : Operation α} {f : α → Operation β} {a : α} (h : x s = .ok a s') :
    (x >>= f) s = f a s' := by
  change EStateM.bind x f s = _
  rw [EStateM.bind, h]

theorem bind_of_error {x : Operation α} {f : α → Operation β} (h : x s = .error p s') :
    (x >>= f) s = .error p s' :=
  bind_eq_error.mpr (Or.inl h)

theorem pure_eq_ok {a b : α} : (pure a : Operation α) s = .ok b s' ↔ b = a ∧ s' = s := by
  change EStateM.Result.ok a s = .ok b s' ↔ _
  simp [eq_comm]

theorem ask_eq_ok {f : Store → Except Problem α} {a : α} :
    ask f s = .ok a s' ↔ f s.store = .ok a ∧ s' = s := by
  unfold ask
  cases f s.store with
  | ok b => simp [eq_comm]
  | error q => simp

theorem ask_of_error {f : Store → Except Problem α} (h : f s.store = .error p) :
    ask f s = .error p s := by
  rw [ask, h]

theorem check_eq_ok {e : Except Problem α} {a : α} :
    check e s = .ok a s' ↔ e = .ok a ∧ s' = s :=
  ask_eq_ok

theorem log_eq_ok {e : Event} {u : Unit} : log e s = .ok u s' ↔ s' = s.log e := by
  change EStateM.Result.ok () (s.log e) = .ok u s' ↔ _
  simp [eq_comm]

theorem modifyGet_eq_ok {f : LifecycleState → α × LifecycleState} {a : α} :
    (modifyGet f : Operation α) s = .ok a s' ↔ a = (f s).1 ∧ s' = (f s).2 := by
  change EStateM.Result.ok (f s).1 (f s).2 = .ok a s' ↔ _
  simp [eq_comm]

def succeeds (x : Operation α) (s : LifecycleState) : Bool :=
  match x s with
  | .ok _ _ => true
  | .error _ _ => false

theorem succeeds_eq_true_iff {x : Operation α} :
    x.succeeds s = true ↔ ∃ a s', x s = .ok a s' := by
  unfold succeeds
  cases x s <;> simp

theorem succeeds_eq_false_iff {x : Operation α} :
    x.succeeds s = false ↔ ∃ p s', x s = .error p s' := by
  unfold succeeds
  cases x s <;> simp

/-- Leaves the state as it is, whether it succeeds or fails. -/
structure Looks (x : Operation α) : Prop where
  of_ok : ∀ {s a s'}, x s = .ok a s' → s' = s
  of_error : ∀ {s p s'}, x s = .error p s' → s' = s

def Atomic (x : Operation α) : Prop :=
  ∀ s p s', x s = .error p s' → s' = s

def Total (x : Operation α) : Prop :=
  ∀ s p s', x s ≠ .error p s'

theorem looks_ask (f : Store → Except Problem α) : Looks (ask f) := by
  constructor
  · intro s a s' h
    exact (ask_eq_ok.mp h).2
  · intro s p s' h
    unfold ask at h
    cases hf : f s.store with
    | ok b => simp [hf] at h
    | error q =>
      rw [hf] at h
      cases h
      rfl

theorem looks_check (e : Except Problem α) : Looks (check e) := looks_ask _

theorem total_pure (a : α) : Total (pure a : Operation α) := by
  intro s p s' h
  cases h

theorem total_log (e : Event) : Total (log e) := by
  intro s p s' h
  cases h

theorem total_modifyGet (f : LifecycleState → α × LifecycleState) :
    Total (modifyGet f : Operation α) := by
  intro s p s' h
  cases h

theorem Total.bind {x : Operation α} {f : α → Operation β} (hx : Total x)
    (hf : ∀ a, Total (f a)) : Total (x >>= f) := by
  intro s p s' h
  rcases bind_eq_error.mp h with h | ⟨a, t, _, h⟩
  · exact hx _ _ _ h
  · exact hf a _ _ _ h

theorem Total.atomic {x : Operation α} (hx : Total x) : Atomic x :=
  fun s p s' h => absurd h (hx s p s')

/-- What is looked up before does not matter when the rest fails. -/
theorem Looks.bind_atomic {x : Operation α} {f : α → Operation β} (hx : Looks x)
    (hf : ∀ a, Atomic (f a)) : Atomic (x >>= f) := by
  intro s p s' h
  rcases bind_eq_error.mp h with h | ⟨a, t, ht, h⟩
  · exact hx.of_error h
  · rw [hf a _ _ _ h, hx.of_ok ht]

/-- A change is never followed by a failure. -/
theorem Atomic.bind_total {x : Operation α} {f : α → Operation β} (hx : Atomic x)
    (hf : ∀ a, Total (f a)) : Atomic (x >>= f) := by
  intro s p s' h
  rcases bind_eq_error.mp h with h | ⟨a, t, _, h⟩
  · exact hx _ _ _ h
  · exact absurd h (hf a _ _ _)

end Operation

end Outreach
