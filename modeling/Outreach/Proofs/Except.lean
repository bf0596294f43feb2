import Mathlib.Data.List.Forall2

/-!
Sequences that may fail: what their success and their failure say of the parts.
-/

namespace Outreach.Except

variable {ε ε' α β : Type}

@[simp] theorem pure_eq (a : α) : (pure a : Except ε α) = .ok a := rfl

@[simp] theorem throw_eq (e : ε) : (throw e : Except ε α) = .error e := rfl

@[simp] theorem ok_bind (a : α) (f : α → Except ε β) : (.ok a >>= f) = f a := rfl

@[simp] theorem error_bind (e : ε) (f : α → Except ε β) : (.error e >>= f) = .error e := rfl

theorem bind_eq_ok {x : Except ε α} {f : α → Except ε β} {b : β} :
    (x >>= f) = .ok b ↔ ∃ a, x = .ok a ∧ f a = .ok b := by
  cases x with
  | ok a => simp
  | error e => simp

/-- What follows from the success of the rest, whatever the first part was. -/
theorem of_bind_eq_ok {x : Except ε α} {f : α → Except ε β} {b : β} {p : Prop}
    (later : ∀ a, f a = .ok b → p) (h : (x >>= f) = .ok b) : p := by
  obtain ⟨a, -, rest⟩ := bind_eq_ok.mp h
  exact later a rest

theorem mapError_eq_ok {x : Except ε α} {f : ε → ε'} {a : α} :
    x.mapError f = .ok a ↔ x = .ok a := by
  cases x with
  | ok b =>
    change Except.ok b = .ok a ↔ _
    simp
  | error e =>
    change Except.error (f e) = .ok a ↔ _
    simp

theorem map_eq_ok {x : Except ε α} {f : α → β} {b : β} :
    x.map f = .ok b ↔ ∃ a, x = .ok a ∧ f a = b := by
  cases x with
  | ok a => simp [Except.map]
  | error e => simp [Except.map]

theorem toOption_eq_some {x : Except ε α} {a : α} : x.toOption = some a ↔ x = .ok a := by
  cases x <;> simp [Except.toOption]

/-- Results that succeed alike are the same up to their faults. -/
theorem toOption_congr {x : Except ε α} {y : Except ε' α} (h : ∀ a, x = .ok a ↔ y = .ok a) :
    x.toOption = y.toOption := by
  apply Option.ext
  intro a
  rw [toOption_eq_some, toOption_eq_some, h]

/-- A list is read if each of its members is. -/
theorem mapM_eq_ok_iff {f : α → Except ε β} {xs : List α} {ys : List β} :
    xs.mapM f = .ok ys ↔ List.Forall₂ (fun x y => f x = .ok y) xs ys := by
  induction xs generalizing ys with
  | nil =>
    rw [List.mapM_nil, List.forall₂_nil_left_iff]
    exact ⟨fun h => (Except.ok.inj h).symm, fun h => congrArg Except.ok h.symm⟩
  | cons x rest ih =>
    rw [List.mapM_cons, List.forall₂_cons_left_iff, bind_eq_ok]
    refine exists_congr fun y => ?_
    rw [bind_eq_ok, ← exists_and_left]
    refine exists_congr fun ys' => and_congr_right fun _ => and_congr ih ?_
    exact ⟨fun h => (Except.ok.inj h).symm, fun h => congrArg Except.ok h.symm⟩

theorem forall_of_mapM_eq_ok {f : α → Except ε β} {xs : List α} {ys : List β} {p : β → Prop}
    (step : ∀ x ∈ xs, ∀ y, f x = .ok y → p y) (h : xs.mapM f = .ok ys) : ∀ y ∈ ys, p y := by
  have related := mapM_eq_ok_iff.mp h
  clear h
  induction related with
  | nil => exact List.forall_mem_nil _
  | cons read _ ih =>
    rw [List.forall_mem_cons] at step ⊢
    exact ⟨step.1 _ read, ih step.2⟩

/-- Each member of a list that is read gives one of the results. -/
theorem exists_of_mapM_eq_ok {f : α → Except ε β} {xs : List α} {ys : List β}
    (h : xs.mapM f = .ok ys) : ∀ x ∈ xs, ∃ y ∈ ys, f x = .ok y := by
  have related := mapM_eq_ok_iff.mp h
  clear h
  induction related with
  | nil => exact List.forall_mem_nil _
  | @cons x y _ _ read _ ih =>
    rw [List.forall_mem_cons]
    refine ⟨⟨y, List.mem_cons_self, read⟩, ?_⟩
    intro x' hx'
    obtain ⟨y', hy', read'⟩ := ih x' hx'
    exact ⟨y', List.mem_cons_of_mem y hy', read'⟩

theorem not_exists_error {x : Except ε α} {a : α} (h : x = .ok a) : ¬ ∃ e, x = .error e := by
  rintro ⟨e, failed⟩
  rw [h] at failed
  cases failed

theorem mapError_eq_error {x : Except ε α} {f : ε → ε'} {e : ε} (h : x = .error e) :
    x.mapError f = .error (f e) := by
  rw [h]
  rfl

end Outreach.Except
