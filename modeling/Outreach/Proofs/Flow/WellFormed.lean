import Outreach.Proofs.Flow.Schedule

/-!
Well-formed flows. The orders of the steps count from one, every action is sound, and there is at
most one exit; nothing of this depends on the order in which the steps are listed. A flow is
accepted exactly if it is well-formed, as the one listing of its steps by ascending order, and so
its schedule is the same for every listing.
-/

namespace Outreach

namespace Step

/-- Steps that form a flow, in whatever order they are listed. -/
structure WellFormed (steps : List Step) : Prop where
  /-- The orders count from one without gaps. -/
  orders : (steps.map (·.order.toNat)).Perm (List.range' 1 steps.length)
  sound : ∀ s ∈ steps, s.action.Sound
  singleExit : steps.countP (·.kind == .exit) ≤ 1

/-- What steps are refused for. -/
inductive Refused (steps : List Step) : FlowFault → Prop
  | order {s : Step} {expected : Nat} (listed : s ∈ steps) (other : s.order.toNat ≠ expected)
      (uncounted : ¬ (steps.map (·.order.toNat)).Perm (List.range' 1 steps.length)) :
      Refused steps (.notContiguous expected s.order)
  | action {s : Step} {fault : FlowFault} (listed : s ∈ steps)
      (unsound : s.action.check = .error fault) : Refused steps fault
  | exits (many : 1 < exits steps) : Refused steps (.manyExits (exits steps))

section Sorted

variable {steps seq : List Step}

theorem sorted_perm (steps : List Step) : (sorted steps).Perm steps :=
  List.mergeSort_perm _ _

theorem sorted_ascending (steps : List Step) :
    (sorted steps).Pairwise fun a b => a.order ≤ b.order := by
  have trans (a b c : Step) (ab : decide (a.order ≤ b.order) = true)
      (bc : decide (b.order ≤ c.order) = true) : decide (a.order ≤ c.order) = true :=
    decide_eq_true (UInt32.le_trans (of_decide_eq_true ab) (of_decide_eq_true bc))
  have total (a b : Step) : (decide (a.order ≤ b.order) || decide (b.order ≤ a.order)) = true := by
    rcases UInt32.le_total a.order b.order with le | ge
    · simp [le]
    · simp [ge]
  exact (List.pairwise_mergeSort trans total steps).imp of_decide_eq_true

/-- Where no order repeats, there is one way to sort. -/
theorem sorted_eq (perm : seq.Perm steps) (ascending : seq.Pairwise fun a b => a.order < b.order) :
    sorted steps = seq := by
  have weakly : seq.Pairwise fun a b => a.order ≤ b.order := ascending.imp UInt32.le_of_lt
  refine List.Perm.eq_of_pairwise ?_ (sorted_ascending steps) weakly
    ((sorted_perm steps).trans perm.symm)
  intro a b ha hb le ge
  have here : a ∈ seq := perm.mem_iff.mpr ((sorted_perm steps).mem_iff.mp ha)
  exact eq_of_order_eq ascending here hb (UInt32.le_antisymm le ge)

/-- Steps with different orders are sorted alike in every listing. -/
theorem sorted_perm_eq {steps' : List Step} (perm : steps'.Perm steps)
    (distinct : steps.Pairwise fun a b => a.order ≠ b.order) : sorted steps' = sorted steps := by
  have apart : (sorted steps).Pairwise fun a b => a.order ≠ b.order :=
    (sorted_perm steps).symm.pairwise distinct fun ne => ne.symm
  refine sorted_eq ((sorted_perm steps).trans perm.symm) ?_
  exact ((sorted_ascending steps).and apart).imp fun h => UInt32.lt_of_le_of_ne h.1 h.2

/-- Orders that are a permutation of a count are, by ascending order, that count. -/
theorem orders_eq_range' (orders : (steps.map (·.order.toNat)).Perm (List.range' 1 steps.length))
    (perm : seq.Perm steps) (ascending : seq.Pairwise fun a b => a.order ≤ b.order) :
    seq.map (·.order.toNat) = List.range' 1 seq.length := by
  have listed : (seq.map (·.order.toNat)).Pairwise (· ≤ ·) :=
    List.pairwise_map.mpr (ascending.imp UInt32.le_iff_toNat_le.mp)
  have counted : (List.range' 1 steps.length).Pairwise (· ≤ ·) :=
    (List.pairwise_lt_range' ..).imp Nat.le_of_lt
  rw [perm.length_eq]
  exact List.Perm.eq_of_pairwise (fun _ _ _ _ => Nat.le_antisymm) listed counted
    ((perm.map _).trans orders)

end Sorted

variable {steps seq : List Step}

theorem WellFormed.perm {steps' : List Step} (h : WellFormed steps) (perm : steps'.Perm steps) :
    WellFormed steps' where
  orders := by
    rw [perm.length_eq]
    exact (perm.map _).trans h.orders
  sound s hs := h.sound s (perm.mem_iff.mp hs)
  singleExit := by
    rw [perm.countP_eq]
    exact h.singleExit

theorem sequence_eq_ok_iff_wellFormed :
    sequence steps = .ok seq ↔
      WellFormed steps ∧ seq.Perm steps ∧ seq.Pairwise fun a b => a.order ≤ b.order := by
  rw [sequence_eq_ok_iff, checkFrom_eq_ok_iff]
  constructor
  · rintro ⟨rfl, ⟨orders, sound⟩, few⟩
    have counted : WellFormed (sorted steps) :=
      ⟨.of_eq orders, fun s hs => Action.check_eq_ok_iff.mp (sound s hs), few⟩
    exact ⟨counted.perm (sorted_perm steps).symm, sorted_perm steps, sorted_ascending steps⟩
  · rintro ⟨wellFormed, perm, ascending⟩
    have orders := orders_eq_range' wellFormed.orders perm ascending
    have listed := wellFormed.perm perm
    exact ⟨(sorted_eq perm (ascending_of_orders orders)).symm,
      ⟨orders, fun s hs => Action.check_eq_ok_iff.mpr (listed.sound s hs)⟩, listed.singleExit⟩

theorem exists_sequence_iff : (∃ seq, sequence steps = .ok seq) ↔ WellFormed steps := by
  simp only [sequence_eq_ok_iff_wellFormed]
  constructor
  · rintro ⟨seq, wellFormed, -⟩
    exact wellFormed
  · intro wellFormed
    exact ⟨sorted steps, wellFormed, sorted_perm steps, sorted_ascending steps⟩

theorem checkFrom_eq_error {expected : Nat} {fault : FlowFault}
    (h : checkFrom expected seq = .error fault) :
    (∃ s ∈ seq, s.action.check = .error fault) ∨
      seq.map (·.order.toNat) ≠ List.range' expected seq.length ∧
        ∃ s ∈ seq, ∃ n, s.order.toNat ≠ n ∧ fault = .notContiguous n s.order := by
  induction seq generalizing expected with
  | nil => cases h
  | cons s rest ih =>
    rw [checkFrom] at h
    simp only [List.map_cons, List.length_cons, List.range'_succ, ne_eq, List.cons.injEq]
    by_cases order : s.order.toNat = expected
    · rw [if_neg (not_not_intro order)] at h
      cases check : s.action.check with
      | error f =>
        rw [check] at h
        obtain rfl := Except.error.inj h
        exact .inl ⟨s, List.mem_cons_self, check⟩
      | ok u =>
        rw [check] at h
        rcases ih h with ⟨t, ht, unsound⟩ | ⟨uncounted, t, ht, found⟩
        · exact .inl ⟨t, List.mem_cons_of_mem s ht, unsound⟩
        · exact .inr ⟨fun counted => uncounted counted.2, t, List.mem_cons_of_mem s ht, found⟩
    · rw [if_pos order] at h
      obtain rfl := Except.error.inj h
      exact .inr ⟨fun counted => order counted.1, s, List.mem_cons_self, expected, order, rfl⟩

theorem refused_of_sequence {fault : FlowFault} (h : sequence steps = .error fault) :
    Refused steps fault := by
  have perm := sorted_perm steps
  dsimp only [sequence] at h
  cases checked : checkFrom 1 (sorted steps) with
  | error f =>
    rw [checked] at h
    obtain rfl := Except.error.inj h
    rcases checkFrom_eq_error checked with ⟨s, hs, unsound⟩ | ⟨uncounted, s, hs, n, other, rfl⟩
    · exact .action (perm.mem_iff.mp hs) unsound
    · refine .order (perm.mem_iff.mp hs) other fun orders => uncounted ?_
      exact orders_eq_range' orders perm (sorted_ascending steps)
  | ok u =>
    have same : exits (sorted steps) = exits steps := perm.countP_eq _
    rw [checked, Except.ok_bind, same] at h
    by_cases many : 1 < exits steps
    · rw [if_pos many] at h
      obtain rfl := Except.error.inj h
      exact .exits many
    · rw [if_neg many] at h
      cases h

theorem sequence_perm_eq_ok_iff {steps' : List Step} (perm : steps'.Perm steps) :
    sequence steps' = .ok seq ↔ sequence steps = .ok seq := by
  rw [sequence_eq_ok_iff_wellFormed, sequence_eq_ok_iff_wellFormed]
  constructor
  · rintro ⟨wellFormed, listed, ascending⟩
    exact ⟨wellFormed.perm perm.symm, listed.trans perm, ascending⟩
  · rintro ⟨wellFormed, listed, ascending⟩
    exact ⟨wellFormed.perm perm, listed.trans perm.symm, ascending⟩

end Step

theorem Schedule.toOption_ofSteps_perm {steps steps' : List Step} (perm : steps'.Perm steps)
    (start : Moment) : (ofSteps steps' start).toOption = (ofSteps steps start).toOption := by
  apply Except.toOption_congr
  intro schedule
  simp only [ofSteps_eq_ok_iff, Step.sequence_perm_eq_ok_iff perm]

namespace Step

/-- Steps are accepted exactly if they are well-formed, and as the one listing of them by ascending
order; else they are refused for what is wrong with them. Another listing of the same steps has the
same schedules, and unless orders repeat it is also refused for the same fault. -/
theorem sequence_of_any_listing (steps : List Step) :
    ((∃ seq, sequence steps = .ok seq) ↔ WellFormed steps) ∧
    (∀ seq, sequence steps = .ok seq → ∀ other,
      other = seq ↔ other.Perm steps ∧ other.Pairwise fun a b => a.order ≤ b.order) ∧
    (∀ fault, sequence steps = .error fault → Refused steps fault) ∧
    ∀ steps', steps'.Perm steps →
      (∀ start, (Schedule.ofSteps steps' start).toOption =
        (Schedule.ofSteps steps start).toOption) ∧
      ((steps.Pairwise fun a b => a.order ≠ b.order) → sequence steps' = sequence steps) := by
  refine ⟨exists_sequence_iff, ?_, fun fault => refused_of_sequence, ?_⟩
  · intro seq accepted other
    obtain ⟨wellFormed, perm, ascending⟩ := sequence_eq_ok_iff_wellFormed.mp accepted
    constructor
    · rintro rfl
      exact ⟨perm, ascending⟩
    · rintro ⟨perm', ascending'⟩
      have also : sequence steps = .ok other :=
        sequence_eq_ok_iff_wellFormed.mpr ⟨wellFormed, perm', ascending'⟩
      exact Except.ok.inj (also.symm.trans accepted)
  · intro steps' perm
    refine ⟨Schedule.toOption_ofSteps_perm perm, ?_⟩
    intro distinct
    unfold sequence
    rw [sorted_perm_eq perm distinct]

/-- A listing with its exit in front. -/
theorem sequence_of_any_listing_exit_first :
    let steps : List Step := [⟨1, .email "Welcome" ""⟩, ⟨2, .wait 3⟩, ⟨3, .exit⟩]
    let listing : List Step := [⟨3, .exit⟩, ⟨1, .email "Welcome" ""⟩, ⟨2, .wait 3⟩]
    listing.Perm steps ∧ sequence listing = .ok steps ∧
      ∀ start, (Schedule.ofSteps listing start).toOption =
        (Schedule.ofSteps steps start).toOption := by
  intro steps listing
  have perm : listing.Perm steps := by decide
  have distinct : steps.Pairwise fun a b => a.order ≠ b.order := by decide
  have ascending : steps.Pairwise fun a b => a.order ≤ b.order := by decide
  have sound : ∀ s ∈ steps, s.action.Sound := by
    simp only [steps, List.forall_mem_cons]
    exact ⟨⟨'W', by simp, rfl⟩, by decide, trivial, List.forall_mem_nil _⟩
  have wellFormed : WellFormed steps := ⟨by decide, sound, by decide⟩
  obtain ⟨accepted, sorts, -, listings⟩ := sequence_of_any_listing steps
  obtain ⟨seq, sequenced⟩ := accepted.mpr wellFormed
  obtain rfl := (sorts seq sequenced steps).mpr ⟨.refl _, ascending⟩
  obtain ⟨schedules, refusals⟩ := listings listing perm
  exact ⟨perm, (refusals distinct).trans sequenced, schedules⟩

end Step

end Outreach
