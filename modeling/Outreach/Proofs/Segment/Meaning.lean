import Outreach.Proofs.Except
import Outreach.Proofs.Segment.Matching

/-!
The meaning of a definition. Evaluating it fails for the first criterion at fault, or for want of
criteria; otherwise it tells whether all or any of the criteria hold. The criteria matter as a set:
in another order, or with some of them repeated, they match the same customers.
-/

namespace Outreach

/-- What a criterion is refused for. -/
inductive Criterion.Refused (k : Criterion) : DefinitionFault → Prop
  | comparison (disallowed : k.feature.kind.allows k.comparison = false) :
      Refused k (.comparisonNotAllowed k.comparison k.feature)
  | operand (allowed : k.feature.kind.allows k.comparison = true)
      (misfit : k.operand.fits k.feature.kind = false) :
      Refused k (.operandMisfit k.operand k.feature)

theorem Criterion.check_eq_error_iff {k : Criterion} {fault : DefinitionFault} :
    k.check = .error fault ↔ k.Refused fault := by
  unfold check
  constructor
  · intro h
    cases allowed : k.feature.kind.allows k.comparison with
    | false =>
      simp only [allowed, Bool.not_false, if_true] at h
      obtain rfl := Except.error.inj h
      exact .comparison allowed
    | true =>
      cases fits : k.operand.fits k.feature.kind with
      | false =>
        simp only [allowed, fits, Bool.not_true, Bool.false_eq_true, if_false, Bool.not_false,
          if_true] at h
        obtain rfl := Except.error.inj h
        exact .operand allowed fits
      | true => simp [allowed, fits] at h
  · intro h
    cases h with
    | comparison disallowed => simp [disallowed]
    | operand allowed misfit => simp [allowed, misfit]

namespace Definition

/-- What a definition is refused for: it has no criteria, or one is at fault and none before it. -/
inductive Refused (d : Definition) : DefinitionFault → Prop
  | empty (none : d.criteria = []) : Refused d .noCriteria
  | criterion {before after : List Criterion} {k : Criterion} {fault : DefinitionFault}
      (listed : d.criteria = before ++ k :: after) (sound : ∀ b ∈ before, b.Sound)
      (refused : k.Refused fault) : Refused d fault

def Matches (d : Definition) (c : Customer) (now : Moment) : Prop :=
  match d.combination with
  | .all => ∀ k ∈ d.criteria, k.holds c now = true
  | .any => ∃ k ∈ d.criteria, k.holds c now = true

/-- Definitions with the same criteria, in whatever order and however often. -/
structure SameCriteria (d e : Definition) : Prop where
  combination : d.combination = e.combination
  mem_iff : ∀ k, k ∈ d.criteria ↔ k ∈ e.criteria

section Evaluation

variable {d e : Definition} {c : Customer} {now : Moment}

theorem checkAll_eq_error_iff {ks : List Criterion} {fault : DefinitionFault} :
    checkAll ks = .error fault ↔
      ∃ before k after, ks = before ++ k :: after ∧ (∀ b ∈ before, b.Sound) ∧ k.Refused fault := by
  induction ks with
  | nil => simp [checkAll]
  | cons k rest ih =>
    rw [checkAll]
    cases check : k.check with
    | ok u =>
      have sound : k.Sound := Criterion.check_eq_ok_iff.mp check
      simp only [ih]
      constructor
      · rintro ⟨before, k', after, rfl, sounds, refused⟩
        exact ⟨k :: before, k', after, rfl, List.forall_mem_cons.mpr ⟨sound, sounds⟩, refused⟩
      · rintro ⟨before, k', after, listed, sounds, refused⟩
        cases before with
        | nil =>
          -- the first criterion would be both sound and refused
          obtain ⟨rfl, rfl⟩ := List.cons.inj listed
          rw [Criterion.check_eq_error_iff.mpr refused] at check
          cases check
        | cons b before =>
          obtain ⟨rfl, rfl⟩ := List.cons.inj listed
          exact ⟨before, k', after, rfl, (List.forall_mem_cons.mp sounds).2, refused⟩
    | error f =>
      constructor
      · intro h
        obtain rfl := Except.error.inj h
        exact ⟨[], k, rest, rfl, List.forall_mem_nil _, Criterion.check_eq_error_iff.mp check⟩
      · rintro ⟨before, k', after, listed, sounds, refused⟩
        cases before with
        | nil =>
          obtain ⟨rfl, rfl⟩ := List.cons.inj listed
          exact check.symm.trans (Criterion.check_eq_error_iff.mpr refused)
        | cons b before =>
          obtain ⟨rfl, rfl⟩ := List.cons.inj listed
          rw [Criterion.check_eq_ok_iff.mpr (List.forall_mem_cons.mp sounds).1] at check
          cases check

theorem check_eq_error_iff {fault : DefinitionFault} :
    d.check = .error fault ↔ d.Refused fault := by
  unfold check
  by_cases none : d.criteria = []
  · simp only [none, List.isEmpty_nil, if_true]
    constructor
    · intro h
      obtain rfl := Except.error.inj h
      exact .empty none
    · intro h
      cases h with
      | empty => rfl
      | criterion listed =>
        rw [none] at listed
        cases List.append_ne_nil_of_right_ne_nil _ (List.cons_ne_nil _ _) listed.symm
  · rw [if_neg (mt List.isEmpty_iff.mp none), checkAll_eq_error_iff]
    constructor
    · rintro ⟨before, k, after, listed, sound, refused⟩
      exact .criterion listed sound refused
    · intro h
      cases h with
      | empty none' => exact absurd none' none
      | criterion listed sound refused => exact ⟨_, _, _, listed, sound, refused⟩

theorem evaluate_eq_error_iff {fault : DefinitionFault} :
    d.evaluate c now = .error fault ↔ d.Refused fault := by
  rw [← check_eq_error_iff, evaluate]
  cases d.check with
  | ok u =>
    constructor
    · intro h
      cases h
    · intro h
      cases h
  | error f => rw [Except.error_bind, Except.error.injEq, Except.error.injEq]

theorem evaluate_eq_ok_iff {b : Bool} :
    d.evaluate c now = .ok b ↔ d.Sound ∧ d.holds c now = b := by
  rw [← check_eq_ok_iff, evaluate, Except.bind_eq_ok]
  constructor
  · rintro ⟨⟨⟩, sound, h⟩
    exact ⟨sound, Except.ok.inj h⟩
  · rintro ⟨sound, rfl⟩
    exact ⟨(), sound, rfl⟩

theorem holds_eq_true_iff : d.holds c now = true ↔ d.Matches c now := by
  unfold holds Matches
  cases d.combination with
  | all => exact List.all_eq_true
  | any => exact List.any_eq_true

theorem not_sound_iff :
    ¬ d.Sound ↔ d.criteria = [] ∨ ∃ k ∈ d.criteria,
      k.feature.kind.allows k.comparison = false ∨ k.operand.fits k.feature.kind = false := by
  simp only [Sound, Criterion.Sound, not_and_or, not_not, not_forall, exists_prop,
    Bool.not_eq_true]

theorem exists_evaluate_eq_error_iff :
    (∃ fault, d.evaluate c now = .error fault) ↔ ¬ d.Sound := by
  constructor
  · rintro ⟨fault, refused⟩ sound
    rw [evaluate_eq_ok_iff.mpr ⟨sound, rfl⟩] at refused
    cases refused
  · intro unsound
    cases evaluated : d.evaluate c now with
    | ok b => exact absurd (evaluate_eq_ok_iff.mp evaluated).1 unsound
    | error fault => exact ⟨fault, rfl⟩

/-- A single criterion is fulfilled if it holds. -/
theorem evaluate_singleton {k : Criterion} (sound : k.Sound) (c : Customer) (now : Moment) :
    (⟨.all, [k]⟩ : Definition).evaluate c now = .ok (k.holds c now) := by
  rw [evaluate_eq_ok_iff]
  exact ⟨⟨List.cons_ne_nil k [], List.forall_mem_singleton.mpr sound⟩, Bool.and_true _⟩

end Evaluation

namespace SameCriteria

variable {d e : Definition} (same : SameCriteria d e)
include same

theorem sound_iff : d.Sound ↔ e.Sound := by
  have members := same.mem_iff
  simp only [Sound, ne_eq, List.eq_nil_iff_forall_not_mem, members]

theorem matches_iff (c : Customer) (now : Moment) : d.Matches c now ↔ e.Matches c now := by
  have members := same.mem_iff
  simp only [Matches, same.combination, members]

theorem holds_eq (c : Customer) (now : Moment) : d.holds c now = e.holds c now := by
  rw [Bool.eq_iff_iff, holds_eq_true_iff, holds_eq_true_iff, same.matches_iff]

theorem evaluates_iff {c : Customer} {now : Moment} {b : Bool} :
    d.evaluate c now = .ok b ↔ e.evaluate c now = .ok b := by
  rw [evaluate_eq_ok_iff, evaluate_eq_ok_iff, same.sound_iff, same.holds_eq]

end SameCriteria

/-- A definition is refused for what is wrong with it, or evaluates to whether the customer
fulfils the criteria as they are combined. The same criteria in another order or with repetitions
evaluate alike, and whoever fulfils all of them fulfils any of them. -/
theorem evaluate_by_criteria (d : Definition) (c : Customer) (now : Moment) :
    ((∃ fault, d.evaluate c now = .error fault) ↔
      d.criteria = [] ∨ ∃ k ∈ d.criteria,
        k.feature.kind.allows k.comparison = false ∨ k.operand.fits k.feature.kind = false) ∧
    (∀ fault, d.evaluate c now = .error fault ↔ d.Refused fault) ∧
    (∀ b, d.evaluate c now = .ok b → (b = true ↔ d.Matches c now)) ∧
    (∀ e : Definition, e.combination = d.combination →
      (∀ k, k ∈ e.criteria ↔ k ∈ d.criteria) →
      (e.evaluate c now).toOption = (d.evaluate c now).toOption) ∧
    ((⟨.all, d.criteria⟩ : Definition).evaluate c now = .ok true →
      (⟨.any, d.criteria⟩ : Definition).evaluate c now = .ok true) := by
  refine ⟨exists_evaluate_eq_error_iff.trans not_sound_iff, fun fault => evaluate_eq_error_iff,
    ?_, ?_, ?_⟩
  · intro b evaluated
    rw [← (evaluate_eq_ok_iff.mp evaluated).2]
    exact holds_eq_true_iff
  · intro e combination members
    have same : SameCriteria e d := ⟨combination, members⟩
    exact Except.toOption_congr fun b => same.evaluates_iff
  · intro matchesAll
    obtain ⟨sound, holds⟩ := evaluate_eq_ok_iff.mp matchesAll
    have every : ∀ k ∈ d.criteria, k.holds c now = true := holds_eq_true_iff.mp holds
    -- a sound definition has a criterion, and it holds
    obtain ⟨k, hk⟩ := List.exists_mem_of_ne_nil d.criteria sound.1
    have some : (⟨.any, d.criteria⟩ : Definition).Matches c now := ⟨k, hk, every k hk⟩
    exact evaluate_eq_ok_iff.mpr ⟨sound, holds_eq_true_iff.mpr some⟩

/-- Two criteria, turned round and one of them repeated, on a customer who never ordered. -/
theorem evaluate_by_criteria_repeated :
    let optedIn : Criterion := ⟨.marketingOptIn, .eq, .flag true⟩
    let lapsed : Criterion := ⟨.lastOrderDate, .gt, .daysAgo 30⟩
    let d : Definition := ⟨.all, [optedIn, lapsed]⟩
    let e : Definition := ⟨.all, [lapsed, optedIn, lapsed]⟩
    let c : Customer := .new (.ofNat 1) "ana@example.com"
    let now : Moment := ⟨⟨0, by decide, by decide⟩, .midnight⟩
    e.combination = d.combination ∧ (∀ k, k ∈ e.criteria ↔ k ∈ d.criteria) ∧
      (e.evaluate c now).toOption = (d.evaluate c now).toOption ∧
      d.evaluate c now = .ok true ∧ d.Matches c now ∧
      (⟨.any, d.criteria⟩ : Definition).evaluate c now = .ok true := by
  intro optedIn lapsed d e c now
  have members (k : Criterion) : k ∈ e.criteria ↔ k ∈ d.criteria := by
    simp only [e, d, List.mem_cons, List.not_mem_nil, or_false]
    tauto
  have matchesAll : d.evaluate c now = .ok true := rfl
  obtain ⟨-, -, decides, alike, weaker⟩ := evaluate_by_criteria d c now
  exact ⟨rfl, members, alike e rfl members, matchesAll, (decides true matchesAll).mp rfl,
    weaker matchesAll⟩

end Definition

end Outreach
