import Outreach.Segment.Draft
import Outreach.Proofs.Calendar.Ticks
import Outreach.Proofs.Segment.Meaning

/-!
Dates told by days ago. So many days ago is a place on the line of ticks, whether or not the
calendar reaches back to it; less than that means an order after the place, and more means that no
order lies at or after it. From this follow what the comparisons say of each other, of larger and
smaller numbers of days, and of the dates that they stand for.
-/

namespace Outreach

section Place

variable {now date : Moment} {days : UInt32}

theorem cutoff?_eq_some_iff : cutoff? now days = some date ↔ date.ticks = now.ticksAgo days.toNat :=
  Moment.addDays?_neg_eq_some_iff

/-- A place that the calendar does not reach back to lies before all of it. -/
theorem ticksAgo_lt_of_cutoff?_eq_none (unreached : cutoff? now days = none) :
    now.ticksAgo days.toNat < date.ticks := by
  by_contra reached
  have lower : date.ticks ≤ now.ticksAgo days.toNat := Int.not_lt.mp reached
  have upper : now.ticksAgo days.toNat ≤ now.ticks := by
    rw [← now.ticksAgo_zero]
    exact Moment.ticksAgo_le_of_le (Nat.zero_le _)
  obtain ⟨m, place⟩ := Moment.exists_ticks_eq lower upper
  rw [cutoff?_eq_some_iff.mpr place] at unreached
  cases unreached

end Place

namespace Criterion

def lastOrderAgo (comparison : Comparison) (days : UInt32) : Criterion :=
  ⟨.lastOrderDate, comparison, .daysAgo days⟩

def lastOrderAt (comparison : Comparison) (m : Moment) : Criterion :=
  ⟨.lastOrderDate, comparison, .moment m⟩

theorem holds_lastOrderAgo (c : Customer) (now : Moment) (comparison : Comparison)
    (days : UInt32) : (lastOrderAgo comparison days).holds c now =
      compareAge c.lastOrderDate comparison (cutoff? now days) := rfl

theorem holds_lastOrderAt (c : Customer) (now m : Moment) (comparison : Comparison) :
    (lastOrderAt comparison m).holds c now = compareDates c.lastOrderDate comparison m := rfl

section Comparison

variable {c : Customer} {now date : Moment} {days n m : UInt32}

theorem holds_ago_lt_iff : (lastOrderAgo .lt days).holds c now = true ↔
    ∃ date, c.lastOrderDate = some date ∧ now.ticksAgo days.toNat < date.ticks := by
  rw [holds_lastOrderAgo]
  cases c.lastOrderDate with
  | none => simp [compareAge]
  | some date =>
    cases reached : cutoff? now days with
    | none => simp [compareAge, ticksAgo_lt_of_cutoff?_eq_none reached]
    | some cutoff => simp [compareAge, Moment.before_eq_true_iff, cutoff?_eq_some_iff.mp reached]

theorem holds_ago_gt_iff : (lastOrderAgo .gt days).holds c now = true ↔
    ∀ date, c.lastOrderDate = some date → date.ticks < now.ticksAgo days.toNat := by
  rw [holds_lastOrderAgo]
  cases c.lastOrderDate with
  | none => simp [compareAge]
  | some date =>
    cases reached : cutoff? now days with
    | none =>
      have later : now.ticksAgo days.toNat < date.ticks := ticksAgo_lt_of_cutoff?_eq_none reached
      simp [compareAge, Int.le_of_lt later]
    | some cutoff => simp [compareAge, Moment.before_eq_true_iff, cutoff?_eq_some_iff.mp reached]

theorem holds_ago_lt_of_le (le : n ≤ m) (h : (lastOrderAgo .lt n).holds c now = true) :
    (lastOrderAgo .lt m).holds c now = true := by
  obtain ⟨date, last, later⟩ := holds_ago_lt_iff.mp h
  have further := now.ticksAgo_le_of_le (UInt32.le_iff_toNat_le.mp le)
  exact holds_ago_lt_iff.mpr ⟨date, last, Int.lt_of_le_of_lt further later⟩

theorem holds_ago_gt_of_le (le : n ≤ m) (h : (lastOrderAgo .gt m).holds c now = true) :
    (lastOrderAgo .gt n).holds c now = true := by
  rw [holds_ago_gt_iff] at h ⊢
  intro date last
  have further := now.ticksAgo_le_of_le (UInt32.le_iff_toNat_le.mp le)
  exact Int.lt_of_lt_of_le (h date last) further

theorem not_holds_ago_lt_and_gt : ¬ ((lastOrderAgo .lt days).holds c now = true ∧
    (lastOrderAgo .gt days).holds c now = true) := by
  rintro ⟨less, more⟩
  obtain ⟨date, last, later⟩ := holds_ago_lt_iff.mp less
  have earlier := holds_ago_gt_iff.mp more date last
  omega

theorem holds_ago_neither_iff :
    (lastOrderAgo .lt days).holds c now = false ∧ (lastOrderAgo .gt days).holds c now = false ↔
      ∃ date, c.lastOrderDate = some date ∧ cutoff? now days = some date := by
  simp only [← Bool.not_eq_true, holds_ago_lt_iff, holds_ago_gt_iff, cutoff?_eq_some_iff]
  constructor
  · rintro ⟨notLess, notMore⟩
    push Not at notMore
    obtain ⟨date, last, reached⟩ := notMore
    refine ⟨date, last, ?_⟩
    have : ¬ now.ticksAgo days.toNat < date.ticks := fun later => notLess ⟨date, last, later⟩
    omega
  · rintro ⟨date, last, place⟩
    constructor
    · rintro ⟨other, last', later⟩
      obtain rfl := Option.some.inj (last.symm.trans last')
      omega
    · intro earlier
      have := earlier date last
      omega

/-- Off the cutoff one of the two comparisons holds, and the other does not. -/
theorem holds_ago_gt_eq_not (off : ¬ ∃ date, c.lastOrderDate = some date ∧
    cutoff? now days = some date) : (lastOrderAgo .gt days).holds c now =
      !(lastOrderAgo .lt days).holds c now := by
  rw [← holds_ago_neither_iff] at off
  cases less : (lastOrderAgo .lt days).holds c now with
  | true => exact Bool.eq_false_iff.mpr fun more => not_holds_ago_lt_and_gt ⟨less, more⟩
  | false => exact Bool.of_not_eq_false fun notMore => off ⟨less, notMore⟩

/-- Ages grow where dates fall. -/
theorem holds_ago_eq_at (reached : cutoff? now days = some date) :
    (lastOrderAgo .lt days).holds c now = (lastOrderAt .gt date).holds c now ∧
      (lastOrderAgo .gt days).holds c now = (lastOrderAt .lt date).holds c now ∧
      (lastOrderAgo .eq days).holds c now = (lastOrderAt .eq date).holds c now := by
  simp only [holds_lastOrderAgo, holds_lastOrderAt, reached]
  cases c.lastOrderDate with
  | none => exact ⟨rfl, rfl, rfl⟩
  | some last => exact ⟨rfl, rfl, rfl⟩

end Comparison

/-- More days ago is less recent. A customer's last order is either within a number of days or it is
not, except when it is at the cutoff itself; who never ordered did not order within any number. What
is less than so many days ago is later than the cutoff, as long as there is one. -/
theorem lastOrderAgo_scale (c : Customer) (now : Moment) (n : UInt32) :
    (∀ m, n ≤ m → (lastOrderAgo .lt n).holds c now = true →
      (lastOrderAgo .lt m).holds c now = true) ∧
    (∀ m, n ≤ m → (lastOrderAgo .gt m).holds c now = true →
      (lastOrderAgo .gt n).holds c now = true) ∧
    ¬ ((lastOrderAgo .lt n).holds c now = true ∧ (lastOrderAgo .gt n).holds c now = true) ∧
    ((lastOrderAgo .lt n).holds c now = false ∧ (lastOrderAgo .gt n).holds c now = false ↔
      ∃ date, c.lastOrderDate = some date ∧ cutoff? now n = some date) ∧
    (∀ name, (¬ ∃ date, c.lastOrderDate = some date ∧ cutoff? now n = some date) →
      ∃ within : Bool,
        ((SegmentDraft.new name).orderedWithinDays n).definition.evaluate c now = .ok within ∧
        ((SegmentDraft.new name).notOrderedWithinDays n).definition.evaluate c now =
          .ok (!within) ∧
        (c.lastOrderDate = none → within = false)) ∧
    ∀ cutoff, cutoff? now n = some cutoff →
      (lastOrderAgo .lt n).holds c now = (lastOrderAt .gt cutoff).holds c now ∧
      (lastOrderAgo .gt n).holds c now = (lastOrderAt .lt cutoff).holds c now ∧
      (lastOrderAgo .eq n).holds c now = (lastOrderAt .eq cutoff).holds c now := by
  refine ⟨fun m => holds_ago_lt_of_le, fun m => holds_ago_gt_of_le, not_holds_ago_lt_and_gt,
    holds_ago_neither_iff, ?_, fun cutoff => holds_ago_eq_at⟩
  intro name off
  refine ⟨(lastOrderAgo .lt n).holds c now, ?_, ?_, ?_⟩
  · exact Definition.evaluate_singleton ⟨rfl, rfl⟩ c now
  · rw [← holds_ago_gt_eq_not off]
    exact Definition.evaluate_singleton ⟨rfl, rfl⟩ c now
  · intro never
    rw [holds_lastOrderAgo, never]
    rfl

/-- In a leap second at midnight, for a customer who ordered at noon and one who never did. -/
theorem lastOrderAgo_scale_leap_second :
    let date : Date := ⟨0, by decide, by decide⟩
    let now : Moment := ⟨date, 86399, 1500000000, by decide, by decide⟩
    let cutoff : Moment := ⟨date, 0, 500000000, by decide, by decide⟩
    let ana : Customer :=
      { Customer.new (.ofNat 1) "ana@example.com" with
        lastOrderDate := some ⟨date, 43200, 0, by decide, by decide⟩ }
    let ben : Customer := .new (.ofNat 2) "ben@example.com"
    cutoff? now 1 = some cutoff ∧ (lastOrderAgo .lt 1).holds ana now = true ∧
      (lastOrderAgo .lt 3).holds ana now = true ∧ (lastOrderAt .gt cutoff).holds ana now = true ∧
      (lastOrderAgo .gt 3).holds ben now = true ∧ (lastOrderAgo .gt 1).holds ben now = true ∧
      ((SegmentDraft.new "lapsed").notOrderedWithinDays 1).definition.evaluate ben now =
        .ok true := by
  intro date now cutoff ana ben
  have reached : cutoff? now 1 = some cutoff := cutoff?_eq_some_iff.mpr (by decide)
  have recent : (lastOrderAgo .lt 1).holds ana now = true := by
    rw [holds_lastOrderAgo, reached]
    decide
  have lapsed : (lastOrderAgo .gt 3).holds ben now = true := rfl
  have le : (1 : UInt32) ≤ 3 := by decide
  have off : ¬ ∃ date, ben.lastOrderDate = some date ∧ cutoff? now 1 = some date := by
    rintro ⟨date, ⟨⟩, -⟩
  obtain ⟨grows, -, -, -, -, absolute⟩ := lastOrderAgo_scale ana now 1
  obtain ⟨-, shrinks, -, -, split, -⟩ := lastOrderAgo_scale ben now 1
  obtain ⟨within, -, without, never⟩ := split "lapsed" off
  obtain rfl := never rfl
  exact ⟨reached, recent, grows 3 le recent, (absolute cutoff reached).1.symm.trans recent, lapsed,
    shrinks 3 le lapsed, without⟩

end Criterion

end Outreach
