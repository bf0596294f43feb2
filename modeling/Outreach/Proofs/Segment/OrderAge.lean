import Outreach.Proofs.Number.Whole
import Outreach.Proofs.Segment.Recency

/-!
The age of the last order told in two ways: as a number of whole days, compared as floats, and as a
date, compared with a moment so many days ago. Away from leap seconds the two agree on less than so
many days. More than so many days ago is at least so many days old; the converse fails at the cutoff
alone. A customer who never ordered is as old as the greatest number of days that is compared.
-/

namespace Outreach

/-- Neither the moment nor the customer's last order is inside a leap second. -/
structure Customer.AwayFromLeapSeconds (c : Customer) (now : Moment) : Prop where
  now_isLeap : now.time.isLeap = false
  order_isLeap : ∀ date, c.lastOrderDate = some date → date.time.isLeap = false

namespace Criterion

def orderAge (comparison : Comparison) (days : Int) : Criterion :=
  ⟨.daysSinceLastOrder, comparison, .number (Json.Number.integer days).toFloat⟩

section Age

variable {c : Customer} {now : Moment} {n : Nat}

theorem natAbs_orderAge_lt (c : Customer) (now : Moment) : (c.orderAge now).natAbs < 2 ^ 53 := by
  unfold Customer.orderAge
  split
  · exact Moment.natAbs_daysSince_lt _ _
  · decide

theorem holds_orderAge (upper : n ≤ neverOrderedDays) (comparison : Comparison) :
    (orderAge comparison n).holds c now = comparison.holdsOf (compare (c.orderAge now) n) := by
  unfold neverOrderedDays at upper
  exact Whole.compareNumbers_ofInt (natAbs_orderAge_lt c now) (by omega) comparison

/-- The last order is less than so many days old just if it is later than that many days ago. One
that never was is not, as long as the days are no more than the age that stands for it. -/
theorem orderAge_lt_iff (away : c.AwayFromLeapSeconds now) (lower : 1 ≤ n)
    (upper : n ≤ neverOrderedDays) :
    c.orderAge now < n ↔
      ∃ date, c.lastOrderDate = some date ∧ now.ticksAgo n < date.ticks := by
  unfold Customer.orderAge
  cases last : c.lastOrderDate with
  | none => simpa using upper
  | some date =>
    have age := Moment.daysSince_lt_iff away.now_isLeap (away.order_isLeap date last) lower
    simpa using age

theorem holds_orderAge_lt_iff (away : c.AwayFromLeapSeconds now) (lower : 1 ≤ n)
    (upper : n ≤ neverOrderedDays) :
    (orderAge .lt n).holds c now = true ↔
      ∃ date, c.lastOrderDate = some date ∧ now.ticksAgo n < date.ticks := by
  rw [← orderAge_lt_iff away lower upper, holds_orderAge upper, ← Int.compare_eq_lt]
  exact beq_iff_eq

theorem holds_orderAge_lt (away : c.AwayFromLeapSeconds now) (lower : 1 ≤ n)
    (upper : n ≤ neverOrderedDays) :
    (orderAge .lt n).holds c now = (lastOrderAgo .lt (UInt32.ofNat n)).holds c now := by
  have same : (UInt32.ofNat n).toNat = n :=
    UInt32.toNat_ofNat_of_lt' (Nat.lt_of_le_of_lt upper (by decide))
  rw [Bool.eq_iff_iff, holds_ago_lt_iff, same, holds_orderAge_lt_iff away lower upper]

theorem holds_orderAge_gte (upper : n ≤ neverOrderedDays) :
    (orderAge .gte n).holds c now = !(orderAge .lt n).holds c now := by
  rw [holds_orderAge upper, holds_orderAge upper]
  rfl

/-- The age in whole days agrees with the date. Fewer days than some number have passed just if the
last order is less than that many days ago, which is to say that it is later than the place so many
days ago. If it is more than that many days ago, at least so many have passed; if so many have
passed, it is more than that many days ago or at the cutoff itself. -/
theorem orderAge_agrees_with_ago (away : c.AwayFromLeapSeconds now) (lower : 1 ≤ n)
    (upper : n ≤ 999999) :
    (orderAge .lt n).holds c now = (lastOrderAgo .lt (UInt32.ofNat n)).holds c now ∧
    ((orderAge .lt n).holds c now = true ↔
      ∃ date, c.lastOrderDate = some date ∧ now.ticksAgo n < date.ticks) ∧
    ((lastOrderAgo .gt (UInt32.ofNat n)).holds c now = true →
      (orderAge .gte n).holds c now = true) ∧
    ((orderAge .gte n).holds c now = true →
      (lastOrderAgo .gt (UInt32.ofNat n)).holds c now = true ∨
        ∃ date, c.lastOrderDate = some date ∧ cutoff? now (UInt32.ofNat n) = some date) := by
  have less := holds_orderAge_lt away lower upper
  have atLeast : (orderAge .gte n).holds c now =
      !(lastOrderAgo .lt (UInt32.ofNat n)).holds c now := by
    rw [holds_orderAge_gte upper, less]
  refine ⟨less, holds_orderAge_lt_iff away lower upper, ?_, ?_⟩
  · intro more
    rw [atLeast, Bool.not_eq_true']
    exact Bool.eq_false_iff.mpr fun recent => not_holds_ago_lt_and_gt ⟨recent, more⟩
  · intro old
    rw [atLeast, Bool.not_eq_true'] at old
    cases more : (lastOrderAgo .gt (UInt32.ofNat n)).holds c now with
    | true => exact .inl rfl
    | false => exact .inr (holds_ago_neither_iff.mp ⟨old, more⟩)

end Age

/-- An order half a day ahead is less than a day old, and one that never was is as old as can be
told. -/
theorem orderAge_agrees_with_ago_ahead :
    let date : Date := ⟨0, by decide, by decide⟩
    let now : Moment := ⟨date, 0, 0, by decide, by decide⟩
    let ana : Customer :=
      { Customer.new (.ofNat 1) "ana@example.com" with
        lastOrderDate := some ⟨date, 43200, 0, by decide, by decide⟩ }
    let ben : Customer := .new (.ofNat 2) "ben@example.com"
    ana.AwayFromLeapSeconds now ∧ (orderAge .lt (1 : Nat)).holds ana now = true ∧
      ben.AwayFromLeapSeconds now ∧ (orderAge .gte (999999 : Nat)).holds ben now = true := by
  intro date now ana ben
  have awayAna : ana.AwayFromLeapSeconds now := by
    refine ⟨rfl, ?_⟩
    rintro _ ⟨⟩
    rfl
  have awayBen : ben.AwayFromLeapSeconds now := by
    refine ⟨rfl, ?_⟩
    rintro _ ⟨⟩
  have recent : (lastOrderAgo .lt 1).holds ana now = true :=
    holds_ago_lt_iff.mpr ⟨_, rfl, by decide⟩
  obtain ⟨less, -, -, -⟩ := orderAge_agrees_with_ago (n := 1) awayAna (by decide) (by decide)
  obtain ⟨-, -, old, -⟩ := orderAge_agrees_with_ago (n := 999999) awayBen (by decide) (by decide)
  exact ⟨awayAna, less.trans recent, awayBen, old rfl⟩

end Criterion

end Outreach
