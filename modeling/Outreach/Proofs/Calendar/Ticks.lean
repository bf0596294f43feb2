import Mathlib.Algebra.Group.Nat.Defs
import Outreach.Proofs.Calendar.Days

/-!
Moments as places on a line. Different moments have different ticks, and there is a moment for every
number of ticks between two others. Days taken from a moment take as many ticks each, save that a
leap second, in the later half of its second's ticks, comes to lie in the earlier half of the next.
The place so reached is defined also where the calendar has no moment for it. Away from leap seconds
it tells how many whole days lie between two moments.
-/

namespace Outreach

namespace Moment

/-- The ticks of a time on a day, which need not be in the calendar. -/
def ticksAt (day : Int) (t : TimeOfDay) : Int :=
  (day * 86400 + t.second) * 2000000000 + t.nanosecond

theorem ticksAt_date_time (m : Moment) : ticksAt m.date.day m.time = m.ticks := rfl

theorem before_eq_true_iff {a b : Moment} : a.before b = true ↔ a.ticks < b.ticks :=
  decide_eq_true_iff

theorem before_eq_false_iff {a b : Moment} : a.before b = false ↔ b.ticks ≤ a.ticks := by
  rw [before, decide_eq_false_iff_not]
  omega

/-- The latest of some dates; there is none only if there are no dates. -/
def IsLatest (dates : List Moment) : Option Moment → Prop
  | none => dates = []
  | some m => m ∈ dates ∧ ∀ x ∈ dates, m.before x = false

def IsEarliest (dates : List Moment) : Option Moment → Prop
  | none => dates = []
  | some m => m ∈ dates ∧ ∀ x ∈ dates, x.before m = false

/-- In ascending order the first is the earliest. -/
theorem isEarliest_head? {dates : List Moment}
    (ascending : dates.Pairwise fun a b => a.ticks ≤ b.ticks) : IsEarliest dates dates.head? := by
  cases dates with
  | nil => rfl
  | cons first rest =>
    obtain ⟨later, -⟩ := List.pairwise_cons.mp ascending
    refine ⟨List.mem_cons_self, ?_⟩
    intro x hx
    rw [before_eq_false_iff]
    rcases List.mem_cons.mp hx with rfl | hx
    · exact Int.le_refl _
    · exact later x hx

/-- In ascending order the last is the latest. -/
theorem isLatest_getLast? {dates : List Moment}
    (ascending : dates.Pairwise fun a b => a.ticks ≤ b.ticks) : IsLatest dates dates.getLast? := by
  cases last : dates.getLast? with
  | none => exact List.getLast?_eq_none_iff.mp last
  | some m =>
    obtain ⟨earlier, rfl⟩ := List.getLast?_eq_some_iff.mp last
    obtain ⟨-, -, before⟩ := List.pairwise_append.mp ascending
    refine ⟨List.mem_append_right _ (List.mem_singleton_self m), ?_⟩
    intro x hx
    rw [before_eq_false_iff]
    rcases List.mem_append.mp hx with hx | hx
    · exact before x hx m (List.mem_singleton_self m)
    · obtain rfl := List.mem_singleton.mp hx
      exact Int.le_refl _

theorem ticksAt_inj {day day' : Int} {t t' : TimeOfDay} :
    ticksAt day t = ticksAt day' t' ↔ day = day' ∧ t = t' := by
  obtain ⟨second, nanosecond, second_lt, nanosecond_lt⟩ := t
  obtain ⟨second', nanosecond', second_lt', nanosecond_lt'⟩ := t'
  simp only [ticksAt, TimeOfDay.mk.injEq]
  omega

theorem eq_of_ticks_eq {a b : Moment} (h : a.ticks = b.ticks) : a = b := by
  have parts : ticksAt a.date.day a.time = ticksAt b.date.day b.time := h
  obtain ⟨day, time⟩ := ticksAt_inj.mp parts
  obtain ⟨date, _⟩ := a
  obtain ⟨date', _⟩ := b
  obtain rfl : date = date' := Date.ext_day day
  obtain rfl := time
  rfl

/-- The calendar has no gaps. -/
theorem exists_ticks_eq {a b : Moment} {x : Int} (lower : a.ticks ≤ x) (upper : x ≤ b.ticks) :
    ∃ m : Moment, m.ticks = x := by
  have first := a.date.first_le
  have last := b.date.le_last
  have second := b.time.second_lt
  have nanosecond := b.time.nanosecond_lt
  unfold ticks at lower upper
  let date : Date := ⟨x / 2000000000 / 86400, by omega, by omega⟩
  let time : TimeOfDay :=
    ⟨(x / 2000000000 % 86400).toNat, (x % 2000000000).toNat, by omega, by omega⟩
  refine ⟨⟨date, time⟩, ?_⟩
  simp only [ticks, date, time]
  omega

def ticksAgo (m : Moment) (days : Nat) : Int :=
  m.ticks - days * (86400 * 2000000000) +
    if 0 < days ∧ m.time.isLeap = true then 1000000000 else 0

theorem ticksAgo_zero (m : Moment) : m.ticksAgo 0 = m.ticks := by
  simp [ticksAgo]

theorem ticksAgo_le_of_le {m : Moment} {n k : Nat} (le : n ≤ k) : m.ticksAgo k ≤ m.ticksAgo n := by
  obtain rfl | lt := Nat.eq_or_lt_of_le le
  · exact Int.le_refl _
  · unfold ticksAgo
    split <;> split <;> omega

theorem map_addDays?_eq_some_iff {d : Date} {n : Int} {t : TimeOfDay} {c : Moment} :
    (d.addDays? n).map (fun e => (⟨e, t⟩ : Moment)) = some c ↔ c.ticks = ticksAt (d.day + n) t := by
  rw [Option.map_eq_some_iff, ← ticksAt_date_time, ticksAt_inj]
  constructor
  · rintro ⟨e, moved, rfl⟩
    exact ⟨Date.addDays?_eq_some_iff.mp moved, rfl⟩
  · rintro ⟨day, rfl⟩
    exact ⟨c.date, Date.addDays?_eq_some_iff.mpr day, rfl⟩

/-- Days can be taken from a moment as far as the calendar has the place. -/
theorem addDays?_neg_eq_some_iff {m c : Moment} {days : Nat} :
    m.addDays? (-(days : Int)) = some c ↔ c.ticks = m.ticksAgo days := by
  unfold addDays?
  by_cases kept : -(days : Int) = 0 ∨ m.time.isLeap = false
  · have ago : m.ticksAgo days = ticksAt (m.date.day + -(days : Int)) m.time := by
      have unshifted : ¬ (0 < days ∧ m.time.isLeap = true) := by
        rintro ⟨pos, leap⟩
        rcases kept with zero | regular
        · omega
        · rw [leap] at regular
          cases regular
      rw [ticksAgo, if_neg unshifted, ticks, ticksAt]
      omega
    rw [if_pos kept, map_addDays?_eq_some_iff, ago]
  · obtain ⟨nonzero, leap⟩ := not_or.mp kept
    rw [Bool.not_eq_false] at leap
    have pos : 0 < days := by omega
    have late : 1000000000 ≤ m.time.nanosecond := of_decide_eq_true leap
    have fraction : m.time.fraction = m.time.nanosecond - 1000000000 := if_pos leap
    have shifted : m.ticksAgo days = m.ticks - days * (86400 * 2000000000) + 1000000000 := by
      rw [ticksAgo, if_pos ⟨pos, leap⟩]
    rw [if_neg kept, if_neg (by omega)]
    -- the second after may be the first of the next day
    by_cases sameDay : m.time.second + 1 < 86400
    · rw [dif_pos sameDay, map_addDays?_eq_some_iff, shifted]
      simp only [ticks, ticksAt, fraction]
      omega
    · have second := m.time.second_lt
      rw [dif_neg sameDay, map_addDays?_eq_some_iff, shifted]
      simp only [ticks, ticksAt, fraction]
      omega

section Between

variable {a b : Moment}

theorem leapBetween_eq_zero {s t : TimeOfDay} (regularS : s.isLeap = false)
    (regularT : t.isLeap = false) : leapBetween s t = 0 := by
  simp [leapBetween, regularS, regularT]

/-- Rounding towards zero leaves a negative quotient below every positive number. -/
theorem tdiv_lt_iff {x n d : Int} (posD : 0 < d) (posN : 0 < n) : x.tdiv d < n ↔ x < n * d := by
  constructor
  · exact Int.lt_mul_of_tdiv_lt posD
  · intro below
    rcases Int.lt_or_le x 0 with neg | nonneg
    · have opposite : 0 ≤ (-x).tdiv d := Int.tdiv_nonneg (by omega) (Int.le_of_lt posD)
      rw [Int.neg_tdiv] at opposite
      omega
    · rw [Int.tdiv_eq_ediv_of_nonneg nonneg]
      exact Int.ediv_lt_of_lt_mul posD below

/-- Less than so many whole days lie behind just if the moment is later than that many days ago. -/
theorem daysSince_lt_iff {n : Nat} (regularA : a.time.isLeap = false)
    (regularB : b.time.isLeap = false) (pos : 0 < n) :
    a.daysSince b < n ↔ a.ticksAgo n < b.ticks := by
  have nanosecondA : a.time.nanosecond < 1000000000 :=
    Nat.lt_of_not_le (of_decide_eq_false regularA)
  have nanosecondB : b.time.nanosecond < 1000000000 :=
    Nat.lt_of_not_le (of_decide_eq_false regularB)
  have ago : a.ticksAgo n = a.ticks - n * (86400 * 2000000000) := by simp [ticksAgo, regularA]
  rw [daysSince, tdiv_lt_iff (by decide) (by omega), since, leapBetween_eq_zero regularA regularB,
    ago, ticks, ticks]
  omega

/-- Days that are added are counted again, if there is no leap second to drop. -/
theorem IsDaysAfter.daysSince_eq {n : Int} (after : a.IsDaysAfter n b)
    (regular : b.time.isLeap = false) : a.daysSince b = n := by
  have same : a.time = b.time := by
    rw [after.time_eq, TimeOfDay.dropLeap_of_not_isLeap regular, ite_self]
  have whole : a.since b = n * (86400 * 1000000000) := by
    rw [since, after.day_eq, same, leapBetween_eq_zero regular regular]
    omega
  rw [daysSince, whole, Int.mul_tdiv_cancel _ (by decide)]

/-- The calendar is short enough for its days to be counted in 53 binary digits. -/
theorem natAbs_daysSince_lt (a b : Moment) : (a.daysSince b).natAbs < 2 ^ 53 := by
  have firstA := a.date.first_le
  have lastA := a.date.le_last
  have firstB := b.date.first_le
  have lastB := b.date.le_last
  have secondA := a.time.second_lt
  have secondB := b.time.second_lt
  have nanosecondA := a.time.nanosecond_lt
  have nanosecondB := b.time.nanosecond_lt
  have leap : (leapBetween a.time b.time).natAbs ≤ 1 := by
    unfold leapBetween
    split
    · decide
    · split <;> decide
  rw [daysSince, Int.natAbs_tdiv]
  apply Nat.div_lt_of_lt_mul
  unfold since
  unfold firstDay at firstA firstB
  unfold lastDay at lastA lastB
  omega

end Between

end Moment

end Outreach
