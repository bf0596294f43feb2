import Outreach.Proofs.Calendar.Days

/-!
Year, month and day of a date. They exist in the calendar and lead back to the day number. The
years are counted from March within eras of four hundred years; an era has four centuries, a
century has periods of four years, and the leap day is the last day of the last year of a period.
-/

namespace Outreach

/-- A day of an era lies in a century of the era, in a period of the century and in a year of the
period. Only the last year of a period has a day more than 365, and of the last periods of the
centuries only that of the last century. -/
structure IsEraDay (n century period year day : Int) : Prop where
  eq : n = 36524 * century + 1461 * period + 365 * year + day
  century_range : 0 ≤ century ∧ century ≤ 3
  period_range : 0 ≤ period ∧ period ≤ 24
  year_range : 0 ≤ year ∧ year ≤ 3
  day_range : 0 ≤ day ∧ day ≤ 365
  leap : day = 365 → year = 3 ∧ (period = 24 → century = 3)

theorem exists_isEraDay {n : Int} (first : 0 ≤ n) (last : n < 146097) :
    ∃ century period year day, IsEraDay n century period year day := by
  obtain ⟨c, hc⟩ : ∃ c, c = min 3 (n / 36524) := ⟨_, rfl⟩
  obtain ⟨r, hr⟩ : ∃ r, r = n - 36524 * c := ⟨_, rfl⟩
  obtain ⟨p, hp⟩ : ∃ p, p = r / 1461 := ⟨_, rfl⟩
  obtain ⟨s, hs⟩ : ∃ s, s = r - 1461 * p := ⟨_, rfl⟩
  obtain ⟨y, hy⟩ : ∃ y, y = min 3 (s / 365) := ⟨_, rfl⟩
  refine ⟨c, p, y, s - 365 * y, ?_, ?_, ?_, ?_, ?_, ?_⟩ <;> omega

namespace IsEraDay

variable {n c p y t : Int} (h : IsEraDay n c p y t)
include h

theorem yearOfEra_eq :
    (n - n / 1460 + n / 36524 - n / 146096) / 365 = 100 * c + 4 * p + y := by
  obtain ⟨eq, hc, hp, hy, ht, leap⟩ := h
  have within : 1461 * p + 365 * y + t ≤ 36523 ∨ c = 3 ∧ 1461 * p + 365 * y + t = 36524 := by
    omega
  have centuries : n / 36524 - n / 146096 = c := by
    rcases within with within | ⟨rfl, last⟩
    · have : n / 36524 = c := by omega
      have : n / 146096 = 0 := by omega
      omega
    · omega
  -- The division by 1460 runs ahead of the periods, but only within the last year of one.
  have periods : n / 1460 = 25 * c + p ∨ n / 1460 = 25 * c + p + 1 ∧ 1095 < 365 * y + t := by
    omega
  omega

theorem dayOfYear_eq :
    n - (365 * (100 * c + 4 * p + y) + (100 * c + 4 * p + y) / 4 - (100 * c + 4 * p + y) / 100) =
      t := by
  obtain ⟨eq, hc, hp, hy, ht, leap⟩ := h
  omega

/-- The leap day comes at the end of February of a leap year. -/
theorem isLeapYear (era : Int) (last : t = 365) :
    isLeapYear (100 * c + 4 * p + y + era * 400 + 1) = true := by
  obtain ⟨eq, hc, hp, hy, ht, leap⟩ := h
  obtain ⟨rfl, fourth⟩ := leap last
  have period : (100 * c + 4 * p + 3 + era * 400 + 1) % 4 = 0 := by omega
  have century : (100 * c + 4 * p + 3 + era * 400 + 1) % 100 ≠ 0 ∨
      (100 * c + 4 * p + 3 + era * 400 + 1) % 400 = 0 := by
    by_cases final : p = 24
    · have := fourth final
      omega
    · omega
  simp only [Outreach.isLeapYear, period, beq_self_eq_true, Bool.true_and, Bool.or_eq_true,
    bne_iff_ne, beq_iff_eq]
  exact century

end IsEraDay

/-- The month of a day of the year, both counted from March. -/
def marchMonth (t : Int) : Int := (5 * t + 2) / 153

def daysBefore (shifted : Int) : Int := (153 * shifted + 2) / 5

def calendarMonth (shifted : Int) : Int := if shifted < 10 then shifted + 3 else shifted - 9

theorem marchMonth_range {t : Int} (range : 0 ≤ t ∧ t ≤ 365) :
    0 ≤ marchMonth t ∧ marchMonth t ≤ 11 := by
  unfold marchMonth
  omega

theorem daysBefore_le (t : Int) : daysBefore (marchMonth t) ≤ t := by
  unfold marchMonth daysBefore
  omega

theorem lt_daysBefore_succ (t : Int) : t < daysBefore (marchMonth t + 1) := by
  unfold marchMonth daysBefore
  omega

theorem calendarMonth_range {s : Int} (range : 0 ≤ s ∧ s ≤ 11) :
    1 ≤ calendarMonth s ∧ calendarMonth s ≤ 12 := by
  unfold calendarMonth
  split <;> omega

/-- February is the last month of a year that begins in March. -/
theorem daysInMonth_calendarMonth {s year : Int} (range : 0 ≤ s ∧ s ≤ 10) :
    (daysInMonth year (calendarMonth s).toNat : Int) = daysBefore (s + 1) - daysBefore s := by
  have cases : s = 0 ∨ s = 1 ∨ s = 2 ∨ s = 3 ∨ s = 4 ∨ s = 5 ∨ s = 6 ∨ s = 7 ∨ s = 8 ∨ s = 9 ∨
      s = 10 := by
    omega
  rcases cases with rfl | rfl | rfl | rfl | rfl | rfl | rfl | rfl | rfl | rfl | rfl <;> rfl

namespace Date

/-- The place of a date: its era and its day there. -/
theorem exists_isEraDay (d : Date) : ∃ c p y t, IsEraDay (d.day % 146097) c p y t :=
  Outreach.exists_isEraDay (by omega) (by omega)

section Civil

variable {d : Date} {c p y t : Int} (h : IsEraDay (d.day % 146097) c p y t)
include h

theorem civil_eq : d.civil =
    (100 * c + 4 * p + y + d.day / 146097 * 400 +
        (if calendarMonth (marchMonth t) ≤ 2 then 1 else 0),
      (calendarMonth (marchMonth t)).toNat, (t - daysBefore (marchMonth t) + 1).toNat) := by
  unfold civil
  simp only [h.yearOfEra_eq, h.dayOfYear_eq]
  rfl

end Civil

/-- The year, month and day of a date lead back to it. -/
theorem civilDay_civil (d : Date) : civilDay d.civil.1 d.civil.2.1 d.civil.2.2 = d.day := by
  obtain ⟨c, p, y, t, h⟩ := d.exists_isEraDay
  have range := marchMonth_range h.day_range
  have before := daysBefore_le t
  have months := calendarMonth_range range
  rw [civil_eq h]
  obtain ⟨s, hs⟩ : ∃ s, s = marchMonth t := ⟨_, rfl⟩
  obtain ⟨era, hera⟩ : ∃ era, era = d.day / 146097 := ⟨_, rfl⟩
  rw [← hs] at range before months
  have day : ((t - daysBefore s + 1).toNat : Int) - 1 = t - daysBefore s := by omega
  have month : (calendarMonth s).toNat ≤ 2 ↔ calendarMonth s ≤ 2 := by omega
  -- The year that begins in March is the one before in January and February.
  have year : (if (calendarMonth s).toNat ≤ 2 then
        100 * c + 4 * p + y + era * 400 + (if calendarMonth s ≤ 2 then 1 else 0) - 1
      else 100 * c + 4 * p + y + era * 400 + (if calendarMonth s ≤ 2 then 1 else 0)) =
      100 * c + 4 * p + y + era * 400 := by
    simp only [month]
    split <;> omega
  have shifted : (if (calendarMonth s).toNat ≤ 2 then ((calendarMonth s).toNat : Int) + 9
      else ((calendarMonth s).toNat : Int) - 3) = s := by
    unfold calendarMonth at months ⊢
    split <;> split <;> omega
  have sum := h.dayOfYear_eq
  have yearOfEra : 0 ≤ 100 * c + 4 * p + y ∧ 100 * c + 4 * p + y < 400 := by
    obtain ⟨eq, hc, hp, hy, ht, leap⟩ := h
    omega
  unfold civilDay
  simp only [← hs, ← hera, year, shifted, day]
  generalize 100 * c + 4 * p + y = yoe at sum yearOfEra
  have remainder : (yoe + era * 400) % 400 = yoe := by omega
  have quotient : (yoe + era * 400) / 400 = era := by omega
  rw [remainder, quotient]
  unfold daysBefore
  omega

theorem civil_month_range (d : Date) : 1 ≤ d.civil.2.1 ∧ d.civil.2.1 ≤ 12 := by
  obtain ⟨c, p, y, t, h⟩ := d.exists_isEraDay
  have months := calendarMonth_range (marchMonth_range h.day_range)
  rw [civil_eq h]
  constructor <;> simp only <;> omega

theorem civil_day_range (d : Date) :
    1 ≤ d.civil.2.2 ∧ d.civil.2.2 ≤ daysInMonth d.civil.1 d.civil.2.1 := by
  obtain ⟨c, p, y, t, h⟩ := d.exists_isEraDay
  have range := marchMonth_range h.day_range
  have before := daysBefore_le t
  have after := lt_daysBefore_succ t
  rw [civil_eq h]
  refine ⟨by simp only; omega, ?_⟩
  by_cases february : marchMonth t = 11
  · have length : (t - daysBefore 11 + 1).toNat ≤ 29 := by
      have := h.day_range
      unfold daysBefore
      omega
    by_cases last : t = 365
    · have leap := h.isLeapYear (d.day / 146097) last
      simp only [february]
      change _ ≤ if isLeapYear (_ + 1) then 29 else 28
      rw [leap]
      exact length
    · have short : (t - daysBefore 11 + 1).toNat ≤ 28 := by
        have := h.day_range
        unfold daysBefore
        omega
      simp only [february]
      change _ ≤ if isLeapYear (_ + 1) then 29 else 28
      split <;> omega
  · have early : 0 ≤ marchMonth t ∧ marchMonth t ≤ 10 := by omega
    simp only
    have length := @daysInMonth_calendarMonth _ (100 * c + 4 * p + y + d.day / 146097 * 400 +
      if calendarMonth (marchMonth t) ≤ 2 then 1 else 0) early
    omega

theorem civil_day_le (d : Date) : d.civil.2.2 ≤ 31 := by
  have longest : daysInMonth d.civil.1 d.civil.2.1 ≤ 31 := by
    unfold daysInMonth
    split
    · split <;> decide
    · split <;> decide
  exact Nat.le_trans d.civil_day_range.2 longest

theorem civil_year_natAbs_lt (d : Date) : d.civil.1.natAbs < 2147483648 := by
  have first : -95745824 ≤ d.day := d.first_le
  have last : d.day ≤ 95745704 := d.le_last
  unfold civil
  simp only
  omega

theorem ofCivil?_civil (d : Date) : ofCivil? d.civil.1 d.civil.2.1 d.civil.2.2 = some d := by
  have month := d.civil_month_range
  have day := d.civil_day_range
  rw [ofCivil?, if_pos ⟨month.1, month.2, day.1, day.2⟩, d.civilDay_civil, ofDay?_day]

end Date

end Outreach
