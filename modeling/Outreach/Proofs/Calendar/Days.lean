import Outreach.Calendar.Basic

/-!
Whole days added to a moment. The date moves on by the days; the time of day stays, except
that a leap second gives way to the second before it as soon as the date moves. Days that are
added one after the other add up, since none of them is taken back.
-/

namespace Outreach

def InCalendar (day : Int) : Prop :=
  firstDay ≤ day ∧ day ≤ lastDay

namespace Date

theorem inCalendar (d : Date) : InCalendar d.day := ⟨d.first_le, d.le_last⟩

theorem ext_day {d e : Date} (h : d.day = e.day) : d = e := by
  cases d
  cases e
  cases h
  rfl

theorem addDays?_eq_some_iff {d e : Date} {n : Int} :
    d.addDays? n = some e ↔ e.day = d.day + n := by
  constructor
  · exact day_of_ofDay?
  · intro h
    rw [addDays?, ← h, ofDay?_day]

end Date

namespace TimeOfDay

theorem fraction_lt (t : TimeOfDay) : t.fraction < nanosPerSecond := by
  have := t.nanosecond_lt
  unfold fraction isLeap nanosPerSecond
  split
  · omega
  · next h =>
    rw [decide_eq_true_eq] at h
    omega

@[simp] theorem isLeap_dropLeap (t : TimeOfDay) : t.dropLeap.isLeap = false :=
  decide_eq_false (Nat.not_le.mpr t.fraction_lt)

@[simp] theorem dropLeap_dropLeap (t : TimeOfDay) : t.dropLeap.dropLeap = t.dropLeap :=
  dropLeap_of_not_isLeap t.isLeap_dropLeap

end TimeOfDay

namespace Moment

/-- A moment lies a number of days after another; the number is not negative. -/
structure IsDaysAfter (k : Moment) (n : Int) (m : Moment) : Prop where
  day_eq : k.date.day = m.date.day + n
  time_eq : k.time = if 0 < n then m.time.dropLeap else m.time

theorem IsDaysAfter.zero (m : Moment) : m.IsDaysAfter 0 m := by
  constructor <;> simp

theorem IsDaysAfter.unique {k k' m : Moment} {n : Int} (h : k.IsDaysAfter n m)
    (h' : k'.IsDaysAfter n m) : k = k' := by
  obtain ⟨date, time⟩ := k
  obtain ⟨date', time'⟩ := k'
  have same : date = date' := Date.ext_day (h.day_eq.trans h'.day_eq.symm)
  have sameTime : time = time' := h.time_eq.trans h'.time_eq.symm
  rw [same, sameTime]

theorem IsDaysAfter.trans {k l m : Moment} {a b : Int} (ha : 0 ≤ a) (hb : 0 ≤ b)
    (h : k.IsDaysAfter b l) (h' : l.IsDaysAfter a m) : k.IsDaysAfter (a + b) m := by
  constructor
  · rw [h.day_eq, h'.day_eq]
    omega
  · rw [h.time_eq, h'.time_eq]
    by_cases pa : 0 < a
    · have : 0 < a + b := by omega
      simp [pa, this]
    · obtain rfl : a = 0 := by omega
      simp

/-- The days between two moments that lie after the same third. -/
theorem IsDaysAfter.between {k l m : Moment} {a b : Int} (ha : 0 ≤ a) (hb : 0 ≤ b)
    (h : k.IsDaysAfter (a + b) m) (h' : l.IsDaysAfter a m) : k.IsDaysAfter b l := by
  constructor
  · rw [h.day_eq, h'.day_eq]
    omega
  · rw [h.time_eq, h'.time_eq]
    by_cases pa : 0 < a
    · have : 0 < a + b := by omega
      simp [pa, this]
    · obtain rfl : a = 0 := by omega
      simp

theorem exists_isDaysAfter {m : Moment} {n : Int} (h : InCalendar (m.date.day + n)) :
    ∃ k : Moment, k.IsDaysAfter n m :=
  ⟨⟨⟨_, h.1, h.2⟩, if 0 < n then m.time.dropLeap else m.time⟩, rfl, rfl⟩

theorem addDays?_eq_some_iff {m k : Moment} {n : Int} (h : 0 ≤ n) :
    m.addDays? n = some k ↔ k.IsDaysAfter n m := by
  have time : (if n = 0 ∨ m.time.isLeap = false then m.time else m.time.dropLeap) =
      if 0 < n then m.time.dropLeap else m.time := by
    by_cases pos : 0 < n
    · cases leap : m.time.isLeap with
      | true => simp [pos, show n ≠ 0 by omega]
      | false => simp [pos, TimeOfDay.dropLeap_of_not_isLeap leap]
    · simp [show n = 0 by omega]
  have moved : m.addDays? n = (m.date.addDays? n).map fun d =>
      ⟨d, if 0 < n then m.time.dropLeap else m.time⟩ := by
    rw [← time]
    unfold addDays?
    by_cases keep : n = 0 ∨ m.time.isLeap = false
    · simp only [keep, if_true]
    · have pos : 0 < n := by omega
      simp only [keep, if_false, pos, if_true]
  rw [moved, Option.map_eq_some_iff]
  constructor
  · rintro ⟨d, hd, rfl⟩
    exact ⟨Date.addDays?_eq_some_iff.mp hd, rfl⟩
  · intro after
    refine ⟨k.date, Date.addDays?_eq_some_iff.mpr after.day_eq, ?_⟩
    rw [← after.time_eq]

/-- Adding days never leads into a leap second. -/
theorem IsDaysAfter.isLeap_eq_false {k m : Moment} {n : Int} (h : k.IsDaysAfter n m)
    (regular : m.time.isLeap = false) : k.time.isLeap = false := by
  rw [h.time_eq, TimeOfDay.dropLeap_of_not_isLeap regular, ite_self]
  exact regular

/-- Adding days never leads back. -/
theorem IsDaysAfter.ticks_le {k m : Moment} {n : Int} (hn : 0 ≤ n) (h : k.IsDaysAfter n m) :
    m.ticks ≤ k.ticks := by
  unfold ticks
  rw [h.day_eq, h.time_eq]
  by_cases pos : 0 < n
  · have := m.time.nanosecond_lt
    simp only [pos, if_true, TimeOfDay.dropLeap]
    omega
  · simp only [pos, if_false]
    omega

end Moment

end Outreach
