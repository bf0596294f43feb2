import Outreach.Calendar.Reading
import Outreach.Proofs.Calendar.Civil
import Outreach.Proofs.Except
import Outreach.Proofs.Text.Numeral

/-!
Moments with their offset. The strict form reads back what is written of a moment if its year has
four digits and no sign, and if its leap second, should it be in one, ends a minute.
-/

namespace Outreach

def Date.PlainYear (d : Date) : Prop :=
  0 ≤ d.civil.1 ∧ d.civil.1 ≤ 9999

instance (d : Date) : Decidable d.PlainYear := inferInstanceAs (Decidable (_ ∧ _))

/-- A leap second comes after the last second of a minute. -/
def TimeOfDay.Regular (t : TimeOfDay) : Prop :=
  t.isLeap = true → t.second % 60 = 59

instance (t : TimeOfDay) : Decidable t.Regular := inferInstanceAs (Decidable (_ → _))

theorem TimeOfDay.regular_midnight : midnight.Regular := by decide

namespace TimeOfDay

theorem hour_le (t : TimeOfDay) : t.hour ≤ 23 := by
  have second := t.second_lt
  unfold hour
  omega

theorem minute_le (t : TimeOfDay) : t.minute ≤ 59 := by
  unfold minute
  omega

theorem secondOfMinute_le (t : TimeOfDay) : t.secondOfMinute ≤ 60 := by
  unfold secondOfMinute
  split <;> omega

end TimeOfDay

/-- The hour, minute and second that a clock shows tell the time. -/
theorem TimeOfDay.Regular.of?_eq {t : TimeOfDay} (h : t.Regular) :
    of? t.hour t.minute t.secondOfMinute t.fraction = some t := by
  have second := t.second_lt
  have nanosecond := t.nanosecond_lt
  have hour : t.hour < 24 := Nat.lt_succ_of_le t.hour_le
  have minute : t.minute < 60 := Nat.lt_succ_of_le t.minute_le
  have total : t.hour * 3600 + t.minute * 60 + t.second % 60 = t.second := by
    unfold TimeOfDay.hour TimeOfDay.minute
    omega
  by_cases leap : t.isLeap = true
  · have last : t.second % 60 = 59 := h leap
    have kept : t.nanosecond - nanosPerSecond + nanosPerSecond = t.nanosecond := by
      have : nanosPerSecond ≤ t.nanosecond := of_decide_eq_true leap
      omega
    simp only [of?, secondOfMinute, fraction, leap, last, if_true, kept]
    rw [dif_pos ⟨hour, minute, by decide, nanosecond⟩]
    simp only [← last, total]
  · have within : t.second % 60 < 60 := Nat.mod_lt _ (by decide)
    have notSixty : t.second % 60 ≠ 60 := Nat.ne_of_lt within
    simp only [of?, secondOfMinute, fraction, leap, if_false, Bool.false_eq_true, Nat.add_zero,
      notSixty]
    rw [dif_pos ⟨hour, minute, within, nanosecond⟩]
    simp only [total]

namespace Calendar

open Text

theorem fixed_padded {width n : Nat} (pos : 0 < width) (h : n < 10 ^ width) (rest : List Char) :
    fixed width (padded width n ++ rest) = some (n, rest) := by
  have length := length_padded pos h
  have taken : (padded width n ++ rest).take width = padded width n := List.take_left' length
  have left : (padded width n ++ rest).drop width = rest := List.drop_left' length
  have digits : (padded width n).all Char.isDigit = true :=
    List.all_eq_true.mpr fun _ => isDigit_of_mem_padded
  simp only [fixed, taken, left, length, digits, digitsValue_padded, and_self, if_true]

theorem sign_cons (x : Char) (rest : List Char) : sign x (x :: rest) = some rest :=
  if_pos rfl

theorem number_append {width : Option Nat} {digits rest : List Char}
    (all : ∀ c ∈ digits, c.isDigit = true) (nonempty : digits ≠ [])
    (fits : ∀ w, width = some w → digits.length ≤ w)
    (small : digitsValue digits < 9223372036854775808)
    (ends : rest.takeWhile Char.isDigit = []) :
    number width (digits ++ rest) = .ok (digitsValue digits, rest) := by
  have run : (digits ++ rest).takeWhile Char.isDigit = digits := by
    rw [List.takeWhile_append_of_pos all, ends, List.append_nil]
  have start : (digits ++ rest).isEmpty = false :=
    List.isEmpty_eq_false_iff.mpr (List.append_ne_nil_of_left_ne_nil nonempty rest)
  have read : digits.isEmpty = false := List.isEmpty_eq_false_iff.mpr nonempty
  cases width with
  | none =>
    simp only [number, start, run, read, small, List.drop_left, if_true, Bool.false_eq_true,
      if_false]
  | some w =>
    have kept : digits.take w = digits := List.take_of_length_le (fits w rfl)
    simp only [number, start, run, kept, read, small, List.drop_left, if_true,
      Bool.false_eq_true, if_false]

theorem number_padded {width k n : Nat} {rest : List Char} (pos : 0 < k) (fits : k ≤ width)
    (h : n < 10 ^ k) (small : n < 9223372036854775808)
    (ends : rest.takeWhile Char.isDigit = []) :
    number (some width) (padded k n ++ rest) = .ok (n, rest) := by
  have length := length_padded pos h
  have value := digitsValue_padded k n
  have short : ∀ w, some width = some w → (padded k n).length ≤ w := by
    intro w same
    obtain rfl := Option.some.inj same
    omega
  have read := number_append (fun _ => isDigit_of_mem_padded) (padded_ne_nil k n) short
    (by omega) ends
  rwa [value] at read

/-- Without a width a number has as many digits as it needs. -/
theorem number_none_padded {k n : Nat} {rest : List Char} (small : n < 9223372036854775808)
    (ends : rest.takeWhile Char.isDigit = []) :
    number none (padded k n ++ rest) = .ok (n, rest) := by
  have value := digitsValue_padded k n
  have unbounded : ∀ w, (none : Option Nat) = some w → (padded k n).length ≤ w := nofun
  have read := number_append (fun _ => isDigit_of_mem_padded) (padded_ne_nil k n) unbounded
    (by omega) ends
  rwa [value] at read

section Fraction

variable {rest : List Char} (ends : rest.takeWhile Char.isDigit = [])
include ends

theorem nanoseconds_padded {k n : Nat} (pos : 0 < k) (fits : k ≤ 9) (h : n < 10 ^ k) :
    nanoseconds ('.' :: (padded k n ++ rest)) = .ok (n * 10 ^ (9 - k), rest) := by
  have small : n < 9223372036854775808 := by
    have : 10 ^ k ≤ 10 ^ 9 := Nat.pow_le_pow_right (by decide) fits
    omega
  have length := length_padded pos h
  have count : (padded k n ++ rest).length - rest.length = k := by
    rw [List.length_append]
    omega
  have stays : rest.dropWhile Char.isDigit = rest := by
    have whole := List.takeWhile_append_dropWhile (p := Char.isDigit) (l := rest)
    rwa [ends, List.nil_append] at whole
  change (number (some 9) (padded k n ++ rest) >>= fun x => _) = _
  rw [number_padded pos fits h small ends, Except.ok_bind]
  simp only [count, stays]
  rfl

/-- A fraction is written with as many digits as show it in full. -/
theorem nanoseconds_writeFraction {n : Nat} (h : n < 1000000000)
    (bare : rest.head? ≠ some '.') :
    nanoseconds (TimeOfDay.writeFraction n ++ rest) = .ok (n, rest) := by
  unfold TimeOfDay.writeFraction
  by_cases zero : n = 0
  · rw [if_pos zero, zero, List.nil_append]
    unfold nanoseconds
    split
    · next tail => exact absurd rfl bare
    · rfl
  rw [if_neg zero]
  by_cases millis : n % 1000000 = 0
  · rw [if_pos millis, List.cons_append, nanoseconds_padded ends (by decide) (by decide) (by omega)]
    congr 2
    omega
  rw [if_neg millis]
  by_cases micros : n % 1000 = 0
  · rw [if_pos micros, List.cons_append, nanoseconds_padded ends (by decide) (by decide) (by omega)]
    congr 2
    omega
  rw [if_neg micros, List.cons_append, nanoseconds_padded ends (by decide) (by decide) (by omega)]
  congr 2
  omega

end Fraction

theorem toUniversal_zero (date : Date) (time : TimeOfDay) :
    toUniversal date time 0 = .ok ⟨date, time⟩ := by
  have second := time.second_lt
  have sameDay : ((time.second : Int) - 0) / 86400 = 0 := by omega
  have sameSecond : (((time.second : Int) - 0) % 86400).toNat = time.second := by omega
  simp only [toUniversal, Moment.subSeconds?, sameDay, sameSecond, Date.addDays?_zero]
  rfl

end Calendar

namespace Moment

open Calendar Text

/-- What the strict form reads after the year of a written moment. -/
theorem writeOffset_eq {m : Moment} (plain : m.date.PlainYear) :
    m.writeOffset = padded 4 m.date.civil.1.natAbs ++ ('-' :: (padded 2 m.date.civil.2.1 ++
      ('-' :: (padded 2 m.date.civil.2.2 ++ ('T' :: (padded 2 m.time.hour ++
        (':' :: (padded 2 m.time.minute ++ (':' :: (padded 2 m.time.secondOfMinute ++
          (TimeOfDay.writeFraction m.time.fraction ++
            ['+', '0', '0', ':', '0', '0']))))))))))) := by
  have unsigned : (if m.date.civil.1 < 0 then ['-'] else
      if 9999 < m.date.civil.1 then ['+'] else []) = ([] : List Char) := by
    rw [if_neg (by have := plain.1; omega), if_neg (by have := plain.2; omega)]
  simp only [writeOffset, writeLocal, Date.write, TimeOfDay.write, TimeOfDay.writeShort, unsigned,
    List.nil_append, List.append_assoc, List.cons_append]

/-- The strict form reads a moment back if its year is plain and its leap second regular. -/
theorem readStrict?_writeOffset {m : Moment} (plain : m.date.PlainYear)
    (regular : m.time.Regular) : readStrict? m.writeOffset = some m := by
  have year : m.date.civil.1.natAbs < 10 ^ 4 := by
    have := plain.1
    have := plain.2
    omega
  have sameYear : (m.date.civil.1.natAbs : Int) = m.date.civil.1 :=
    Int.natAbs_of_nonneg plain.1
  have month : m.date.civil.2.1 < 10 ^ 2 := by
    have := m.date.civil_month_range
    omega
  have day : m.date.civil.2.2 < 10 ^ 2 := by
    have := m.date.civil_day_le
    omega
  have hour : m.time.hour < 10 ^ 2 := by
    have := m.time.hour_le
    omega
  have minute : m.time.minute < 10 ^ 2 := by
    have := m.time.minute_le
    omega
  have secondOfMinute : m.time.secondOfMinute < 10 ^ 2 := by
    have := m.time.secondOfMinute_le
    omega
  have fraction : m.time.fraction < 1000000000 := m.time.fraction_lt
  have read : nanoseconds (TimeOfDay.writeFraction m.time.fraction ++
      ['+', '0', '0', ':', '0', '0']) = .ok (m.time.fraction, ['+', '0', '0', ':', '0', '0']) :=
    nanoseconds_writeFraction (by decide) fraction (by decide)
  have zero : offset (literal ':') ['+', '0', '0', ':', '0', '0'] = .ok (0, []) := rfl
  have two : 0 < 2 := by decide
  have four : 0 < 4 := by decide
  rw [writeOffset_eq plain]
  simp only [readStrict?, fixed_padded four year, fixed_padded two month, fixed_padded two day,
    fixed_padded two hour, fixed_padded two minute, fixed_padded two secondOfMinute, sign_cons,
    Option.some_or, read, sameYear, m.date.ofCivil?_civil, regular.of?_eq, zero,
    toUniversal_zero, bind, Option.bind, Except.toOption]
  rfl

end Moment

end Outreach
