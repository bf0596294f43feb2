import Outreach.Proofs.Calendar.Timestamp

/-!
What the readers of moments accept. The leap seconds of moments in the strict form end minutes,
since offsets are whole minutes, and no year there has a sign. A leap second inside a minute is
written as the second after it, so that a moment without a sign is read on its own day in any case.
Days on their own have no letter, so that a written moment is never read as a day.
-/

namespace Outreach

theorem TimeOfDay.Regular.of_of? {hour minute second nanosecond : Nat} {t : TimeOfDay}
    (within : nanosecond < 1000000000) (h : of? hour minute second nanosecond = some t) :
    t.Regular := by
  simp only [of?] at h
  split at h <;> split at h <;> cases h
  · intro _
    simp only
    omega
  · intro leap
    have late : nanosPerSecond ≤ nanosecond := of_decide_eq_true leap
    exact absurd late (Nat.not_le_of_lt within)

/-- A leap second inside a minute is written as the second after it. -/
theorem TimeOfDay.exists_regular_write_eq (t : TimeOfDay) :
    ∃ u : TimeOfDay, u.Regular ∧ u.write = t.write := by
  by_cases regular : t.Regular
  · exact ⟨t, regular, rfl⟩
  obtain ⟨leap, inner⟩ : t.isLeap = true ∧ t.second % 60 ≠ 59 := by
    simpa [TimeOfDay.Regular] using regular
  have second := t.second_lt
  have within : t.fraction < nanosPerSecond := t.fraction_lt
  let u : TimeOfDay := ⟨t.second + 1, t.fraction, by omega, t.dropLeap.nanosecond_lt⟩
  have past : u.isLeap = false := decide_eq_false (Nat.not_le_of_lt within)
  have hour : u.hour = t.hour := by
    simp only [u, TimeOfDay.hour]
    omega
  have minute : u.minute = t.minute := by
    simp only [u, TimeOfDay.minute]
    omega
  have secondOfMinute : u.secondOfMinute = t.secondOfMinute := by
    simp only [TimeOfDay.secondOfMinute, past, leap, u, if_true, Bool.false_eq_true, if_false]
    omega
  have fraction : u.fraction = t.fraction := by
    rw [TimeOfDay.fraction, past]
    rfl
  refine ⟨u, ?_, ?_⟩
  · intro leap
    rw [past] at leap
    cases leap
  · simp only [write, writeShort, hour, minute, secondOfMinute, fraction]

namespace Calendar

open Text

theorem eq_append_of_drop {digits cs rest : List Char} {n : Nat}
    (front : digits <+: cs.takeWhile Char.isDigit)
    (h : (if digits.isEmpty then .error .invalid
      else if digitsValue digits < 9223372036854775808 then
        .ok (digitsValue digits, cs.drop digits.length)
      else .error .outOfRange : Except Fault (Nat × List Char)) = .ok (n, rest)) :
    cs = digits ++ rest ∧ (∀ c ∈ digits, c.isDigit = true) ∧ n = digitsValue digits := by
  have all : ∀ c ∈ digits, c.isDigit = true := fun c hc =>
    List.all_eq_true.mp List.all_takeWhile c (front.subset hc)
  obtain ⟨left, rfl⟩ := front.trans (List.takeWhile_prefix _)
  rw [List.drop_left] at h
  split at h
  · cases h
  split at h
  · obtain ⟨rfl, rfl⟩ := Prod.mk.inj (Except.ok.inj h)
    exact ⟨rfl, all, rfl⟩
  · cases h

/-- A number is read off a run of digits. -/
theorem number_eq_ok {width : Option Nat} {cs rest : List Char} {n : Nat}
    (h : number width cs = .ok (n, rest)) :
    ∃ digits, (∀ w, width = some w → digits.length ≤ w) ∧
      cs = digits ++ rest ∧ (∀ c ∈ digits, c.isDigit = true) ∧ n = digitsValue digits := by
  unfold number at h
  split at h
  · cases h
  · cases width with
    | none => exact ⟨_, nofun, eq_append_of_drop List.prefix_rfl h⟩
    | some w =>
      refine ⟨_, ?_, eq_append_of_drop (List.take_prefix w _) h⟩
      rintro _ ⟨⟩
      exact List.length_take_le _ _

theorem nanoseconds_lt {cs rest : List Char} {n : Nat} (h : nanoseconds cs = .ok (n, rest)) :
    n < 1000000000 := by
  unfold nanoseconds at h
  split at h
  · obtain ⟨⟨k, after⟩, read, h⟩ := Except.bind_eq_ok.mp h
    obtain ⟨digits, short, rfl, all, rfl⟩ := number_eq_ok read
    obtain ⟨rfl, -⟩ := Prod.mk.inj (Except.ok.inj h)
    have fits : digits.length ≤ 9 := short 9 rfl
    have count : (digits ++ after).length - after.length = digits.length := by
      rw [List.length_append, Nat.add_sub_cancel]
    rw [count]
    calc digitsValue digits * 10 ^ (9 - digits.length)
        < 10 ^ digits.length * 10 ^ (9 - digits.length) :=
          Nat.mul_lt_mul_of_pos_right (digitsValue_lt all) (Nat.pow_pos (by decide))
      _ = 10 ^ 9 := by rw [← Nat.pow_add, Nat.add_sub_cancel' fits]
  · cases h
    decide

/-- Offsets have no seconds. -/
theorem dvd_of_offset {colon : List Char → Except Fault (List Char)} {cs rest : List Char}
    {seconds : Int} (h : offset colon cs = .ok (seconds, rest)) : 60 ∣ seconds := by
  unfold offset at h
  split at h
  · cases h
  · cases h
    exact Int.dvd_zero 60
  · cases h
    exact Int.dvd_zero 60
  split at h
  · obtain ⟨⟨hours, cs⟩, -, h⟩ := Except.bind_eq_ok.mp h
    obtain ⟨cs, -, h⟩ := Except.bind_eq_ok.mp h
    obtain ⟨⟨minutes, cs⟩, -, h⟩ := Except.bind_eq_ok.mp h
    dsimp only at h
    split at h
    · cases h
    · obtain ⟨rfl, -⟩ := Prod.mk.inj (Except.ok.inj h)
      split <;> omega
  · cases h

/-- A move by whole minutes keeps the second of the minute. -/
theorem regular_of_toUniversal {date : Date} {time : TimeOfDay} {seconds : Int} {m : Moment}
    (regular : time.Regular) (minutes : 60 ∣ seconds)
    (h : toUniversal date time seconds = .ok m) : m.time.Regular := by
  unfold toUniversal at h
  split at h
  · split at h
    · next moved eq =>
      obtain rfl := Except.ok.inj h
      obtain ⟨d, -, rfl⟩ := Option.map_eq_some_iff.mp eq
      intro leap
      have last : time.second % 60 = 59 := regular leap
      simp only
      omega
    · cases h
  · cases h

theorem of_bind_eq_some {α β : Type} {x : Option α} {f : α → Option β} {b : β} {p : Prop}
    (later : ∀ a, f a = some b → p) (h : (x >>= f) = some b) : p := by
  obtain ⟨a, -, rest⟩ := Option.bind_eq_some_iff.mp h
  exact later a rest

/-- The strict form ends with the fraction of the second, the offset, and nothing more. -/
theorem regular_of_readStrict? {cs : List Char} {m : Moment} (h : readStrict? cs = some m) :
    m.time.Regular := by
  revert h
  -- the fields from the year to the minute, each with what divides it from the next
  iterate 5
    refine of_bind_eq_some fun ⟨_, _⟩ => ?_
    refine of_bind_eq_some fun _ => ?_
  refine of_bind_eq_some fun ⟨_, _⟩ => ?_
  intro h
  obtain ⟨⟨nanos, _⟩, fraction, h⟩ := Option.bind_eq_some_iff.mp h
  obtain ⟨⟨seconds, _⟩, zone, h⟩ := Option.bind_eq_some_iff.mp h
  dsimp only at h
  split at h
  · obtain ⟨date, -, h⟩ := Option.bind_eq_some_iff.mp h
    obtain ⟨time, clock, moved⟩ := Option.bind_eq_some_iff.mp h
    have within := nanoseconds_lt (Except.toOption_eq_some.mp fraction)
    have minutes := dvd_of_offset (Except.toOption_eq_some.mp zone)
    have regular : time.Regular := .of_of? within clock
    exact regular_of_toUniversal regular minutes (Except.toOption_eq_some.mp moved)
  · cases h

/-! A text with the letter that stands between date and time has it still after any date. -/

section Letter

variable {cs rest : List Char} (letter : 'T' ∈ cs)
include letter

theorem letter_mem_trimStart : 'T' ∈ trimStart cs := by
  unfold trimStart
  rw [← List.takeWhile_append_dropWhile (p := isBlank) (l := cs)] at letter
  rcases List.mem_append.mp letter with blank | later
  · exact absurd (List.all_eq_true.mp List.all_takeWhile _ blank) (by decide)
  · exact later

theorem letter_mem_of_number {width : Option Nat} {n : Nat} (h : number width cs = .ok (n, rest)) :
    'T' ∈ rest := by
  obtain ⟨digits, -, rfl, all, -⟩ := number_eq_ok h
  rcases List.mem_append.mp letter with digit | later
  · exact absurd (all _ digit) (by decide)
  · exact later

theorem letter_mem_of_literal (h : literal '-' cs = .ok rest) : 'T' ∈ rest := by
  cases cs with
  | nil => cases h
  | cons c cs =>
    simp only [literal] at h
    split at h
    · next hyphen =>
      cases h
      rw [hyphen] at letter
      exact (List.mem_cons.mp letter).resolve_left (by decide)
    · cases h

theorem letter_mem_of_field {low high n : Nat} (h : field low high cs = .ok (n, rest)) :
    'T' ∈ rest := by
  unfold field ranged at h
  split at h
  · next read =>
    split at h
    · cases h
      exact letter_mem_of_number (letter_mem_trimStart letter) read
    · cases h
  · cases h

theorem letter_mem_of_signed {width : Option Nat} {value : Nat × List Char → Int} {y : Int}
    (h : (number width cs).map (fun x => (value x, x.2)) = .ok (y, rest)) : 'T' ∈ rest := by
  obtain ⟨⟨n, left⟩, read, h⟩ := Except.map_eq_ok.mp h
  obtain ⟨-, rfl⟩ := Prod.mk.inj h
  exact letter_mem_of_number letter read

theorem letter_mem_of_year {y : Int} (h : year cs = .ok (y, rest)) : 'T' ∈ rest := by
  have start := letter_mem_trimStart letter
  simp only [year] at h
  split at h
  · next read =>
    split at h
    · cases h
      split at read
      · next minus =>
        rw [minus] at start
        exact letter_mem_of_signed ((List.mem_cons.mp start).resolve_left (by decide)) read
      · next plus =>
        rw [plus] at start
        exact letter_mem_of_signed ((List.mem_cons.mp start).resolve_left (by decide)) read
      · exact letter_mem_of_signed start read
    · cases h
  · cases h

theorem letter_mem_of_dateFields {d : DateFields} (h : dateFields false cs = .ok (d, rest)) :
    'T' ∈ rest := by
  obtain ⟨⟨y, cs₁⟩, read, h⟩ := Except.bind_eq_ok.mp h
  obtain ⟨cs₂, first, h⟩ := Except.bind_eq_ok.mp h
  obtain ⟨⟨mo, cs₃⟩, month, h⟩ := Except.bind_eq_ok.mp h
  obtain ⟨cs₄, second, h⟩ := Except.bind_eq_ok.mp h
  obtain ⟨⟨da, cs₅⟩, day, h⟩ := Except.bind_eq_ok.mp h
  cases h
  have afterYear : 'T' ∈ cs₂ := letter_mem_of_literal (letter_mem_of_year letter read) first
  have afterMonth : 'T' ∈ cs₄ := letter_mem_of_literal (letter_mem_of_field afterYear month) second
  exact letter_mem_of_field afterMonth day

theorem readDay?_eq_none : readDay? cs = none := by
  unfold readDay?
  split
  · next read => exact absurd (letter_mem_of_dateFields letter read) List.not_mem_nil
  · rfl

end Letter

end Calendar

namespace Moment

open Calendar Text

theorem letter_mem_writeOffset (m : Moment) : 'T' ∈ m.writeOffset := by
  simp [writeOffset, writeLocal]

/-- A moment begins with the first digit of its year, or with a sign. -/
theorem exists_writeOffset_eq_cons (m : Moment) :
    ∃ x rest, m.writeOffset = x :: rest ∧
      (m.date.PlainYear ∧ x.isDigit = true ∨ ¬ m.date.PlainYear ∧ (x = '-' ∨ x = '+')) := by
  by_cases plain : m.date.PlainYear
  · obtain ⟨x, digits, front, digit⟩ := exists_padded_eq_cons 4 m.date.civil.1.natAbs
    rw [writeOffset_eq plain, front]
    exact ⟨x, _, rfl, .inl ⟨plain, digit⟩⟩
  · by_cases negative : m.date.civil.1 < 0
    · simp only [writeOffset, writeLocal, Date.write, negative, if_true]
      exact ⟨'-', _, rfl, .inr ⟨plain, .inl rfl⟩⟩
    · have wide : 9999 < m.date.civil.1 := by
        unfold Date.PlainYear at plain
        omega
      simp only [writeOffset, writeLocal, Date.write, negative, wide, if_true, if_false]
      exact ⟨'+', _, rfl, .inr ⟨plain, .inr rfl⟩⟩

theorem readStrict?_writeOffset_eq_none {m : Moment} (signed : ¬ m.date.PlainYear) :
    readStrict? m.writeOffset = none := by
  obtain ⟨x, rest, eq, ⟨plain, -⟩ | ⟨-, sign⟩⟩ := m.exists_writeOffset_eq_cons
  · exact absurd plain signed
  · have notDigit : x.isDigit = false := by
      rcases sign with rfl | rfl <;> rfl
    have unread : fixed 4 (x :: rest) = none := by
      simp [fixed, notDigit]
    rw [eq, readStrict?, unread]
    rfl

theorem exists_readStrict?_writeOffset {m : Moment} (plain : m.date.PlainYear) :
    ∃ t, readStrict? m.writeOffset = some ⟨m.date, t⟩ := by
  obtain ⟨t, regular, same⟩ := m.time.exists_regular_write_eq
  have written : m.writeOffset = (Moment.mk m.date t).writeOffset := by
    simp only [writeOffset, writeLocal, same]
  rw [written]
  exact ⟨t, readStrict?_writeOffset plain regular⟩

/-- Which moments the strict form reads back. -/
theorem readStrict?_writeOffset_iff {m : Moment} :
    readStrict? m.writeOffset = some m ↔ m.date.PlainYear ∧ m.time.Regular := by
  constructor
  · intro h
    refine ⟨?_, regular_of_readStrict? h⟩
    by_contra signed
    rw [readStrict?_writeOffset_eq_none signed] at h
    cases h
  · rintro ⟨plain, regular⟩
    exact readStrict?_writeOffset plain regular

end Moment

end Outreach
