import Outreach.Calendar.Wire
import Outreach.Proofs.Calendar.Strict

/-!
Dates and times in the lenient form. Every date is read back as it was written, whatever its year,
and so is every moment whose leap second, should it be in one, ends a minute. A time of day that is
written as hour and minute is read back as the beginning of that minute. The moments that the form
reads are such that they are read back.
-/

namespace Outreach

namespace Text

theorem isBlank_of_isDigit {c : Char} (h : c.isDigit = true) : isBlank c = false := by
  have range : 48 ≤ c.toNat ∧ c.toNat ≤ 57 := by
    simp only [Char.isDigit, Bool.and_eq_true, decide_eq_true_eq] at h
    exact ⟨UInt32.le_iff_toNat_le.mp h.1, UInt32.le_iff_toNat_le.mp h.2⟩
  simp only [isBlank, Bool.or_eq_false_iff, Bool.and_eq_false_iff, decide_eq_false_iff_not,
    beq_eq_false_iff_ne]
  omega

theorem trimStart_cons {c : Char} (visible : isBlank c = false) (rest : List Char) :
    trimStart (c :: rest) = c :: rest := by
  unfold trimStart
  rw [List.dropWhile_cons, visible]
  rfl

theorem trimStart_padded (width n : Nat) (rest : List Char) :
    trimStart (padded width n ++ rest) = padded width n ++ rest := by
  obtain ⟨c, digits, eq, digit⟩ := exists_padded_eq_cons width n
  rw [eq, List.cons_append, trimStart_cons (isBlank_of_isDigit digit)]

end Text

namespace Date

def fields (d : Date) : Calendar.DateFields := ⟨d.civil.1, d.civil.2.1, d.civil.2.2⟩

theorem date_fields (d : Date) : d.fields.date = .ok d := by
  simp only [Calendar.DateFields.date, fields, d.ofCivil?_civil]

end Date

namespace TimeOfDay

def toTheMinute (t : TimeOfDay) : TimeOfDay :=
  ⟨t.second / 60 * 60, 0, by have := t.second_lt; omega, midnight.nanosecond_lt⟩

theorem of?_toTheMinute (t : TimeOfDay) : of? t.hour t.minute 0 0 = some t.toTheMinute := by
  have regular : t.toTheMinute.Regular := nofun
  have hour : t.toTheMinute.hour = t.hour := by
    show t.second / 60 * 60 / 3600 = t.second / 3600
    omega
  have minute : t.toTheMinute.minute = t.minute := by
    show t.second / 60 * 60 / 60 % 60 = t.second / 60 % 60
    omega
  have second : t.toTheMinute.secondOfMinute = 0 := Nat.mul_mod_left _ 60
  have shown := regular.of?_eq
  rwa [hour, minute, second] at shown

def fields (t : TimeOfDay) : Calendar.TimeFields :=
  ⟨t.hour, t.minute, t.secondOfMinute, t.fraction⟩

/-- A written time is read back unless it is a leap second within a minute. -/
theorem time_fields_eq_ok_iff {t : TimeOfDay} : t.fields.time = .ok t ↔ t.Regular := by
  unfold Calendar.TimeFields.time fields
  have fraction := t.fraction_lt
  constructor
  · intro h
    split at h
    · next known =>
      obtain rfl := Except.ok.inj h
      exact .of_of? fraction known
    · cases h
  · intro regular
    simp only [regular.of?_eq]

end TimeOfDay

namespace Calendar

open Text

def writeYear (y : Int) : List Char :=
  (if y < 0 then ['-'] else if 9999 < y then ['+'] else []) ++ padded 4 y.natAbs

section Lenient

variable {rest : List Char}

theorem literal_gap {x : Char} (spaced : Bool) (visible : isBlank x = false) :
    literal x (gap spaced (x :: rest)) = .ok rest := by
  have same : gap spaced (x :: rest) = x :: rest := by
    cases spaced with
    | false => rfl
    | true => exact trimStart_cons visible rest
  rw [same, literal, if_pos rfl]

variable (ends : rest.takeWhile Char.isDigit = [])
include ends

theorem field_padded {low high n : Nat} (first : low ≤ n) (last : n ≤ high) (two : high < 100) :
    field low high (padded 2 n ++ rest) = .ok (n, rest) := by
  have read : number (some 2) (padded 2 n ++ rest) = .ok (n, rest) :=
    number_padded (by decide) (Nat.le_refl 2) (by omega) (by omega) ends
  rw [field, trimStart_padded, read, ranged, if_pos ⟨first, last⟩]

/-- A year is read with its sign if it has one, and else by its four digits. -/
theorem year_writeYear {y : Int} (small : y.natAbs < 2147483648) :
    year (writeYear y ++ rest) = .ok (y, rest) := by
  have inRange : -2147483648 ≤ y ∧ y < 2147483648 := by omega
  have signed : number none (padded 4 y.natAbs ++ rest) = .ok (y.natAbs, rest) :=
    number_none_padded (by omega) ends
  unfold writeYear
  by_cases negative : y < 0
  · have value : -(y.natAbs : Int) = y := by omega
    have minus : trimStart ('-' :: (padded 4 y.natAbs ++ rest)) =
        '-' :: (padded 4 y.natAbs ++ rest) := trimStart_cons (by decide) _
    simp only [negative, if_true, List.cons_append, List.nil_append, year, minus, signed,
      Except.map, value, inRange, and_self]
  have value : (y.natAbs : Int) = y := by omega
  by_cases wide : 9999 < y
  · have plus : trimStart ('+' :: (padded 4 y.natAbs ++ rest)) =
        '+' :: (padded 4 y.natAbs ++ rest) := trimStart_cons (by decide) _
    simp only [negative, wide, if_true, if_false, List.cons_append, List.nil_append, year, plus,
      signed, Except.map, value, inRange, and_self]
  · have unsigned : number (some 4) (padded 4 y.natAbs ++ rest) = .ok (y.natAbs, rest) :=
      number_padded (by decide) (Nat.le_refl 4) (by omega) (by omega) ends
    simp only [negative, wide, if_false, List.nil_append, year, trimStart_padded]
    -- the reader looks for a sign first, and no digit is one
    obtain ⟨c, digits, eq, digit⟩ := exists_padded_eq_cons 4 y.natAbs
    rw [eq, List.cons_append] at unsigned ⊢
    have notMinus : c ≠ '-' := by
      intro minus
      rw [minus] at digit
      exact absurd digit (by decide)
    have notPlus : c ≠ '+' := by
      intro plus
      rw [plus] at digit
      exact absurd digit (by decide)
    simp [unsigned, notMinus, notPlus, Except.map, value, inRange]

theorem dateFields_write (spaced : Bool) (d : Date) :
    dateFields spaced (d.write ++ rest) = .ok (d.fields, rest) := by
  have month := d.civil_month_range
  have day := d.civil_day_range.1
  have written : d.write ++ rest = writeYear d.civil.1 ++ ('-' :: (padded 2 d.civil.2.1 ++
      ('-' :: (padded 2 d.civil.2.2 ++ rest)))) := by
    simp only [Date.write, writeYear, List.append_assoc, List.cons_append]
  have readYear : year (writeYear d.civil.1 ++ ('-' :: (padded 2 d.civil.2.1 ++
      ('-' :: (padded 2 d.civil.2.2 ++ rest))))) =
        .ok (d.civil.1, '-' :: (padded 2 d.civil.2.1 ++ ('-' :: (padded 2 d.civil.2.2 ++ rest)))) :=
    year_writeYear rfl d.civil_year_natAbs_lt
  have readMonth : field 1 12 (padded 2 d.civil.2.1 ++ ('-' :: (padded 2 d.civil.2.2 ++ rest))) =
      .ok (d.civil.2.1, '-' :: (padded 2 d.civil.2.2 ++ rest)) :=
    field_padded rfl month.1 month.2 (by decide)
  have readDay : field 1 31 (padded 2 d.civil.2.2 ++ rest) = .ok (d.civil.2.2, rest) :=
    field_padded ends day d.civil_day_le (by decide)
  have hyphen : isBlank '-' = false := by decide
  rw [written, dateFields]
  simp only [readYear, Except.ok_bind, literal_gap spaced hyphen, readMonth, readDay]
  rfl

theorem hourMinute_writeShort (spaced : Bool) (t : TimeOfDay) :
    hourMinute spaced (t.writeShort ++ rest) = .ok ((t.hour, t.minute), rest) := by
  have readHour : field 0 23 (padded 2 t.hour ++ (':' :: (padded 2 t.minute ++ rest))) =
      .ok (t.hour, ':' :: (padded 2 t.minute ++ rest)) :=
    field_padded rfl (Nat.zero_le _) t.hour_le (by decide)
  have readMinute : field 0 59 (padded 2 t.minute ++ rest) = .ok (t.minute, rest) :=
    field_padded ends (Nat.zero_le _) t.minute_le (by decide)
  have colon : isBlank ':' = false := by decide
  rw [TimeOfDay.writeShort, List.append_assoc, List.cons_append, hourMinute]
  simp only [readHour, Except.ok_bind, literal_gap spaced colon, readMinute]
  rfl

theorem timeFields_write (bare : rest.head? ≠ some '.') (t : TimeOfDay) :
    timeFields (t.write ++ rest) = .ok (t.fields, rest) := by
  have fraction : nanoseconds (TimeOfDay.writeFraction t.fraction ++ rest) =
      .ok (t.fraction, rest) := nanoseconds_writeFraction ends t.fraction_lt bare
  have point : (TimeOfDay.writeFraction t.fraction ++ rest).takeWhile Char.isDigit = [] := by
    unfold TimeOfDay.writeFraction
    split
    · exact ends
    split
    · rfl
    split <;> rfl
  have readSecond : field 0 60 (padded 2 t.secondOfMinute ++
      (TimeOfDay.writeFraction t.fraction ++ rest)) =
        .ok (t.secondOfMinute, TimeOfDay.writeFraction t.fraction ++ rest) :=
    field_padded point (Nat.zero_le _) t.secondOfMinute_le (by decide)
  have colon : isBlank ':' = false := by decide
  have written : t.write ++ rest = t.writeShort ++ (':' :: (padded 2 t.secondOfMinute ++
      (TimeOfDay.writeFraction t.fraction ++ rest))) := by
    simp only [TimeOfDay.write, List.append_assoc, List.cons_append]
  have readSecondFraction : secondFraction true (':' :: (padded 2 t.secondOfMinute ++
      (TimeOfDay.writeFraction t.fraction ++ rest))) =
        .ok ((t.secondOfMinute, t.fraction), rest) := by
    simp only [secondFraction, literal_gap true colon, Except.ok_bind, readSecond, fraction]
    rfl
  rw [written, timeFields, hourMinute_writeShort rfl true t, Except.ok_bind]
  simp only [readSecondFraction, Except.ok_bind]
  rfl

end Lenient

theorem readDate_write (d : Date) : readDate (String.ofList d.write) = .ok d := by
  have read : dateFields true (d.write ++ []) = .ok (d.fields, []) :=
    dateFields_write rfl true d
  rw [List.append_nil] at read
  rw [readDate, String.toList_ofList, read]
  exact d.date_fields

theorem readLocal_writeLocal (m : Moment) :
    readLocal (String.ofList m.writeLocal) = m.time.fields.time.map fun t => ⟨m.date, t⟩ := by
  have readDate : dateFields true (m.date.write ++ 'T' :: m.time.write) =
      .ok (m.date.fields, 'T' :: m.time.write) := dateFields_write rfl true m.date
  have readTime : timeFields (m.time.write ++ []) = .ok (m.time.fields, []) :=
    timeFields_write rfl (by decide) m.time
  rw [List.append_nil] at readTime
  have letter : trimStart ('T' :: m.time.write) = 'T' :: m.time.write :=
    trimStart_cons (by decide) m.time.write
  have found : literal 'T' ('T' :: m.time.write) = .ok m.time.write := rfl
  have nothing : finish [] = .ok () := rfl
  rw [readLocal, String.toList_ofList, Moment.writeLocal, readDate, Except.ok_bind]
  simp only [letter, found, readTime, nothing, m.date.date_fields, Except.ok_bind]
  cases m.time.fields.time <;> rfl

theorem readMoment_writeZulu (m : Moment) :
    readMoment (String.ofList m.writeZulu) = m.time.fields.time.map fun t => ⟨m.date, t⟩ := by
  have written : m.writeZulu = m.date.write ++ ('T' :: (m.time.write ++ ['Z'])) := by
    simp only [Moment.writeZulu, Moment.writeLocal, List.append_assoc, List.cons_append]
  have readDate : dateFields true (m.date.write ++ 'T' :: (m.time.write ++ ['Z'])) =
      .ok (m.date.fields, 'T' :: (m.time.write ++ ['Z'])) := dateFields_write rfl true m.date
  have readTime : timeFields (m.time.write ++ ['Z']) = .ok (m.time.fields, ['Z']) :=
    timeFields_write rfl (by decide) m.time
  have letter : separator ('T' :: (m.time.write ++ ['Z'])) = .ok (m.time.write ++ ['Z']) := rfl
  have universal : zone (trimStart ['Z']) = .ok (0, []) := rfl
  have nothing : finish [] = .ok () := rfl
  rw [readMoment, String.toList_ofList, written, readDate, Except.ok_bind]
  simp only [letter, readTime, universal, nothing, m.date.date_fields, Except.ok_bind]
  cases m.time.fields.time with
  | ok t => exact toUniversal_zero m.date t
  | error f => rfl

/-- A time written as hour and minute has lost its second. -/
theorem readClock?_writeShort (t : TimeOfDay) :
    readClock? (String.ofList t.writeShort) = some t.toTheMinute := by
  have read : hourMinute false (t.writeShort ++ []) = .ok ((t.hour, t.minute), []) :=
    hourMinute_writeShort rfl false t
  rw [List.append_nil] at read
  simp only [readClock?, String.toList_ofList, read]
  exact t.of?_toTheMinute

theorem nanosecond_lt_of_timeFields {cs rest : List Char} {t : TimeFields}
    (h : timeFields cs = .ok (t, rest)) : t.nanosecond < 1000000000 := by
  obtain ⟨⟨⟨hour, minute⟩, cs₁⟩, -, h⟩ := Except.bind_eq_ok.mp h
  obtain ⟨⟨⟨second, nanosecond⟩, cs₂⟩, read, h⟩ := Except.bind_eq_ok.mp h
  obtain ⟨cs₃, -, read⟩ := Except.bind_eq_ok.mp read
  obtain ⟨⟨_, cs₄⟩, -, read⟩ := Except.bind_eq_ok.mp read
  obtain ⟨⟨_, cs₅⟩, fraction, read⟩ := Except.bind_eq_ok.mp read
  cases read
  cases h
  exact nanoseconds_lt fraction

theorem regular_of_time {t : TimeFields} {u : TimeOfDay} (within : t.nanosecond < 1000000000)
    (h : t.time = .ok u) : u.Regular := by
  unfold TimeFields.time at h
  split at h
  · next known =>
    obtain rfl := Except.ok.inj h
    exact .of_of? within known
  · cases h

theorem dvd_of_zone {cs rest : List Char} {seconds : Int} (h : zone cs = .ok (seconds, rest)) :
    60 ∣ seconds := by
  unfold zone at h
  split at h
  · cases h
    exact Int.dvd_zero 60
  · exact dvd_of_offset h

/-- What is read in the lenient form is in no leap second within a minute. -/
theorem regular_of_readLocal {s : String} {m : Moment} (h : readLocal s = .ok m) :
    m.time.Regular := by
  obtain ⟨⟨d, cs₁⟩, -, h⟩ := Except.bind_eq_ok.mp h
  obtain ⟨cs₂, -, h⟩ := Except.bind_eq_ok.mp h
  obtain ⟨⟨t, cs₃⟩, fields, h⟩ := Except.bind_eq_ok.mp h
  obtain ⟨_, -, h⟩ := Except.bind_eq_ok.mp h
  obtain ⟨date, -, h⟩ := Except.bind_eq_ok.mp h
  obtain ⟨time, clock, h⟩ := Except.bind_eq_ok.mp h
  obtain rfl := Except.ok.inj h
  exact regular_of_time (nanosecond_lt_of_timeFields fields) clock

theorem regular_of_readMoment {s : String} {m : Moment} (h : readMoment s = .ok m) :
    m.time.Regular := by
  obtain ⟨⟨d, cs₁⟩, -, h⟩ := Except.bind_eq_ok.mp h
  obtain ⟨cs₂, -, h⟩ := Except.bind_eq_ok.mp h
  obtain ⟨⟨t, cs₃⟩, fields, h⟩ := Except.bind_eq_ok.mp h
  obtain ⟨⟨seconds, cs₄⟩, universal, h⟩ := Except.bind_eq_ok.mp h
  obtain ⟨_, -, h⟩ := Except.bind_eq_ok.mp h
  obtain ⟨date, -, h⟩ := Except.bind_eq_ok.mp h
  obtain ⟨time, clock, h⟩ := Except.bind_eq_ok.mp h
  have regular := regular_of_time (nanosecond_lt_of_timeFields fields) clock
  exact regular_of_toUniversal regular (dvd_of_zone universal) h

end Calendar

theorem Json.dated_string_eq_ok_iff {α : Type} {expected : String}
    {read : String → Except Calendar.Fault α} {s : String} {a : α} :
    dated expected read (.string s) = .ok a ↔ read s = .ok a := by
  simp only [dated, asText, Except.ok_bind]
  cases read s <;> simp

theorem Json.dated_eq_ok {α : Type} {expected : String}
    {read : String → Except Calendar.Fault α} {j : Json} {a : α}
    (h : dated expected read j = .ok a) : ∃ s, read s = .ok a := by
  cases j with
  | string s => exact ⟨s, dated_string_eq_ok_iff.mp h⟩
  | _ => cases h

theorem Date.ofJson_written (d : Date) : ofJson d.toJson = .ok d :=
  Json.dated_string_eq_ok_iff.mpr (Calendar.readDate_write d)

namespace Moment

theorem map_time_eq_ok_iff {m : Moment} :
    (m.time.fields.time.map fun t => (⟨m.date, t⟩ : Moment)) = .ok m ↔ m.time.Regular := by
  rw [Except.map_eq_ok, ← TimeOfDay.time_fields_eq_ok_iff]
  constructor
  · intro h
    obtain ⟨t, read, same⟩ := h
    have time : t = m.time := congrArg Moment.time same
    rw [read, time]
  · intro read
    exact ⟨m.time, read, rfl⟩

/-- Which moments are read back. -/
theorem ofJson_written_iff {m : Moment} : ofJson m.toJson = .ok m ↔ m.time.Regular := by
  rw [ofJson, toJson, Json.dated_string_eq_ok_iff, Calendar.readMoment_writeZulu,
    map_time_eq_ok_iff]

theorem localOfJson_written_iff {m : Moment} :
    localOfJson m.localToJson = .ok m ↔ m.time.Regular := by
  rw [localOfJson, localToJson, Json.dated_string_eq_ok_iff, Calendar.readLocal_writeLocal,
    map_time_eq_ok_iff]

theorem regular_of_ofJson {j : Json} {m : Moment} (h : ofJson j = .ok m) :
    m.time.Regular := by
  obtain ⟨s, read⟩ := Json.dated_eq_ok h
  exact Calendar.regular_of_readMoment read

theorem regular_of_localOfJson {j : Json} {m : Moment} (h : localOfJson j = .ok m) :
    m.time.Regular := by
  obtain ⟨s, read⟩ := Json.dated_eq_ok h
  exact Calendar.regular_of_readLocal read

end Moment

theorem TimeOfDay.shortOfJson_written (t : Option TimeOfDay) :
    shortOfJson (shortToJson t) = .ok (t.map toTheMinute) := by
  cases t with
  | none => rfl
  | some t =>
    have present : String.ofList t.writeShort ≠ "" := by
      intro empty
      have none : t.writeShort = [] := String.ofList_eq_empty_iff.mp empty
      exact absurd none (by simp [writeShort])
    have read : Json.nullable Json.text (.string (String.ofList t.writeShort)) =
        .ok (some (String.ofList t.writeShort)) := rfl
    simp only [shortOfJson, shortToJson, Json.ofOption, read, Except.ok_bind, present, if_false,
      Calendar.readClock?_writeShort]
    rfl

end Outreach
