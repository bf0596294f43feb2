import Outreach.Proofs.Calendar.Strict
import Outreach.Proofs.Json.Record
import Outreach.Segment.Operand

/-!
Operands written and read again. Days, days ago and moments are texts alike, told apart by how
they begin. A number is read back if it is finite, a moment if its leap second ends a minute and
its year needs no sign; everything else is always read back. What is read from a document needs
no more than that the years are such.
-/

namespace Outreach

namespace Operand

def Regular : Operand → Prop
  | number x => x.isFinite = true
  | moment m => m.time.Regular
  | _ => True

instance : DecidablePred Regular
  | number x => inferInstanceAs (Decidable (x.isFinite = true))
  | moment m => inferInstanceAs (Decidable m.time.Regular)
  | text _ => isTrue trivial
  | flag _ => isTrue trivial
  | daysAgo _ => isTrue trivial

def Plain : Operand → Prop
  | moment m => m.date.PlainYear
  | _ => True

instance : DecidablePred Plain
  | moment m => inferInstanceAs (Decidable m.date.PlainYear)
  | number _ => isTrue trivial
  | text _ => isTrue trivial
  | flag _ => isTrue trivial
  | daysAgo _ => isTrue trivial

theorem ofDateText?_daysAgo (days : UInt32) :
    ofDateText? (String.ofList (relativePrefix ++ Nat.toDigits 10 days.toNat)) =
      some (daysAgo days) := by
  have front : relativePrefix.isPrefixOf (relativePrefix ++ Nat.toDigits 10 days.toNat) = true :=
    List.isPrefixOf_iff_prefix.mpr (List.prefix_append _ _)
  have number : Text.readNat UInt32.size (Nat.toDigits 10 days.toNat) = some days.toNat :=
    Text.readNat_toDigits days.toNat_lt_size
  simp only [ofDateText?, String.toList_ofList, front, if_true, List.drop_left, number,
    Option.map_some, UInt32.ofNat_toNat]

/-- A written moment is taken neither for a number of days nor for a day. -/
theorem ofDateText?_writeOffset (m : Moment) :
    ofDateText? (String.ofList m.writeOffset) =
      (Calendar.readStrict? m.writeOffset).map moment := by
  have noPrefix : relativePrefix.isPrefixOf m.writeOffset = false := by
    obtain ⟨x, rest, eq, front⟩ := m.exists_writeOffset_eq_cons
    have other : x ≠ 'r' := by
      rintro rfl
      rcases front with ⟨-, digit⟩ | ⟨-, sign | sign⟩
      · exact absurd digit (by decide)
      · exact absurd sign (by decide)
      · exact absurd sign (by decide)
    have letters : relativePrefix = ['r', 'e', 'l', 'a', 't', 'i', 'v', 'e', '_'] := by decide
    rw [eq, letters, List.isPrefixOf, beq_false_of_ne other.symm, Bool.false_and]
  have noDay : Calendar.readDay? m.writeOffset = none :=
    Calendar.readDay?_eq_none m.letter_mem_writeOffset
  simp only [ofDateText?, String.toList_ofList, noPrefix, noDay, Bool.false_eq_true, if_false]
  cases Calendar.readStrict? m.writeOffset <;> rfl

/-- What is written of a regular operand is read as that operand, if it is plain. -/
theorem ofJson?_toJson_eq_some_iff {o p : Operand} {k : Kind} (fits : o.fits k = true)
    (regular : o.Regular) : ofJson? k o.toJson = some p ↔ p = o ∧ o.Plain := by
  cases o with
  | number x =>
    cases k <;> cases fits
    simp [toJson, Json.real_of_isFinite regular, ofJson?, Json.Number.toFloat, Plain, eq_comm]
  | text s =>
    cases k <;> cases fits
    simp [toJson, ofJson?, Plain, eq_comm]
  | flag b =>
    cases k <;> cases fits
    simp [toJson, ofJson?, Plain, eq_comm]
  | moment m =>
    cases k <;> cases fits
    have read : ofJson? .date (toJson (moment m)) =
        (Calendar.readStrict? m.writeOffset).map moment := ofDateText?_writeOffset m
    rw [read]
    by_cases plain : m.date.PlainYear
    · simp [Moment.readStrict?_writeOffset plain regular, Plain, plain, eq_comm]
    · simp [Moment.readStrict?_writeOffset_eq_none plain, Plain, plain]
  | daysAgo days =>
    cases k <;> cases fits
    have read : ofJson? .date (toJson (daysAgo days)) = some (daysAgo days) :=
      ofDateText?_daysAgo days
    simp [read, Plain, eq_comm]

theorem fits_of_ofDateText? {s : String} {o : Operand} (h : ofDateText? s = some o) :
    o.fits .date = true := by
  simp only [ofDateText?] at h
  split at h
  · obtain ⟨n, -, rfl⟩ := Option.map_eq_some_iff.mp h
    rfl
  · split at h
    · obtain rfl := Option.some.inj h
      rfl
    · obtain ⟨d, -, rfl⟩ := Option.map_eq_some_iff.mp h
      rfl

/-- An operand is of the kind that it is read for. -/
theorem fits_of_ofJson? {k : Kind} {j : Json} {o : Operand} (h : ofJson? k j = some o) :
    o.fits k = true := by
  unfold ofJson? at h
  split at h
  · obtain rfl := Option.some.inj h
    rfl
  · obtain rfl := Option.some.inj h
    rfl
  · obtain rfl := Option.some.inj h
    rfl
  · exact fits_of_ofDateText? h
  · cases h

theorem regular_of_ofDateText? {s : String} {o : Operand} (h : ofDateText? s = some o) :
    o.Regular := by
  simp only [ofDateText?] at h
  split at h
  · obtain ⟨n, -, rfl⟩ := Option.map_eq_some_iff.mp h
    trivial
  · split at h
    · next read =>
      obtain rfl := Option.some.inj h
      exact Calendar.regular_of_readStrict? read
    · obtain ⟨d, -, rfl⟩ := Option.map_eq_some_iff.mp h
      exact TimeOfDay.regular_midnight

theorem regular_of_ofJson? {k : Kind} {j : Json} {o : Operand} (finite : j.isFinite = true)
    (h : ofJson? k j = some o) : o.Regular := by
  unfold ofJson? at h
  split at h
  · obtain rfl := Option.some.inj h
    exact finite
  · obtain rfl := Option.some.inj h
    trivial
  · obtain rfl := Option.some.inj h
    trivial
  · exact regular_of_ofDateText? h
  · cases h

end Operand

end Outreach
