import Outreach.Proofs.Segment.OlderForm
import Outreach.Proofs.Segment.Operand

/-!
Definitions stored and read again. A definition is read back if each of its criteria is sound and
has an operand that is read back. The criteria of every definition that is read from a document
are sound, so what was read once is read again unless the year of a moment needs a sign.
-/

namespace Outreach

theorem Json.isFinite_of_mem_entries {j : Json} (finite : j.isFinite = true) :
    ∀ e ∈ j.entries, e.2.isFinite = true := by
  cases j with
  | object entries => exact isFinite_object_iff.mp finite
  | _ => exact List.forall_mem_nil _

namespace Criterion

theorem create_eq_ok_iff {feature : Feature} {comparison : Comparison} {operand : Operand}
    {c : Criterion} :
    create feature comparison operand = .ok c ↔ c = ⟨feature, comparison, operand⟩ ∧ c.Sound := by
  unfold create
  rw [Except.bind_eq_ok]
  constructor
  · rintro ⟨_, sound, h⟩
    obtain rfl := Except.ok.inj h
    exact ⟨rfl, check_eq_ok_iff.mp sound⟩
  · rintro ⟨rfl, sound⟩
    exact ⟨(), check_eq_ok_iff.mpr sound, rfl⟩

theorem ofNames_eq_ok_iff {feature comparison : String} {value : Json} {c : Criterion} :
    ofNames feature comparison value = .ok c ↔
      Feature.ofName? feature = some c.feature ∧
        Comparison.ofName? comparison = some c.comparison ∧
          Operand.ofJson? c.feature.kind value = some c.operand ∧ c.Sound := by
  unfold ofNames
  constructor
  · intro h
    split at h
    · cases h
    next a known =>
    split at h
    · cases h
    next k compared =>
    split at h
    · cases h
    next o read =>
    obtain ⟨rfl, sound⟩ := create_eq_ok_iff.mp h
    exact ⟨known, compared, read, sound⟩
  · rintro ⟨known, compared, read, sound⟩
    simp only [known, compared, read]
    exact create_eq_ok_iff.mpr ⟨rfl, sound⟩

/-- What is known of a criterion that is read from a document. -/
structure Proper (c : Criterion) : Prop where
  sound : c.Sound
  regular : c.operand.Regular

theorem Proper.ofJson_toJson_eq_ok_iff {c k : Criterion} (proper : c.Proper) :
    ofJson c.toJson = .ok k ↔ k = c ∧ c.operand.Plain := by
  rw [toJson_eq_item, ofJson_item_eq_ok_iff, ofNames_eq_ok_iff, Feature.ofName?_name,
    Comparison.ofName?_name]
  constructor
  · rintro ⟨feature, comparison, read, -⟩
    obtain ⟨a, b, o⟩ := k
    obtain rfl := Option.some.inj feature
    obtain rfl := Option.some.inj comparison
    obtain ⟨rfl, plain⟩ :=
      (Operand.ofJson?_toJson_eq_some_iff proper.sound.2 proper.regular).mp read
    exact ⟨rfl, plain⟩
  · rintro ⟨rfl, plain⟩
    exact ⟨rfl, rfl, (Operand.ofJson?_toJson_eq_some_iff proper.sound.2 proper.regular).mpr
      ⟨rfl, plain⟩, proper.sound⟩

theorem proper_of_ofNames {feature comparison : String} {value : Json} {c : Criterion}
    (finite : value.isFinite = true) (h : ofNames feature comparison value = .ok c) :
    c.Proper := by
  obtain ⟨-, -, read, sound⟩ := ofNames_eq_ok_iff.mp h
  exact ⟨sound, Operand.regular_of_ofJson? finite read⟩

/-- What is read of a criterion in a document: two names and a value among its entries. -/
theorem exists_ofNames_of_ofJson {j : Json} {c : Criterion} (h : ofJson j = .ok c) :
    ∃ what fields entries feature comparison value, j.record what fields = .ok entries ∧
      entries.lookup "value" = some value ∧ ofNames feature comparison value = .ok c := by
  obtain ⟨entries, read, h⟩ := Except.bind_eq_ok.mp h
  obtain ⟨feature, -, h⟩ := Except.bind_eq_ok.mp h
  obtain ⟨comparison, -, h⟩ := Except.bind_eq_ok.mp h
  obtain ⟨value, found, h⟩ := Except.bind_eq_ok.mp h
  have made : ofNames feature comparison value = .ok c := by
    cases made : ofNames feature comparison value with
    | ok k =>
      rw [made] at h
      exact congrArg Except.ok (Except.ok.inj h)
    | error f =>
      rw [made] at h
      cases h
  rcases Member.get_eq_ok found with ⟨j, entry, same⟩ | ⟨-, none⟩
  · obtain rfl := Except.ok.inj same
    exact ⟨_, _, entries, feature, comparison, j, read, entry, made⟩
  · cases none

theorem proper_of_ofJson {j : Json} {c : Criterion} (finite : j.isFinite = true)
    (h : ofJson j = .ok c) : c.Proper := by
  obtain ⟨_, _, _, _, _, _, read, entry, made⟩ := exists_ofNames_of_ofJson h
  exact proper_of_ofNames (Json.isFinite_of_lookup (Json.isFinite_of_record finite read) entry) made

end Criterion

namespace Definition

/-- Proper criteria are read back together if each of them is plain, and never as others. -/
theorem forall₂_ofJson_toJson_iff {cs ks : List Criterion} (proper : ∀ c ∈ cs, c.Proper) :
    List.Forall₂ (fun c k => Criterion.ofJson c.toJson = .ok k) cs ks ↔
      ks = cs ∧ ∀ c ∈ cs, c.operand.Plain := by
  constructor
  · intro read
    have known := (List.forall₂_and_left cs ks).mpr ⟨proper, read⟩
    have same : List.Forall₂ (fun c k => c.operand.Plain ∧ c = k) cs ks := by
      refine known.imp ?_
      rintro c k ⟨proper, read⟩
      obtain ⟨eq, plain⟩ := proper.ofJson_toJson_eq_ok_iff.mp read
      exact ⟨plain, eq.symm⟩
    obtain ⟨plain, eq⟩ := (List.forall₂_and_left cs ks).mp same
    rw [List.forall₂_eq_eq_eq] at eq
    exact ⟨eq.symm, plain⟩
  · rintro ⟨rfl, plain⟩
    rw [List.forall₂_same]
    exact fun c hc => (proper c hc).ofJson_toJson_eq_ok_iff.mpr ⟨rfl, plain c hc⟩

/-- What is written of a definition with proper criteria is read as that definition, if no year
needs a sign; else it is refused. -/
theorem ofJson_toJson_eq_ok_iff {d e : Definition} (proper : ∀ c ∈ d.criteria, c.Proper) :
    ofJson d.toJson = .ok e ↔ e = d ∧ ∀ c ∈ d.criteria, c.operand.Plain := by
  rw [toJson_eq_standardEntries, ofJson_standardEntries_eq_ok_iff, List.forall₂_map_left_iff,
    forall₂_ofJson_toJson_iff proper, combinationOf_name]
  constructor
  · rintro ⟨⟨criteria, plain⟩, combination⟩
    obtain ⟨k, ks⟩ := e
    obtain rfl := Except.ok.inj combination
    obtain rfl := criteria
    exact ⟨rfl, plain⟩
  · rintro ⟨rfl, plain⟩
    exact ⟨⟨rfl, plain⟩, rfl⟩

theorem finite_of_mem_spelled {entries : List (String × Json)}
    (finite : ∀ e ∈ entries, e.2.isFinite = true) :
    ∀ c ∈ spelled entries, c.value.isFinite = true := by
  intro c hc
  obtain ⟨e, he, hc⟩ := List.mem_flatMap.mp hc
  split at hc
  · cases hc
  · obtain ⟨x, hx, rfl⟩ := List.mem_map.mp hc
    exact Json.isFinite_of_mem_entries (finite e he) x hx

theorem proper_of_ofConditions {entries : List (String × Json)} {d : Definition}
    (finite : ∀ e ∈ entries, e.2.isFinite = true) (h : ofConditions entries = .ok d) :
    ∀ c ∈ d.criteria, c.Proper := by
  obtain ⟨criteria, -⟩ := ofConditions_eq_ok_iff.mp h
  have nested := nested_of_allConditions criteria
  rw [allConditions_eq_mapM nested] at criteria
  refine Except.forall_of_mapM_eq_ok ?_ criteria
  intro c hc k read
  exact Criterion.proper_of_ofNames (finite_of_mem_spelled finite c hc) read

theorem proper_of_ofStandard {j : Json} {d : Definition} (finite : j.isFinite = true)
    (h : ofStandard j = .ok d) : ∀ c ∈ d.criteria, c.Proper := by
  obtain ⟨entries, read, h⟩ := Except.bind_eq_ok.mp h
  obtain ⟨combination, -, h⟩ := Except.bind_eq_ok.mp h
  obtain ⟨criteria, found, h⟩ := Except.bind_eq_ok.mp h
  obtain rfl := Except.ok.inj h
  rcases Member.get_eq_ok found with ⟨listed, entry, criteria⟩ | ⟨-, default⟩
  · have finite := Json.isFinite_of_lookup (Json.isFinite_of_record finite read) entry
    cases listed with
    | array items =>
      refine Except.forall_of_mapM_eq_ok ?_ criteria
      intro i hi k read
      exact Criterion.proper_of_ofJson (Json.isFinite_array_iff.mp finite i hi) read
    | _ => cases criteria
  · cases default
    exact List.forall_mem_nil _

/-- Every criterion of a definition that is read from a document is proper. -/
theorem proper_of_ofJson {j : Json} {d : Definition} (finite : j.isFinite = true)
    (h : ofJson j = .ok d) : ∀ c ∈ d.criteria, c.Proper := by
  cases j with
  | object entries =>
    rw [ofJson] at h
    split at h
    · split at h
      · next read =>
        obtain rfl := Except.ok.inj h
        exact proper_of_ofStandard finite read
      · cases h
    · exact proper_of_ofConditions (Json.isFinite_object_iff.mp finite) h
  | _ => cases h

/-- A definition whose criteria are sound is read back as it was, in all its criteria and their
order, if its numbers are finite and its moments are in the years 0 to 9999. The leap seconds have
to end a minute; by `Moment.readStrict?_writeOffset_iff` that says no more than that moments of
those years are read back from what is written of them. -/
theorem ofJson_toJson {d : Definition} (sound : ∀ c ∈ d.criteria, c.check = .ok ())
    (regular : ∀ c ∈ d.criteria, c.operand.Regular)
    (plain : ∀ c ∈ d.criteria, c.operand.Plain) : ofJson d.toJson = .ok d := by
  have proper : ∀ c ∈ d.criteria, c.Proper := fun c hc =>
    ⟨Criterion.check_eq_ok_iff.mp (sound c hc), regular c hc⟩
  exact (ofJson_toJson_eq_ok_iff proper).mpr ⟨rfl, plain⟩

/-- Operands of every kind, with half a second of a leap second and a text that begins as days ago
do. -/
theorem ofJson_toJson_every_kind :
    let leap : Moment := ⟨⟨civilDay 2016 12 31, by decide, by decide⟩,
      ⟨86399, 1500000000, by decide, by decide⟩⟩
    let d : Definition := ⟨.any, [⟨.totalOrderValue, .gte, .number 1000.5⟩,
      ⟨.email, .contains, .text "relative_1"⟩, ⟨.marketingOptIn, .eq, .flag true⟩,
      ⟨.lastOrderDate, .gt, .moment leap⟩, ⟨.lastOrderDate, .lt, .daysAgo 90⟩]⟩
    (∀ c ∈ d.criteria, c.check = .ok () ∧ c.operand.Regular ∧ c.operand.Plain) ∧
      ofJson d.toJson = .ok d := by
  intro leap d
  have sound : ∀ c ∈ d.criteria, c.Sound := by decide
  have regular : ∀ c ∈ d.criteria, c.operand.Regular := by decide
  have plain : ∀ c ∈ d.criteria, c.operand.Plain := by decide
  have checked : ∀ c ∈ d.criteria, c.check = .ok () := fun c hc =>
    Criterion.check_eq_ok_iff.mpr (sound c hc)
  exact ⟨fun c hc => ⟨checked c hc, regular c hc, plain c hc⟩,
    ofJson_toJson checked regular plain⟩

/-- An accepted definition is stored and read again as it was if none of its moments is in a year
that needs a sign. Else what is written of it is refused, and it is never read as another. -/
theorem stored_iff_plain {j : Json} {d e : Definition} (finite : j.isFinite = true)
    (accepted : ofJson j = .ok d) :
    ofJson d.toJson = .ok e ↔ e = d ∧ ∀ c ∈ d.criteria, c.operand.Plain :=
  ofJson_toJson_eq_ok_iff (proper_of_ofJson finite accepted)

/-- The last day of the year 9999 on a clock that is ahead of universal time. -/
theorem stored_iff_plain_last_day :
    let j : Json := .object [("criteria", .array [Criterion.item "last_order_date" "gt"
      (.string "9999-12-31T23:59:59+01:00")])]
    ∃ d, j.isFinite = true ∧ ofJson j = .ok d ∧ ofJson d.toJson = .ok d := by
  intro j
  have finite : j.isFinite = true := rfl
  let evening : Moment := ⟨⟨civilDay 9999 12 31, by decide, by decide⟩,
    ⟨82799, 0, by decide, by decide⟩⟩
  have accepted : ofJson j = .ok ⟨.all, [⟨.lastOrderDate, .gt, .moment evening⟩]⟩ := rfl
  exact ⟨_, finite, accepted, (stored_iff_plain finite accepted).mpr ⟨rfl, by decide⟩⟩

/-- Not every accepted definition can be stored. A day may have a year of five digits, and the
moment that is written of it is not read. -/
theorem accepted_not_stored :
    let j : Json := .object [("criteria", .array [Criterion.item "last_order_date" "gt"
      (.string "+12345-01-01")])]
    j.isFinite = true ∧ j.canonical = j ∧
      ∃ d, ofJson j = .ok d ∧ ∃ f, ofJson d.toJson = .error f := by
  intro j
  let newYear : Moment := ⟨⟨civilDay 12345 1 1, by decide, by decide⟩, .midnight⟩
  let d : Definition := ⟨.all, [⟨.lastOrderDate, .gt, .moment newYear⟩]⟩
  have accepted : ofJson j = .ok d := rfl
  have signed : ¬ ∀ c ∈ d.criteria, c.operand.Plain := by decide
  refine ⟨rfl, rfl, d, accepted, ?_⟩
  cases stored : ofJson d.toJson with
  | error f => exact ⟨f, rfl⟩
  | ok e =>
    have proper : ∀ c ∈ d.criteria, c.Proper := proper_of_ofJson rfl accepted
    exact absurd ((ofJson_toJson_eq_ok_iff proper).mp stored).2 signed

end Definition

end Outreach
