import Outreach.Proofs.Segment.Reading
import Outreach.Segment.Evaluation

/-!
Definitions in the older form. The conditions of its entries are spelled out one by one as a
feature, a comparison and a value; the object that lists them in the newer form is its standard
form. One is read if the other is, and both spell the same definition.
-/

namespace Outreach

def Json.entries : Json → List (String × Json)
  | .object entries => entries
  | _ => []

/-- A feature, a comparison and a value, the parts of a criterion in a document. -/
structure Condition where
  feature : String
  comparison : String
  value : Json

namespace Condition

def criterion (c : Condition) : Except DefinitionFault Criterion :=
  Criterion.ofNames c.feature c.comparison c.value

def item (c : Condition) : Json :=
  Criterion.item c.feature c.comparison c.value

theorem ofJson_item_eq_ok_iff {c : Condition} {k : Criterion} :
    Criterion.ofJson c.item = .ok k ↔ c.criterion = .ok k :=
  Criterion.ofJson_item_eq_ok_iff

end Condition

namespace Definition

def conditionsOf (feature : String) (j : Json) : List Condition :=
  j.entries.map fun e => ⟨feature, e.1, e.2⟩

def spelled (entries : List (String × Json)) : List Condition :=
  entries.flatMap fun e => if isStandardKey e.1 then [] else conditionsOf e.1 e.2

def Nested (entries : List (String × Json)) : Prop :=
  ∀ e ∈ entries, isStandardKey e.1 = false → ∃ conditions, e.2 = .object conditions

theorem nested_cons_iff {e : String × Json} {rest : List (String × Json)} :
    Nested (e :: rest) ↔
      (isStandardKey e.1 = false → ∃ conditions, e.2 = .object conditions) ∧ Nested rest :=
  List.forall_mem_cons

theorem conditions_eq_mapM (feature : String) (entries : List (String × Json)) :
    conditions feature entries =
      (conditionsOf feature (.object entries)).mapM Condition.criterion := by
  induction entries with
  | nil => rfl
  | cons e rest ih =>
    rw [conditions, ih]
    simp [conditionsOf, Json.entries, Condition.criterion, List.mapM_cons]

/-- Where all conditions are read, they are in objects. -/
theorem nested_of_allConditions {entries : List (String × Json)} {cs : List Criterion}
    (h : allConditions entries = .ok cs) : Nested entries := by
  induction entries generalizing cs with
  | nil => exact List.forall_mem_nil _
  | cons e rest ih =>
    obtain ⟨key, j⟩ := e
    rw [nested_cons_iff]
    by_cases standard : isStandardKey key = true
    · simp only [allConditions, standard, if_true] at h
      exact ⟨fun other => absurd standard (Bool.eq_false_iff.mp other), ih h⟩
    · cases j with
      | object own =>
        simp only [allConditions, standard, if_false, Bool.false_eq_true] at h
        obtain ⟨_, -, h⟩ := Except.bind_eq_ok.mp h
        obtain ⟨_, others, -⟩ := Except.bind_eq_ok.mp h
        exact ⟨fun _ => ⟨own, rfl⟩, ih others⟩
      | _ =>
        simp only [allConditions, standard, if_false, Bool.false_eq_true] at h
        cases h

/-- The conditions of all entries are read one after the other. -/
theorem allConditions_eq_mapM {entries : List (String × Json)} (nested : Nested entries) :
    allConditions entries = (spelled entries).mapM Condition.criterion := by
  induction entries with
  | nil => rfl
  | cons e rest ih =>
    obtain ⟨key, j⟩ := e
    obtain ⟨object, others⟩ := nested_cons_iff.mp nested
    by_cases standard : isStandardKey key = true
    · simp [allConditions, spelled, standard, ih others]
    · obtain ⟨own, rfl⟩ := object (Bool.eq_false_iff.mpr standard)
      simp [allConditions, spelled, standard, ih others, conditions_eq_mapM, List.mapM_append]

theorem ofConditions_eq_ok_iff {entries : List (String × Json)} {d : Definition} :
    ofConditions entries = .ok d ↔
      allConditions entries = .ok d.criteria ∧
        combinationOf (entries.lookup "logical_operator") = .ok d.combination := by
  have combined (k : Combination) :
      ((allConditions entries).map fun cs => Definition.mk k cs) = .ok d ↔
        allConditions entries = .ok d.criteria ∧ k = d.combination := by
    rw [Except.map_eq_ok]
    constructor
    · rintro ⟨cs, criteria, rfl⟩
      exact ⟨criteria, rfl⟩
    · rintro ⟨criteria, rfl⟩
      exact ⟨d.criteria, criteria, rfl⟩
  cases said : entries.lookup "logical_operator" with
  | none => simp [ofConditions, said, combinationOf, combined]
  | some j =>
    cases known : Combination.ofJson j with
    | error m => simp [ofConditions, said, combinationOf, known]
    | ok k => simp [ofConditions, said, combinationOf, known, combined]

/-- The newer form of an object in the older form. It lists the conditions in ascending order of
features, and those on one feature in ascending order of comparisons. -/
def standardForm (j : Json) : Json :=
  .object (standardEntries ((spelled j.canonical.entries).map Condition.item)
    (j.get? "logical_operator"))

/-- An object in the older form: it has a key that the newer form does not know, it lists no
criteria, and all its other entries are objects. -/
structure IsOlderForm (entries : List (String × Json)) : Prop where
  /-- The keys ascend and each occurs once, as in every value that is read from a text. -/
  canonical : (Json.object entries).canonical = .object entries
  other : ∃ e ∈ entries, isStandardKey e.1 = false
  unlisted : ∀ items, entries.lookup "criteria" = some (.array items) → items = []
  nested : Nested entries

section IsOlderForm

variable {entries : List (String × Json)} (older : IsOlderForm entries)
include older

theorem IsOlderForm.isStandard_eq_false : isStandard entries = false := by
  obtain ⟨e, he, other⟩ := older.other
  have keys : (entries.all fun e => isStandardKey e.1) = false :=
    List.all_eq_false.mpr ⟨e, he, by simp [other]⟩
  simp only [isStandard, keys, Bool.or_false]
  split
  · next items found => simp [older.unlisted items found]
  · rfl

/-- The older form and its standard form are read as the same definitions. -/
theorem IsOlderForm.ofJson_eq_ok_iff {d : Definition} :
    ofJson (.object entries) = .ok d ↔ ofJson (standardForm (.object entries)) = .ok d := by
  have read : ofJson (.object entries) = ofConditions entries := by
    rw [ofJson, older.isStandard_eq_false]
    rfl
  have standard : standardForm (.object entries) =
      .object (standardEntries ((spelled entries).map Condition.item)
        (entries.lookup "logical_operator")) := by
    rw [standardForm, older.canonical]
    rfl
  rw [read, ofConditions_eq_ok_iff, allConditions_eq_mapM older.nested, Except.mapM_eq_ok_iff,
    standard, ofJson_standardEntries_eq_ok_iff, List.forall₂_map_left_iff]
  simp only [Condition.ofJson_item_eq_ok_iff]

end IsOlderForm

/-- An object in the older form and its standard form are both refused, or they spell one
definition; so they match the same customers at all times. -/
theorem ofJson_standardForm {entries : List (String × Json)} (older : IsOlderForm entries) :
    ((∃ d, ofJson (.object entries) = .ok d ∧ ofJson (standardForm (.object entries)) = .ok d) ∨
      (∃ f g, ofJson (.object entries) = .error f ∧
        ofJson (standardForm (.object entries)) = .error g)) ∧
      ∀ c now b, (ofJson (.object entries) >>= fun d => d.evaluate c now) = .ok b ↔
        (ofJson (standardForm (.object entries)) >>= fun d => d.evaluate c now) = .ok b := by
  constructor
  · cases own : ofJson (.object entries) with
    | ok d => exact .inl ⟨d, rfl, older.ofJson_eq_ok_iff.mp own⟩
    | error f =>
      cases standard : ofJson (standardForm (.object entries)) with
      | error g => exact .inr ⟨f, g, rfl, rfl⟩
      | ok d =>
        rw [older.ofJson_eq_ok_iff.mpr standard] at own
        cases own
  · intro c now b
    rw [Except.bind_eq_ok, Except.bind_eq_ok]
    exact exists_congr fun d => and_congr_left fun _ => older.ofJson_eq_ok_iff

/-- A feature with two conditions, one with none, and a text in the place of the criteria. -/
theorem ofJson_standardForm_three_features :
    let entries : List (String × Json) :=
      [("criteria", .string "none"), ("logical_operator", .string "or"),
        ("marketing_opt_in", .object [("eq", .bool true)]), ("shipping_state", .object []),
        ("total_order_value", .object [("gte", .integer 500), ("lt", .integer 900)])]
    IsOlderForm entries ∧
      ((∃ d, ofJson (.object entries) = .ok d ∧ ofJson (standardForm (.object entries)) = .ok d) ∨
        (∃ f g, ofJson (.object entries) = .error f ∧
          ofJson (standardForm (.object entries)) = .error g)) := by
  intro entries
  have older : IsOlderForm entries :=
    { canonical := rfl
      other := ⟨("shipping_state", .object []), by simp [entries], rfl⟩
      unlisted := nofun
      nested := by
        intro e he other
        simp only [entries, List.mem_cons, List.not_mem_nil, or_false] at he
        rcases he with rfl | rfl | rfl | rfl | rfl
        · cases other
        · cases other
        · exact ⟨_, rfl⟩
        · exact ⟨_, rfl⟩
        · exact ⟨_, rfl⟩ }
  exact ⟨older, (ofJson_standardForm older).1⟩

end Definition

end Outreach
