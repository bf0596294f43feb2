import Outreach.Proofs.Segment.Storing

/-!
What an accepted object states and what becomes of it. An object states the items that it lists as
its criteria and the conditions that it has under the names of features. It is read for the one or
for the other: if it lists criteria, each item becomes a criterion and the conditions are passed
over; else each condition becomes a criterion. So a condition is lost only beside criteria.
-/

namespace Outreach

theorem Feature.name_of_ofName? {s : String} {f : Feature} (h : ofName? s = some f) :
    f.name = s := by
  have found := List.find?_some h
  exact eq_of_beq found

namespace Definition

def listed (entries : List (String × Json)) : List Json :=
  match entries.lookup "criteria" with
  | some (.array items) => items
  | _ => []

def stated (entries : List (String × Json)) : List Condition :=
  entries.flatMap fun e => if (Feature.ofName? e.1).isSome then conditionsOf e.1 e.2 else []

section Object

variable {entries : List (String × Json)} {d : Definition}

theorem isStandardKey_of_feature {key : String} (feature : (Feature.ofName? key).isSome) :
    isStandardKey key = false := by
  obtain ⟨f, known⟩ := Option.isSome_iff_exists.mp feature
  rw [← Feature.name_of_ofName? known]
  cases f <;> decide

theorem mem_stated {key : String} {conditions : List (String × Json)} {e : String × Json}
    (entry : (key, Json.object conditions) ∈ entries) (feature : (Feature.ofName? key).isSome)
    (condition : e ∈ conditions) : ⟨key, e.1, e.2⟩ ∈ stated entries := by
  refine List.mem_flatMap.mpr ⟨_, entry, ?_⟩
  rw [if_pos feature]
  exact List.mem_map_of_mem condition

/-- Where all conditions are on features, the object states them all. -/
theorem spelled_eq_stated (known : ∀ c ∈ spelled entries, (Feature.ofName? c.feature).isSome) :
    spelled entries = stated entries := by
  apply List.flatMap_congr
  intro e he
  by_cases feature : (Feature.ofName? e.1).isSome
  · rw [if_pos feature, if_neg (Bool.eq_false_iff.mp (isStandardKey_of_feature feature))]
  · rw [if_neg feature]
    by_cases standard : isStandardKey e.1 = true
    · rw [if_pos standard]
    · rw [if_neg standard, List.eq_nil_iff_forall_not_mem]
      intro c hc
      have among : c ∈ spelled entries := by
        refine List.mem_flatMap.mpr ⟨e, he, ?_⟩
        rwa [if_neg standard]
      obtain ⟨x, -, rfl⟩ := List.mem_map.mp hc
      exact feature (known _ among)

theorem isStandard_eq : isStandard entries =
    (!(listed entries).isEmpty || entries.all fun e => isStandardKey e.1) := by
  unfold isStandard listed
  cases entries.lookup "criteria" with
  | none => rfl
  | some j => cases j <;> rfl

theorem stated_eq_nil (keys : ∀ e ∈ entries, isStandardKey e.1 = true) : stated entries = [] := by
  rw [stated, List.flatMap_eq_nil_iff]
  intro e he
  rw [if_neg]
  intro feature
  exact Bool.eq_false_iff.mp (isStandardKey_of_feature feature) (keys e he)

theorem criteria_of_ofStandard (accepted : ofStandard (.object entries) = .ok d) :
    (listed entries).mapM Criterion.ofJson = .ok d.criteria := by
  obtain ⟨es, read, h⟩ := Except.bind_eq_ok.mp accepted
  obtain rfl := Json.record_object_eq_ok read
  obtain ⟨combination, -, h⟩ := Except.bind_eq_ok.mp h
  obtain ⟨criteria, found, h⟩ := Except.bind_eq_ok.mp h
  obtain rfl := Except.ok.inj h
  unfold listed
  rcases Member.get_eq_ok found with ⟨j, entry, criteria⟩ | ⟨absent, default⟩
  · rw [show es.lookup "criteria" = some j from entry]
    cases j with
    | array items => exact criteria
    | _ => cases criteria
  · rw [show es.lookup "criteria" = none from absent]
    cases default
    rfl

theorem criteria_of_ofConditions (accepted : ofConditions entries = .ok d) :
    (stated entries).mapM Condition.criterion = .ok d.criteria := by
  obtain ⟨criteria, -⟩ := ofConditions_eq_ok_iff.mp accepted
  rw [allConditions_eq_mapM (nested_of_allConditions criteria)] at criteria
  rw [← spelled_eq_stated, criteria]
  intro c hc
  obtain ⟨k, -, read⟩ := Except.exists_of_mapM_eq_ok criteria c hc
  rw [(Criterion.ofNames_eq_ok_iff.mp read).1]
  rfl

/-- An accepted object that lists criteria is read for them, one that lists none for its
conditions. -/
theorem criteria_of_ofJson (accepted : ofJson (.object entries) = .ok d) :
    (listed entries ≠ [] → (listed entries).mapM Criterion.ofJson = .ok d.criteria) ∧
      (listed entries = [] → (stated entries).mapM Condition.criterion = .ok d.criteria) := by
  rw [ofJson] at accepted
  by_cases standard : isStandard entries = true
  · rw [if_pos standard] at accepted
    have read : ofStandard (.object entries) = .ok d := by
      cases made : ofStandard (.object entries) with
      | ok e =>
        rw [made] at accepted
        exact congrArg Except.ok (Except.ok.inj accepted)
      | error m =>
        rw [made] at accepted
        cases accepted
    have criteria := criteria_of_ofStandard read
    refine ⟨fun _ => criteria, ?_⟩
    intro none
    have keys : ∀ e ∈ entries, isStandardKey e.1 = true := by
      simpa [isStandard_eq, none] using standard
    rw [none, List.mapM_nil] at criteria
    rw [stated_eq_nil keys, List.mapM_nil, ← Except.ok.inj criteria]
    rfl
  · rw [if_neg standard] at accepted
    refine ⟨?_, fun _ => criteria_of_ofConditions accepted⟩
    intro some
    simp [isStandard_eq, some] at standard

/-- Each condition of an object that lists no criteria becomes one criterion, and there are no
others. Where an object lists criteria, its items become the criteria and its conditions are passed
over. So an accepted object comes to fewer criteria than it states just if it does both. -/
theorem criteria_stated (accepted : ofJson (.object entries) = .ok d) :
    (listed entries = [] →
      (∀ key f conditions comparison value, (key, Json.object conditions) ∈ entries →
        Feature.ofName? key = some f → (comparison, value) ∈ conditions →
        ∃ k ∈ d.criteria, Criterion.ofNames key comparison value = .ok k) ∧
      List.Forall₂ (fun c k => Condition.criterion c = .ok k) (stated entries) d.criteria) ∧
    (listed entries ≠ [] →
      List.Forall₂ (fun i k => Criterion.ofJson i = .ok k) (listed entries) d.criteria) ∧
    (d.criteria.length < (listed entries).length + (stated entries).length ↔
      listed entries ≠ [] ∧ stated entries ≠ []) := by
  obtain ⟨fromItems, fromConditions⟩ := criteria_of_ofJson accepted
  refine ⟨?_, fun some => Except.mapM_eq_ok_iff.mp (fromItems some), ?_⟩
  · intro none
    refine ⟨?_, Except.mapM_eq_ok_iff.mp (fromConditions none)⟩
    intro key f conditions comparison value entry known condition
    have feature : (Feature.ofName? key).isSome := by
      rw [known]
      rfl
    exact Except.exists_of_mapM_eq_ok (fromConditions none) _ (mem_stated entry feature condition)
  · by_cases none : listed entries = []
    · have same := (Except.mapM_eq_ok_iff.mp (fromConditions none)).length_eq
      simp [none, same]
    · have same := (Except.mapM_eq_ok_iff.mp (fromItems none)).length_eq
      rw [← same, ← List.length_pos_iff (l := stated entries)]
      constructor
      · intro fewer
        exact ⟨none, by omega⟩
      · rintro ⟨-, pos⟩
        omega

end Object

/-- Two features in the older form, one with two conditions, beside an empty list of criteria. -/
theorem criteria_stated_two_features :
    let entries : List (String × Json) :=
      [("criteria", .array []), ("marketing_opt_in", .object [("eq", .bool true)]),
        ("total_order_value", .object [("gte", .integer 500), ("lt", .integer 900)])]
    ∃ d, ofJson (.object entries) = .ok d ∧
      (∃ k ∈ d.criteria, Criterion.ofNames "total_order_value" "lt" (.integer 900) = .ok k) ∧
      ¬ d.criteria.length < (listed entries).length + (stated entries).length := by
  intro entries
  have accepted : ofJson (.object entries) = .ok ⟨.all, [⟨.marketingOptIn, .eq, .flag true⟩,
      ⟨.totalOrderValue, .gte, .number (Float.ofInt 500)⟩,
      ⟨.totalOrderValue, .lt, .number (Float.ofInt 900)⟩]⟩ := rfl
  obtain ⟨ofConditions, -, fewer⟩ := criteria_stated accepted
  refine ⟨_, accepted, ?_, fun lost => (fewer.mp lost).1 rfl⟩
  exact (ofConditions rfl).1 "total_order_value" .totalOrderValue
    [("gte", .integer 500), ("lt", .integer 900)] "lt" (.integer 900) (by simp [entries]) rfl
    (by simp)

/-- Not every condition of an accepted object becomes a criterion. This one has a list of criteria
and a condition on another feature beside it, which alone would be read. -/
theorem condition_dropped_beside_criteria :
    let entries : List (String × Json) :=
      [("criteria", .array [Criterion.item "marketing_opt_in" "eq" (.bool true)]),
        ("total_order_value", .object [("gte", .integer 500)])]
    (Json.object entries).canonical = .object entries ∧
      ∃ d, ofJson (.object entries) = .ok d ∧ d.criteria.length = 1 ∧
        ∃ k, Criterion.ofNames "total_order_value" "gte" (.integer 500) = .ok k ∧
          k ∉ d.criteria := by
  intro entries
  have accepted : ofJson (.object entries) = .ok ⟨.all, [⟨.marketingOptIn, .eq, .flag true⟩]⟩ := rfl
  refine ⟨rfl, _, accepted, rfl, ⟨.totalOrderValue, .gte, .number (Float.ofInt 500)⟩, rfl, ?_⟩
  rw [List.mem_singleton]
  rintro ⟨⟩

end Definition

end Outreach
