import Outreach.Proofs.Except
import Outreach.Segment.Definition

/-!
Definitions in the newer form. A criterion is an item of two names and a value, and a definition
lists such items; it is read if every item is read and the combination is known.
-/

namespace Outreach

namespace Criterion

def item (feature comparison : String) (value : Json) : Json :=
  .object [("field", .string feature), ("operator", .string comparison), ("value", value)]

theorem toJson_eq_item (c : Criterion) :
    c.toJson = item c.feature.name c.comparison.name c.operand.toJson :=
  rfl

theorem ofJson_item (feature comparison : String) (value : Json) :
    ofJson (item feature comparison value) =
      (ofNames feature comparison value).mapError fun f => .refused f.report := by
  cases made : ofNames feature comparison value <;>
    simp [ofJson, item, made, Json.record, Field.checkEntries, Field.find?, Field.missing?,
      Member.field, Member.required, Member.get, Json.text, Json.asText, List.lookup_cons,
      Except.map, Except.mapError]

theorem ofJson_item_eq_ok_iff {feature comparison : String} {value : Json} {c : Criterion} :
    ofJson (item feature comparison value) = .ok c ↔ ofNames feature comparison value = .ok c := by
  rw [ofJson_item, Except.mapError_eq_ok]

end Criterion

namespace Definition

def combinationOf : Option Json → Except Mismatch Combination
  | some j => Combination.ofJson j
  | none => .ok .all

def standardEntries (items : List Json) (combination? : Option Json) : List (String × Json) :=
  ("criteria", .array items) :: (combination?.map fun j => ("logical_operator", j)).toList

theorem toJson_eq_standardEntries (d : Definition) :
    d.toJson = .object (standardEntries (d.criteria.map Criterion.toJson)
      (some (.string d.combination.name))) :=
  rfl

theorem combinationOf_name (k : Combination) : combinationOf (some (.string k.name)) = .ok k := by
  cases k <;> rfl

section StandardEntries

variable {items : List Json} {combination? : Option Json}

theorem isStandard_standardEntries : isStandard (standardEntries items combination?) = true := by
  have keys : ((standardEntries items combination?).all fun e => isStandardKey e.1) = true := by
    cases combination? <;> rfl
  rw [isStandard, keys, Bool.or_true]

/-- Both entries are checked first and read afterwards, which comes to the same. -/
theorem ofStandard_standardEntries :
    ofStandard (.object (standardEntries items combination?)) = (do
      let cs ← items.mapM Criterion.ofJson
      let k ← combinationOf combination?
      return ⟨k, cs⟩) := by
  cases combination? with
  | none =>
    cases criteria : items.mapM Criterion.ofJson <;>
      simp [ofStandard, Json.record, standardEntries, combinationOf, Field.checkEntries,
        Field.find?, Field.missing?, Member.field, Member.optional, Member.get, Json.list,
        List.lookup_cons, criteria, Except.map]
  | some j =>
    cases criteria : items.mapM Criterion.ofJson <;>
      cases known : Combination.ofJson j <;>
        simp [ofStandard, Json.record, standardEntries, combinationOf, Field.checkEntries,
          Field.find?, Field.missing?, Member.field, Member.optional, Member.get, Json.list,
          List.lookup_cons, criteria, known, Except.map]

theorem ofJson_standardEntries_eq_ok_iff {d : Definition} :
    ofJson (.object (standardEntries items combination?)) = .ok d ↔
      List.Forall₂ (fun i c => Criterion.ofJson i = .ok c) items d.criteria ∧
        combinationOf combination? = .ok d.combination := by
  have read : ofJson (.object (standardEntries items combination?)) =
      (ofStandard (.object (standardEntries items combination?))).mapError .undecodable := by
    rw [ofJson, if_pos isStandard_standardEntries]
    cases ofStandard (.object (standardEntries items combination?)) <;> rfl
  rw [read, Except.mapError_eq_ok, ofStandard_standardEntries, Except.bind_eq_ok]
  constructor
  · rintro ⟨cs, criteria, h⟩
    obtain ⟨k, known, h⟩ := Except.bind_eq_ok.mp h
    obtain rfl := Except.ok.inj h
    exact ⟨Except.mapM_eq_ok_iff.mp criteria, known⟩
  · rintro ⟨criteria, known⟩
    exact ⟨d.criteria, Except.mapM_eq_ok_iff.mpr criteria,
      Except.bind_eq_ok.mpr ⟨d.combination, known, rfl⟩⟩

end StandardEntries

end Definition

end Outreach
