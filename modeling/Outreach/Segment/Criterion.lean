import Outreach.Segment.Operand

/-!
One test of a customer: a feature, a comparison and an operand. A criterion is sound
when the kind of its feature allows the comparison and the operand is of that kind.
Criteria read from JSON are sound. A fault says why a definition, or a query over one, is
refused.
-/

namespace Outreach

inductive DefinitionFault
  | unknownFeature (name : String)
  | unknownComparison (name : String)
  | unreadableOperand (value : Json) (feature : Feature)
  | comparisonNotAllowed (comparison : Comparison) (feature : Feature)
  | operandMisfit (operand : Operand) (feature : Feature)
  | noCriteria
  | notAnObject
  | conditionNotAnObject (key : String)
  | limitNotPositive
  | undecodable (mismatch : Mismatch)
  /-- A rule of the caller, in its own words. -/
  | stated (reason : String)

namespace DefinitionFault

def message : DefinitionFault → String
  | unknownFeature name => s!"unknown field '{name}'"
  | unknownComparison name => s!"unknown operator '{name}'"
  | unreadableOperand value feature =>
    s!"invalid value {value.write} for field '{feature.name}'"
  | comparisonNotAllowed comparison feature =>
    s!"operator '{comparison.name}' is not valid for field '{feature.name}'"
  | operandMisfit operand feature =>
    s!"value {operand.shown} does not fit field '{feature.name}'"
  | noCriteria => "criteria list is empty"
  | notAnObject => "definition must be a JSON object"
  | conditionNotAnObject key => s!"legacy condition for '{key}' must be an object"
  | limitNotPositive => "limit must be a positive integer"
  | undecodable mismatch => mismatch.message
  | stated reason => reason

def report (f : DefinitionFault) : String :=
  "Invalid segment definition: " ++ f.message

end DefinitionFault

structure Criterion where
  feature : Feature
  comparison : Comparison
  operand : Operand

namespace Criterion

def check (c : Criterion) : Except DefinitionFault Unit :=
  if !c.feature.kind.allows c.comparison then
    .error (.comparisonNotAllowed c.comparison c.feature)
  else if !c.operand.fits c.feature.kind then
    .error (.operandMisfit c.operand c.feature)
  else .ok ()

def Sound (c : Criterion) : Prop :=
  c.feature.kind.allows c.comparison = true ∧ c.operand.fits c.feature.kind = true

instance (c : Criterion) : Decidable c.Sound := inferInstanceAs (Decidable (_ ∧ _))

theorem check_eq_ok_iff {c : Criterion} : c.check = .ok () ↔ c.Sound := by
  simp only [check, Sound]
  cases c.feature.kind.allows c.comparison <;>
    cases c.operand.fits c.feature.kind <;> simp

def create (feature : Feature) (comparison : Comparison) (operand : Operand) :
    Except DefinitionFault Criterion := do
  let c : Criterion := ⟨feature, comparison, operand⟩
  c.check
  return c

def ofNames (feature comparison : String) (value : Json) : Except DefinitionFault Criterion :=
  match Feature.ofName? feature with
  | none => .error (.unknownFeature feature)
  | some a =>
    match Comparison.ofName? comparison with
    | none => .error (.unknownComparison comparison)
    | some c =>
      match Operand.ofJson? a.kind value with
      | none => .error (.unreadableOperand value a)
      | some o => create a c o

def ofJson (j : Json) : Except Mismatch Criterion := do
  let feature := Member.required "field" Json.text
  let comparison := Member.required "operator" Json.text
  let value := Member.required "value" .ok
  let entries ← j.record "struct RawCriterion" [feature.field, comparison.field, value.field]
  match ofNames (← feature.get entries) (← comparison.get entries) (← value.get entries) with
  | .ok c => return c
  | .error f => throw (.refused f.report)

def toJson (c : Criterion) : Json :=
  .object [("field", .string c.feature.name), ("operator", .string c.comparison.name),
    ("value", c.operand.toJson)]

end Criterion

end Outreach
