import Outreach.Segment.Criterion
import Outreach.Table

/-!
A segment definition: criteria joined by "all of them" or "any of them". A definition
is sound when it has criteria and each of them is sound. It is read from an object with
a list of criteria, or from the older form, in which every other key is a feature
whose value is an object of comparisons with their operands. Segments are stored with
their definitions, and a listing shows them by their time of creation.
-/

namespace Outreach

inductive Combination
  | all
  | any
  deriving DecidableEq, Repr

namespace Combination

def name : Combination → String
  | all => "AND"
  | any => "OR"

def names : List (String × Combination) :=
  [("AND", all), ("and", all), ("OR", any), ("or", any)]

def ofJson : Json → Except Mismatch Combination := Json.name names

end Combination

structure Definition where
  combination : Combination
  criteria : List Criterion

namespace Definition

def checkAll : List Criterion → Except DefinitionFault Unit
  | [] => .ok ()
  | c :: rest =>
    match c.check with
    | .ok () => checkAll rest
    | .error f => .error f

def check (d : Definition) : Except DefinitionFault Unit :=
  if d.criteria.isEmpty then .error .noCriteria else checkAll d.criteria

def Sound (d : Definition) : Prop :=
  d.criteria ≠ [] ∧ ∀ c ∈ d.criteria, c.Sound

theorem checkAll_eq_ok_iff {cs : List Criterion} :
    checkAll cs = .ok () ↔ ∀ c ∈ cs, c.Sound := by
  induction cs with
  | nil => simp [checkAll]
  | cons c rest ih =>
    rw [List.forall_mem_cons, ← Criterion.check_eq_ok_iff, checkAll]
    cases h : c.check with
    | ok u => simp [ih]
    | error f => simp

theorem check_eq_ok_iff {d : Definition} : d.check = .ok () ↔ d.Sound := by
  simp only [check, Sound]
  by_cases h : d.criteria = []
  · simp [h]
  · simp [h, checkAll_eq_ok_iff]

/-- The features that the criteria test, each at its first place. -/
def features (d : Definition) : List Feature :=
  d.criteria.foldl (fun seen c =>
    if seen.contains c.feature then seen else seen ++ [c.feature]) []

def isStandardKey (key : String) : Bool :=
  key == "logical_operator" || key == "criteria"

def ofStandard (j : Json) : Except Mismatch Definition := do
  let criteria := Member.optional "criteria" (Json.list Criterion.ofJson) []
  let combination := Member.optional "logical_operator" Combination.ofJson .all
  let entries ← j.record "struct StandardDefinition" [combination.field, criteria.field]
  return ⟨← combination.get entries, ← criteria.get entries⟩

def conditions (feature : String) : List (String × Json) → Except DefinitionFault (List Criterion)
  | [] => .ok []
  | (comparison, value) :: rest => do
    let c ← Criterion.ofNames feature comparison value
    return c :: (← conditions feature rest)

def allConditions : List (String × Json) → Except DefinitionFault (List Criterion)
  | [] => .ok []
  | (key, j) :: rest =>
    if isStandardKey key then allConditions rest
    else
      match j with
      | .object entries => do
        let cs ← conditions key entries
        return cs ++ (← allConditions rest)
      | _ => .error (.conditionNotAnObject key)

def ofConditions (entries : List (String × Json)) : Except DefinitionFault Definition :=
  let combination :=
    match entries.lookup "logical_operator" with
    | some j => Combination.ofJson j
    | none => .ok .all
  match combination with
  | .error m => .error (.undecodable m)
  | .ok combination => (allConditions entries).map fun cs => ⟨combination, cs⟩

/-- An object is in the newer form if it lists criteria or has no other keys. -/
def isStandard (entries : List (String × Json)) : Bool :=
  let listed :=
    match entries.lookup "criteria" with
    | some (.array items) => !items.isEmpty
    | _ => false
  listed || entries.all fun e => isStandardKey e.1

def ofJson (j : Json) : Except DefinitionFault Definition :=
  match j with
  | .object entries =>
    if isStandard entries then
      match ofStandard j with
      | .ok d => .ok d
      | .error m => .error (.undecodable m)
    else ofConditions entries
  | _ => .error .notAnObject

def ofMember (j : Json) : Except Mismatch Definition :=
  match ofJson j with
  | .ok d => .ok d
  | .error f => .error (.refused f.report)

def toJson (d : Definition) : Json :=
  .object [("criteria", Json.ofList Criterion.toJson d.criteria),
    ("logical_operator", .string d.combination.name)]

end Definition

structure Segment where
  id : Ident
  name : String
  description : Option String
  definition : Definition
  createdAt : Moment

namespace Segment

def ofJson (j : Json) : Except Mismatch Segment := do
  let id := Member.required "id" Ident.ofJson
  let name := Member.required "name" Json.text
  let description := Member.nullable "description" Json.text
  let definition := Member.required "definition" Definition.ofMember
  let createdAt := Member.required "created_at" Moment.ofJson
  let entries ← j.record "struct Segment" [id.field, name.field, description.field,
    definition.field, createdAt.field]
  return {
    id := ← id.get entries
    name := ← name.get entries
    description := ← description.get entries
    definition := ← definition.get entries
    createdAt := ← createdAt.get entries }

def toJson (s : Segment) : Json :=
  .object [("created_at", s.createdAt.toJson), ("definition", s.definition.toJson),
    ("description", Json.ofOption .string s.description), ("id", s.id.toJson),
    ("name", .string s.name)]

def notAfter (a b : Segment) : Bool :=
  a.createdAt.before b.createdAt ||
    (!b.createdAt.before a.createdAt && !b.id.before a.id)

def listing (t : Table Segment) : List Segment :=
  t.values.mergeSort notAfter

end Segment

end Outreach
