import Mathlib.Data.Set.Insert
import Outreach.Flow.Basic

/-!
The table of flows with its index is as good as a plain set of flows. To store a flow in the set
is to drop every flow with its identifier or its segment first. The table and the index hold
exactly such a set after any requests, and they give the answers that the set gives; so a segment
never owns two flows, and the index leads to every flow and to nothing else.
-/

namespace Outreach

/-- What a repository of flows is asked for. -/
inductive FlowRequest
  | insert (f : Flow)
  | replaceSteps (id : Ident) (steps : List Step)
  | get (id : Ident)
  | stepsOf (segment : Ident)

inductive FlowAnswer
  | stored
  | replaced (known : Bool)
  | found (f : Option Flow)
  | owned (steps : Option (List Step))

namespace FlowRequest

def answers {σ : Type} (respond : FlowRequest → σ → FlowAnswer × σ) :
    List FlowRequest → σ → List FlowAnswer
  | [], _ => []
  | r :: rest, s => (respond r s).1 :: answers respond rest (respond r s).2

def after {σ : Type} (respond : FlowRequest → σ → FlowAnswer × σ) (requests : List FlowRequest)
    (s : σ) : σ :=
  requests.foldl (fun s r => (respond r s).2) s

end FlowRequest

abbrev FlowSet := Set Flow

namespace FlowSet

def store (S : FlowSet) (f : Flow) : FlowSet :=
  insert f {g ∈ S | g.id ≠ f.id ∧ g.segment ≠ f.segment}

def replaceSteps (S : FlowSet) (id : Ident) (steps : List Step) : FlowSet :=
  {g | ∃ f ∈ S, g = if f.id = id then { f with steps := steps } else f}

open Classical in
noncomputable def find? (S : FlowSet) (p : Flow → Prop) : Option Flow :=
  if h : ∃ f ∈ S, p f then some h.choose else none

open Classical in
noncomputable def respond : FlowRequest → FlowSet → FlowAnswer × FlowSet
  | .insert f, S => (.stored, S.store f)
  | .replaceSteps id steps, S => (.replaced (decide (∃ f ∈ S, f.id = id)), S.replaceSteps id steps)
  | .get id, S => (.found (S.find? fun f => f.id = id), S)
  | .stepsOf segment, S => (.owned ((S.find? fun f => f.segment = segment).map (·.steps)), S)

theorem find?_eq_some {S : FlowSet} {p : Flow → Prop} {f : Flow} (hf : f ∈ S) (hp : p f)
    (unique : ∀ g ∈ S, p g → g = f) : S.find? p = some f := by
  have found : ∃ g ∈ S, p g := ⟨f, hf, hp⟩
  rw [find?, dif_pos found]
  exact congrArg some (unique _ found.choose_spec.1 found.choose_spec.2)

theorem find?_eq_none {S : FlowSet} {p : Flow → Prop} (h : ∀ f ∈ S, ¬ p f) : S.find? p = none := by
  apply dif_neg
  rintro ⟨f, hf, hp⟩
  exact h f hf hp

theorem mem_store {S : FlowSet} {f g : Flow} :
    g ∈ S.store f ↔ g = f ∨ g ∈ S ∧ g.id ≠ f.id ∧ g.segment ≠ f.segment :=
  Iff.rfl

end FlowSet

namespace FlowTable

def respond : FlowRequest → FlowTable → FlowAnswer × FlowTable
  | .insert f, t => (.stored, t.insert f)
  | .replaceSteps id steps, t =>
    let (known, t') := t.exchangeSteps id steps
    (.replaced known, t')
  | .get id, t => (.found (t.get? id), t)
  | .stepsOf segment, t => (.owned (t.stepsOf? segment), t)

/-- The table holds the flows of a set under their identifiers, and its index leads from the
segment of each of them to it. -/
structure Holds (t : FlowTable) (S : FlowSet) : Prop where
  get?_iff : ∀ id f, t.get? id = some f ↔ f ∈ S ∧ f.id = id
  owned_iff : ∀ segment id,
    t.owned.get? segment = some id ↔ ∃ f ∈ S, f.segment = segment ∧ f.id = id

theorem holds_empty : empty.Holds ∅ := by
  constructor
  · intro id f
    simp [empty, get?, Table.get?_empty]
  · intro segment id
    simp [empty, Table.get?_empty]

section Holds

variable {t : FlowTable} {S : FlowSet} (h : t.Holds S)
include h

theorem Holds.get?_id {f : Flow} (hf : f ∈ S) : t.get? f.id = some f :=
  (h.get?_iff f.id f).mpr ⟨hf, rfl⟩

theorem Holds.eq_of_id {f g : Flow} (hf : f ∈ S) (hg : g ∈ S) (same : f.id = g.id) : f = g := by
  have atF : t.get? g.id = some f := (h.get?_iff g.id f).mpr ⟨hf, same⟩
  exact Option.some.inj (atF.symm.trans (h.get?_id hg))

theorem Holds.owned_segment {f : Flow} (hf : f ∈ S) : t.owned.get? f.segment = some f.id :=
  (h.owned_iff f.segment f.id).mpr ⟨f, hf, rfl, rfl⟩

/-- A segment owns one flow at most. -/
theorem Holds.eq_of_segment {f g : Flow} (hf : f ∈ S) (hg : g ∈ S)
    (same : f.segment = g.segment) : f = g := by
  have atF : t.owned.get? g.segment = some f.id := same ▸ h.owned_segment hf
  exact h.eq_of_id hf hg (Option.some.inj (atF.symm.trans (h.owned_segment hg)))

theorem Holds.get?_eq_find? (id : Ident) : t.get? id = S.find? fun f => f.id = id := by
  cases stored : t.get? id with
  | some f =>
    obtain ⟨hf, same⟩ := (h.get?_iff id f).mp stored
    refine (FlowSet.find?_eq_some hf same ?_).symm
    intro g hg other
    exact h.eq_of_id hg hf (other.trans same.symm)
  | none =>
    refine (FlowSet.find?_eq_none ?_).symm
    rintro f hf rfl
    cases stored.symm.trans (h.get?_id hf)

theorem Holds.ofSegment?_eq_find? (segment : Ident) :
    t.ofSegment? segment = S.find? fun f => f.segment = segment := by
  unfold ofSegment?
  cases index : t.owned.get? segment with
  | some id =>
    obtain ⟨f, hf, own, rfl⟩ := (h.owned_iff segment id).mp index
    have found : S.find? (fun f => f.segment = segment) = some f := by
      refine FlowSet.find?_eq_some hf own ?_
      intro g hg other
      exact h.eq_of_segment hg hf (other.trans own.symm)
    rw [found]
    exact h.get?_id hf
  | none =>
    refine (FlowSet.find?_eq_none ?_).symm
    rintro f hf rfl
    cases index.symm.trans (h.owned_segment hf)

theorem Holds.contains_iff (id : Ident) : t.flows.contains id = true ↔ ∃ f ∈ S, f.id = id := by
  change (t.get? id).isSome = true ↔ _
  rw [Option.isSome_iff_exists]
  exact exists_congr fun f => h.get?_iff id f

/-- What is left of the flows when the segment of a new one is cleared. -/
theorem Holds.get?_displace {f : Flow} (id : Ident) (g : Flow) :
    (t.displace f).get? id = some g ↔
      (g ∈ S ∧ g.id = id) ∧ (g.segment = f.segment → id = f.id) := by
  have stored : t.flows.get? id = some g ↔ g ∈ S ∧ g.id = id := h.get?_iff id g
  unfold displace
  cases index : t.owned.get? f.segment with
  | none =>
    have elsewhere : g ∈ S → g.segment ≠ f.segment := by
      intro hg same
      cases index.symm.trans (same ▸ h.owned_segment hg)
    rw [stored]
    exact ⟨fun hg => ⟨hg, fun same => absurd same (elsewhere hg.1)⟩, fun hg => hg.1⟩
  | some previous =>
    obtain ⟨p, hp, ownP, rfl⟩ := (h.owned_iff _ _).mp index
    -- A flow of the segment is the previous one.
    have isPrevious : g ∈ S → g.segment = f.segment → g = p := fun hg same =>
      h.eq_of_segment hg hp (same.trans ownP.symm)
    by_cases moved : p.id ≠ f.id
    · simp only [if_pos moved, Table.get?_erase]
      by_cases cleared : id = p.id
      · subst cleared
        simp only [if_true]
        constructor
        · intro absurd
          cases absurd
        · rintro ⟨⟨hg, same⟩, keep⟩
          have : g = p := h.eq_of_id hg hp same
          exact absurd (keep (this ▸ ownP)) moved
      · rw [if_neg cleared, stored]
        refine ⟨fun hg => ⟨hg, fun same => ?_⟩, fun hg => hg.1⟩
        exact absurd (hg.2 ▸ congrArg Flow.id (isPrevious hg.1 same)) cleared
    · simp only [if_neg moved, stored]
      refine ⟨fun hg => ⟨hg, fun same => ?_⟩, fun hg => hg.1⟩
      rw [← hg.2, isPrevious hg.1 same]
      exact not_not.mp moved

/-- What is left of the index when a flow that moves gives up its segment. -/
theorem Holds.get?_release {f : Flow} (segment id : Ident) :
    (t.release f).get? segment = some id ↔
      (∃ g ∈ S, g.segment = segment ∧ g.id = id) ∧ (id = f.id → segment = f.segment) := by
  have stored := h.owned_iff segment id
  unfold release
  cases known : t.flows.get? f.id with
  | none =>
    rw [stored]
    refine ⟨fun hg => ⟨hg, ?_⟩, fun hg => hg.1⟩
    rintro rfl
    obtain ⟨g, hg, -, same⟩ := hg
    cases known.symm.trans ((h.get?_iff _ _).mpr ⟨hg, same⟩)
  | some old =>
    obtain ⟨hold, sameId⟩ := (h.get?_iff f.id old).mp known
    have index : t.owned.get? old.segment = some f.id := sameId ▸ h.owned_segment hold
    -- The flow with the identifier is the old one.
    have isOld : ∀ g ∈ S, g.id = f.id → g = old := fun g hg same =>
      h.eq_of_id hg hold (same.trans sameId.symm)
    by_cases moved : old.segment ≠ f.segment
    · simp only [if_pos (And.intro moved index), Table.get?_erase]
      by_cases released : segment = old.segment
      · subst released
        simp only [if_true]
        constructor
        · intro absurd
          cases absurd
        · rintro ⟨⟨g, hg, own, rfl⟩, keep⟩
          have : g = old := h.eq_of_segment hg hold own
          exact absurd (keep (this ▸ sameId)) moved
      · rw [if_neg released, stored]
        refine ⟨fun hg => ⟨hg, ?_⟩, fun hg => hg.1⟩
        rintro rfl
        obtain ⟨g, hg, own, same⟩ := hg
        exact absurd (own ▸ congrArg Flow.segment (isOld g hg same)) released
    · have kept : ¬(old.segment ≠ f.segment ∧ t.owned.get? old.segment = some f.id) :=
        fun both => moved both.1
      simp only [if_neg kept, stored]
      refine ⟨fun hg => ⟨hg, ?_⟩, fun hg => hg.1⟩
      rintro rfl
      obtain ⟨g, hg, own, same⟩ := hg
      rw [← own, isOld g hg same]
      exact not_not.mp moved

theorem Holds.insert (f : Flow) : (t.insert f).Holds (S.store f) := by
  constructor
  · intro id g
    change ((t.displace f).insert f.id f).get? id = some g ↔ _
    rw [Table.get?_insert, FlowSet.mem_store]
    by_cases own : id = f.id
    · subst own
      simp only [if_true, Option.some.injEq]
      constructor
      · rintro rfl
        exact ⟨.inl rfl, rfl⟩
      · rintro ⟨rfl | ⟨-, other, -⟩, same⟩
        · rfl
        · exact absurd same other
    · rw [if_neg own, h.get?_displace]
      constructor
      · rintro ⟨⟨hg, rfl⟩, keep⟩
        exact ⟨.inr ⟨hg, own, fun same => own (keep same)⟩, rfl⟩
      · rintro ⟨rfl | ⟨hg, -, elsewhere⟩, rfl⟩
        · exact absurd rfl own
        · exact ⟨⟨hg, rfl⟩, fun same => absurd same elsewhere⟩
  · intro segment id
    change ((t.release f).insert f.segment f.id).get? segment = some id ↔ _
    rw [Table.get?_insert]
    by_cases own : segment = f.segment
    · subst own
      simp only [if_true, Option.some.injEq]
      constructor
      · rintro rfl
        exact ⟨f, .inl rfl, rfl, rfl⟩
      · rintro ⟨g, rfl | ⟨-, -, elsewhere⟩, same, rfl⟩
        · rfl
        · exact absurd same elsewhere
    · rw [if_neg own, h.get?_release]
      constructor
      · rintro ⟨⟨g, hg, rfl, rfl⟩, keep⟩
        exact ⟨g, .inr ⟨hg, fun same => own (keep same), own⟩, rfl, rfl⟩
      · rintro ⟨g, rfl | ⟨hg, other, -⟩, rfl, rfl⟩
        · exact absurd rfl own
        · exact ⟨⟨g, hg, rfl, rfl⟩, fun same => absurd same other⟩

theorem Holds.replaceSteps (id : Ident) (steps : List Step) :
    (t.replaceSteps id steps).Holds (S.replaceSteps id steps) := by
  have kept (f : Flow) : (if f.id = id then { f with steps := steps } else f).id = f.id ∧
      (if f.id = id then { f with steps := steps } else f).segment = f.segment := by
    split <;> exact ⟨rfl, rfl⟩
  constructor
  · intro k g
    change (t.flows.modify id fun f => { f with steps := steps }).get? k = some g ↔ _
    rw [Table.get?_modify]
    constructor
    · intro found
      have : ∃ f, t.get? k = some f ∧ g = if f.id = id then { f with steps := steps } else f := by
        by_cases own : k = id
        · rw [if_pos own, Option.map_eq_some_iff] at found
          obtain ⟨f, stored, rfl⟩ := found
          exact ⟨f, stored, (if_pos (((h.get?_iff k f).mp stored).2.trans own)).symm⟩
        · rw [if_neg own] at found
          exact ⟨g, found, (if_neg (((h.get?_iff k g).mp found).2 ▸ own)).symm⟩
      obtain ⟨f, stored, rfl⟩ := this
      obtain ⟨hf, rfl⟩ := (h.get?_iff k f).mp stored
      exact ⟨⟨f, hf, rfl⟩, (kept f).1⟩
    · rintro ⟨⟨f, hf, rfl⟩, rfl⟩
      have stored : t.flows.get? f.id = some f := h.get?_id hf
      rw [(kept f).1, stored]
      split <;> rfl
  · intro segment k
    change t.owned.get? segment = some k ↔ _
    rw [h.owned_iff]
    constructor
    · rintro ⟨f, hf, rfl, rfl⟩
      exact ⟨_, ⟨f, hf, rfl⟩, (kept f).2, (kept f).1⟩
    · rintro ⟨_, ⟨f, hf, rfl⟩, rfl, rfl⟩
      exact ⟨f, hf, (kept f).2.symm, (kept f).1.symm⟩

/-- One request is answered as the set answers it, and leaves what the set leaves. -/
theorem Holds.respond (r : FlowRequest) :
    (FlowTable.respond r t).1 = (FlowSet.respond r S).1 ∧
      (FlowTable.respond r t).2.Holds (FlowSet.respond r S).2 := by
  cases r with
  | insert f => exact ⟨rfl, h.insert f⟩
  | replaceSteps id steps =>
    refine ⟨congrArg FlowAnswer.replaced ?_, h.replaceSteps id steps⟩
    classical
    exact Bool.eq_iff_iff.mpr ((h.contains_iff id).trans decide_eq_true_iff.symm)
  | get id => exact ⟨congrArg FlowAnswer.found (h.get?_eq_find? id), h⟩
  | stepsOf segment =>
    refine ⟨congrArg FlowAnswer.owned ?_, h⟩
    rw [stepsOf?, h.ofSegment?_eq_find?]

theorem Holds.run (requests : List FlowRequest) :
    FlowRequest.answers FlowTable.respond requests t =
        FlowRequest.answers FlowSet.respond requests S ∧
      (FlowRequest.after FlowTable.respond requests t).Holds
        (FlowRequest.after FlowSet.respond requests S) := by
  induction requests generalizing t S with
  | nil => exact ⟨rfl, h⟩
  | cons r rest ih =>
    obtain ⟨answer, next⟩ := h.respond r
    obtain ⟨later, last⟩ := ih next
    refine ⟨?_, last⟩
    rw [FlowRequest.answers, FlowRequest.answers, answer, later]

end Holds

/-- Over any requests the table answers as a set of flows does. After them the index leads from a
segment to a flow if and only if the flow is stored with this segment, and two flows that are
stored differ both in their identifiers and in their segments. -/
theorem refines_flowSet (requests : List FlowRequest) :
    let t := FlowRequest.after respond requests empty
    let S := FlowRequest.after FlowSet.respond requests ∅
    FlowRequest.answers respond requests empty = FlowRequest.answers FlowSet.respond requests ∅ ∧
      (∀ id f, t.get? id = some f ↔ f ∈ S ∧ f.id = id) ∧
      (∀ segment id, t.owned.get? segment = some id ↔
        ∃ f, t.get? id = some f ∧ f.segment = segment) ∧
      ∀ f ∈ S, ∀ g ∈ S, f.id = g.id ∨ f.segment = g.segment → f = g := by
  intro t S
  obtain ⟨answers, holds⟩ := holds_empty.run requests
  refine ⟨answers, holds.get?_iff, ?_, ?_⟩
  · intro segment id
    rw [holds.owned_iff]
    constructor
    · rintro ⟨f, hf, own, same⟩
      exact ⟨f, (holds.get?_iff id f).mpr ⟨hf, same⟩, own⟩
    · rintro ⟨f, stored, own⟩
      obtain ⟨hf, same⟩ := (holds.get?_iff id f).mp stored
      exact ⟨f, hf, own, same⟩
  · rintro f hf g hg (same | same)
    · exact holds.eq_of_id hf hg same
    · exact holds.eq_of_segment hf hg same

end FlowTable

end Outreach
