import Outreach.Proofs.Segment.Listing
import Outreach.Proofs.Segment.Stated
import Outreach.Segment.Draft

/-!
Definitions read from a document or built from a draft. A customer is tested without another look
at the criteria, and a criterion that is not sound would just not hold. It does not come to that:
a document is read criterion by criterion, in the one form and in the other, and none is taken over
unless it is sound; a draft takes any criteria, but no segment is built of it unless they all are.
So nothing but a lack of criteria makes a query fail, and a segment that was built has some.
-/

namespace Outreach

namespace Definition

variable {d : Definition}

/-- The check and the queries fail for want of criteria and for nothing else. -/
structure FailsIfEmpty (d : Definition) : Prop where
  check : (∃ f, d.check = .error f) ↔ d.criteria = []
  evaluate : ∀ c now, (∃ f, d.evaluate c now = .error f) ↔ d.criteria = []
  count : ∀ (m : MatchSettings) customers now,
    (∃ f, m.count d customers now = .error f) ↔ d.criteria = []
  allMatches : ∀ customers now, (∃ f, d.allMatches customers now = .error f) ↔ d.criteria = []
  matching : ∀ (m : MatchSettings) customers now limit n, m.limit limit = .ok n →
    ((∃ f, m.matching d customers now limit = .error f) ↔ d.criteria = [])
  preview : ∀ (m : MatchSettings) customers now limit n, m.limit limit = .ok n →
    ((∃ f, m.preview d customers now limit = .error f) ↔ d.criteria = [])

theorem failsIfEmpty_of_sound (sound : d.Sound) : d.FailsIfEmpty := by
  have checked : d.check = .ok () := check_eq_ok_iff.mpr sound
  have answers := MatchSettings.answers_of_sound checked
  constructor
  · exact iff_of_false (Except.not_exists_error checked) sound.1
  · intro c now
    obtain ⟨b, evaluated⟩ := (answers .default [] now).evaluated c
    exact iff_of_false (Except.not_exists_error evaluated) sound.1
  · intro m customers now
    exact iff_of_false (Except.not_exists_error (answers m customers now).count) sound.1
  · intro customers now
    exact iff_of_false (Except.not_exists_error (answers .default customers now).allMatches) sound.1
  · intro m customers now limit n allowed
    obtain ⟨listed, p, listing, -⟩ := (answers m customers now).listed limit n allowed
    exact iff_of_false (Except.not_exists_error listing) sound.1
  · intro m customers now limit n allowed
    obtain ⟨listed, p, -, -, -, shown, -⟩ := (answers m customers now).listed limit n allowed
    exact iff_of_false (Except.not_exists_error shown) sound.1

theorem failsIfEmpty_of_empty (none : d.criteria = []) : d.FailsIfEmpty := by
  have checked : d.check = .error .noCriteria := by rw [Definition.check, none]; rfl
  have refuses := MatchSettings.refuses_of_unsound checked
  constructor
  · exact iff_of_true ⟨_, checked⟩ none
  · intro c now
    exact iff_of_true ⟨_, (refuses .default [] now).evaluated c⟩ none
  · intro m customers now
    exact iff_of_true ⟨_, (refuses m customers now).count⟩ none
  · intro customers now
    exact iff_of_true ⟨_, (refuses .default customers now).allMatches⟩ none
  · intro m customers now limit n allowed
    exact iff_of_true ⟨_, (refuses m customers now).matching limit n allowed⟩ none
  · intro m customers now limit n allowed
    exact iff_of_true ⟨_, (refuses m customers now).preview limit n allowed⟩ none

/-- Where each criterion is sound, the definition is unless there are none. -/
theorem failsIfEmpty (sound : ∀ k ∈ d.criteria, k.Sound) : d.FailsIfEmpty := by
  by_cases none : d.criteria = []
  · exact failsIfEmpty_of_empty none
  · exact failsIfEmpty_of_sound ⟨none, sound⟩

theorem sound_of_ofJson {j : Json} (accepted : ofJson j = .ok d) : ∀ k ∈ d.criteria, k.Sound := by
  cases j with
  | object entries =>
    obtain ⟨fromItems, fromConditions⟩ := criteria_of_ofJson accepted
    by_cases none : listed entries = []
    · refine Except.forall_of_mapM_eq_ok ?_ (fromConditions none)
      intro c _ k read
      exact (Criterion.ofNames_eq_ok_iff.mp read).2.2.2
    · refine Except.forall_of_mapM_eq_ok ?_ (fromItems none)
      intro i _ k read
      obtain ⟨_, _, _, _, _, _, -, -, made⟩ := Criterion.exists_ofNames_of_ofJson read
      exact (Criterion.ofNames_eq_ok_iff.mp made).2.2.2
  | _ => cases accepted

end Definition

theorem SegmentDraft.build_eq_ok_iff {draft : SegmentDraft} {id : Ident} {now : Moment}
    {s : Segment} : draft.build id now = .ok s ↔
      draft.definition.Sound ∧ s = ⟨id, draft.name, draft.description, draft.definition, now⟩ := by
  rw [build, Except.bind_eq_ok, ← Definition.check_eq_ok_iff]
  constructor
  · rintro ⟨⟨⟩, sound, made⟩
    exact ⟨sound, (Except.ok.inj made).symm⟩
  · rintro ⟨sound, rfl⟩
    exact ⟨(), sound, rfl⟩

namespace Definition

/-- Whatever document a definition is read from, in whichever form, each of its criteria passes the
check, and the queries over it fail just if it has none. The same is true of every segment that is
built, whatever has been put into its draft, and over that no query fails. -/
theorem wellTyped_of_made :
    (∀ j d, ofJson j = .ok d → (∀ k ∈ d.criteria, k.check = .ok ()) ∧ d.FailsIfEmpty) ∧
      ∀ (draft : SegmentDraft) (id : Ident) (made : Moment) (s : Segment),
        draft.build id made = .ok s →
        (∀ k ∈ s.definition.criteria, k.check = .ok ()) ∧ s.definition.FailsIfEmpty ∧
          s.definition.check = .ok () ∧
          ∀ (m : MatchSettings) customers now, m.Answers s.definition customers now := by
  constructor
  · intro j d accepted
    have sound := sound_of_ofJson accepted
    exact ⟨fun k hk => Criterion.check_eq_ok_iff.mpr (sound k hk), failsIfEmpty sound⟩
  · intro draft id made s built
    obtain ⟨sound, rfl⟩ := SegmentDraft.build_eq_ok_iff.mp built
    have checked : draft.definition.check = .ok () := check_eq_ok_iff.mpr sound
    exact ⟨fun k hk => Criterion.check_eq_ok_iff.mpr (sound.2 k hk), failsIfEmpty sound.2, checked,
      MatchSettings.answers_of_sound checked⟩

/-- A feature without conditions in the older form makes a definition without criteria, which is not
evaluated; a segment for which any of two criteria suffices is counted. -/
theorem wellTyped_of_made_without_conditions :
    let now : Moment := ⟨⟨0, by decide, by decide⟩, .midnight⟩
    let j : Json := .object [("shipping_state", .object [])]
    let draft := (((SegmentDraft.new "Texas or lapsed").matchAny.shipsToState "TX").add
      .lastOrderDate .gt (.daysAgo 60)).describe "Anyone there or long gone"
    (∃ d, ofJson j = .ok d ∧ ∃ f, d.evaluate (.new (.ofNat 1) "ana@example.com") now = .error f) ∧
      ∃ s, draft.build (.ofNat 2) now = .ok s ∧
        ∃ n, MatchSettings.default.count s.definition [] now = .ok n := by
  intro now j draft
  obtain ⟨ofRead, ofBuilt⟩ := wellTyped_of_made
  have accepted : ofJson j = .ok ⟨.all, []⟩ := rfl
  have built : draft.build (.ofNat 2) now =
      .ok ⟨.ofNat 2, draft.name, draft.description, draft.definition, now⟩ := rfl
  exact ⟨⟨_, accepted, ((ofRead j _ accepted).2.evaluate _ now).mpr rfl⟩,
    _, built, _, ((ofBuilt draft _ now _ built).2.2.2 .default [] now).count⟩

end Definition

end Outreach
