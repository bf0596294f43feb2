import Outreach.Proofs.Text.Lowercase
import Outreach.Segment.Evaluation

/-!
What is lost by comparing texts regardless of case. Equal texts compare as equal. A text that
contains another verbatim is found to contain it if one of the places where it stands keeps the
forms of its capital sigmas: in lower case a word on its own ends in a final sigma, and the same
letters inside a longer word do not.
-/

namespace Outreach

namespace Text

theorem occursIn_iff {part text : List Char} : occursIn part text = true ↔ part <:+: text := by
  induction text with
  | nil => rw [occursIn, List.isEmpty_iff, List.infix_nil]
  | cons c rest ih =>
    rw [occursIn, Bool.or_eq_true, ih, List.isPrefixOf_iff_prefix, List.infix_cons_iff]

/-- A part stands somewhere in a text where its capital sigmas end a word just if they do in the
part alone. -/
def KeptIn (part text : List Char) : Prop :=
  ∃ before after, before ++ part ++ after = text ∧ SigmasKept before part after

theorem keptIn_of_not_mem {part text : List Char} (none : 'Σ' ∉ part) (stands : part <:+: text) :
    KeptIn part text := by
  obtain ⟨before, after, parts⟩ := stands
  exact ⟨before, after, parts, sigmasKept_of_not_mem none⟩

theorem KeptIn.lowercase {part text : List Char} (kept : KeptIn part text) :
    lowercase part <:+: lowercase text := by
  obtain ⟨before, after, rfl, sigmas⟩ := kept
  exact sigmas.lowercase_within

end Text

theorem compareText_contains_iff {actual expected : String} :
    compareText actual .contains expected = true ↔
      Text.lowercase expected.toList <:+: Text.lowercase actual.toList :=
  Text.occursIn_iff

theorem compareText_eq_self (text : String) : compareText text .eq text = true :=
  beq_self_eq_true _

theorem Feature.holds_of_text {f : Feature} {c : Customer} {now : Moment} {actual : String}
    (text : f.ofCustomer c now = .text actual) (comparison : Comparison) (expected : String) :
    (Criterion.mk f comparison (.text expected)).holds c now =
      compareText actual comparison expected := by
  simp only [Criterion.holds, text]

/-- Ignoring case loses no match but for sigmas. A text equals itself; it contains what stands in it
verbatim, if that has no capital sigma or stands somewhere with its capital sigmas kept; and it
contains nothing that does not stand in it in lower case. A criterion on a feature holds for every
customer whose text equals or so contains the one asked for. -/
theorem matches_verbatim (actual expected : String) :
    (actual = expected → compareText actual .eq expected = true) ∧
    ('Σ' ∉ expected.toList → expected.toList <:+: actual.toList →
      compareText actual .contains expected = true) ∧
    (Text.KeptIn expected.toList actual.toList →
      compareText actual .contains expected = true) ∧
    (compareText actual .contains expected = true →
      Text.lowercase expected.toList <:+: Text.lowercase actual.toList) ∧
    ∀ (f : Feature) (c : Customer) (now : Moment), f.ofCustomer c now = .text actual →
      (actual = expected → (Criterion.mk f .eq (.text expected)).holds c now = true) ∧
      (Text.KeptIn expected.toList actual.toList →
        (Criterion.mk f .contains (.text expected)).holds c now = true) := by
  have equal (same : actual = expected) : compareText actual .eq expected = true := by
    rw [same]
    exact compareText_eq_self expected
  have contains (kept : Text.KeptIn expected.toList actual.toList) :
      compareText actual .contains expected = true :=
    compareText_contains_iff.mpr kept.lowercase
  refine ⟨equal, fun none stands => contains (Text.keptIn_of_not_mem none stands), contains,
    compareText_contains_iff.mp, ?_⟩
  intro f c now text
  refine ⟨fun same => ?_, fun kept => ?_⟩
  · rw [Feature.holds_of_text text]
    exact equal same
  · rw [Feature.holds_of_text text]
    exact contains kept

/-- A final sigma before a blank is one in the part alone too. -/
theorem matches_verbatim_final_sigma :
    let c : Customer :=
      { Customer.new (.ofNat 1) "ana@example.com" with shippingState := some "ΟΔΟΣ 5" }
    Text.KeptIn "ΟΔΟΣ".toList "ΟΔΟΣ 5".toList ∧
      compareText "ΟΔΟΣ 5" .contains "ΟΔΟΣ" = true ∧
      ∀ now, (Criterion.mk .shippingState .contains (.text "ΟΔΟΣ")).holds c now = true := by
  intro c
  have kept : Text.KeptIn "ΟΔΟΣ".toList "ΟΔΟΣ 5".toList :=
    ⟨[], [' ', '5'], by decide, by decide +kernel⟩
  obtain ⟨-, -, contains, -, fulfilled⟩ := matches_verbatim "ΟΔΟΣ 5" "ΟΔΟΣ"
  exact ⟨kept, contains kept, fun now => (fulfilled .shippingState c now rfl).2 kept⟩

/-- The last sigma of a word is lost inside a longer one: in lower case the word ends in a final
sigma, and the longer word has none there. -/
theorem verbatim_match_lost :
    let c : Customer :=
      { Customer.new (.ofNat 1) "ana@example.com" with shippingState := some "ΟΔΟΣΑ" }
    "ΟΔΟΣ".toList <:+: "ΟΔΟΣΑ".toList ∧
      compareText "ΟΔΟΣΑ" .contains "ΟΔΟΣ" = false ∧
      ∀ now, (Criterion.mk .shippingState .contains (.text "ΟΔΟΣ")).holds c now = false := by
  intro c
  have lost : compareText "ΟΔΟΣΑ" .contains "ΟΔΟΣ" = false := by decide +kernel
  refine ⟨⟨[], ['Α'], by decide⟩, lost, fun now => ?_⟩
  have text : Feature.shippingState.ofCustomer c now = .text "ΟΔΟΣΑ" := rfl
  rw [Feature.holds_of_text text]
  exact lost

end Outreach
