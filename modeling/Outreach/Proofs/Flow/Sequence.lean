import Outreach.Flow.Schedule
import Outreach.Proofs.Except

/-!
Steps in sequence. Steps that form a sequence have different orders, and none of them waits
for a negative number of days. What comes before the exit, and how many days are waited there,
can be read off the steps in any listing.
-/

namespace Outreach

namespace Action

/-- The subject of an e-mail has a character that is not white space, and a wait is not
negative. -/
def Sound : Action → Prop
  | email subject _ => ∃ x ∈ subject.toList, Text.isBlank x = false
  | wait days => 0 ≤ days.toInt
  | push _ _ => True
  | exit => True

instance : DecidablePred Sound
  | email subject _ => inferInstanceAs (Decidable (∃ x ∈ subject.toList, Text.isBlank x = false))
  | wait days => inferInstanceAs (Decidable (0 ≤ days.toInt))
  | push _ _ => isTrue trivial
  | exit => isTrue trivial

theorem check_eq_ok_iff {a : Action} : a.check = .ok () ↔ a.Sound := by
  cases a with
  | email subject body =>
    have visible : Text.isBlankText subject = false ↔
        ∃ x ∈ subject.toList, Text.isBlank x = false := by
      rw [Text.isBlankText, List.all_eq_false]
      simp only [Bool.not_eq_true]
    rw [Sound, ← visible, check]
    cases Text.isBlankText subject <;> simp
  | wait days =>
    have negative : days < 0 ↔ ¬ 0 ≤ days.toInt := by
      rw [Int64.lt_iff_toInt_lt, Int64.toInt_zero, Int.not_le]
    rw [Sound, check]
    by_cases h : 0 ≤ days.toInt <;> simp [negative, h]
  | push title message => simp [check, Sound]
  | exit => simp [check, Sound]

end Action

namespace Step

def days (s : Step) : Int :=
  match s.action with
  | .wait days => days.toInt
  | _ => 0

def waited (steps : List Step) (p : Step → Prop) [DecidablePred p] : Int :=
  (steps.filter p).foldr (fun s total => s.days + total) 0

def BeforeExit (steps : List Step) (s : Step) : Prop :=
  ∀ e ∈ steps, e.kind = .exit → s.order < e.order

instance (steps : List Step) : DecidablePred (BeforeExit steps) := fun s =>
  inferInstanceAs (Decidable (∀ e ∈ steps, e.kind = .exit → s.order < e.order))

def IsSent (steps : List Step) (s : Step) : Prop :=
  s.kind.isSend = true ∧ BeforeExit steps s

instance (steps : List Step) : DecidablePred (IsSent steps) := fun s =>
  inferInstanceAs (Decidable (s.kind.isSend = true ∧ BeforeExit steps s))

/-- Steps and their sequence. -/
structure Sequenced (steps seq : List Step) : Prop where
  perm : seq.Perm steps
  ascending : seq.Pairwise fun a b => a.order < b.order
  sound : ∀ s ∈ seq, s.action.check = .ok ()

theorem checkFrom_eq_ok_iff {expected : Nat} {seq : List Step} :
    checkFrom expected seq = .ok () ↔
      seq.map (·.order.toNat) = List.range' expected seq.length ∧
        ∀ s ∈ seq, s.action.check = .ok () := by
  induction seq generalizing expected with
  | nil => simp [checkFrom]
  | cons s rest ih =>
    simp only [List.map_cons, List.length_cons, List.range'_succ, List.cons.injEq,
      List.forall_mem_cons, checkFrom]
    by_cases order : s.order.toNat = expected
    · cases check : s.action.check with
      | error f => simp [order]
      | ok u => simp [order, ih]
    · simp [order]

theorem sequence_eq_ok_iff {steps seq : List Step} :
    sequence steps = .ok seq ↔
      seq = sorted steps ∧ checkFrom 1 seq = .ok () ∧ exits seq ≤ 1 := by
  unfold sequence
  rw [Except.bind_eq_ok]
  constructor
  · rintro ⟨u, checked, h⟩
    by_cases many : 1 < exits (sorted steps)
    · simp [many] at h
    · rw [if_neg many] at h
      obtain rfl := Except.ok.inj h
      exact ⟨rfl, checked, Nat.not_lt.mp many⟩
  · rintro ⟨rfl, checked, few⟩
    exact ⟨(), checked, if_neg (Nat.not_lt.mpr few)⟩

/-- Orders that are counted ascend. -/
theorem ascending_of_orders {seq : List Step} {first : Nat}
    (orders : seq.map (·.order.toNat) = List.range' first seq.length) :
    seq.Pairwise fun a b => a.order < b.order := by
  have ascending := List.pairwise_lt_range' (s := first) (n := seq.length)
  rw [← orders, List.pairwise_map] at ascending
  exact ascending.imp UInt32.lt_iff_toNat_lt.mpr

theorem sequenced_of_sequence {steps seq : List Step} (h : sequence steps = .ok seq) :
    Sequenced steps seq := by
  obtain ⟨rfl, checked, few⟩ := sequence_eq_ok_iff.mp h
  obtain ⟨orders, sound⟩ := checkFrom_eq_ok_iff.mp checked
  exact ⟨List.mergeSort_perm _ _, ascending_of_orders orders, sound⟩

/-- A single step forms a sequence if it is the first and sound. -/
theorem exists_sequence_singleton_iff {s : Step} (first : s.order = 1) :
    (∃ seq, sequence [s] = .ok seq) ↔ s.action.check = .ok () := by
  have sorted_eq : sorted [s] = [s] := List.mergeSort_singleton _
  have few : exits [s] ≤ 1 := List.countP_le_length
  simp [sequence_eq_ok_iff, checkFrom_eq_ok_iff, sorted_eq, few, first]

theorem eq_of_order_eq {seq : List Step} (ascending : seq.Pairwise fun a b => a.order < b.order)
    {s t : Step} (hs : s ∈ seq) (ht : t ∈ seq) (same : s.order = t.order) : s = t := by
  induction ascending with
  | nil => cases hs
  | @cons a rest first ascending ih =>
    have ne : ∀ b ∈ rest, a.order ≠ b.order := fun b hb => UInt32.ne_of_lt (first b hb)
    rcases List.mem_cons.mp hs with rfl | hs'
    · rcases List.mem_cons.mp ht with rfl | ht'
      · rfl
      · exact absurd same (ne t ht')
    · rcases List.mem_cons.mp ht with rfl | ht'
      · exact absurd same.symm (ne s hs')
      · exact ih hs' ht'

/-- Steps that form a sequence differ in their orders. -/
theorem Sequenced.eq_of_order_eq {steps seq : List Step} (h : Sequenced steps seq) {s t : Step}
    (hs : s ∈ steps) (ht : t ∈ steps) (same : s.order = t.order) : s = t :=
  Step.eq_of_order_eq h.ascending (h.perm.mem_iff.mpr hs) (h.perm.mem_iff.mpr ht) same

theorem days_nonneg {s : Step} (h : s.action.check = .ok ()) : 0 ≤ s.days := by
  unfold days
  cases action : s.action with
  | wait days =>
    rw [action] at h
    exact Action.check_eq_ok_iff.mp h
  | _ => exact Int.le_refl 0

theorem days_of_kind_ne_wait {s : Step} (h : s.kind ≠ .wait) : s.days = 0 := by
  unfold days
  cases action : s.action with
  | wait days => simp [kind, Action.kind, action] at h
  | _ => rfl

section Waited

variable {p q : Step → Prop} [DecidablePred p] [DecidablePred q]

theorem waited_cons (s : Step) (steps : List Step) :
    waited (s :: steps) p = (if p s then s.days else 0) + waited steps p := by
  unfold waited
  by_cases h : p s <;> simp [h]

theorem waited_nonneg {steps : List Step} (h : ∀ s ∈ steps, s.action.check = .ok ()) :
    0 ≤ waited steps p := by
  induction steps with
  | nil => exact Int.le_refl 0
  | cons s rest ih =>
    obtain ⟨hs, hrest⟩ := List.forall_mem_cons.mp h
    have := days_nonneg hs
    have := ih hrest
    rw [waited_cons]
    split <;> omega

theorem waited_perm {steps steps' : List Step} (h : steps.Perm steps') :
    waited steps p = waited steps' p := by
  induction h with
  | nil => rfl
  | cons s h ih => rw [waited_cons, waited_cons, ih]
  | swap s t rest =>
    simp only [waited_cons]
    omega
  | trans h h' ih ih' => exact ih.trans ih'

theorem waited_congr {steps : List Step} (h : ∀ s ∈ steps, p s ↔ q s) :
    waited steps p = waited steps q := by
  unfold waited
  rw [List.filter_congr fun s hs => decide_eq_decide.mpr (h s hs)]

theorem waited_eq_zero {steps : List Step} (h : ∀ s ∈ steps, ¬p s) : waited steps p = 0 := by
  unfold waited
  rw [List.filter_eq_nil_iff.mpr (by simpa using h)]
  rfl

theorem waited_lt_head {s : Step} {rest : List Step} (first : ∀ b ∈ rest, s.order < b.order) :
    waited (s :: rest) (·.order < s.order) = 0 := by
  apply waited_eq_zero
  intro b hb
  rcases List.mem_cons.mp hb with rfl | hb
  · exact UInt32.lt_irrefl _
  · exact UInt32.lt_asymm (first b hb)

/-- Days waited before a step are those before an earlier step, which does not wait itself,
and those between the two. -/
theorem waited_lt_eq_add {steps : List Step} {a b : UInt32} (h : a < b)
    (still : ∀ s ∈ steps, s.order = a → s.days = 0) :
    waited steps (·.order < b) =
      waited steps (·.order < a) + waited steps (fun s => a < s.order ∧ s.order < b) := by
  induction steps with
  | nil => rfl
  | cons s rest ih =>
    obtain ⟨hs, hrest⟩ := List.forall_mem_cons.mp still
    simp only [waited_cons, ih hrest]
    rw [UInt32.lt_iff_toNat_lt] at h
    simp only [UInt32.lt_iff_toNat_lt]
    by_cases same : s.order.toNat = a.toNat
    · have := hs (UInt32.toNat_inj.mp same)
      split <;> split <;> split <;> omega
    · split <;> split <;> split <;> omega

end Waited

theorem beforeExit_perm {steps steps' : List Step} (h : steps.Perm steps') (s : Step) :
    BeforeExit steps s ↔ BeforeExit steps' s :=
  forall_congr' fun _ => imp_congr_left h.mem_iff

theorem isSent_perm {steps steps' : List Step} (h : steps.Perm steps') (s : Step) :
    IsSent steps s ↔ IsSent steps' s :=
  and_congr_right fun _ => beforeExit_perm h s

theorem waited_beforeExit_perm {steps steps' : List Step} (h : steps.Perm steps') :
    waited steps (BeforeExit steps) = waited steps' (BeforeExit steps') := by
  rw [waited_perm h]
  exact waited_congr fun s _ => beforeExit_perm h s

section BeforeExit

variable {s e : Step} {rest : List Step}

/-- Behind a step that is no exit, what is before the exit stays so. -/
theorem beforeExit_cons_iff (h : e.kind ≠ .exit) :
    BeforeExit (e :: rest) s ↔ BeforeExit rest s := by
  simp [BeforeExit, h]

theorem beforeExit_head (h : s.kind ≠ .exit) (first : ∀ b ∈ rest, s.order < b.order) :
    BeforeExit (s :: rest) s := by
  rw [beforeExit_cons_iff h]
  exact fun b hb _ => first b hb

theorem not_beforeExit_of_exit (h : e.kind = .exit) (first : ∀ b ∈ rest, e.order < b.order) :
    ∀ b ∈ e :: rest, ¬BeforeExit (e :: rest) b := by
  intro b hb before
  have later := before e (List.mem_cons_self ..) h
  rcases List.mem_cons.mp hb with rfl | hb
  · exact absurd later (UInt32.lt_irrefl _)
  · exact absurd later (UInt32.lt_asymm (first b hb))

theorem waited_beforeExit_exit (h : e.kind = .exit) (first : ∀ b ∈ rest, e.order < b.order) :
    waited (e :: rest) (BeforeExit (e :: rest)) = 0 :=
  waited_eq_zero (not_beforeExit_of_exit h first)

theorem waited_beforeExit_cons (h : s.kind ≠ .exit) (first : ∀ b ∈ rest, s.order < b.order) :
    waited (s :: rest) (BeforeExit (s :: rest)) = s.days + waited rest (BeforeExit rest) := by
  rw [waited_cons, if_pos (beforeExit_head h first)]
  rw [waited_congr fun b _ => beforeExit_cons_iff h]

end BeforeExit

end Step

end Outreach
