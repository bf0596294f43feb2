import Outreach.Text.Lowercase

/-!
Lower case of a part of a text. Only the form of a capital sigma hangs on what stands around it: it
is the final one where a word ends. So a part is lowered within a text as it is alone, just if none
of its capital sigmas is final in the one and not in the other.
-/

namespace Outreach.Text

/-- Whether the last character of a text that is not case-ignorable is cased; `afterCased` says
whether the last one before the text is. -/
def endsCased (afterCased : Bool) : List Char → Bool
  | [] => afterCased
  | c :: rest => endsCased (if isCaseIgnorable c then afterCased else isCased c) rest

def endsWord (afterCased : Bool) (before after : List Char) : Bool :=
  endsCased afterCased before && !startsCased after

def lowercaseIn (afterCased : Bool) (after : List Char) : List Char → List Char
  | [] => []
  | c :: rest =>
    let lower :=
      if c = 'Σ' then [if endsWord afterCased [] (rest ++ after) then 'ς' else 'σ']
      else lowercaseChar c
    lower ++ lowercaseIn (if isCaseIgnorable c then afterCased else isCased c) after rest

theorem endsCased_append (b : Bool) (before part : List Char) :
    endsCased b (before ++ part) = endsCased (endsCased b before) part := by
  induction before generalizing b with
  | nil => rfl
  | cons c rest ih => exact ih _

theorem lowercaseFrom_append (b : Bool) (part after : List Char) :
    lowercaseFrom b (part ++ after) =
      lowercaseIn b after part ++ lowercaseFrom (endsCased b part) after := by
  induction part generalizing b with
  | nil => rfl
  | cons c rest ih =>
    rw [List.cons_append, lowercaseFrom, ih, lowercaseIn, List.append_assoc]
    rfl

theorem lowercaseIn_nil (b : Bool) (part : List Char) :
    lowercaseIn b [] part = lowercaseFrom b part := by
  have alone := lowercaseFrom_append b part []
  rw [List.append_nil] at alone
  rw [alone, lowercaseFrom, List.append_nil]

theorem forall_sigma_cons {p : List Char → List Char → Prop} {c : Char} {rest : List Char} :
    (∀ x y, c :: rest = x ++ 'Σ' :: y → p x y) ↔
      (c = 'Σ' → p [] rest) ∧ ∀ x y, rest = x ++ 'Σ' :: y → p (c :: x) y := by
  constructor
  · intro h
    refine ⟨?_, ?_⟩
    · rintro rfl
      exact h [] rest rfl
    · rintro x y rfl
      exact h (c :: x) y rfl
  · rintro ⟨first, later⟩ x y parts
    cases x with
    | nil =>
      obtain ⟨rfl, rfl⟩ := List.cons.inj parts
      exact first rfl
    | cons c' x =>
      rw [List.cons_append, List.cons.injEq] at parts
      obtain ⟨rfl, parts⟩ := parts
      exact later x y parts

/-- A part is lowered alike in two places if each of its capital sigmas ends a word in both or in
neither, and only then. -/
theorem lowercaseIn_eq_iff {b b' : Bool} {after after' part : List Char} :
    lowercaseIn b after part = lowercaseIn b' after' part ↔
      ∀ x y, part = x ++ 'Σ' :: y → endsWord b x (y ++ after) = endsWord b' x (y ++ after') := by
  induction part generalizing b b' with
  | nil => simp [lowercaseIn]
  | cons c rest ih =>
    rw [forall_sigma_cons]
    by_cases sigma : c = 'Σ'
    · have form (e e' : Bool) : (if e then 'ς' else 'σ') = (if e' then 'ς' else 'σ') ↔ e = e' := by
        cases e <;> cases e' <;> decide
      rw [lowercaseIn, lowercaseIn, if_pos sigma, if_pos sigma, List.singleton_append,
        List.singleton_append, List.cons.injEq, form, ih]
      exact and_congr_left fun _ => (imp_iff_right sigma).symm
    · rw [lowercaseIn, lowercaseIn, if_neg sigma, if_neg sigma, List.append_cancel_left_eq, ih]
      exact (and_iff_right fun same => absurd same sigma).symm

/-- The capital sigmas of a part end a word within a text just where they do in the part alone. -/
def SigmasKept (before part after : List Char) : Prop :=
  ∀ x y, part = x ++ 'Σ' :: y →
    endsWord false (before ++ x) (y ++ after) = endsWord false x y

theorem sigmasKept_iff {before part after : List Char} :
    SigmasKept before part after ↔
      lowercaseIn (endsCased false before) after part = lowercase part := by
  rw [lowercase, ← lowercaseIn_nil, lowercaseIn_eq_iff]
  simp only [SigmasKept, endsWord, endsCased_append, List.append_nil]

instance (before part after : List Char) : Decidable (SigmasKept before part after) :=
  decidable_of_iff _ sigmasKept_iff.symm

theorem sigmasKept_of_not_mem {before part after : List Char} (none : 'Σ' ∉ part) :
    SigmasKept before part after := by
  rintro x y rfl
  exact absurd (List.mem_append_right x List.mem_cons_self) none

/-- In lower case a text has the parts that keep their sigmas. -/
theorem SigmasKept.lowercase_within {before part after : List Char}
    (kept : SigmasKept before part after) :
    lowercase part <:+: lowercase (before ++ part ++ after) := by
  rw [← sigmasKept_iff.mp kept, lowercase, List.append_assoc, lowercaseFrom_append,
    lowercaseFrom_append]
  exact ⟨_, _, List.append_assoc _ _ _⟩

end Outreach.Text
