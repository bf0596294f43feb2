import Mathlib.Algebra.Group.Nat.Defs
import Outreach.Text.Format

/-!
Whole numbers read back from their decimal digits, padded with zeros or not.
-/

namespace Outreach.Text

theorem digitsValue_append_zeros (k : Nat) (cs : List Char) :
    digitsValue (List.replicate k '0' ++ cs) = digitsValue cs := by
  change Nat.ofDigitChars 10 (List.replicate k '0' ++ cs) 0 = Nat.ofDigitChars 10 cs 0
  rw [Nat.ofDigitChars_append, Nat.ofDigitChars_replicate_zero, Nat.mul_zero]

theorem digitsValue_toDigits (n : Nat) : digitsValue (Nat.toDigits 10 n) = n :=
  Nat.ofDigitChars_ten_toDigits

theorem isDigit_of_mem_toDigits {n : Nat} {c : Char} (h : c ∈ Nat.toDigits 10 n) :
    c.isDigit = true :=
  Nat.isDigit_of_mem_toDigits (by decide) (by decide) h

theorem digitsValue_padded (width n : Nat) : digitsValue (padded width n) = n := by
  rw [padded, digitsValue_append_zeros, digitsValue_toDigits]

theorem isDigit_of_mem_padded {width n : Nat} {c : Char} (h : c ∈ padded width n) :
    c.isDigit = true := by
  rcases List.mem_append.mp h with zero | digit
  · rw [List.eq_of_mem_replicate zero]
    decide
  · exact isDigit_of_mem_toDigits digit

theorem length_padded {width n : Nat} (pos : 0 < width) (h : n < 10 ^ width) :
    (padded width n).length = width := by
  have short : (Nat.toDigits 10 n).length ≤ width :=
    (Nat.length_toDigits_le_iff (by decide) pos).mpr h
  simp only [padded, List.length_append, List.length_replicate]
  omega

theorem padded_ne_nil (width n : Nat) : padded width n ≠ [] := by
  have : 0 < (Nat.toDigits 10 n).length := Nat.length_toDigits_pos
  apply List.ne_nil_of_length_pos
  simp only [padded, List.length_append]
  omega

theorem exists_padded_eq_cons (width n : Nat) :
    ∃ c digits, padded width n = c :: digits ∧ c.isDigit = true := by
  obtain ⟨c, digits, eq⟩ := List.exists_cons_of_ne_nil (padded_ne_nil width n)
  have member : c ∈ padded width n := by
    rw [eq]
    exact List.mem_cons_self
  exact ⟨c, digits, eq, isDigit_of_mem_padded member⟩

theorem digitsValue_lt {cs : List Char} (digits : ∀ c ∈ cs, c.isDigit = true) :
    digitsValue cs < 10 ^ cs.length := by
  have step : ∀ n, cs.foldl (fun n c => 10 * n + digitValue c) n < (n + 1) * 10 ^ cs.length := by
    induction cs with
    | nil => simp
    | cons c rest ih =>
      rw [List.forall_mem_cons] at digits
      intro n
      have digit : digitValue c ≤ 9 := by
        have range := digits.1
        simp only [Char.isDigit, Bool.and_eq_true, decide_eq_true_eq] at range
        have : c.toNat ≤ 57 := UInt32.le_iff_toNat_le.mp range.2
        have : '0'.toNat = 48 := rfl
        unfold digitValue
        omega
      calc rest.foldl (fun n c => 10 * n + digitValue c) (10 * n + digitValue c)
          < (10 * n + digitValue c + 1) * 10 ^ rest.length := ih digits.2 _
        _ ≤ ((n + 1) * 10) * 10 ^ rest.length := Nat.mul_le_mul_right _ (by omega)
        _ = (n + 1) * 10 ^ (rest.length + 1) := by rw [Nat.pow_succ, Nat.mul_assoc, Nat.mul_comm 10]
  have whole := step 0
  rwa [Nat.zero_add, Nat.one_mul] at whole

theorem readDigits_toDigits (n : Nat) : readDigits (Nat.toDigits 10 n) = some n := by
  have digits : (Nat.toDigits 10 n).all Char.isDigit = true :=
    List.all_eq_true.mpr fun _ h => isDigit_of_mem_toDigits h
  have some_digits : (Nat.toDigits 10 n).isEmpty = false :=
    List.isEmpty_eq_false_iff.mpr Nat.toDigits_ne_nil
  rw [readDigits, digits, some_digits, digitsValue_toDigits]
  rfl

/-- The digits of a number carry no sign. -/
theorem readNat_toDigits {bound n : Nat} (h : n < bound) :
    readNat bound (Nat.toDigits 10 n) = some n := by
  have unsigned : ∀ rest, Nat.toDigits 10 n ≠ '+' :: rest := by
    intro rest eq
    have first : '+' ∈ Nat.toDigits 10 n := eq ▸ List.mem_cons_self
    exact absurd (isDigit_of_mem_toDigits first) (by decide)
  unfold readNat
  split
  · next rest eq => exact absurd eq (unsigned rest)
  · simp only [readDigits_toDigits]
    simp [h]

end Outreach.Text
