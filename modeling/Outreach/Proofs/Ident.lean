import Outreach.Ident
import Outreach.Proofs.Except

/-!
Identifiers are read back as they are written: in lower case, in five groups of digits.
-/

namespace Outreach.Ident

theorem hexValue?_hexDigit : ∀ d : Fin 16, hexValue? (hexDigit d) = some d := by
  decide

/-- No digit begins a text in braces or with the prefix. -/
theorem hexDigit_ne (d : Fin 16) : hexDigit d ≠ '\x7b' ∧ hexDigit d ≠ 'u' := by
  revert d
  decide

theorem mapM_hexValue? (digits : List (Fin 16)) :
    (digits.map hexDigit).mapM hexValue? = some digits := by
  induction digits with
  | nil => rfl
  | cons d rest ih =>
    rw [List.map_cons, List.mapM_cons, hexValue?_hexDigit, ih]
    rfl

theorem ofHex?_digits (i : Ident) : ofHex? (i.digits.map hexDigit) = some i := by
  unfold ofHex?
  rw [mapM_hexValue?]
  exact dif_pos i.length_eq

theorem append_groups {α : Type} (cs : List α) :
    cs.take 8 ++ ((cs.drop 8).take 4 ++ ((cs.drop 12).take 4 ++
      ((cs.drop 16).take 4 ++ cs.drop 20))) = cs := by
  have last : (cs.drop 16).take 4 ++ cs.drop 20 = cs.drop 16 := by
    simpa using List.take_append_drop 4 (cs.drop 16)
  have third : (cs.drop 12).take 4 ++ cs.drop 16 = cs.drop 12 := by
    simpa using List.take_append_drop 4 (cs.drop 12)
  have second : (cs.drop 8).take 4 ++ cs.drop 12 = cs.drop 8 := by
    simpa using List.take_append_drop 4 (cs.drop 8)
  rw [last, third, second, List.take_append_drop]

theorem ungrouped?_grouped {cs : List Char} (length : cs.length = 32) :
    ungrouped? (grouped '-' cs) = some cs := by
  have total : (grouped '-' cs).length = 36 := by
    simp [grouped, length]
  have hyphens : [8, 13, 18, 23].all (fun k => (grouped '-' cs)[k]? == some '-') = true := by
    simp [grouped, length, List.getElem?_append]
  rw [ungrouped?, if_pos ⟨total, hyphens⟩]
  simp [grouped, length, List.drop_append, List.drop_take, append_groups]

theorem body_cons {c : Char} (noBrace : c ≠ '\x7b') (noPrefix : c ≠ 'u') (rest : List Char) :
    body (c :: rest) = (c :: rest, 0, true) := by
  have bare : ¬ ((c :: rest).head? = some '\x7b' ∧ (c :: rest).getLast? = some '\x7d' ∧
      2 ≤ (c :: rest).length) := by
    intro braced
    exact noBrace (Option.some.inj braced.1)
  have unprefixed : ¬ "urn:uuid:".toList.isPrefixOf (c :: rest) = true := by
    intro urn
    have first : ('u' == c) = true := (Bool.and_eq_true_iff.mp urn).1
    exact noPrefix (eq_of_beq first).symm
  unfold body
  rw [if_neg bare, if_neg unprefixed]

/-- A written identifier begins with a digit. -/
theorem exists_grouped_eq_cons (i : Ident) :
    ∃ d rest, grouped '-' (i.digits.map hexDigit) = hexDigit d :: rest := by
  obtain ⟨d, digits, first⟩ : ∃ d digits, i.digits = d :: digits := by
    apply List.exists_cons_of_ne_nil
    intro none
    have length := i.length_eq
    rw [none] at length
    cases length
  rw [first, List.map_cons, grouped, List.take_succ_cons]
  exact ⟨d, _, rfl⟩

theorem body_write (i : Ident) : body (grouped '-' (i.digits.map hexDigit)) =
    (grouped '-' (i.digits.map hexDigit), 0, true) := by
  obtain ⟨d, rest, front⟩ := i.exists_grouped_eq_cons
  obtain ⟨noBrace, noPrefix⟩ := hexDigit_ne d
  rw [front, body_cons noBrace noPrefix]

theorem read_write (i : Ident) : read i.write = .ok i := by
  have length : (i.digits.map hexDigit).length = 32 := by
    rw [List.length_map, i.length_eq]
  simp only [read, write, String.toList_ofList, body_write, ungrouped?_grouped length,
    ofHex?_digits]

theorem ofJson_written (i : Ident) : ofJson i.toJson = .ok i := by
  simp only [ofJson, toJson, Json.asText, Except.ok_bind, read_write]

end Outreach.Ident
