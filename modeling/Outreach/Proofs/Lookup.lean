import Mathlib.Data.List.Nodup

/-!
Entries of a list and what is looked up in it. Where no two entries have the same key, looking up
the key of an entry finds its value. Where keys are listed beside their values, a key finds the
value at its own place.
-/

namespace Outreach

variable {κ α : Type} [BEq κ] [LawfulBEq κ] {es : List (κ × α)}

theorem mem_of_lookup {k : κ} {a : α} (h : es.lookup k = some a) : (k, a) ∈ es := by
  obtain ⟨before, after, rfl, -⟩ := List.lookup_eq_some_iff.mp h
  exact List.mem_append_right before List.mem_cons_self

theorem lookup_of_mem (distinct : (es.map (·.1)).Nodup) {e : κ × α} (h : e ∈ es) :
    es.lookup e.1 = some e.2 := by
  obtain ⟨before, after, rfl⟩ := List.append_of_mem h
  rw [List.map_append, List.map_cons, List.nodup_middle, List.nodup_cons] at distinct
  refine List.lookup_eq_some_iff.mpr ⟨before, after, rfl, ?_⟩
  intro p hp
  rw [bne_iff_ne]
  intro same
  apply distinct.1
  rw [same]
  exact List.mem_append_left _ (List.mem_map_of_mem hp)

theorem lookup_zip {ks : List κ} {as : List α} (distinct : ks.Nodup) {i : Nat} {k : κ}
    (h : ks[i]? = some k) : (ks.zip as).lookup k = as[i]? := by
  induction ks generalizing as i with
  | nil => cases h
  | cons first rest ih =>
    rw [List.nodup_cons] at distinct
    cases as with
    | nil => rfl
    | cons a as =>
      cases i with
      | zero =>
        obtain rfl := Option.some.inj h
        exact List.lookup_cons_self
      | succ i =>
        have later : k ∈ rest := List.mem_of_getElem? h
        have other : (k == first) = false := by
          rw [beq_eq_false_iff_ne]
          rintro rfl
          exact distinct.1 later
        rw [List.zip_cons_cons, List.lookup_cons, other]
        exact ih distinct.2 h

end Outreach
