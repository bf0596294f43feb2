import Outreach.Proofs.Customer.Totals
import Outreach.Proofs.Lookup
import Outreach.Store

/-!
What a store holds besides campaigns. A store that is filled from the empty one by adding
customers, orders, segments and flows has every customer under the customer's own identifier,
so that no two customers of a listing share one.
-/

namespace Outreach

namespace Table

variable {α : Type}

theorem get?_of_mem {t : Table α} {e : Ident × α} (h : e ∈ t.entries) : t.get? e.1 = some e.2 :=
  lookup_of_mem t.nodup h

theorem contains_iff {t : Table α} {id : Ident} : t.contains id = true ↔ id ∈ t.ids := by
  rw [contains, Option.isSome_iff_exists, ids, List.mem_map]
  constructor
  · rintro ⟨a, stored⟩
    exact ⟨(id, a), mem_of_lookup stored, rfl⟩
  · rintro ⟨e, he, rfl⟩
    exact ⟨e.2, get?_of_mem he⟩

theorem ids_insert (t : Table α) (id : Ident) (a : α) :
    (t.insert id a).ids = if id ∈ t.ids then t.ids else t.ids ++ [id] :=
  ids_put id a t.entries

/-- A record that replaces another takes its place. -/
theorem ids_insert_of_mem {t : Table α} {id : Ident} (h : id ∈ t.ids) (a : α) :
    (t.insert id a).ids = t.ids :=
  (t.ids_insert id a).trans (if_pos h)

/-- A table is known by the order of its identifiers and by what it holds. -/
theorem eq_of_get? {t t' : Table α} (ids : t'.ids = t.ids)
    (same : ∀ id, t'.get? id = t.get? id) : t' = t := by
  have listed (u : Table α) : u.entries.map (fun e => (e.1, some e.2)) =
      u.ids.map fun id => (id, u.get? id) := by
    rw [Table.ids, List.map_map]
    apply List.map_congr_left
    intro e he
    simp only [Function.comp, get?_of_mem he]
  have entries : t'.entries = t.entries := by
    have injective : ∀ e f : Ident × α, (e.1, some e.2) = (f.1, some f.2) → e = f := by
      rintro ⟨k, a⟩ ⟨k', a'⟩ h
      cases h
      rfl
    apply (List.map_inj_right injective).mp
    rw [listed, listed, ids]
    simp only [same]
  obtain ⟨es, _⟩ := t
  obtain ⟨es', _⟩ := t'
  obtain rfl : es' = es := entries
  rfl

/-- A record goes in, and the one it replaces goes out. -/
theorem values_insert_perm (t : Table α) (id : Ident) (a : α) :
    ((t.insert id a).values ++ (t.get? id).toList).Perm (a :: t.values) := by
  simp only [values, insert, get?]
  induction t.entries with
  | nil => exact List.Perm.refl [a]
  | cons e rest ih =>
    obtain ⟨k, b⟩ := e
    by_cases same : k = id
    · subst same
      simp only [put, if_true, List.map_cons, List.lookup_cons, beq_self_eq_true,
        Option.toList_some, List.cons_append]
      exact (List.perm_append_singleton b (rest.map (·.2))).cons a
    · have other : (id == k) = false := beq_false_of_ne fun h => same h.symm
      simp only [put, same, if_false, List.map_cons, List.lookup_cons, other, List.cons_append]
      exact (ih.cons b).trans (List.Perm.swap a b _)

def KeyedBy (ident : α → Ident) (t : Table α) : Prop :=
  ∀ id a, t.get? id = some a → ident a = id

section KeyedBy

variable {ident : α → Ident} {t : Table α}

theorem keyedBy_empty : (empty : Table α).KeyedBy ident := by
  intro id a stored
  cases stored

theorem KeyedBy.insert (h : t.KeyedBy ident) (a : α) : (t.insert (ident a) a).KeyedBy ident := by
  intro id b stored
  rw [get?_insert] at stored
  by_cases same : id = ident a
  · rw [if_pos same] at stored
    cases stored
    exact same.symm
  · rw [if_neg same] at stored
    exact h id b stored

theorem KeyedBy.erase (h : t.KeyedBy ident) (id : Ident) : (t.erase id).KeyedBy ident := by
  intro id' a stored
  rw [get?_erase] at stored
  by_cases same : id' = id
  · rw [if_pos same] at stored
    cases stored
  · rw [if_neg same] at stored
    exact h id' a stored

theorem KeyedBy.modify (h : t.KeyedBy ident) {f : α → α} (kept : ∀ a, ident (f a) = ident a)
    (id : Ident) : (t.modify id f).KeyedBy ident := by
  intro id' b stored
  rw [get?_modify] at stored
  by_cases same : id' = id
  · rw [if_pos same, Option.map_eq_some_iff] at stored
    obtain ⟨a, before, rfl⟩ := stored
    rw [kept]
    exact h id' a before
  · rw [if_neg same] at stored
    exact h id' b stored

/-- The records of a table are those found under their own identifiers. -/
theorem KeyedBy.mem_values_iff (h : t.KeyedBy ident) {a : α} :
    a ∈ t.values ↔ t.get? (ident a) = some a := by
  constructor
  · intro ha
    obtain ⟨e, he, rfl⟩ := List.mem_map.mp ha
    have stored := get?_of_mem he
    rwa [h e.1 e.2 stored]
  · intro stored
    exact List.mem_map.mpr ⟨_, mem_of_lookup stored, rfl⟩

theorem KeyedBy.map_values (h : t.KeyedBy ident) : t.values.map ident = t.ids := by
  rw [values, List.map_map, ids]
  apply List.map_congr_left
  intro e he
  exact h e.1 e.2 (get?_of_mem he)

/-- Records under their own identifiers differ in them. -/
theorem KeyedBy.nodup_values (h : t.KeyedBy ident) : (t.values.map ident).Nodup := by
  rw [h.map_values]
  exact t.nodup

/-- Changing one record changes every record in its place, if the others are what they become. -/
theorem KeyedBy.values_modify (h : t.KeyedBy ident) {id : Ident} {f : α → α}
    (others : ∀ a, ident a ≠ id → f a = a) : (t.modify id f).values = t.values.map f := by
  rw [Table.values, Table.modify, List.map_map, Table.values, List.map_map]
  apply List.map_congr_left
  intro e he
  simp only [Function.comp]
  split
  · rfl
  · next other =>
    rw [← h e.1 e.2 (get?_of_mem he)] at other
    exact (others e.2 other).symm

end KeyedBy

end Table

namespace Store

/-- A store filled by the operations on everything but campaigns. -/
inductive Stocked : Store → Prop
  | empty : Stocked Store.empty
  | customer {s : Store} (h : Stocked s) (c : Customer) : Stocked (s.addCustomer c)
  | order {s t : Store} (h : Stocked s) {o : Order} (added : s.addOrder o = .ok t) : Stocked t
  | segment {s : Store} (h : Stocked s) (x : Segment) : Stocked (s.addSegment x)
  | withoutSegment {s : Store} (h : Stocked s) (id : Ident) : Stocked (s.removeSegment id)
  | flow {s : Store} (h : Stocked s) (f : Flow) : Stocked (s.addFlow f)
  | steps {s : Store} (h : Stocked s) (id : Ident) (steps : List Step) :
      Stocked (s.replaceSteps id steps)

theorem Stocked.keyedBy_customers {s : Store} (h : s.Stocked) :
    s.customers.KeyedBy (·.id) := by
  induction h with
  | empty => exact Table.keyedBy_empty
  | customer h c ih => exact ih.insert c
  | @order s t h o added ih =>
    unfold addOrder at added
    by_cases known : s.customers.contains o.customer = true
    · rw [if_pos known] at added
      cases added
      exact ih.modify (fun c => c.recordOrder_id o) _
    · rw [if_neg known] at added
      cases added
  | segment h x ih => exact ih
  | withoutSegment h id ih => exact ih
  | flow h f ih => exact ih
  | steps h id steps ih => exact ih

theorem Stocked.nodup_customers {s : Store} (h : s.Stocked) :
    (s.customers.values.map (·.id)).Nodup :=
  h.keyedBy_customers.nodup_values

end Store

end Outreach
