import Outreach.Ident

/-!
Tables of records by identifier. An identifier that is new comes last, and a record
that replaces another takes its place. What a table holds is seen through `get?`.
-/

namespace Outreach

structure Table (α : Type) where
  entries : List (Ident × α)
  nodup : (entries.map (·.1)).Nodup

namespace Table

variable {α : Type}

def empty : Table α := ⟨[], .nil⟩

def get? (t : Table α) (id : Ident) : Option α :=
  t.entries.lookup id

def ids (t : Table α) : List Ident :=
  t.entries.map (·.1)

def values (t : Table α) : List α :=
  t.entries.map (·.2)

def put (id : Ident) (a : α) : List (Ident × α) → List (Ident × α)
  | [] => [(id, a)]
  | (k, b) :: rest => if k = id then (id, a) :: rest else (k, b) :: put id a rest

theorem ids_put (id : Ident) (a : α) (es : List (Ident × α)) :
    (put id a es).map (·.1) =
      if id ∈ es.map (·.1) then es.map (·.1) else es.map (·.1) ++ [id] := by
  induction es with
  | nil => simp [put]
  | cons e rest ih =>
    obtain ⟨k, b⟩ := e
    by_cases h : k = id
    · simp [put, h]
    · have h' : id ≠ k := fun e => h e.symm
      simp only [put, h, if_false, List.map_cons, ih, List.mem_cons, h', false_or]
      split <;> simp

def insert (t : Table α) (id : Ident) (a : α) : Table α :=
  ⟨put id a t.entries, by
    rw [ids_put]
    split
    · exact t.nodup
    · next h =>
      rw [List.nodup_append]
      refine ⟨t.nodup, by simp, ?_⟩
      intro x hx y hy
      rw [List.mem_singleton] at hy
      rintro rfl
      exact h (hy ▸ hx)⟩

def erase (t : Table α) (id : Ident) : Table α :=
  ⟨t.entries.filter fun e => e.1 != id, by
    have h : (t.entries.filter fun e => e.1 != id).map (·.1) =
        (t.entries.map (·.1)).filter (· != id) := by
      rw [List.filter_map]; rfl
    rw [h]
    exact t.nodup.filter _⟩

def modify (t : Table α) (id : Ident) (f : α → α) : Table α :=
  ⟨t.entries.map fun e => if e.1 = id then (e.1, f e.2) else e, by
    have h : (t.entries.map fun e => if e.1 = id then (e.1, f e.2) else e).map (·.1) =
        t.entries.map (·.1) := by
      rw [List.map_map]
      apply List.map_congr_left
      intro e _
      simp only [Function.comp]
      split <;> rfl
    rw [h]
    exact t.nodup⟩

def contains (t : Table α) (id : Ident) : Bool :=
  (t.get? id).isSome

theorem get?_empty (id : Ident) : (empty : Table α).get? id = none := rfl

theorem lookup_put (id k : Ident) (a : α) (es : List (Ident × α)) :
    (put id a es).lookup k = if k = id then some a else es.lookup k := by
  induction es with
  | nil =>
    by_cases h : k = id
    · simp [put, h]
    · simp [put, List.lookup_cons, beq_false_of_ne h, h]
  | cons e rest ih =>
    obtain ⟨k', b⟩ := e
    by_cases h : k' = id
    · subst h
      by_cases hk : k = k'
      · simp [put, hk]
      · simp [put, List.lookup_cons, beq_false_of_ne hk, hk]
    · by_cases hk : k = k'
      · subst hk
        simp [put, h]
      · simp [put, h, List.lookup_cons, beq_false_of_ne hk, ih]

theorem get?_insert (t : Table α) (id k : Ident) (a : α) :
    (t.insert id a).get? k = if k = id then some a else t.get? k :=
  lookup_put id k a t.entries

theorem get?_erase (t : Table α) (id k : Ident) :
    (t.erase id).get? k = if k = id then none else t.get? k := by
  simp only [get?, erase]
  induction t.entries with
  | nil => simp
  | cons e rest ih =>
    obtain ⟨k', b⟩ := e
    by_cases h : k' = id
    · subst h
      by_cases hk : k = k'
      · simpa [hk] using ih
      · simpa [List.lookup_cons, beq_false_of_ne hk, hk] using ih
    · by_cases hk : k = k'
      · subst hk
        simp [h]
      · simp [h, List.lookup_cons, beq_false_of_ne hk, ih]

theorem get?_modify (t : Table α) (id k : Ident) (f : α → α) :
    (t.modify id f).get? k = if k = id then (t.get? k).map f else t.get? k := by
  simp only [get?, modify]
  induction t.entries with
  | nil => simp
  | cons e rest ih =>
    obtain ⟨k', b⟩ := e
    by_cases hk : k = k'
    · subst hk
      by_cases h : k = id <;> simp [h]
    · by_cases h : k' = id
      · subst h
        simpa [List.lookup_cons, beq_false_of_ne hk, hk] using ih
      · simpa [h, List.lookup_cons, beq_false_of_ne hk] using ih

end Table

end Outreach
