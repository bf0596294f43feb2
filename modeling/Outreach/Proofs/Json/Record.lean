import Outreach.Json.Record
import Outreach.Proofs.Except
import Outreach.Proofs.Lookup

/-!
Records read from JSON. A member is read from its entry or has a default, and the entries come from
the value that is read: those of an object are its own, and the items of an array are entered under
the names of the fields. An object with an entry for every field is read if each field accepts its
own. Where the numbers of the value are finite, as all numbers of a document are, those of the
entries are finite too. Sorting the entries of an object loses none of them if their keys differ.
-/

namespace Outreach

/-- A member is read from its entry, or it has a default. -/
theorem Member.get_eq_ok {α : Type} {m : Member α} {entries : Entries} {a : α}
    (h : m.get entries = .ok a) :
    (∃ j, entries.lookup m.name = some j ∧ m.read j = .ok a) ∨
      entries.lookup m.name = none ∧ m.default? = some a := by
  unfold get at h
  split at h
  · next j found => exact .inl ⟨j, found, h⟩
  · next absent =>
    split at h
    · next default =>
      obtain rfl := Except.ok.inj h
      exact .inr ⟨absent, default⟩
    · cases h

def Member.Reads {α : Type} (m : Member α) (entries : Entries) (a : α) : Prop :=
  ∃ j, entries.lookup m.name = some j ∧ m.read j = .ok a

section Reads

variable {α : Type} {m : Member α} {entries : Entries} {a : α}

theorem Member.reads_required {name : String} {read : Json → Except Mismatch α} {j : Json}
    (entry : entries.lookup name = some j) (value : read j = .ok a) :
    (Member.required name read).Reads entries a :=
  ⟨j, entry, value⟩

theorem Member.Reads.get (h : m.Reads entries a) : m.get entries = .ok a := by
  obtain ⟨j, entry, read⟩ := h
  rw [Member.get, entry]
  exact read

theorem Member.Reads.accepted (h : m.Reads entries a) :
    ∃ j, entries.lookup m.field.name = some j ∧ m.field.check j = .ok () := by
  obtain ⟨j, entry, read⟩ := h
  exact ⟨j, entry, Except.map_eq_ok.mpr ⟨a, read, rfl⟩⟩

end Reads

/-- What is absent is written as null, and everything else is not. -/
theorem Json.nullable_ofOption {α : Type} {read : Json → Except Mismatch α} {write : α → Json}
    (visible : ∀ a, (write a).isNull = false) {a : Option α}
    (back : ∀ b, a = some b → read (write b) = .ok b) :
    nullable read (ofOption write a) = .ok a := by
  cases a with
  | none => rfl
  | some b =>
    have present : nullable read (write b) = (read (write b)).map some := by
      have visible := visible b
      unfold nullable
      split
      · next null =>
        rw [null] at visible
        cases visible
      · rfl
    rw [ofOption, present, back b rfl]
    rfl

theorem Json.nullable_eq_some {α : Type} {read : Json → Except Mismatch α} {j : Json} {a : α}
    (h : nullable read j = .ok (some a)) : read j = .ok a := by
  unfold nullable at h
  split at h
  · cases h
  · obtain ⟨b, back, same⟩ := Except.map_eq_ok.mp h
    rw [back, Option.some.inj same]

theorem Member.of_required {α : Type} {name : String} {read : Json → Except Mismatch α}
    {entries : Entries} {a : α} (h : (Member.required name read).get entries = .ok a) :
    ∃ j, read j = .ok a := by
  rcases Member.get_eq_ok h with ⟨j, -, read⟩ | ⟨-, default⟩
  · exact ⟨j, read⟩
  · cases default

theorem Member.of_nullable {α : Type} {name : String} {read : Json → Except Mismatch α}
    {entries : Entries} {a : α} (h : (Member.nullable name read).get entries = .ok (some a)) :
    ∃ j, read j = .ok a := by
  rcases Member.get_eq_ok h with ⟨j, -, read⟩ | ⟨-, default⟩
  · exact ⟨j, Json.nullable_eq_some read⟩
  · cases default

namespace Field

/-- The entries of an object pass if each is accepted by its field, should it have one. -/
theorem checkEntries_eq_ok {fields : List Field} {seen : List String} {entries : Entries}
    (distinct : (entries.map (·.1)).Nodup) (fresh : ∀ e ∈ entries, e.1 ∉ seen)
    (accepted : ∀ e ∈ entries, ∀ f, find? fields e.1 = some f → f.check e.2 = .ok ()) :
    checkEntries fields seen entries = .ok () := by
  induction entries generalizing seen with
  | nil => rfl
  | cons e rest ih =>
    obtain ⟨key, j⟩ := e
    rw [List.map_cons, List.nodup_cons] at distinct
    rw [List.forall_mem_cons] at fresh accepted
    rw [checkEntries]
    cases known : find? fields key with
    | none => exact ih distinct.2 fresh.2 accepted.2
    | some f =>
      have first : seen.contains key = false := by
        rw [← Bool.not_eq_true, List.contains_iff_mem]
        exact fresh.1
      simp only [first, accepted.1 f known, Bool.false_eq_true, if_false]
      refine ih distinct.2 ?_ accepted.2
      intro e he again
      rcases List.mem_cons.mp again with same | before
      · exact distinct.1 (List.mem_map.mpr ⟨e, he, same⟩)
      · exact fresh.2 e he before

end Field

namespace Json

/-- An object is read as a record if its keys differ and every field accepts its entry. -/
theorem record_object {label : String} {fields : List Field} {entries : Entries}
    (distinct : (entries.map (·.1)).Nodup)
    (accepted : ∀ f ∈ fields, ∃ j, entries.lookup f.name = some j ∧ f.check j = .ok ()) :
    record label fields (.object entries) = .ok entries := by
  have checked : Field.checkEntries fields [] entries = .ok () := by
    refine Field.checkEntries_eq_ok distinct (fun e _ => List.not_mem_nil) ?_
    intro e he f known
    have member : f ∈ fields := List.mem_of_find?_eq_some known
    have name : f.name = e.1 := by
      unfold Field.find? at known
      have named := List.find?_some known
      exact eq_of_beq named
    obtain ⟨j, entry, passed⟩ := accepted f member
    rw [name, lookup_of_mem distinct he] at entry
    rw [Option.some.inj entry]
    exact passed
  have complete : Field.missing? fields entries = none := by
    rw [Field.missing?, Option.map_eq_none_iff, List.find?_eq_none]
    intro f hf
    obtain ⟨j, entry, -⟩ := accepted f hf
    simp [entry]
  rw [record, checked, Except.ok_bind, complete]

/-- The items of an array are entered under the names of the fields. -/
theorem entries_of_checkItems {label : String} {total position : Nat} {fields : List Field}
    {items : List Json} {es : Entries}
    (h : Field.checkItems label total fields items position = .ok es) :
    es = (fields.map (·.name)).zip items := by
  induction fields generalizing items position es with
  | nil =>
    rw [Field.checkItems] at h
    exact (Except.ok.inj h).symm
  | cons f fields ih =>
    cases items with
    | nil =>
      rw [Field.checkItems] at h
      split at h
      · rw [ih h, List.zip_nil_right, List.zip_nil_right]
      · cases h
    | cons j items =>
      rw [Field.checkItems] at h
      split at h
      · cases h
      · obtain ⟨es', later, rfl⟩ := Except.map_eq_ok.mp h
        rw [ih later, List.map_cons, List.zip_cons_cons]

theorem record_object_eq_ok {label : String} {fields : List Field} {entries es : Entries}
    (h : record label fields (.object entries) = .ok es) : es = entries := by
  obtain ⟨u, checked, h⟩ := Except.bind_eq_ok.mp h
  split at h
  · cases h
  · exact (Except.ok.inj h).symm

theorem record_array_eq_ok {label : String} {fields : List Field} {items : List Json}
    {es : Entries} (h : record label fields (.array items) = .ok es) :
    es = (fields.map (·.name)).zip items := by
  obtain ⟨es', entered, h⟩ := Except.bind_eq_ok.mp h
  split at h
  · cases h
  · obtain rfl := Except.ok.inj h
    exact entries_of_checkItems entered

/-- What a document gives for a field of a record, by its name in an object and by its position in
an array. -/
def given? (j : Json) (name : String) (position : Nat) : Option Json :=
  match j with
  | .array items => items[position]?
  | _ => j.get? name

theorem lookup_of_record {label : String} {fields : List Field} {j : Json} {es : Entries}
    (h : record label fields j = .ok es) (distinct : (fields.map (·.name)).Nodup) {i : Nat}
    {name : String} (named : (fields.map (·.name))[i]? = some name) :
    es.lookup name = j.given? name i := by
  cases j with
  | object entries =>
    rw [record_object_eq_ok h]
    rfl
  | array items =>
    rw [record_array_eq_ok h]
    exact lookup_zip distinct named
  | _ => cases h

/-- An integer is read if it has no more than 64 bits, and nothing else is. -/
theorem signed64_eq_ok_iff {j : Json} {n : Int64} :
    signed64 j = .ok n ↔ j = .integer n.toInt := by
  have low := n.le_toInt
  have high := n.toInt_lt
  rw [signed64, Except.map_eq_ok]
  constructor
  · rintro ⟨m, read, rfl⟩
    unfold inRange at read
    split at read
    · next k =>
      split at read
      · next within =>
        obtain rfl := Except.ok.inj read
        rw [Int64.toInt_ofInt_of_le within.1 within.2]
        rfl
      · cases read
    · cases read
  · rintro rfl
    refine ⟨n.toInt, ?_, n.ofInt_toInt⟩
    exact if_pos ⟨low, high⟩

mutual

def isFinite : Json → Bool
  | .number n => n.toFloat.isFinite
  | .array items => isFiniteItems items
  | .object entries => isFiniteEntries entries
  | _ => true

def isFiniteItems : List Json → Bool
  | [] => true
  | j :: rest => isFinite j && isFiniteItems rest

def isFiniteEntries : List (String × Json) → Bool
  | [] => true
  | (_, j) :: rest => isFinite j && isFiniteEntries rest

end

theorem isFinite_array_iff {items : List Json} :
    (array items).isFinite = true ↔ ∀ j ∈ items, j.isFinite = true := by
  rw [isFinite]
  induction items with
  | nil => simp [isFiniteItems]
  | cons j rest ih => rw [isFiniteItems, Bool.and_eq_true, ih, List.forall_mem_cons]

theorem isFinite_object_iff {entries : List (String × Json)} :
    (object entries).isFinite = true ↔ ∀ e ∈ entries, e.2.isFinite = true := by
  rw [isFinite]
  induction entries with
  | nil => simp [isFiniteEntries]
  | cons e rest ih =>
    obtain ⟨key, j⟩ := e
    rw [isFiniteEntries, Bool.and_eq_true, ih, List.forall_mem_cons]

theorem real_of_isFinite {x : Float} (h : x.isFinite = true) : real x = .number (.real x) :=
  if_pos h

theorem isFinite_of_lookup {entries : Entries} (finite : ∀ e ∈ entries, e.2.isFinite = true)
    {key : String} {j : Json} (h : entries.lookup key = some j) : j.isFinite = true :=
  finite (key, j) (mem_of_lookup h)

theorem isFinite_of_record {label : String} {fields : List Field} {j : Json} {es : Entries}
    (finite : j.isFinite = true) (h : record label fields j = .ok es) :
    ∀ e ∈ es, e.2.isFinite = true := by
  cases j with
  | object entries =>
    rw [record_object_eq_ok h]
    exact isFinite_object_iff.mp finite
  | array items =>
    rw [record_array_eq_ok h]
    intro e he
    exact isFinite_array_iff.mp finite e.2 (List.of_mem_zip he).2
  | _ => cases h

theorem insertEntry_perm {key : String} {entries : List (String × Json)}
    (new : key ∉ entries.map (·.1)) (value : Json) :
    (insertEntry key value entries).Perm ((key, value) :: entries) := by
  induction entries with
  | nil => exact .refl _
  | cons e rest ih =>
    rw [List.map_cons, List.mem_cons, not_or] at new
    rw [insertEntry]
    by_cases first : key < e.1
    · rw [if_pos first]
    · rw [if_neg first, if_neg new.1]
      exact ((ih new.2).cons e).trans (.swap _ _ rest)

theorem foldl_insertEntry_perm {entries sorted : List (String × Json)}
    (distinct : ((entries ++ sorted).map (·.1)).Nodup) :
    (entries.foldl (fun sorted e => insertEntry e.1 e.2 sorted) sorted).Perm
      (entries ++ sorted) := by
  induction entries generalizing sorted with
  | nil => exact .refl _
  | cons e rest ih =>
    have new : e.1 ∉ sorted.map (·.1) := by
      intro among
      rw [List.cons_append, List.map_cons, List.nodup_cons, List.map_append] at distinct
      exact distinct.1 (List.mem_append_right _ among)
    have moved : (rest ++ insertEntry e.1 e.2 sorted).Perm (e :: rest ++ sorted) :=
      ((insertEntry_perm new e.2).append_left rest).trans List.perm_middle
    exact (ih ((moved.map (·.1)).nodup_iff.mpr distinct)).trans moved

/-- Entries with different keys all stay when they are sorted. -/
theorem sortEntries_perm {entries : List (String × Json)} (distinct : (entries.map (·.1)).Nodup) :
    (sortEntries entries).Perm entries := by
  have sorted : (sortEntries entries).Perm (entries ++ []) := by
    refine foldl_insertEntry_perm ?_
    rwa [List.append_nil]
  rwa [List.append_nil] at sorted

end Json

end Outreach
