import Outreach.Proofs.Segment.Listing
import Outreach.Proofs.Store.Stock

/-!
The counts of all segments at once, beside the count of a single one. Going through the listing
leaves out what cannot be evaluated; looking a segment up by its identifier fails for it. Apart from
that the two say the same, since every segment is stored under its own identifier, once.
-/

namespace Outreach

namespace Segment

/-- A table of segments as inserting and removing them leaves it. -/
inductive Held : Table Segment → Prop
  | empty : Held Table.empty
  | insert {t : Table Segment} (h : Held t) (s : Segment) : Held (t.insert s.id s)
  | erase {t : Table Segment} (h : Held t) (id : Ident) : Held (t.erase id)

section Held

variable {t : Table Segment} (held : Held t)
include held

theorem Held.keyedBy : t.KeyedBy (·.id) := by
  induction held with
  | empty => exact Table.keyedBy_empty
  | insert h s ih => exact ih.insert s
  | erase h id ih => exact ih.erase id

theorem Held.mem_listing_iff {s : Segment} : s ∈ listing t ↔ t.get? s.id = some s := by
  rw [listing, (List.mergeSort_perm _ _).mem_iff]
  exact held.keyedBy.mem_values_iff

theorem Held.nodup_listing : ((listing t).map (·.id)).Nodup :=
  ((List.mergeSort_perm _ _).map _).nodup_iff.mpr held.keyedBy.nodup_values

end Held

end Segment

namespace Directory

section Counts

variable {t : Table Segment} {customers : List Customer} {m : MatchSettings} {now : Moment}

def count? (m : MatchSettings) (customers : List Customer) (now : Moment) (s : Segment) :
    Option SegmentCount :=
  match m.count s.definition customers now with
  | .ok n => some ⟨s.id, s.name, n⟩
  | .error _ => none

theorem count?_eq_some_iff {s : Segment} {c : SegmentCount} :
    count? m customers now s = some c ↔
      m.count s.definition customers now = .ok c.count ∧ c.segment = s.id ∧ c.name = s.name := by
  unfold count?
  cases m.count s.definition customers now with
  | ok n =>
    obtain ⟨id, name, count⟩ := c
    simp only [Option.some.injEq, SegmentCount.mk.injEq, Except.ok.injEq]
    constructor
    · rintro ⟨rfl, rfl, rfl⟩
      exact ⟨rfl, rfl, rfl⟩
    · rintro ⟨rfl, rfl, rfl⟩
      exact ⟨rfl, rfl, rfl⟩
  | error f => simp

theorem counts_eq (t : Table Segment) (customers : List Customer) (m : MatchSettings)
    (now : Moment) : (⟨.ok t, .ok customers⟩ : Directory).counts m now =
      .ok ((Segment.listing t).filterMap (count? m customers now)) := rfl

theorem countById_of_stored {id : Ident} {s : Segment} (stored : t.get? id = some s) :
    (⟨.ok t, .ok customers⟩ : Directory).countById m id now =
      (m.count s.definition customers now).mapError .invalidDefinition := by
  simp [countById, lookup, resolve, stored]

/-- Counts keep the order of the segments counted. -/
theorem map_segment_sublist (segments : List Segment) :
    ((segments.filterMap (count? m customers now)).map (·.segment)).Sublist
      (segments.map (·.id)) := by
  induction segments with
  | nil => exact .slnil
  | cons s rest ih =>
    cases counted : count? m customers now s with
    | none =>
      rw [List.filterMap_cons_none counted]
      exact ih.cons s.id
    | some c =>
      rw [List.filterMap_cons_some counted, List.map_cons, List.map_cons,
        (count?_eq_some_iff.mp counted).2.1]
      exact ih.cons_cons s.id

section Held

variable (held : Segment.Held t)
include held

theorem mem_counts_iff {c : SegmentCount} :
    c ∈ (Segment.listing t).filterMap (count? m customers now) ↔
      ∃ s, t.get? c.segment = some s ∧ c.name = s.name ∧
        m.count s.definition customers now = .ok c.count := by
  rw [List.mem_filterMap]
  constructor
  · rintro ⟨s, hs, counted⟩
    obtain ⟨number, segment, name⟩ := count?_eq_some_iff.mp counted
    rw [segment]
    exact ⟨s, held.mem_listing_iff.mp hs, name, number⟩
  · rintro ⟨s, stored, name, number⟩
    have segment : s.id = c.segment := held.keyedBy c.segment s stored
    rw [← segment] at stored
    exact ⟨s, held.mem_listing_iff.mpr stored,
      count?_eq_some_iff.mpr ⟨number, segment.symm, name⟩⟩

theorem exists_mem_counts_iff {id : Ident} {s : Segment} (stored : t.get? id = some s) :
    (∃ c ∈ (Segment.listing t).filterMap (count? m customers now), c.segment = id) ↔
      ∃ n, m.count s.definition customers now = .ok n := by
  simp only [mem_counts_iff held]
  constructor
  · rintro ⟨c, ⟨s', stored', -, number⟩, rfl⟩
    obtain rfl := Option.some.inj (stored.symm.trans stored')
    exact ⟨c.count, number⟩
  · rintro ⟨n, number⟩
    exact ⟨⟨id, s.name, n⟩, ⟨s, stored, rfl, number⟩, rfl⟩

/-- The counts of all stored segments agree with the counts of single ones. They are always given,
in the order of the listing and each segment once. A stored segment is among them, with the number
that is counted for it alone, just if that count succeeds, and it is missing just if that count is
refused for the definition. -/
theorem counts_agree (customers : List Customer) (m : MatchSettings) (now : Moment) :
    let d : Directory := ⟨.ok t, .ok customers⟩
    ∃ counts, d.counts m now = .ok counts ∧
      (counts.map (·.segment)).Sublist ((Segment.listing t).map (·.id)) ∧
      (counts.map (·.segment)).Nodup ∧
      (∀ c ∈ counts, (∃ s, t.get? c.segment = some s ∧ c.name = s.name) ∧
        d.countById m c.segment now = .ok c.count) ∧
      ∀ id s, t.get? id = some s →
        ((∃ c ∈ counts, c.segment = id) ↔ ∃ n, d.countById m id now = .ok n) ∧
        ((¬ ∃ c ∈ counts, c.segment = id) ↔
          ∃ f, d.countById m id now = .error (.invalidDefinition f)) := by
  intro d
  have sublist : (((Segment.listing t).filterMap (count? m customers now)).map (·.segment)).Sublist
      ((Segment.listing t).map (·.id)) := map_segment_sublist _
  refine ⟨_, counts_eq t customers m now, sublist, sublist.nodup held.nodup_listing, ?_, ?_⟩
  · intro c hc
    obtain ⟨s, stored, name, number⟩ := (mem_counts_iff held).mp hc
    refine ⟨⟨s, stored, name⟩, ?_⟩
    rw [countById_of_stored stored, number]
    rfl
  · intro id s stored
    rw [exists_mem_counts_iff held stored, countById_of_stored stored]
    cases m.count s.definition customers now with
    | ok n => simp [Except.mapError]
    | error f => simp [Except.mapError]

end Held

/-- A draft without criteria, a segment that replaced another one, and one that was removed, with
more customers than are counted in one go. -/
theorem counts_agree_replaced :
    let now : Moment := ⟨⟨0, by decide, by decide⟩, .midnight⟩
    let draft : Segment := ⟨.ofNat 1, "Draft", none, ⟨.all, []⟩, now⟩
    let everyone : Segment :=
      ⟨.ofNat 2, "Everyone", none, ⟨.any, [⟨.orderCount, .gte, .number 0⟩]⟩, now⟩
    let subscribers : Segment :=
      ⟨.ofNat 2, "Subscribers", none, ⟨.all, [⟨.marketingOptIn, .eq, .flag true⟩]⟩, now⟩
    let t := ((((Table.empty.insert draft.id draft).insert everyone.id everyone).insert
      subscribers.id subscribers).insert (.ofNat 3) { draft with id := .ofNat 3 }).erase (.ofNat 3)
    let customers : List Customer := [.new (.ofNat 4) "ana@example.com",
      { Customer.new (.ofNat 5) "ben@example.com" with marketingOptIn := false }]
    let d : Directory := ⟨.ok t, .ok customers⟩
    let m : MatchSettings := ⟨100, 100, 1⟩
    Segment.Held t ∧ ∃ counts, d.counts m now = .ok counts ∧
      (∃ c ∈ counts, c.segment = .ofNat 2 ∧ c.name = "Subscribers" ∧ c.count = 1) ∧
      ¬ ∃ c ∈ counts, c.segment = .ofNat 1 := by
  intro now draft everyone subscribers t customers d m
  have held : Segment.Held t :=
    ((((Segment.Held.empty.insert draft).insert everyone).insert subscribers).insert
      { draft with id := .ofNat 3 }).erase (.ofNat 3)
  have storedDraft : t.get? (.ofNat 1) = some draft := rfl
  have stored : t.get? (.ofNat 2) = some subscribers := rfl
  have number : d.countById m (.ofNat 2) now = .ok 1 := by
    rw [countById_of_stored stored, Definition.count_eq_ok rfl]
    rfl
  have refused : d.countById m (.ofNat 1) now = .error (.invalidDefinition .noCriteria) := rfl
  obtain ⟨counts, given, -, -, sound, among⟩ := counts_agree held customers m now
  refine ⟨held, counts, given, ?_, (among _ draft storedDraft).2.mpr ⟨_, refused⟩⟩
  obtain ⟨c, hc, segment⟩ := (among _ subscribers stored).1.mpr ⟨1, number⟩
  obtain ⟨⟨s, found, name⟩, single⟩ := sound c hc
  rw [segment] at found single
  obtain rfl := Option.some.inj (stored.symm.trans found)
  exact ⟨c, hc, segment, name, Except.ok.inj (single.symm.trans number)⟩

end Counts

end Directory

end Outreach
