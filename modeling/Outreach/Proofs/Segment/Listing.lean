import Outreach.Proofs.Except
import Outreach.Proofs.Segment.Matching

/-!
Counts, listings and previews of one definition. All of them see the same matches, the customers
that the definition evaluates to true, in the order of the customers. A listing is a front part of
the matches, as long as its limit allows, and a preview shows the customers of that listing beside
the number of all matches. A limit that is given is cut to the largest one allowed. The default
limit is not, so that the largest limit bounds every listing only if the default limit is no larger.
-/

namespace Outreach

namespace Preview

/-- Counting the matches and filling the rows in one pass. -/
theorem foldl_countRow (limit : Nat) (feature : Option Feature) (now : Moment)
    (found : List Customer) (seen : Nat × List PreviewRow) :
    found.foldl (countRow limit feature now) seen =
      (seen.1 + found.length,
        seen.2 ++ (found.take (limit - seen.2.length)).map (row feature now)) := by
  induction found generalizing seen with
  | nil => simp
  | cons c rest ih =>
    rw [List.foldl_cons, ih]
    by_cases room : seen.2.length < limit
    · have left : limit - seen.2.length = limit - (seen.2.length + 1) + 1 := by omega
      simp only [countRow, room, if_true, List.length_append, left, List.take_succ_cons,
        List.map_cons, List.append_assoc, List.singleton_append, List.length_cons]
      congr 1
      omega
    · have full : limit - seen.2.length = 0 := by omega
      simp only [countRow, room, if_false, full, List.take_zero, List.length_cons]
      congr 1
      omega

theorem foldl_countRow_nil (limit : Nat) (feature : Option Feature) (now : Moment)
    (found : List Customer) :
    found.foldl (countRow limit feature now) (0, []) =
      (found.length, (found.take limit).map (row feature now)) := by
  rw [foldl_countRow, Nat.zero_add, List.nil_append, List.length_nil, Nat.sub_zero]

end Preview

def Definition.matched (d : Definition) (customers : List Customer) (now : Moment) :
    List Customer :=
  customers.filter fun c => d.accepts c now

theorem Definition.matched_eq_filter_holds {d : Definition} (sound : d.check = .ok ())
    (customers : List Customer) (now : Moment) :
    d.matched customers now = customers.filter fun c => d.holds c now := by
  unfold matched
  simp only [accepts_eq_holds sound]

namespace MatchSettings

variable {m : MatchSettings} {d : Definition} {customers : List Customer} {now : Moment}
  {limit : Option Nat} {n : Nat}

theorem limit_none (m : MatchSettings) : m.limit none = .ok m.defaultLimit := rfl

theorem limit_zero (m : MatchSettings) : m.limit (some 0) = .error .limitNotPositive := rfl

theorem limit_succ (m : MatchSettings) (k : Nat) :
    m.limit (some (k + 1)) = .ok (min (k + 1) m.maxLimit) := rfl

theorem le_of_limit_some {k : Nat} (h : m.limit (some k) = .ok n) : n ≤ k ∧ n ≤ m.maxLimit := by
  cases k with
  | zero =>
    rw [limit_zero] at h
    cases h
  | succ k =>
    rw [limit_succ] at h
    obtain rfl := Except.ok.inj h
    omega

theorem matching_eq_ok_iff {listed : List Customer} :
    m.matching d customers now limit = .ok listed ↔
      ∃ n, m.limit limit = .ok n ∧ d.check = .ok () ∧
        listed = (d.matched customers now).take n := by
  unfold matching
  rw [Except.bind_eq_ok]
  refine exists_congr fun n => and_congr_right fun _ => ?_
  cases sound : d.check with
  | ok u => simp [Definition.matched_eq_filter_holds sound, eq_comm]
  | error f => simp

theorem preview_eq_ok_iff {p : Preview} :
    m.preview d customers now limit = .ok p ↔
      ∃ n, m.limit limit = .ok n ∧ d.check = .ok () ∧
        p = { segment := none
              total := (d.matched customers now).length
              columns := ["name", "email"] ++ (d.shownFeature?.map Feature.name).toList
              rows := ((d.matched customers now).take n).map
                (Preview.row d.shownFeature? now) } := by
  unfold preview
  rw [Except.bind_eq_ok]
  refine exists_congr fun n => and_congr_right fun _ => ?_
  cases sound : d.check with
  | ok u =>
    simp [Definition.matched_eq_filter_holds sound, Preview.foldl_countRow_nil, eq_comm]
  | error f => simp

theorem parallelCount_eq_count (m : MatchSettings) (d : Definition) (customers : List Customer)
    (now : Moment) : m.parallelCount d customers now = m.count d customers now := by
  unfold count parallelCount
  rw [countInParts_eq_countP, ite_self]

/-- What is answered to the queries over a definition that is not refused. -/
structure Answers (m : MatchSettings) (d : Definition) (customers : List Customer) (now : Moment) :
    Prop where
  evaluated : ∀ c, ∃ b, d.evaluate c now = .ok b
  allMatches : d.allMatches customers now = .ok (d.matched customers now)
  count : m.count d customers now = .ok (d.matched customers now).length
  parallelCount : m.parallelCount d customers now = .ok (d.matched customers now).length
  listed : ∀ limit n, m.limit limit = .ok n → ∃ listed p,
    m.matching d customers now limit = .ok listed ∧
      listed <+: d.matched customers now ∧
      listed.length = min n (d.matched customers now).length ∧
    m.preview d customers now limit = .ok p ∧
      p.total = (d.matched customers now).length ∧
      p.rows.map (fun r => (r.id, r.email, r.name)) =
        listed.map (fun c => (c.id, c.email, c.displayName))

/-- The queries over a definition are refused, all for the same reason. -/
structure Refuses (m : MatchSettings) (d : Definition) (customers : List Customer) (now : Moment)
    (f : DefinitionFault) : Prop where
  evaluated : ∀ c, d.evaluate c now = .error f
  allMatches : d.allMatches customers now = .error f
  count : m.count d customers now = .error f
  parallelCount : m.parallelCount d customers now = .error f
  matching : ∀ limit n, m.limit limit = .ok n → m.matching d customers now limit = .error f
  preview : ∀ limit n, m.limit limit = .ok n → m.preview d customers now limit = .error f

theorem answers_of_sound (sound : d.check = .ok ()) (m : MatchSettings)
    (customers : List Customer) (now : Moment) : m.Answers d customers now := by
  have counted : m.count d customers now = .ok (d.matched customers now).length := by
    rw [Definition.count_eq_ok sound, Definition.matched, List.countP_eq_length_filter]
  constructor
  · intro c
    refine ⟨d.holds c now, ?_⟩
    rw [Definition.evaluate, sound]
    rfl
  · exact Definition.allMatches_eq_ok_iff.mpr ⟨sound, rfl⟩
  · exact counted
  · rw [parallelCount_eq_count, counted]
  · intro limit n allowed
    refine ⟨_, _, matching_eq_ok_iff.mpr ⟨n, allowed, sound, rfl⟩, List.take_prefix _ _,
      List.length_take, preview_eq_ok_iff.mpr ⟨n, allowed, sound, rfl⟩, rfl, ?_⟩
    rw [List.map_map]
    rfl

theorem refuses_of_unsound {f : DefinitionFault} (unsound : d.check = .error f)
    (m : MatchSettings) (customers : List Customer) (now : Moment) :
    m.Refuses d customers now f where
  evaluated c := by
    rw [Definition.evaluate, unsound]
    rfl
  allMatches := by
    rw [Definition.allMatches, unsound]
    rfl
  count := by
    rw [← parallelCount_eq_count, parallelCount, unsound]
    rfl
  parallelCount := by
    rw [parallelCount, unsound]
    rfl
  matching limit n allowed := by
    rw [matching, allowed, unsound]
    rfl
  preview limit n allowed := by
    rw [preview, allowed, unsound]
    rfl

/-- A listing with a limit names so many customers, in whichever way it is asked for. -/
inductive Lists (m : MatchSettings) (limit : Option Nat) : Nat → Prop
  | matching {d : Definition} {customers listed : List Customer} {now : Moment}
      (h : m.matching d customers now limit = .ok listed) : Lists m limit listed.length
  | preview {d : Definition} {customers : List Customer} {now : Moment} {p : Preview}
      (h : m.preview d customers now limit = .ok p) : Lists m limit p.rows.length
  | matchingById {r : Directory} {id : Ident} {now : Moment} {listed : List Customer}
      (h : r.matchingById m id now limit = .ok listed) : Lists m limit listed.length
  | previewById {r : Directory} {id : Ident} {now : Moment} {p : Preview}
      (h : r.previewById m id now limit = .ok p) : Lists m limit p.rows.length

theorem le_of_matching {listed : List Customer}
    (h : m.matching d customers now limit = .ok listed) :
    ∃ n, m.limit limit = .ok n ∧ listed.length ≤ n := by
  obtain ⟨n, allowed, -, rfl⟩ := matching_eq_ok_iff.mp h
  exact ⟨n, allowed, List.length_take_le _ _⟩

theorem le_of_preview {p : Preview} (h : m.preview d customers now limit = .ok p) :
    ∃ n, m.limit limit = .ok n ∧ p.rows.length ≤ n := by
  obtain ⟨n, allowed, -, rfl⟩ := preview_eq_ok_iff.mp h
  refine ⟨n, allowed, ?_⟩
  rw [List.length_map]
  exact List.length_take_le _ _

/-- A listing stays within its limit, after that has been cut or replaced by the default. -/
theorem Lists.le_limit {k : Nat} (h : m.Lists limit k) : ∃ n, m.limit limit = .ok n ∧ k ≤ n := by
  cases h with
  | matching h => exact le_of_matching h
  | preview h => exact le_of_preview h
  | matchingById h =>
    obtain ⟨⟨s, customers⟩, -, h⟩ := Except.bind_eq_ok.mp h
    exact le_of_matching (Except.mapError_eq_ok.mp h)
  | previewById h =>
    obtain ⟨⟨s, customers⟩, -, h⟩ := Except.bind_eq_ok.mp h
    obtain ⟨q, shown, h⟩ := Except.bind_eq_ok.mp h
    have kept := le_of_preview (Except.mapError_eq_ok.mp shown)
    obtain rfl := Except.ok.inj h
    exact kept

/-- Without a limit a listing may be as long as the default limit. -/
theorem lists_defaultLimit (m : MatchSettings) : m.Lists none m.defaultLimit := by
  let d : Definition := ⟨.all, [⟨.marketingOptIn, .eq, .flag true⟩]⟩
  let c : Customer := .new (.ofNat 1) "ana@example.com"
  let now : Moment := ⟨⟨civilDay 2024 1 1, by decide, by decide⟩, .midnight⟩
  let customers := List.replicate m.defaultLimit c
  have accepted : d.accepts c now = true := rfl
  have matched : d.matched customers now = customers := by
    rw [Definition.matched, List.filter_eq_self]
    intro x hx
    rw [List.eq_of_mem_replicate hx]
    exact accepted
  have listing : m.matching d customers now none = .ok customers := by
    refine matching_eq_ok_iff.mpr ⟨m.defaultLimit, m.limit_none, rfl, ?_⟩
    rw [matched, List.take_of_length_le (Nat.le_of_eq List.length_replicate)]
  have long : customers.length = m.defaultLimit := List.length_replicate
  rw [← long]
  exact .matching listing

/-- A listing with a limit stays within that limit and within the largest one allowed, and a listing
without one stays within the default limit. So the largest limit bounds every listing if and only if
the default limit is no larger. -/
theorem lists_within (m : MatchSettings) :
    (∀ n k, m.Lists (some n) k → k ≤ n ∧ k ≤ m.maxLimit) ∧
      (∀ k, m.Lists none k → k ≤ m.defaultLimit) ∧
      ((∀ limit k, m.Lists limit k → k ≤ m.maxLimit) ↔ m.defaultLimit ≤ m.maxLimit) := by
  have given : ∀ n k, m.Lists (some n) k → k ≤ n ∧ k ≤ m.maxLimit := by
    intro n k listed
    obtain ⟨cut, allowed, within⟩ := listed.le_limit
    have := le_of_limit_some allowed
    omega
  have absent : ∀ k, m.Lists none k → k ≤ m.defaultLimit := by
    intro k listed
    obtain ⟨cut, allowed, within⟩ := listed.le_limit
    rw [limit_none] at allowed
    obtain rfl := Except.ok.inj allowed
    exact within
  refine ⟨given, absent, ?_, ?_⟩
  · intro bounded
    exact bounded none m.defaultLimit m.lists_defaultLimit
  · intro ordered limit k listed
    cases limit with
    | none => exact Nat.le_trans (absent k listed) ordered
    | some n => exact (given n k listed).2

/-- The settings that ship, asked for more customers than they allow, and without a limit. -/
theorem lists_within_shipped :
    (∀ limit k, default.Lists limit k → k ≤ 10000) ∧ default.Lists none 100 ∧ 100 ≤ 10000 := by
  have within := lists_within default
  have ordered : default.defaultLimit ≤ default.maxLimit := by decide
  exact ⟨within.2.2.mpr ordered, default.lists_defaultLimit,
    Nat.le_trans (within.2.1 100 default.lists_defaultLimit) ordered⟩

/-- The largest limit alone does not bound a listing. If only it is lowered, to one, the default
limit still lets two customers pass. -/
theorem listing_exceeds_maxLimit :
    ¬ ∀ (m : MatchSettings) (limit : Option Nat) (k : Nat), m.Lists limit k → k ≤ m.maxLimit := by
  let m : MatchSettings := { MatchSettings.default with maxLimit := 1 }
  let d : Definition := ⟨.all, [⟨.marketingOptIn, .eq, .flag true⟩]⟩
  let now : Moment := ⟨⟨civilDay 2024 1 1, by decide, by decide⟩, .midnight⟩
  let ana : Customer := .new (.ofNat 1) "ana@example.com"
  let ben : Customer := .new (.ofNat 2) "ben@example.com"
  have listing : m.matching d [ana, ben] now none = .ok [ana, ben] := rfl
  intro bounded
  have tooMany : 2 ≤ 1 := bounded m none 2 (.matching listing)
  exact absurd tooMany (by decide)

end MatchSettings

end Outreach
