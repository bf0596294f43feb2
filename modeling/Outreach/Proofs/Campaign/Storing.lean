import Outreach.Proofs.Calendar.Lenient
import Outreach.Proofs.Calendar.Ticks
import Outreach.Proofs.Ident
import Outreach.Proofs.Json.Record
import Outreach.Proofs.Lifecycle.Record

/-!
Campaigns stored and read again. Everything is read back but the seconds of the start time, which is
written as hour and minute. So a campaign that starts at a full minute is read back as it was, and
any other starts up to a minute early once it has been stored.
-/

namespace Outreach

def TimeOfDay.OnMinute (t : TimeOfDay) : Prop :=
  t.second % 60 = 0 ∧ t.nanosecond = 0

instance (t : TimeOfDay) : Decidable t.OnMinute := inferInstanceAs (Decidable (_ ∧ _))

theorem TimeOfDay.toTheMinute_eq_iff {t : TimeOfDay} : t.toTheMinute = t ↔ t.OnMinute := by
  constructor
  · intro same
    have second : t.second / 60 * 60 = t.second := congrArg TimeOfDay.second same
    have nanosecond : 0 = t.nanosecond := congrArg TimeOfDay.nanosecond same
    refine ⟨?_, nanosecond.symm⟩
    omega
  · intro onMinute
    obtain ⟨second, nanosecond⟩ := onMinute
    have same : t.second / 60 * 60 = t.second := by omega
    obtain ⟨s, n, _, _⟩ := t
    simp only at same nanosecond
    simp only [toTheMinute, same, nanosecond]

theorem TimeOfDay.onMinute_toTheMinute (t : TimeOfDay) : t.toTheMinute.OnMinute :=
  ⟨Nat.mul_mod_left _ 60, rfl⟩

/-- The beginning of the minute is earlier, if it is not the time itself. -/
theorem Moment.toTheMinute_before {date : Date} {t : TimeOfDay} (seconds : ¬ t.OnMinute) :
    (Moment.mk date t.toTheMinute).before ⟨date, t⟩ = true := by
  have nanosecond := t.nanosecond_lt
  have later : t.second / 60 * 60 < t.second ∨
      t.second / 60 * 60 = t.second ∧ 0 < t.nanosecond := by
    unfold TimeOfDay.OnMinute at seconds
    omega
  rw [before_eq_true_iff]
  show (date.day * 86400 + ((t.second / 60 * 60 : Nat) : Int)) * 2000000000 + ((0 : Nat) : Int) <
    (date.day * 86400 + (t.second : Int)) * 2000000000 + (t.nanosecond : Int)
  omega

theorem Status.ofJson_written (s : Status) : Json.name Status.names (.string s.name) = .ok s := by
  cases s <;> rfl

theorem Blast.ofJson_written (b : Blast) : ofJson b.toJson = .ok b := rfl

namespace Campaign

def toTheMinute (c : Campaign) : Campaign :=
  { c with startTime := c.startTime.map TimeOfDay.toTheMinute }

def OnMinute (c : Campaign) : Prop :=
  ∀ t, c.startTime = some t → t.OnMinute

theorem toTheMinute_eq_iff {c : Campaign} : c.toTheMinute = c ↔ c.OnMinute := by
  constructor
  · intro same t given
    have time : c.startTime.map TimeOfDay.toTheMinute = c.startTime :=
      congrArg Campaign.startTime same
    rw [given] at time
    exact TimeOfDay.toTheMinute_eq_iff.mp (Option.some.inj time)
  · intro onMinute
    have time : c.startTime.map TimeOfDay.toTheMinute = c.startTime := by
      cases given : c.startTime with
      | none => rfl
      | some t => exact congrArg some (TimeOfDay.toTheMinute_eq_iff.mpr (onMinute t given))
    rw [toTheMinute, time]

/-- Every moment of a campaign is one that is read back. -/
structure Regular (c : Campaign) : Prop where
  scheduleStart : ∀ m, c.scheduleStart = some m → m.time.Regular
  activatedAt : ∀ m, c.activatedAt = some m → m.time.Regular
  createdAt : c.createdAt.time.Regular
  updatedAt : c.updatedAt.time.Regular

theorem regular_draft (r : NewCampaign) (id : Ident) {now : Moment} (regular : now.time.Regular) :
    (r.draft id now).Regular where
  scheduleStart := by
    intro m stored
    cases stored
  activatedAt := by
    intro m stored
    cases stored
  createdAt := regular
  updatedAt := regular

/-- What is read back of a campaign. -/
theorem ofJson_written {c : Campaign} (regular : c.Regular) :
    ofJson c.toJson = .ok c.toTheMinute := by
  have id : Members.id.Reads c.entries c.id := ⟨_, rfl, c.id.ofJson_written⟩
  have name : Members.name.Reads c.entries c.name := ⟨_, rfl, rfl⟩
  have description : Members.description.Reads c.entries c.description :=
    ⟨_, rfl, Json.nullable_ofOption (fun _ => rfl) fun _ _ => rfl⟩
  have segment : Members.segment.Reads c.entries c.segment := ⟨_, rfl, c.segment.ofJson_written⟩
  have flow : Members.flow.Reads c.entries c.flow :=
    ⟨_, rfl, Json.nullable_ofOption (fun _ => rfl) fun id _ => id.ofJson_written⟩
  have status : Members.status.Reads c.entries c.status := ⟨_, rfl, c.status.ofJson_written⟩
  have startDate : Members.startDate.Reads c.entries c.startDate :=
    ⟨_, rfl, c.startDate.ofJson_written⟩
  have startTime : Members.startTime.Reads c.entries (c.startTime.map TimeOfDay.toTheMinute) :=
    ⟨_, rfl, TimeOfDay.shortOfJson_written c.startTime⟩
  have blast : Members.blast.Reads c.entries c.blast :=
    ⟨_, rfl, Json.nullable_ofOption (fun _ => rfl) fun b _ => b.ofJson_written⟩
  have scheduleStart : Members.scheduleStart.Reads c.entries c.scheduleStart :=
    ⟨_, rfl, Json.nullable_ofOption (fun _ => rfl) fun m stored =>
      Moment.localOfJson_written_iff.mpr (regular.scheduleStart m stored)⟩
  have activatedAt : Members.activatedAt.Reads c.entries c.activatedAt :=
    ⟨_, rfl, Json.nullable_ofOption (fun _ => rfl) fun m stored =>
      Moment.ofJson_written_iff.mpr (regular.activatedAt m stored)⟩
  have createdAt : Members.createdAt.Reads c.entries c.createdAt :=
    ⟨_, rfl, Moment.ofJson_written_iff.mpr regular.createdAt⟩
  have updatedAt : Members.updatedAt.Reads c.entries c.updatedAt :=
    ⟨_, rfl, Moment.ofJson_written_iff.mpr regular.updatedAt⟩
  -- each of these both passes the check of its field and gives its value
  have distinct : (c.entries.map (·.1)).Nodup := by
    simp [entries]
  have record : Json.record "struct Campaign" fields (.object c.entries) = .ok c.entries := by
    apply Json.record_object distinct
    simp only [fields, List.forall_mem_cons]
    exact ⟨id.accepted, name.accepted, description.accepted, segment.accepted, flow.accepted,
      status.accepted, startDate.accepted, startTime.accepted, blast.accepted,
      scheduleStart.accepted, activatedAt.accepted, createdAt.accepted, updatedAt.accepted,
      List.forall_mem_nil _⟩
  rw [ofJson, toJson, record, Except.ok_bind, ofEntries]
  simp only [id.get, name.get, description.get, segment.get, flow.get, status.get, startDate.get,
    startTime.get, blast.get, scheduleStart.get, activatedAt.get, createdAt.get, updatedAt.get,
    Except.ok_bind]
  rfl

/-- The moments of a campaign that is read are read back. -/
theorem regular_of_ofJson {j : Json} {c : Campaign} (h : ofJson j = .ok c) :
    c.Regular := by
  revert h
  -- the entries and the nine members that are read before the first moment
  iterate 10 refine Except.of_bind_eq_ok fun _ => ?_
  intro h
  obtain ⟨scheduleStart, scheduled, h⟩ := Except.bind_eq_ok.mp h
  obtain ⟨activatedAt, activated, h⟩ := Except.bind_eq_ok.mp h
  obtain ⟨createdAt, created, h⟩ := Except.bind_eq_ok.mp h
  obtain ⟨updatedAt, updated, h⟩ := Except.bind_eq_ok.mp h
  obtain rfl := Except.ok.inj h
  constructor
  · intro m stored
    obtain rfl : scheduleStart = some m := stored
    obtain ⟨j, read⟩ := Member.of_nullable scheduled
    exact Moment.regular_of_localOfJson read
  · intro m stored
    obtain rfl : activatedAt = some m := stored
    obtain ⟨j, read⟩ := Member.of_nullable activated
    exact Moment.regular_of_ofJson read
  · obtain ⟨j, read⟩ := Member.of_required created
    exact Moment.regular_of_ofJson read
  · obtain ⟨j, read⟩ := Member.of_required updated
    exact Moment.regular_of_ofJson read

/-- The seconds are lost once: what has been stored and read again stays as it is. -/
theorem ofJson_written_of_ofJson {j : Json} {c : Campaign} (h : ofJson j = .ok c) :
    ofJson c.toJson = .ok c.toTheMinute ∧ ofJson c.toTheMinute.toJson = .ok c.toTheMinute := by
  have regular := regular_of_ofJson h
  have cut : c.toTheMinute.Regular :=
    ⟨regular.scheduleStart, regular.activatedAt, regular.createdAt, regular.updatedAt⟩
  have onMinute : c.toTheMinute.OnMinute := by
    intro t given
    obtain ⟨u, -, same⟩ := Option.map_eq_some_iff.mp given
    rw [← same]
    exact u.onMinute_toTheMinute
  refine ⟨ofJson_written regular, ?_⟩
  rw [ofJson_written cut, toTheMinute_eq_iff.mpr onMinute]

/-- A start with seconds comes early. -/
theorem start_toTheMinute_before {c : Campaign} (seconds : ¬ c.OnMinute) (usual : TimeOfDay) :
    (c.toTheMinute.start usual).before (c.start usual) = true := by
  cases given : c.startTime with
  | none =>
    exfalso
    apply seconds
    intro t other
    rw [given] at other
    cases other
  | some t =>
    have late : ¬ t.OnMinute := by
      intro onMinute
      apply seconds
      intro u other
      rw [given] at other
      obtain rfl := Option.some.inj other
      exact onMinute
    have cut : c.toTheMinute.start usual = ⟨c.startDate, t.toTheMinute⟩ := by
      rw [start, toTheMinute, given]
      rfl
    have whole : c.start usual = ⟨c.startDate, t⟩ := by
      rw [start, given]
      rfl
    rw [cut, whole]
    exact Moment.toTheMinute_before late

theorem start_toTheMinute_eq_iff {c : Campaign} (usual : TimeOfDay) :
    c.toTheMinute.start usual = c.start usual ↔ c.OnMinute := by
  constructor
  · intro same
    by_contra seconds
    have early := start_toTheMinute_before seconds usual
    rw [same, Moment.before_eq_true_iff] at early
    exact Int.lt_irrefl _ early
  · intro onMinute
    rw [toTheMinute_eq_iff.mpr onMinute]

/-- An activation plans from the start of the stored campaign. -/
theorem scheduleStart_of_activate {l : Lifecycle} {now : Moment} {s s' : LifecycleState}
    {c : Campaign} {r : Report} (stored : s.store.campaigns.get? c.id = some c)
    (h : l.activate c.id now s = .ok r s') :
    (s'.store.campaigns.get? c.id).bind (·.scheduleStart) = some (c.start l.sendTime) := by
  cases Lifecycle.done_of_activate h with
  | @activate _ d schedule recipients t found draft plan saved =>
    obtain rfl := Option.some.inj (stored.symm.trans found)
    subst saved
    have written := (s.get?_putCampaign { c with
      status := .active, scheduleStart := some (c.start l.sendTime), updatedAt := now,
      activatedAt := some now } c.id).trans (if_pos rfl)
    exact congrArg (Option.bind · Campaign.scheduleStart) written

/-- What is read back of a stored campaign is the campaign with its start at the beginning of the
minute. It is the same campaign, and an activation of the one plans the same start as an activation
of the other, if and only if the start time has no seconds; else the start comes early. -/
theorem reloaded_to_the_minute {c : Campaign} (regular : c.Regular) :
    ofJson c.toJson = .ok c.toTheMinute ∧ (c.toTheMinute = c ↔ c.OnMinute) ∧
      (∀ usual, ¬ c.OnMinute → (c.toTheMinute.start usual).before (c.start usual) = true) ∧
      ∀ (l : Lifecycle) (now : Moment) (s s' t t' : LifecycleState) (r r' : Report),
        s.store.campaigns.get? c.id = some c → l.activate c.id now s = .ok r s' →
        t.store.campaigns.get? c.id = some c.toTheMinute → l.activate c.id now t = .ok r' t' →
        ((t'.store.campaigns.get? c.id).bind (·.scheduleStart) =
          (s'.store.campaigns.get? c.id).bind (·.scheduleStart) ↔ c.OnMinute) := by
  refine ⟨ofJson_written regular, toTheMinute_eq_iff, ?_, ?_⟩
  · intro usual seconds
    exact start_toTheMinute_before seconds usual
  · intro l now s s' t t' r r' stored activated reloaded reactivated
    have same : c.toTheMinute.id = c.id := rfl
    rw [← same] at reloaded reactivated
    rw [scheduleStart_of_activate stored activated, ← same,
      scheduleStart_of_activate reloaded reactivated, Option.some_inj]
    exact start_toTheMinute_eq_iff l.sendTime

def requestAt (time : String) : Json :=
  .object [("name", .string "Winter sale"), ("segment_id", (default : Ident).toJson),
    ("start_time_of_day", .string time)]

def newCampaignAt (t : TimeOfDay) : NewCampaign :=
  { name := "Winter sale"
    description := none
    segment := default
    flow := none
    startDate := none
    startTime := some t
    blast := none }

def draftAt (t : TimeOfDay) : Campaign :=
  (newCampaignAt t).draft default ⟨⟨civilDay 2024 2 1, by decide, by decide⟩, .midnight⟩

theorem regular_draftAt (t : TimeOfDay) : (draftAt t).Regular :=
  regular_draft (newCampaignAt t) default TimeOfDay.regular_midnight

/-- A draft that is to start at half past two is read back as it is. -/
theorem reloaded_at_full_minute :
    NewCampaign.ofJson (requestAt "14:30") =
        .ok (newCampaignAt ⟨52200, 0, by decide, by decide⟩) ∧
      ofJson (draftAt ⟨52200, 0, by decide, by decide⟩).toJson =
        .ok (draftAt ⟨52200, 0, by decide, by decide⟩) := by
  have reloaded := reloaded_to_the_minute (regular_draftAt ⟨52200, 0, by decide, by decide⟩)
  have onMinute : (draftAt ⟨52200, 0, by decide, by decide⟩).OnMinute := by
    intro t given
    obtain rfl := Option.some.inj given
    decide
  refine ⟨rfl, ?_⟩
  rw [reloaded.1, reloaded.2.1.mpr onMinute]

/-- A draft that is to start fifteen seconds later is read back as one that is not. -/
theorem reloaded_without_seconds :
    ¬ ∀ (j : Json) (r : NewCampaign) (id : Ident) (now : Moment),
      NewCampaign.ofJson j = .ok r → (r.draft id now).Regular →
        ofJson (r.draft id now).toJson = .ok (r.draft id now) := by
  intro reloaded
  let t : TimeOfDay := ⟨52215, 0, by decide, by decide⟩
  have decoded : NewCampaign.ofJson (requestAt "14:30:15") = .ok (newCampaignAt t) := rfl
  have same : ofJson (draftAt t).toJson = .ok (draftAt t) :=
    reloaded _ _ _ _ decoded (regular_draftAt t)
  rw [ofJson_written (regular_draftAt t), Except.ok.injEq, toTheMinute_eq_iff] at same
  have onMinute : t.OnMinute := same t rfl
  exact absurd onMinute (by decide)

end Campaign

end Outreach
