import Outreach.Proofs.Flow.WellFormed
import Outreach.Proofs.Json.Record

/-!
Steps stored and read again. What is written of a step is read as that step if its action is sound,
and refused if it is not. Every step that is read has a sound action and the order that the document
gives, so what was read once is always read again, and steps that are read can form no flow only for
their orders or a second exit.
-/

namespace Outreach

namespace Action

theorem ofJson_settings_wait (days : Int64) :
    waitOfJson (wait days).settings = .ok (wait days) := by
  have read : Json.signed64 (.integer days.toInt) = .ok days := Json.signed64_eq_ok_iff.mpr rfl
  simp [waitOfJson, settings, Json.record, Field.checkEntries, Field.find?, Field.missing?,
    Member.field, Member.required, Member.get, List.lookup_cons, read, Except.map]

/-- The settings of an action spell that action. -/
theorem ofSettings_settings (a : Action) : ofSettings a.kind a.settings = .ok a := by
  cases a with
  | email subject body => rfl
  | wait days =>
    rw [kind, ofSettings, ofJson_settings_wait]
  | push title message => rfl
  | exit => rfl

theorem canonical_settings (a : Action) : a.settings.canonical = a.settings := by
  have body : ¬ "subject" < "body_text" := by decide
  have message : ¬ "title" < "message" := by decide
  cases a <;>
    simp [settings, Json.canonical, Json.canonicalEntries, Json.sortEntries, Json.insertEntry,
      Json.integer, body, message]

end Action

namespace Step

theorem create_eq_ok_iff {order : UInt32} {action : Action} {s : Step} :
    create order action = .ok s ↔ s = ⟨order, action⟩ ∧ action.Sound := by
  unfold create
  rw [Except.bind_eq_ok, ← Action.check_eq_ok_iff]
  constructor
  · rintro ⟨u, sound, h⟩
    exact ⟨(Except.ok.inj h).symm, sound⟩
  · rintro ⟨rfl, sound⟩
    exact ⟨(), sound, rfl⟩

/-- A step is made of an order that has no more than 32 bits and a sound action. -/
theorem ofParts_eq_ok_iff {order : Int64} {kind : StepKind} {settings : Json} {s : Step} :
    ofParts order kind settings = .ok s ↔
      order.toInt = s.order.toNat ∧ Action.ofSettings kind settings = .ok s.action ∧
        s.action.Sound := by
  have bound : s.order.toNat < 4294967296 := s.order.toNat_lt
  unfold ofParts
  by_cases within : 0 ≤ order.toInt ∧ order.toInt < 4294967296
  · have small : order.toInt.toNat < UInt32.size := by
      have size : UInt32.size = 4294967296 := rfl
      omega
    have same : s.order = UInt32.ofNat order.toInt.toNat ↔ order.toInt = s.order.toNat := by
      rw [← UInt32.toNat_inj, UInt32.toNat_ofNat_of_lt' small]
      omega
    rw [if_pos within, Except.bind_eq_ok]
    simp only [create_eq_ok_iff]
    constructor
    · rintro ⟨action, read, rfl, sound⟩
      exact ⟨same.mp rfl, read, sound⟩
    · rintro ⟨order, read, sound⟩
      exact ⟨s.action, read, congrArg (Step.mk · s.action) (same.mpr order), sound⟩
  · rw [if_neg within]
    constructor
    · intro h
      cases h
    · rintro ⟨order, -, -⟩
      omega

/-- A step is read from three parts, and its order is the integer that the document gives. -/
theorem parts_of_ofJson {j : Json} {s : Step} (h : ofJson j = .ok s) :
    ∃ order kind settings, j.given? "step_order" 1 = some (.integer order.toInt) ∧
      ofParts order kind settings = .ok s := by
  obtain ⟨entries, read, h⟩ := Except.bind_eq_ok.mp h
  obtain ⟨order, ordered, h⟩ := Except.bind_eq_ok.mp h
  obtain ⟨kind, -, h⟩ := Except.bind_eq_ok.mp h
  obtain ⟨settings, -, h⟩ := Except.bind_eq_ok.mp h
  have made : ofParts order kind settings = .ok s := by
    cases made : ofParts order kind settings with
    | ok t =>
      rw [made] at h
      exact congrArg Except.ok (Except.ok.inj h)
    | error f =>
      rw [made] at h
      cases h
  have given : entries.lookup "step_order" = j.given? "step_order" 1 :=
    Json.lookup_of_record read (by decide) rfl
  rcases Member.get_eq_ok ordered with ⟨value, entry, number⟩ | ⟨-, none⟩
  · obtain rfl := Json.signed64_eq_ok_iff.mp number
    exact ⟨order, kind, settings, given.symm.trans entry, made⟩
  · cases none

theorem toInt_ofInt_order (order : UInt32) : (Int64.ofInt order.toNat).toInt = order.toNat := by
  have bound := order.toNat_lt
  exact Int64.toInt_ofInt_of_le (by omega) (by omega)

theorem ofJson_written (s : Step) :
    ofJson s.toJson = (ofParts (Int64.ofInt s.order.toNat) s.kind s.action.settings).mapError
      fun f => .refused f.report := by
  let entries : Entries := [("config", s.action.settings), ("step_order", .nat s.order.toNat),
    ("step_type", .string s.kind.name)]
  have named : Json.name StepKind.names (.string s.kind.name) = .ok s.kind := by
    cases s.kind <;> rfl
  have numbered : Json.signed64 (.nat s.order.toNat) = .ok (Int64.ofInt s.order.toNat) := by
    rw [Json.signed64_eq_ok_iff, toInt_ofInt_order]
    rfl
  have kind : (Member.required "step_type" (Json.name StepKind.names)).Reads entries s.kind :=
    Member.reads_required rfl named
  have order : (Member.required "step_order" Json.signed64).Reads entries
      (Int64.ofInt s.order.toNat) :=
    Member.reads_required rfl numbered
  have settings : (Member.optional "config" (fun j => .ok j.canonical) .null).Reads entries
      s.action.settings :=
    ⟨_, rfl, congrArg Except.ok s.action.canonical_settings⟩
  have distinct : (entries.map (·.1)).Nodup := by
    simp [entries]
  have record : s.toJson.record "struct RawFlowStep"
      [(Member.required "step_type" (Json.name StepKind.names)).field,
        (Member.required "step_order" Json.signed64).field,
        (Member.optional "config" (fun j => .ok j.canonical) .null).field] = .ok entries := by
    apply Json.record_object distinct
    simp only [List.forall_mem_cons]
    exact ⟨kind.accepted, order.accepted, settings.accepted, List.forall_mem_nil _⟩
  unfold ofJson
  dsimp only
  rw [record, Except.ok_bind, order.get, Except.ok_bind, kind.get, Except.ok_bind, settings.get,
    Except.ok_bind]
  cases ofParts (Int64.ofInt s.order.toNat) s.kind s.action.settings <;> rfl

/-- What is written of a sound step is read as that step. Any other is refused. -/
theorem ofJson_toJson_eq_ok_iff {s t : Step} :
    ofJson s.toJson = .ok t ↔ t = s ∧ s.action.Sound := by
  have read : Action.ofSettings s.kind s.action.settings = .ok s.action :=
    s.action.ofSettings_settings
  rw [ofJson_written, Except.mapError_eq_ok, ofParts_eq_ok_iff, toInt_ofInt_order, read]
  constructor
  · rintro ⟨order, action, sound⟩
    obtain ⟨o, a⟩ := t
    obtain rfl := Except.ok.inj action
    obtain rfl : s.order = o := UInt32.toNat_inj.mp (Int.ofNat.inj order)
    exact ⟨rfl, sound⟩
  · rintro ⟨rfl, sound⟩
    exact ⟨rfl, rfl, sound⟩

/-- A step that is read is sound, and its order is the one that is given. -/
theorem sound_of_ofJson {j : Json} {s : Step} (h : ofJson j = .ok s) :
    s.action.Sound ∧ j.given? "step_order" 1 = some (.nat s.order.toNat) := by
  obtain ⟨order, kind, settings, given, made⟩ := parts_of_ofJson h
  obtain ⟨same, -, sound⟩ := ofParts_eq_ok_iff.mp made
  rw [same] at given
  exact ⟨sound, given⟩

/-- Sound steps are refused as a flow only for their orders or for a second exit. -/
theorem refused_of_sound {steps : List Step} {fault : FlowFault} (h : Refused steps fault)
    (sound : ∀ s ∈ steps, s.action.Sound) :
    (¬ (steps.map (·.order.toNat)).Perm (List.range' 1 steps.length) ∧
      ∃ s ∈ steps, ∃ expected, fault = .notContiguous expected s.order) ∨
    (1 < exits steps ∧ fault = .manyExits (exits steps)) := by
  cases h with
  | @order s expected listed other uncounted =>
    exact .inl ⟨uncounted, s, listed, expected, rfl⟩
  | @action s _ listed unsound =>
    rw [Action.check_eq_ok_iff.mpr (sound s listed)] at unsound
    cases unsound
  | exits many => exact .inr ⟨many, rfl⟩

/-- What is written of a step is read as that step if the step is sound, and refused if it is not.
Every step that is read is sound, has the order that the document gives, and is read again. So the
steps of a document are refused as a flow only for their orders or for a second exit. -/
theorem stored_iff_sound :
    (∀ s t : Step, ofJson s.toJson = .ok t ↔ t = s ∧ s.action.Sound) ∧
    (∀ (j : Json) (s : Step), ofJson j = .ok s →
      s.action.Sound ∧ j.given? "step_order" 1 = some (.nat s.order.toNat) ∧
        ofJson s.toJson = .ok s) ∧
    ∀ (steps : List Step) (fault : FlowFault), (∀ s ∈ steps, ∃ j, ofJson j = .ok s) →
      sequence steps = .error fault →
      (¬ (steps.map (·.order.toNat)).Perm (List.range' 1 steps.length) ∧
        ∃ s ∈ steps, ∃ expected, fault = .notContiguous expected s.order) ∨
      (1 < exits steps ∧ fault = .manyExits (exits steps)) := by
  refine ⟨fun s t => ofJson_toJson_eq_ok_iff, ?_, ?_⟩
  · intro j s read
    obtain ⟨sound, given⟩ := sound_of_ofJson read
    exact ⟨sound, given, ofJson_toJson_eq_ok_iff.mpr ⟨rfl, sound⟩⟩
  · intro steps fault read refused
    refine refused_of_sound (refused_of_sequence refused) ?_
    intro s hs
    obtain ⟨j, decoded⟩ := read s hs
    exact (sound_of_ofJson decoded).1

/-- A wait that is given as an array, and that no first step precedes. -/
theorem stored_iff_sound_wait :
    let j : Json := .array [.string "WAIT", .integer 2, .object [("duration_days", .integer 3)]]
    let s : Step := ⟨2, .wait 3⟩
    ofJson j = .ok s ∧ j.given? "step_order" 1 = some (.nat 2) ∧ ofJson s.toJson = .ok s ∧
      sequence [s] = .error (.notContiguous 1 2) ∧
      ¬ ([s].map (·.order.toNat)).Perm (List.range' 1 [s].length) := by
  intro j s
  have read : ofJson j = .ok s := rfl
  have refused : sequence [s] = .error (.notContiguous 1 2) := by
    have alone : sorted [s] = [s] := List.mergeSort_singleton s
    rw [sequence, alone]
    rfl
  obtain ⟨-, given, again⟩ := stored_iff_sound.2.1 j s read
  refine ⟨read, given, again, refused, ?_⟩
  rcases stored_iff_sound.2.2 [s] _ (fun t ht => ⟨j, List.mem_singleton.mp ht ▸ read⟩) refused with
    ⟨uncounted, -⟩ | ⟨-, other⟩
  · exact uncounted
  · cases other

end Step

end Outreach
