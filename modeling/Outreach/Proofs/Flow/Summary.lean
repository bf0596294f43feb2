import Outreach.Proofs.Calendar.Ticks
import Outreach.Proofs.Flow.WellFormed

/-!
The summary of a schedule. It looks at the first and the last message only, which are the earliest
and the latest, since a schedule is in the order of time. They lie whole days apart, as many as the
steps between them wait; what is waited before the first message or after the last one is not
counted. All of it can be read off the steps in any listing.
-/

namespace Outreach

namespace Step

def BetweenSends (steps : List Step) (s : Step) : Prop :=
  (∃ a ∈ steps, IsSent steps a ∧ a.order < s.order) ∧
    ∃ b ∈ steps, IsSent steps b ∧ s.order < b.order

instance (steps : List Step) : DecidablePred (BetweenSends steps) := fun s =>
  inferInstanceAs (Decidable ((∃ a ∈ steps, IsSent steps a ∧ a.order < s.order) ∧
    ∃ b ∈ steps, IsSent steps b ∧ s.order < b.order))

end Step

namespace Schedule

/-- What a summary says of the steps and of the times at which their messages are sent. -/
structure Summary.Describes (s : Summary) (steps : List Step) (times : List Moment) : Prop where
  sends : s.sends = steps.countP fun t => Step.IsSent steps t
  emails : s.emails = steps.countP fun t => t.kind = .email ∧ Step.BeforeExit steps t
  pushes : s.pushes = steps.countP fun t => t.kind = .push ∧ Step.BeforeExit steps t
  sends_eq : s.sends = s.emails + s.pushes
  firstSend : Moment.IsEarliest times s.firstSend
  firstSend_eq_none_iff : s.firstSend = none ↔ s.sends = 0
  lastSend : Moment.IsLatest times s.lastSend
  lastSend_eq_none_iff : s.lastSend = none ↔ s.sends = 0
  spanDays : s.spanDays = Step.waited steps (Step.BetweenSends steps)
  /-- Without messages no days are between any. -/
  spanDays_of_sends : s.sends = 0 → s.spanDays = 0

section Planned

variable {steps : List Step} {start : Moment} {schedule : List ScheduledStep}

theorem map_step_perm (h : ofSteps steps start = .ok schedule) :
    (schedule.map (·.step)).Perm (steps.filter (Step.IsSent steps)) := by
  obtain ⟨seq, sequence, h⟩ := ofSteps_eq_ok_iff.mp h
  obtain ⟨perm, ascending, sound⟩ := Step.sequenced_of_sequence sequence
  have same : seq.filter (Step.IsSent seq) = seq.filter (Step.IsSent steps) :=
    List.filter_congr fun s _ => decide_eq_decide.mpr (Step.isSent_perm perm s)
  rw [map_step_of_fromClock ascending sound h, same]
  exact perm.filter _

theorem mem_schedule_iff (h : ofSteps steps start = .ok schedule) {s : Step} :
    (∃ x ∈ schedule, x.step = s) ↔ s ∈ steps ∧ Step.IsSent steps s := by
  rw [← List.mem_map, (map_step_perm h).mem_iff, List.mem_filter, decide_eq_true_iff]

theorem length_of_ofSteps (h : ofSteps steps start = .ok schedule) :
    schedule.length = steps.countP fun t => Step.IsSent steps t := by
  rw [List.countP_eq_length_filter, ← (map_step_perm h).length_eq, List.length_map]

/-- The messages of one kind. -/
theorem countP_kind_of_ofSteps (h : ofSteps steps start = .ok schedule) {k : StepKind}
    (send : k.isSend = true) : (schedule.countP fun x => x.step.kind == k) =
      steps.countP fun t => t.kind = k ∧ Step.BeforeExit steps t := by
  have counted : (schedule.countP fun x => x.step.kind == k) =
      (steps.filter (Step.IsSent steps)).countP fun t => t.kind == k := by
    rw [← (map_step_perm h).countP_eq, List.countP_map]
    rfl
  rw [counted, List.countP_filter]
  apply List.countP_congr
  intro t _
  rw [Bool.and_eq_true, beq_iff_eq, decide_eq_true_iff, decide_eq_true_iff, Step.IsSent]
  constructor
  · rintro ⟨kind, -, before⟩
    exact ⟨kind, before⟩
  · rintro ⟨rfl, before⟩
    exact ⟨rfl, send, before⟩

/-- A message is either an e-mail or a push message. -/
theorem length_eq_emails_add_pushes (h : ofSteps steps start = .ok schedule) :
    schedule.length = (schedule.countP fun x => x.step.kind == .email) +
      schedule.countP fun x => x.step.kind == .push := by
  rw [List.length_eq_countP_add_countP fun x => x.step.kind == .email]
  congr 1
  apply List.countP_congr
  intro x hx
  have sent : x.step.kind.isSend = true := ((planned_of_ofSteps h).mem_iff x).mp hx |>.2.1
  cases kind : x.step.kind <;> simp [kind, StepKind.isSend] at sent ⊢

section Ends

variable {first last : ScheduledStep} (head : schedule.head? = some first)
  (final : schedule.getLast? = some last)
include head final

/-- What lies between any two messages lies between the first and the last one. -/
theorem betweenSends_iff (h : ofSteps steps start = .ok schedule) {s : Step} :
    Step.BetweenSends steps s ↔ first.step.order < s.order ∧ s.order < last.step.order := by
  have ascending := (planned_of_ofSteps h).ascending
  have firstMem : first ∈ schedule := List.mem_of_head? head
  have lastMem : last ∈ schedule := List.mem_of_getLast? final
  obtain ⟨rest, rfl⟩ := List.head?_eq_some_iff.mp head
  obtain ⟨front, split⟩ := List.getLast?_eq_some_iff.mp final
  have least : ∀ x ∈ first :: rest, first.step.order ≤ x.step.order := by
    intro x hx
    rcases List.mem_cons.mp hx with rfl | hx
    · exact UInt32.le_refl _
    · exact UInt32.le_of_lt ((List.pairwise_cons.mp ascending).1 x hx)
  have greatest : ∀ x ∈ first :: rest, x.step.order ≤ last.step.order := by
    intro x hx
    rw [split] at hx ascending
    rcases List.mem_append.mp hx with hx | hx
    · exact UInt32.le_of_lt
        ((List.pairwise_append.mp ascending).2.2 x hx last (List.mem_singleton_self last))
    · obtain rfl := List.mem_singleton.mp hx
      exact UInt32.le_refl _
  constructor
  · rintro ⟨⟨a, ha, sentA, below⟩, b, hb, sentB, above⟩
    obtain ⟨x, hx, rfl⟩ := (mem_schedule_iff h).mpr ⟨ha, sentA⟩
    obtain ⟨y, hy, rfl⟩ := (mem_schedule_iff h).mpr ⟨hb, sentB⟩
    exact ⟨UInt32.lt_of_le_of_lt (least x hx) below, UInt32.lt_of_lt_of_le above (greatest y hy)⟩
  · rintro ⟨below, above⟩
    obtain ⟨ha, sentA⟩ := (mem_schedule_iff h).mp ⟨first, firstMem, rfl⟩
    obtain ⟨hb, sentB⟩ := (mem_schedule_iff h).mp ⟨last, lastMem, rfl⟩
    exact ⟨⟨_, ha, sentA, below⟩, _, hb, sentB, above⟩

/-- The last message is due as many days after the first as the steps between them wait. -/
theorem isDaysAfter_head_getLast (h : ofSteps steps start = .ok schedule) :
    last.sendAt.IsDaysAfter (Step.waited steps (Step.BetweenSends steps)) first.sendAt := by
  rw [Step.waited_congr fun s _ => betweenSends_iff head final h]
  obtain ⟨rest, rfl⟩ := List.head?_eq_some_iff.mp head
  cases rest with
  | nil =>
    obtain rfl := Option.some.inj final
    rw [Step.waited_eq_zero]
    · exact .zero _
    · rintro s - ⟨below, above⟩
      exact UInt32.lt_asymm below above
  | cons second rest =>
    have later : last ∈ second :: rest := by
      rw [List.getLast?_cons_cons] at final
      exact List.mem_of_getLast? final
    exact (List.pairwise_cons.mp (planned_of_ofSteps h).apart).1 last later

end Ends

theorem spanDays_of_ofSteps (regular : start.time.isLeap = false)
    (h : ofSteps steps start = .ok schedule) :
    (summary schedule).spanDays = Step.waited steps (Step.BetweenSends steps) := by
  unfold summary
  cases head : schedule.head? with
  | none =>
    obtain rfl := List.head?_eq_none_iff.mp head
    symm
    apply Step.waited_eq_zero
    rintro s - ⟨⟨a, ha, sent, -⟩, -⟩
    obtain ⟨x, hx, -⟩ := (mem_schedule_iff h).mpr ⟨ha, sent⟩
    exact List.not_mem_nil hx
  | some first =>
    cases final : schedule.getLast? with
    | none =>
      obtain rfl := List.getLast?_eq_none_iff.mp final
      cases head
    | some last =>
      have due := ((planned_of_ofSteps h).mem_iff first).mp (List.mem_of_head? head) |>.2.2.2
      exact (isDaysAfter_head_getLast head final h).daysSince_eq (due.isLeap_eq_false regular)

/-- The summary of a schedule that does not start in a leap second is right. It counts the messages
before the exit, by kind and in all, it has the earliest and the latest time of sending, and it
spans the days that are waited between the first message and the last one. -/
theorem summary_describes (regular : start.time.isLeap = false)
    (h : ofSteps steps start = .ok schedule) :
    (summary schedule).Describes steps (schedule.map (·.sendAt)) := by
  have span := spanDays_of_ofSteps regular h
  have chronological : (schedule.map (·.sendAt)).Pairwise fun a b => a.ticks ≤ b.ticks :=
    List.pairwise_map.mpr (planned_of_ofSteps h).chronological
  have first := Moment.isEarliest_head? chronological
  have last := Moment.isLatest_getLast? chronological
  rw [List.head?_map] at first
  rw [List.getLast?_map] at last
  refine
    { sends := length_of_ofSteps h
      emails := countP_kind_of_ofSteps h rfl
      pushes := countP_kind_of_ofSteps h rfl
      sends_eq := length_eq_emails_add_pushes h
      firstSend := first
      firstSend_eq_none_iff := by
        rw [summary, Option.map_eq_none_iff, List.head?_eq_none_iff, List.length_eq_zero_iff]
      lastSend := last
      lastSend_eq_none_iff := by
        rw [summary, Option.map_eq_none_iff, List.getLast?_eq_none_iff, List.length_eq_zero_iff]
      spanDays := span
      spanDays_of_sends := ?_ }
  intro none
  rw [List.eq_nil_of_length_eq_zero none]
  rfl

end Planned

/-- Two waits between three messages, one after the last, and a message behind the exit. -/
theorem summary_describes_cut_off :
    let steps : List Step := [⟨3, .push "Reminder" ""⟩, ⟨6, .wait 9⟩, ⟨5, .email "Last call" ""⟩,
      ⟨1, .email "Welcome" ""⟩, ⟨2, .wait 2⟩, ⟨4, .wait 5⟩, ⟨7, .exit⟩, ⟨8, .push "Never" ""⟩]
    let start : Moment := ⟨⟨0, by decide, by decide⟩, .midnight⟩
    start.time.isLeap = false ∧ ∃ schedule, ofSteps steps start = .ok schedule ∧
      (summary schedule).Describes steps (schedule.map (·.sendAt)) ∧
      (summary schedule).sends = 3 ∧ (summary schedule).pushes = 1 ∧
      (summary schedule).spanDays = 7 := by
  intro steps start
  have sound : ∀ s ∈ steps, s.action.Sound := by
    simp only [steps, List.forall_mem_cons]
    exact ⟨trivial, by decide, ⟨'L', by simp, rfl⟩, ⟨'W', by simp, rfl⟩, by decide, by decide,
      trivial, trivial, List.forall_mem_nil _⟩
  have wellFormed : Step.WellFormed steps := ⟨by decide, sound, by decide⟩
  have within : InCalendar (start.date.day + Step.waited steps (Step.BeforeExit steps)) := by
    have waited : Step.waited steps (Step.BeforeExit steps) = 16 := by decide
    rw [waited]
    exact ⟨by decide, by decide⟩
  obtain ⟨schedule, planned⟩ :=
    (exists_ofSteps_iff steps start).mpr ⟨Step.exists_sequence_iff.mpr wellFormed, within⟩
  have regular : start.time.isLeap = false := rfl
  have describes := summary_describes regular planned
  refine ⟨regular, schedule, planned, describes, describes.sends.trans (by decide),
    describes.pushes.trans (by decide), describes.spanDays.trans (by decide)⟩

end Schedule

end Outreach
