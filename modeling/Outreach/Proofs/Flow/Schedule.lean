import Outreach.Flow.Schedule
import Outreach.Proofs.Calendar.Days
import Outreach.Proofs.Flow.Sequence

/-!
The schedule of a flow in closed form. It holds the messages before the exit by ascending
order, each due as many days after the start as the steps of smaller order wait. There is such
a schedule exactly if the steps form a sequence and all days waited before the exit stay within
the calendar; this is one addition, though the clock is moved and checked at every wait.
-/

namespace Outreach

namespace Step

theorem kind_cases (s : Step) :
    s.kind = .exit ∨ s.kind = .wait ∨ s.kind.isSend = true := by
  cases s.kind <;> simp [StepKind.isSend]

theorem kind_ne_exit_of_isSend {s : Step} (h : s.kind.isSend = true) : s.kind ≠ .exit := by
  intro e
  simp [e, StepKind.isSend] at h

theorem kind_ne_wait_of_isSend {s : Step} (h : s.kind.isSend = true) : s.kind ≠ .wait := by
  intro e
  simp [e, StepKind.isSend] at h

end Step

namespace Schedule

/-- The schedule that steps have from a start on. -/
structure Planned (steps : List Step) (start : Moment) (schedule : List ScheduledStep) :
    Prop where
  mem_iff : ∀ x, x ∈ schedule ↔
    x.step ∈ steps ∧ x.step.kind.isSend = true ∧ Step.BeforeExit steps x.step ∧
      x.sendAt.IsDaysAfter (Step.waited steps (·.order < x.step.order)) start
  ascending : schedule.Pairwise fun a b => a.step.order < b.step.order
  chronological : schedule.Pairwise fun a b => a.sendAt.ticks ≤ b.sendAt.ticks
  /-- Two messages lie as far apart as the steps between them wait. -/
  apart : schedule.Pairwise fun a b => b.sendAt.IsDaysAfter
    (Step.waited steps fun s => a.step.order < s.order ∧ s.order < b.step.order) a.sendAt

section Clock

variable {clock : Moment} {s : Step} {rest : List Step} {schedule : List ScheduledStep}

theorem fromClock_exit (h : s.kind = .exit) : fromClock clock (s :: rest) = .ok [] := by
  unfold fromClock
  cases action : s.action <;> simp [Step.kind, Action.kind, action] at h ⊢

theorem fromClock_wait_eq_ok_iff (h : s.kind = .wait) (sound : s.action.check = .ok ()) :
    fromClock clock (s :: rest) = .ok schedule ↔
      ∃ next : Moment, next.IsDaysAfter s.days clock ∧ fromClock next rest = .ok schedule := by
  have nonneg := Step.days_nonneg sound
  cases action : s.action with
  | wait days =>
    have same : s.days = days.toInt := by simp [Step.days, action]
    have moved : fromClock clock (s :: rest) = advance clock days >>= (fromClock · rest) := by
      simp [fromClock, action]
    rw [same] at nonneg ⊢
    rw [moved, Except.bind_eq_ok]
    simp only [← Moment.addDays?_eq_some_iff nonneg, advance]
    cases clock.addDays? days.toInt <;> simp
  | _ => simp [Step.kind, Action.kind, action] at h

theorem fromClock_send_eq_ok_iff (h : s.kind.isSend = true) :
    fromClock clock (s :: rest) = .ok schedule ↔
      ∃ tail, fromClock clock rest = .ok tail ∧ ⟨s, clock⟩ :: tail = schedule := by
  cases action : s.action with
  | email subject body => simp [fromClock, action, Except.bind_eq_ok]
  | push title message => simp [fromClock, action, Except.bind_eq_ok]
  | _ => simp [Step.kind, Action.kind, action, StepKind.isSend] at h

end Clock

/-- A message that steps have due, with the clock as their start. -/
def Due (steps : List Step) (clock : Moment) (x : ScheduledStep) : Prop :=
  x.step ∈ steps ∧ x.step.kind.isSend = true ∧ Step.BeforeExit steps x.step ∧
    x.sendAt.IsDaysAfter (Step.waited steps (·.order < x.step.order)) clock

section Due

variable {clock next : Moment} {s : Step} {rest : List Step} {x : ScheduledStep}
  (first : ∀ b ∈ rest, s.order < b.order)
include first

theorem not_due_of_exit (exit : s.kind = .exit) : ¬Due (s :: rest) clock x := by
  rintro ⟨hx, _, before, _⟩
  exact Step.not_beforeExit_of_exit exit first _ hx before

/-- A wait moves the clock. -/
theorem due_cons_of_wait (wait : s.kind = .wait) (nonneg : 0 ≤ s.days)
    (sound : ∀ s ∈ rest, s.action.check = .ok ()) (after : next.IsDaysAfter s.days clock) :
    Due (s :: rest) clock x ↔ Due rest next x := by
  have nonnegRest := Step.waited_nonneg (p := (·.order < x.step.order)) sound
  unfold Due
  rw [Step.beforeExit_cons_iff (by simp [wait]), List.mem_cons, Step.waited_cons]
  constructor
  · rintro ⟨rfl | hx, send, before, due⟩
    · simp [wait, StepKind.isSend] at send
    · rw [if_pos (first _ hx)] at due
      exact ⟨hx, send, before, due.between nonneg nonnegRest after⟩
  · rintro ⟨hx, send, before, due⟩
    rw [if_pos (first _ hx)]
    exact ⟨Or.inr hx, send, before, due.trans nonneg nonnegRest after⟩

/-- A message is due at the clock. -/
theorem due_cons_of_send (send : s.kind.isSend = true) :
    Due (s :: rest) clock x ↔ x = ⟨s, clock⟩ ∨ Due rest clock x := by
  have notExit := Step.kind_ne_exit_of_isSend send
  have still : s.days = 0 := Step.days_of_kind_ne_wait (Step.kind_ne_wait_of_isSend send)
  have waited_rest : Step.waited (s :: rest) (·.order < x.step.order) =
      Step.waited rest (·.order < x.step.order) := by
    rw [Step.waited_cons, still, ite_self, Int.zero_add]
  constructor
  · rintro ⟨hx, isSend, before, due⟩
    rcases List.mem_cons.mp hx with same | hx
    · rw [same, Step.waited_lt_head first] at due
      obtain ⟨step, sendAt⟩ := x
      cases same
      exact Or.inl (congrArg _ (due.unique (.zero clock)))
    · rw [Step.beforeExit_cons_iff notExit] at before
      rw [waited_rest] at due
      exact Or.inr ⟨hx, isSend, before, due⟩
  · rintro (rfl | ⟨hx, isSend, before, due⟩)
    · refine ⟨List.mem_cons_self, send, Step.beforeExit_head notExit first, ?_⟩
      rw [Step.waited_lt_head first]
      exact .zero clock
    · refine ⟨List.mem_cons_of_mem _ hx, isSend, ?_, ?_⟩
      · rwa [Step.beforeExit_cons_iff notExit]
      · rwa [waited_rest]

end Due

section Sequence

variable {seq : List Step} {clock : Moment} {schedule : List ScheduledStep}

/-- Checking the calendar at every wait is checking it once, for all the days before the
exit. -/
theorem exists_fromClock_iff (ascending : seq.Pairwise fun a b => a.order < b.order)
    (sound : ∀ s ∈ seq, s.action.check = .ok ()) (clock : Moment) :
    (∃ schedule, fromClock clock seq = .ok schedule) ↔
      InCalendar (clock.date.day + Step.waited seq (Step.BeforeExit seq)) := by
  induction seq generalizing clock with
  | nil => simpa [fromClock, Step.waited] using clock.date.inCalendar
  | cons s rest ih =>
    obtain ⟨first, ascending⟩ := List.pairwise_cons.mp ascending
    obtain ⟨soundHead, sound⟩ := List.forall_mem_cons.mp sound
    specialize ih ascending sound
    have nonneg := Step.days_nonneg soundHead
    have nonnegRest := Step.waited_nonneg (p := Step.BeforeExit rest) sound
    rcases s.kind_cases with exit | wait | send
    · simpa [fromClock_exit exit, Step.waited_beforeExit_exit exit first]
        using clock.date.inCalendar
    · rw [Step.waited_beforeExit_cons (by simp [wait]) first]
      simp only [fromClock_wait_eq_ok_iff wait soundHead]
      constructor
      · rintro ⟨schedule, next, after, h⟩
        have := (ih next).mp ⟨schedule, h⟩
        rwa [after.day_eq, Int.add_assoc] at this
      · intro within
        -- No wait is negative, so each moment on the way lies between the first and the last.
        have between : InCalendar (clock.date.day + s.days) := by
          have := clock.date.first_le
          exact ⟨by omega, by have := within.2; omega⟩
        obtain ⟨next, after⟩ := Moment.exists_isDaysAfter between
        rw [← Int.add_assoc, ← after.day_eq] at within
        obtain ⟨schedule, h⟩ := (ih next).mpr within
        exact ⟨schedule, next, after, h⟩
    · rw [Step.waited_beforeExit_cons (Step.kind_ne_exit_of_isSend send) first,
        Step.days_of_kind_ne_wait (Step.kind_ne_wait_of_isSend send), Int.zero_add, ← ih clock]
      simp only [fromClock_send_eq_ok_iff send]
      constructor
      · rintro ⟨_, tail, h, _⟩
        exact ⟨tail, h⟩
      · rintro ⟨tail, h⟩
        exact ⟨_, tail, h, rfl⟩

/-- The messages before the exit are scheduled, each once and in sequence. -/
theorem map_step_of_fromClock (ascending : seq.Pairwise fun a b => a.order < b.order)
    (sound : ∀ s ∈ seq, s.action.check = .ok ()) (h : fromClock clock seq = .ok schedule) :
    schedule.map (·.step) = seq.filter (Step.IsSent seq) := by
  induction seq generalizing clock schedule with
  | nil =>
    obtain rfl := Except.ok.inj h
    rfl
  | cons s rest ih =>
    obtain ⟨first, ascending⟩ := List.pairwise_cons.mp ascending
    obtain ⟨soundHead, sound⟩ := List.forall_mem_cons.mp sound
    have later (notExit : s.kind ≠ .exit) :
        rest.filter (Step.IsSent (s :: rest)) = rest.filter (Step.IsSent rest) :=
      List.filter_congr fun b _ =>
        decide_eq_decide.mpr (and_congr_right fun _ => Step.beforeExit_cons_iff notExit)
    rcases s.kind_cases with exit | wait | send
    · rw [fromClock_exit exit] at h
      obtain rfl := Except.ok.inj h
      have none : (s :: rest).filter (Step.IsSent (s :: rest)) = [] := by
        rw [List.filter_eq_nil_iff]
        intro b hb
        rw [decide_eq_true_iff]
        exact fun sent => Step.not_beforeExit_of_exit exit first b hb sent.2
      rw [none, List.map_nil]
    · obtain ⟨next, _, h⟩ := (fromClock_wait_eq_ok_iff wait soundHead).mp h
      have unsent : ¬Step.IsSent (s :: rest) s := by
        simp [Step.IsSent, wait, StepKind.isSend]
      rw [List.filter_cons_of_neg (by simpa using unsent), later (by simp [wait])]
      exact ih ascending sound h
    · obtain ⟨tail, planned, rfl⟩ := (fromClock_send_eq_ok_iff send).mp h
      have notExit := Step.kind_ne_exit_of_isSend send
      have sent : Step.IsSent (s :: rest) s := ⟨send, Step.beforeExit_head notExit first⟩
      rw [List.filter_cons_of_pos (by simpa using sent), later notExit, List.map_cons,
        ih ascending sound planned]

theorem mem_iff_of_fromClock (ascending : seq.Pairwise fun a b => a.order < b.order)
    (sound : ∀ s ∈ seq, s.action.check = .ok ()) (h : fromClock clock seq = .ok schedule)
    (x : ScheduledStep) : x ∈ schedule ↔ Due seq clock x := by
  induction seq generalizing clock schedule with
  | nil =>
    obtain rfl := Except.ok.inj h
    simp [Due]
  | cons s rest ih =>
    obtain ⟨first, ascending⟩ := List.pairwise_cons.mp ascending
    obtain ⟨soundHead, sound⟩ := List.forall_mem_cons.mp sound
    rcases s.kind_cases with exit | wait | send
    · rw [fromClock_exit exit] at h
      obtain rfl := Except.ok.inj h
      exact iff_of_false List.not_mem_nil (not_due_of_exit first exit)
    · obtain ⟨next, after, h⟩ := (fromClock_wait_eq_ok_iff wait soundHead).mp h
      have nonneg := Step.days_nonneg soundHead
      rw [ih ascending sound h, due_cons_of_wait first wait nonneg sound after]
    · obtain ⟨tail, later, rfl⟩ := (fromClock_send_eq_ok_iff send).mp h
      rw [List.mem_cons, ih ascending sound later, due_cons_of_send first send]

end Sequence

variable {steps : List Step} {start : Moment} {schedule : List ScheduledStep}

theorem ofSteps_eq_ok_iff :
    ofSteps steps start = .ok schedule ↔
      ∃ seq, Step.sequence steps = .ok seq ∧ fromClock start seq = .ok schedule :=
  Except.bind_eq_ok

theorem exists_ofSteps_iff (steps : List Step) (start : Moment) :
    (∃ schedule, ofSteps steps start = .ok schedule) ↔
      (∃ seq, Step.sequence steps = .ok seq) ∧
        InCalendar (start.date.day + Step.waited steps (Step.BeforeExit steps)) := by
  simp only [ofSteps_eq_ok_iff]
  constructor
  · rintro ⟨schedule, seq, sequence, h⟩
    obtain ⟨perm, ascending, sound⟩ := Step.sequenced_of_sequence sequence
    have within := (exists_fromClock_iff ascending sound start).mp ⟨schedule, h⟩
    rw [Step.waited_beforeExit_perm perm] at within
    exact ⟨⟨seq, sequence⟩, within⟩
  · rintro ⟨⟨seq, sequence⟩, within⟩
    obtain ⟨perm, ascending, sound⟩ := Step.sequenced_of_sequence sequence
    rw [← Step.waited_beforeExit_perm perm] at within
    obtain ⟨schedule, h⟩ := (exists_fromClock_iff ascending sound start).mpr within
    exact ⟨schedule, seq, sequence, h⟩

theorem planned_of_ofSteps (h : ofSteps steps start = .ok schedule) :
    Planned steps start schedule := by
  obtain ⟨seq, sequence, h⟩ := ofSteps_eq_ok_iff.mp h
  have sequenced := Step.sequenced_of_sequence sequence
  have ⟨perm, ascending, sound⟩ := sequenced
  have sound' : ∀ s ∈ steps, s.action.check = .ok () := fun s hs => sound s (perm.mem_iff.mpr hs)
  have mem : ∀ x, x ∈ schedule ↔
      x.step ∈ steps ∧ x.step.kind.isSend = true ∧ Step.BeforeExit steps x.step ∧
        x.sendAt.IsDaysAfter (Step.waited steps (·.order < x.step.order)) start := by
    intro x
    rw [mem_iff_of_fromClock ascending sound h, Due, perm.mem_iff, Step.beforeExit_perm perm,
      Step.waited_perm perm]
  have ordered : (schedule.map (·.step)).Pairwise fun a b => a.order < b.order := by
    rw [map_step_of_fromClock ascending sound h]
    exact ascending.filter _
  rw [List.pairwise_map] at ordered
  have apart : schedule.Pairwise fun a b => b.sendAt.IsDaysAfter
      (Step.waited steps fun s => a.step.order < s.order ∧ s.order < b.step.order) a.sendAt := by
    apply ordered.imp_of_mem
    intro a b ha hb lt
    obtain ⟨ha, send, _, first⟩ := (mem a).mp ha
    obtain ⟨_, _, _, second⟩ := (mem b).mp hb
    have still : ∀ s ∈ steps, s.order = a.step.order → s.days = 0 := by
      intro s hs same
      obtain rfl := sequenced.eq_of_order_eq hs ha same
      exact Step.days_of_kind_ne_wait (Step.kind_ne_wait_of_isSend send)
    rw [Step.waited_lt_eq_add lt still] at second
    exact second.between (Step.waited_nonneg sound') (Step.waited_nonneg sound') first
  refine ⟨mem, ordered, ?_, apart⟩
  exact apart.imp fun later => later.ticks_le (Step.waited_nonneg sound')

/-- The closed form leaves no choice. -/
theorem Planned.unique {schedule' : List ScheduledStep} (h : Planned steps start schedule)
    (h' : Planned steps start schedule') : schedule = schedule' := by
  have nodup {xs : List ScheduledStep}
      (ascending : xs.Pairwise fun a b => a.step.order < b.step.order) : xs.Nodup := by
    apply ascending.imp
    rintro a b lt rfl
    exact UInt32.lt_irrefl _ lt
  have perm : schedule.Perm schedule' := by
    rw [List.perm_ext_iff_of_nodup (nodup h.ascending) (nodup h'.ascending)]
    intro x
    rw [h.mem_iff, h'.mem_iff]
  apply perm.eq_of_pairwise _ h.ascending h'.ascending
  intro a b _ _ lt gt
  exact absurd gt (UInt32.lt_asymm lt)

/-- Steps have a schedule exactly if they form a sequence and the calendar lasts until all days
before the exit are over; it is the schedule in closed form. -/
theorem ofSteps_closed_form (steps : List Step) (start : Moment) :
    ((∃ schedule, ofSteps steps start = .ok schedule) ↔
      (∃ seq, Step.sequence steps = .ok seq) ∧
        InCalendar (start.date.day + Step.waited steps (Step.BeforeExit steps))) ∧
    ∀ schedule, ofSteps steps start = .ok schedule ↔
      (∃ other, ofSteps steps start = .ok other) ∧ Planned steps start schedule := by
  refine ⟨exists_ofSteps_iff steps start, ?_⟩
  intro schedule
  constructor
  · intro h
    exact ⟨⟨schedule, h⟩, planned_of_ofSteps h⟩
  · rintro ⟨⟨other, h⟩, planned⟩
    rw [planned.unique (planned_of_ofSteps h)]
    exact h

end Schedule

end Outreach
