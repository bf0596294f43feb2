import Outreach.Proofs.Delivery.Retry
import Outreach.Proofs.Flow.Schedule
import Outreach.Proofs.Lifecycle.Dispatching
import Outreach.Proofs.Store.Stock

/-!
One pass over a campaign, whatever it is made for: it follows a plan, its report accounts for
the attempts that the plan gave rise to, and the campaign is active behind it with the start of
the schedule. Among the turns of a history only passes touch the ledger, and each of them only
the keys of its own campaign.
-/

namespace Outreach

def Occasion.request (occasion : Occasion) (id : Ident) : Request :=
  match occasion with
  | .activate => .activate id
  | .resume => .resume id
  | .redispatch => .redispatch id

/-- Customers, segments and flows are the same in both stores. -/
structure Store.SameStock (s t : Store) : Prop where
  customers : t.customers = s.customers
  segments : t.segments = s.segments
  flows : t.flows = s.flows

/-- Two records of a campaign send the same messages. -/
structure Campaign.SameMessages (c d : Campaign) : Prop where
  name : d.name = c.name
  segment : d.segment = c.segment
  flow : d.flow = c.flow
  blast : d.blast = c.blast

namespace Lifecycle

section Stock

variable (l : Lifecycle) {s t : Store} (stock : s.SameStock t)
include stock

theorem directory_congr : l.directory t = l.directory s := by
  rw [Lifecycle.directory, stock.segments, stock.customers]
  rfl

theorem flow_congr (id : Ident) : l.flow id t = l.flow id s := by
  rw [Lifecycle.flow, stock.flows]
  rfl

theorem findFlow_congr (id : Option Ident) : l.findFlow id t = l.findFlow id s := by
  cases id with
  | none => rfl
  | some id => exact congrArg (Except.map fun _ => ()) (l.flow_congr stock id)

end Stock

/-- A plan depends on the messages of the campaign and on the stock of the store. -/
theorem plan_congr (l : Lifecycle) {c d : Campaign} {s t : Store} (messages : c.SameMessages d)
    (stock : s.SameStock t) (start now : Moment) : l.plan d start now t = l.plan c start now s := by
  have blast : blastStep d = blastStep c := by
    rw [blastStep, messages.blast, messages.name]
    rfl
  have steps : l.steps d t = l.steps c s := by
    simp only [Lifecycle.steps, messages.flow, messages.segment, blast, l.flow_congr stock]
  simp only [plan, l.directory_congr stock, steps, messages.segment]

def calls (l : Lifecycle) (campaign : Ident) (schedule : List ScheduledStep)
    (recipients : List Customer) (s : LifecycleState) : List Call :=
  (l.attempts campaign schedule recipients s).1.filterMap Attempt.call?

theorem events_deliver (l : Lifecycle) (campaign : Ident) (occasion : Occasion)
    (schedule : List ScheduledStep) (recipients : List Customer) (s : LifecycleState) :
    (l.deliver campaign occasion schedule recipients s).2.events =
      s.events ++ (l.deliver campaign occasion schedule recipients s).1.failures.map
        (Event.ofFailure campaign) := rfl

section Attempts

variable (l : Lifecycle) (campaign : Ident) (schedule : List ScheduledStep)
  (recipients : List Customer) (s : LifecycleState)

theorem map_dispatch_attempts : (l.attempts campaign schedule recipients s).1.map (·.dispatch) =
    dispatches campaign schedule recipients :=
  Ledger.pass_dispatches _ _

theorem length_attempts : (l.attempts campaign schedule recipients s).1.length =
    (dispatches campaign schedule recipients).length := by
  rw [← l.map_dispatch_attempts campaign schedule recipients s, List.length_map]

variable {l campaign schedule recipients s}

theorem mem_dispatches_of_mem_attempts {a : Attempt}
    (h : a ∈ (l.attempts campaign schedule recipients s).1) :
    a.dispatch ∈ dispatches campaign schedule recipients := by
  rw [← l.map_dispatch_attempts campaign schedule recipients s]
  exact List.mem_map_of_mem h

theorem mem_dispatches_of_mem_calls {x : Call} (h : x ∈ l.calls campaign schedule recipients s) :
    x.dispatch ∈ dispatches campaign schedule recipients := by
  obtain ⟨a, attempted, called⟩ := List.mem_filterMap.mp h
  obtain ⟨o, _, rfl⟩ := Option.map_eq_some_iff.mp called
  exact mem_dispatches_of_mem_attempts attempted

end Attempts

/-- A pass over a campaign from a start on, with its recipients and its report. -/
structure Made (l : Lifecycle) (s : LifecycleState) (occasion : Occasion) (now : Moment)
    (c : Campaign) (start : Moment) (recipients : List Customer) (r : Report)
    (s' : LifecycleState) : Prop where
  plan : l.plan c start now s.store = .ok (r.scheduled, recipients)
  report : r = Report.ofAttempts c.id occasion r.scheduled recipients
    (l.attempts c.id r.scheduled recipients s).1
  ledger : s'.ledger = (l.attempts c.id r.scheduled recipients s).2
  stock : s.store.SameStock s'.store
  /-- The campaign is active now and remembers the start. -/
  stored : ∃ d, s'.store.campaigns.get? c.id = some d ∧ d.status = .active ∧
    d.scheduleStart = some start ∧ c.SameMessages d

end Lifecycle

section Done

variable {l : Lifecycle} {now : Moment} {s s' : LifecycleState} {r : Request} {a : Answer}

/-- What the requests of passes have in common. -/
theorem Done.made {occasion : Occasion} {id : Ident} {report : Report}
    (h : Done l now s (occasion.request id) (.report report) s') (keyed : s.store.Keyed)
    (timed : ∀ c, s.store.campaigns.get? id = some c → c.Timed) :
    ∃ c start recipients, s.store.campaigns.get? id = some c ∧ c.id = id ∧
      l.Made s occasion now c start recipients report s' := by
  cases occasion with
  | activate =>
    cases h with
    | @activate _ c schedule recipients t stored draft plan saved =>
      obtain rfl := keyed _ _ stored
      subst saved
      exact ⟨c, _, recipients, stored, rfl, plan, rfl, rfl, ⟨rfl, rfl, rfl⟩, _,
        (s.get?_putCampaign _ _).trans (if_pos rfl), rfl, rfl, ⟨rfl, rfl, rfl, rfl⟩⟩
  | resume =>
    cases h with
    | @resume _ c schedule recipients t stored paused plan saved =>
      obtain rfl := keyed _ _ stored
      subst saved
      exact ⟨c, _, recipients, stored, rfl, plan, rfl, rfl, ⟨rfl, rfl, rfl⟩, _,
        (s.get?_putCampaign _ _).trans (if_pos rfl), rfl, rfl, ⟨rfl, rfl, rfl, rfl⟩⟩
  | redispatch =>
    cases h with
    | @redispatch _ c schedule recipients stored active plan =>
      obtain rfl := keyed _ _ stored
      obtain ⟨start, given⟩ := (timed c stored).start_of_active active
      rw [given, Option.getD_some] at plan
      exact ⟨c, start, recipients, stored, rfl, plan, rfl, rfl, ⟨rfl, rfl, rfl⟩, c, stored,
        active, given, ⟨rfl, rfl, rfl, rfl⟩⟩

/-- No request touches what is stored besides the campaigns. -/
theorem Done.sameStock (h : Done l now s r a s') : s.store.SameStock s'.store := by
  cases h with
  | activate stored draft plan saved | resume stored paused plan saved =>
    subst saved
    exact ⟨rfl, rfl, rfl⟩
  | create | edit | pause | complete | redispatch => exact ⟨rfl, rfl, rfl⟩

theorem Done.ledger_eq_or_pass (h : Done l now s r a s') :
    s'.ledger = s.ledger ∨ ∃ (occasion : Occasion) (id : Ident) (report : Report),
      r = occasion.request id ∧ a = .report report := by
  cases h with
  | create segment flow => exact Or.inl rfl
  | edit stored draft flow => exact Or.inl rfl
  | pause stored active => exact Or.inl rfl
  | complete stored started => exact Or.inl rfl
  | activate stored draft plan saved => exact Or.inr ⟨.activate, _, _, rfl, rfl⟩
  | resume stored paused plan saved => exact Or.inr ⟨.resume, _, _, rfl, rfl⟩
  | redispatch stored active plan => exact Or.inr ⟨.redispatch, _, _, rfl, rfl⟩

end Done

namespace Turn

def Stocked : Turn → Prop
  | request _ _ _ => True
  | restock store => store.Stocked

/-- A turn that makes a pass over a campaign. -/
inductive Passes (l : Lifecycle) (s : LifecycleState) (c : Campaign) :
    Turn → LifecycleState → Prop
  | intro {occasion : Occasion} {now : Moment} {outages : Outages} {start : Moment}
      {recipients : List Customer} {r : Report} {s' : LifecycleState}
      (success : (request (occasion.request c.id) now outages).success? l s =
        some (occasion.request c.id, now))
      (stored : s.store.campaigns.get? c.id = some c)
      (made : { l with outages := outages }.Made s occasion now c start recipients r s') :
      Passes l s c (request (occasion.request c.id) now outages) s'

theorem Effect.customers_eq {l : Lifecycle} {s s' : LifecycleState} {t : Turn}
    (h : t.Effect l s s') : s'.store.customers = s.store.customers ∨
      ∃ store, t = restock store ∧ s'.store.customers = store.customers := by
  cases h with
  | done success done => exact Or.inl done.sameStock.customers
  | failed success => exact Or.inl rfl
  | restocked store => exact Or.inr ⟨store, rfl, rfl⟩

/-- A turn leaves the ledger as it is, unless it makes a pass over a campaign. -/
theorem Effect.ledger_eq_or_passes {l : Lifecycle} {s s' : LifecycleState} {t : Turn}
    (h : t.Effect l s s') (keyed : s.store.Keyed)
    (timed : ∀ id c, s.store.campaigns.get? id = some c → c.Timed) :
    s'.ledger = s.ledger ∨ ∃ c, t.Passes l s c s' := by
  cases h with
  | failed success => exact Or.inl rfl
  | restocked store => exact Or.inl rfl
  | done success done =>
    rcases done.ledger_eq_or_pass with same | ⟨occasion, id, report, rfl, rfl⟩
    · exact Or.inl same
    · obtain ⟨c, start, recipients, stored, rfl, made⟩ := done.made keyed (timed id)
      exact Or.inr ⟨c, .intro success stored made⟩

end Turn

theorem Sample.stocked_store : store.Stocked :=
  .customer (.customer (.customer (.flow (.segment .empty _) _) _) _) _

namespace Lifecycle

variable {l : Lifecycle} {h : History} {occasion : Occasion} {id : Ident} {now : Moment}
  {r : Report} {s' : LifecycleState}

theorem done_of_pass {s : LifecycleState} (made : l.pass id now occasion s = .ok r s') :
    Done l now s (occasion.request id) (.report r) s' := by
  cases occasion with
  | activate => exact done_of_activate made
  | resume => exact done_of_resume made
  | redispatch => exact done_of_redispatch made

/-- A pass as a turn of a history. -/
theorem after_pass (made : l.pass id now occasion (l.after h) = .ok r s') :
    l.after (.request (occasion.request id) now l.outages :: h) = s' := by
  have performed : l.perform now (occasion.request id) (l.after h) = .ok (.report r) s' := by
    cases occasion <;> exact Operation.bind_eq_ok.mpr ⟨r, s', made, rfl⟩
  rw [after_cons]
  simp only [Turn.state, performed]

theorem ledger_after_cons {t : Turn} (fresh : l.FreshIdents (t :: h)) :
    (l.after (t :: h)).ledger = (l.after h).ledger ∨
      ∃ c, t.Passes l (l.after h) c (l.after (t :: h)) :=
  (t.effect l (l.after h)).ledger_eq_or_passes (keyed_after fresh.2)
    fun _ _ stored => timed_after fresh.2 stored

/-- No two customers have the same identifier. -/
theorem nodup_customers_after (l : Lifecycle) (stocked : ∀ t ∈ h, t.Stocked) :
    ((l.after h).store.customers.values.map (·.id)).Nodup := by
  induction h with
  | nil => exact List.nodup_nil
  | cons t h ih =>
    have before := ih fun t ht => stocked t (List.mem_cons_of_mem _ ht)
    rw [after_cons]
    rcases (t.effect l (l.after h)).customers_eq with same | ⟨store, rfl, same⟩
    · rwa [same]
    · rw [same]
      exact Store.Stocked.nodup_customers (stocked _ (List.mem_cons_self ..))

theorem made_of_pass (fresh : l.FreshIdents h)
    (made : l.pass id now occasion (l.after h) = .ok r s') :
    ∃ c start recipients, (l.after h).store.campaigns.get? id = some c ∧ c.id = id ∧
      l.Made (l.after h) occasion now c start recipients r s' :=
  (done_of_pass made).made (keyed_after fresh) fun _ => timed_after fresh

namespace Made

variable {s : LifecycleState} {c : Campaign} {start : Moment} {recipients : List Customer}
  (made : l.Made s occasion now c start recipients r s')
include made

/-- The messages of a pass. -/
theorem planned :
    ∃ steps, c.Sends s.store steps ∧ Schedule.ofSteps steps start = .ok r.scheduled := by
  obtain ⟨g, steps, _, sends, scheduled, _⟩ := plan_eq_ok made.plan
  exact ⟨steps, sends, scheduled⟩

theorem recipients_sublist : recipients.Sublist s.store.customers.values := by
  obtain ⟨g, steps, _, _, _, rfl, _⟩ := plan_eq_ok made.plan
  exact List.filter_sublist

theorem recipients_eq : r.recipients = recipients.length :=
  congrArg Report.recipients made.report

theorem sent_eq : r.sent = (l.attempts c.id r.scheduled recipients s).1.countP Attempt.isSent :=
  congrArg Report.sent made.report

theorem skipped_eq :
    r.skipped = (l.attempts c.id r.scheduled recipients s).1.countP Attempt.isSkipped :=
  congrArg Report.skipped made.report

theorem failures_eq :
    r.failures = (l.attempts c.id r.scheduled recipients s).1.filterMap Attempt.failure? :=
  congrArg Report.failures made.report

theorem calls_eq :
    s'.ledger.calls = s.ledger.calls ++ l.calls c.id r.scheduled recipients s := by
  rw [made.ledger]
  exact Ledger.pass_calls _ _

/-- Every message of a pass is sent, skipped or reported as failed. -/
theorem sent_add_skipped_add_failures :
    r.sent + r.skipped + r.failures.length =
      (dispatches c.id r.scheduled recipients).length := by
  rw [made.sent_eq, made.skipped_eq, made.failures_eq, ← length_attempts l _ _ _ s]
  exact Attempt.sent_add_skipped_add_failed _

theorem called_add_skipped :
    (l.calls c.id r.scheduled recipients s).length + r.skipped =
      (dispatches c.id r.scheduled recipients).length := by
  rw [made.skipped_eq, ← length_attempts l _ _ _ s]
  exact Attempt.called_add_skipped _

variable (distinct : (s.store.customers.values.map (·.id)).Nodup)
include distinct

/-- Over customers with different identifiers no key comes up twice. -/
theorem nodup_keys : ((dispatches c.id r.scheduled recipients).map Dispatch.key).Nodup := by
  obtain ⟨steps, _, scheduled⟩ := made.planned
  apply nodup_keys_dispatches (Schedule.planned_of_ofSteps scheduled).ascending
  exact distinct.sublist (made.recipients_sublist.map _)

variable (dedupe : l.dedupe = true)
include dedupe

/-- A pass calls what has been due before it. -/
theorem map_dispatch_calls : (l.calls c.id r.scheduled recipients s).map (·.dispatch) =
    s.ledger.due (dispatches c.id r.scheduled recipients) := by
  rw [calls, attempts, dedupe]
  exact Ledger.map_dispatch_calls_pass (made.nodup_keys distinct) l.sink s.ledger

/-- What a pass skips was delivered before it. -/
theorem mem_delivered_of_skipped {a : Attempt}
    (attempted : a ∈ (l.attempts c.id r.scheduled recipients s).1) (skipped : a.outcome = none) :
    a.dispatch.key ∈ s.ledger.delivered := by
  rw [attempts, dedupe] at attempted
  exact Ledger.mem_delivered_of_skipped (made.nodup_keys distinct) s.ledger a attempted
    skipped

/-- What is due after a pass has failed in it. -/
theorem map_address_failures : r.failures.map (·.address) =
    (s'.ledger.due (dispatches c.id r.scheduled recipients)).map (·.address) := by
  have failed := Ledger.map_dispatch_failed_pass (made.nodup_keys distinct) l.sink s.ledger
  rw [made.failures_eq, Attempt.map_address_failures, made.ledger, attempts, dedupe, failed]

end Made

end Lifecycle

end Outreach
