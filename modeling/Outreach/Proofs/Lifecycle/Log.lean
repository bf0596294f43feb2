import Outreach.Proofs.Lifecycle.Evolution

/-!
The log and the statuses. Every request that moves a campaign records its event, and nothing else
records a transition; so the transitions in the log of a campaign are the events of its
successful requests. The table allows them one after the other from the draft on, and they lead
to the status that is stored.
-/

namespace Outreach

namespace Status

def follow? (s : Status) : List CampaignEvent → Option Status
  | [] => some s
  | e :: rest => (s.next? e).bind fun t => t.follow? rest

theorem follow?_concat (s : Status) (es : List CampaignEvent) (e : CampaignEvent) :
    s.follow? (es ++ [e]) = (s.follow? es).bind fun t => t.next? e := by
  induction es generalizing s with
  | nil =>
    simp only [List.nil_append, follow?, Option.bind_some, Option.bind_fun_some]
  | cons first rest ih =>
    rw [List.cons_append, follow?, follow?]
    cases s.next? first with
    | none => rfl
    | some t => exact ih t

end Status

def Event.transition? (id : Ident) (e : Event) : Option CampaignEvent :=
  if e.campaign = id then e.kind.transition? else none

def transitionsOf (id : Ident) (events : List Event) : List CampaignEvent :=
  events.filterMap (Event.transition? id)

def Request.eventFor? (id : Ident) (r : Request) : Option CampaignEvent :=
  match r.event? with
  | some (k, e) => if k = id then some e else none
  | none => none

theorem Request.eventFor?_eq_some_iff {id : Ident} {r : Request} {e : CampaignEvent} :
    r.eventFor? id = some e ↔ r.event? = some (id, e) := by
  unfold eventFor?
  cases r.event? with
  | none => simp
  | some x =>
    obtain ⟨k, e'⟩ := x
    by_cases same : k = id
    · simp [same]
    · simp [same]

theorem Request.isSome_eventFor? (id : Ident) (r : Request) :
    (r.eventFor? id).isSome = true ↔ r.event?.map (·.1) = some id := by
  unfold eventFor?
  cases r.event? with
  | none => simp
  | some x =>
    obtain ⟨k, e⟩ := x
    by_cases same : k = id
    · simp [same]
    · simp [same]

section Transitions

variable (id : Ident)

theorem transitionsOf_append (events new : List Event) :
    transitionsOf id (events ++ new) = transitionsOf id events ++ transitionsOf id new :=
  List.filterMap_append

theorem transitionsOf_failures (campaign : Ident) (failures : List Undelivered) :
    transitionsOf id (failures.map (Event.ofFailure campaign)) = [] := by
  rw [transitionsOf, List.filterMap_eq_nil_iff]
  intro e he
  obtain ⟨u, _, rfl⟩ := List.mem_map.mp he
  exact ite_self none

/-- Of the events of a campaign only failures are no transitions. -/
theorem length_transitionsOf (events : List Event) : (transitionsOf id events).length =
    events.countP fun e => e.campaign = id ∧ e.kind ≠ .deliveryFailed := by
  rw [transitionsOf, List.length_filterMap_eq_countP]
  apply List.countP_congr
  intro e _
  have kind : e.kind.transition?.isSome = true ↔ e.kind ≠ .deliveryFailed := by
    cases e.kind <;> decide
  by_cases own : e.campaign = id
  · simp [Event.transition?, own, kind]
  · simp [Event.transition?, own]

theorem transitionsOf_log (s : LifecycleState) (e : Event) :
    transitionsOf id (s.log e).events =
      transitionsOf id s.events ++ (e.transition? id).toList := by
  change transitionsOf id (s.events ++ [e]) = _
  rw [transitionsOf_append]
  cases h : e.transition? id <;> simp [transitionsOf, h]

theorem transitionsOf_deliver (l : Lifecycle) (campaign : Ident) (occasion : Occasion)
    (schedule : List ScheduledStep) (recipients : List Customer) (s : LifecycleState) :
    transitionsOf id (l.deliver campaign occasion schedule recipients s).2.events =
      transitionsOf id s.events := by
  change transitionsOf id (s.events ++ _) = _
  rw [transitionsOf_append, transitionsOf_failures, List.append_nil]

end Transitions

/-- A request that succeeds records the event that it is. -/
theorem Done.transitionsOf_events {l : Lifecycle} {now : Moment} {s s' : LifecycleState}
    {r : Request} {a : Answer} (h : Done l now s r a s') (keyed : s.store.Keyed) (id : Ident) :
    transitionsOf id s'.events = transitionsOf id s.events ++ (r.eventFor? id).toList := by
  have own (k : Ident) (e : CampaignEvent) (customer : Option Ident) (detail : Json) :
      Event.transition? id ⟨EventKind.ofTransition e, k, customer, detail⟩ =
        if k = id then some e else none := by
    rw [Event.transition?, EventKind.transition?_ofTransition]
  cases h with
  | create segment flow => exact (List.append_nil _).symm
  | edit stored draft flow | pause stored active | complete stored started =>
    obtain rfl := keyed _ _ stored
    rw [transitionsOf_log, Event.ofTransition, own]
    rfl
  | activate stored draft plan saved | resume stored paused plan saved =>
    obtain rfl := keyed _ _ stored
    subst saved
    rw [transitionsOf_log, transitionsOf_deliver, Event.ofPass, own]
    rfl
  | redispatch stored active plan =>
    rw [transitionsOf_deliver]
    exact (List.append_nil _).symm

theorem Turn.Effect.transitionsOf_events {l : Lifecycle} {s s' : LifecycleState} {t : Turn}
    (h : t.Effect l s s') (keyed : s.store.Keyed) (id : Ident) :
    transitionsOf id s'.events = transitionsOf id s.events ++
      ((t.success? l s).bind fun x => x.1.eventFor? id).toList := by
  cases h with
  | done success done =>
    rw [done.transitionsOf_events keyed, success]
    rfl
  | failed success =>
    rw [success]
    exact (List.append_nil _).symm
  | restocked store => exact (List.append_nil _).symm

/-- Transitions that have led to the record of a campaign, if it has one yet. -/
def LeadTo (es : List CampaignEvent) : Option Campaign → Prop
  | none => es = []
  | some c => Status.draft.follow? es = some c.status

/-- A record and its log stay together. -/
theorem Campaign.Step.leadTo {usual : TimeOfDay} {id : Ident} {success : Option (Request × Moment)}
    {stored stored' : Option Campaign} (h : Step usual id success stored stored')
    {es : List CampaignEvent} (lead : LeadTo es stored) :
    LeadTo (es ++ (success.bind fun x => x.1.eventFor? id).toList) stored' := by
  cases h with
  | created =>
    change es = [] at lead
    subst lead
    rfl
  | @moved c d r now same moves =>
    subst same
    obtain ⟨e, event, row⟩ := moves.mem_table
    have own := Request.eventFor?_eq_some_iff.mpr event
    change Status.draft.follow? (es ++ (r.eventFor? c.id).toList) = some d.status
    rw [own, Option.toList_some, Status.follow?_concat, lead, Option.bind_some]
    exact Status.next?_eq_some_iff.mpr row
  | kept other =>
    have none : (success.bind fun x => x.1.eventFor? id) = none := by
      rw [Option.bind_eq_none_iff]
      rintro ⟨r, now⟩ given
      rw [Option.eq_none_iff_forall_ne_some]
      intro e event
      exact Request.event?_ne (other r now given) e (Request.eventFor?_eq_some_iff.mp event)
    rwa [none, Option.toList_none, List.append_nil]

namespace Lifecycle

def successes (l : Lifecycle) : History → List (Request × Moment)
  | [] => []
  | t :: h => l.successes h ++ (t.success? l (l.after h)).toList

variable {l : Lifecycle} {h : History} {id : Ident}

theorem transitionsOf_after (fresh : l.FreshIdents h) (id : Ident) :
    transitionsOf id (l.after h).events =
      (l.successes h).filterMap fun x => x.1.eventFor? id := by
  induction h with
  | nil => rfl
  | cons t h ih =>
    have turn := (t.effect l (l.after h)).transitionsOf_events (keyed_after fresh.2) id
    rw [after_cons, turn, ih fresh.2, successes, List.filterMap_append]
    congr 1
    cases t.success? l (l.after h) with
    | none => rfl
    | some x => cases event : x.1.eventFor? id <;> simp [event]

theorem leadTo_after (fresh : l.FreshIdents h) (id : Ident) :
    LeadTo (transitionsOf id (l.after h).events) ((l.after h).store.campaigns.get? id) := by
  induction h with
  | nil => rfl
  | cons t h ih =>
    have turn := (t.effect l (l.after h)).transitionsOf_events (keyed_after fresh.2) id
    rw [← after_cons] at turn
    rw [turn]
    exact (step_after fresh id).leadTo (ih fresh.2)

/-- What is created stays stored. -/
theorem stored_of_created (fresh : l.FreshIdents h) {q : NewCampaign} {now : Moment}
    (created : (.create id q, now) ∈ l.successes h) :
    ∃ c, (l.after h).store.campaigns.get? id = some c := by
  induction h with
  | nil => cases created
  | cons t h ih =>
    have step := step_after fresh id
    rcases List.mem_append.mp created with before | latest
    · obtain ⟨c, stored⟩ := ih fresh.2 before
      rw [stored] at step
      obtain ⟨d, stored', _⟩ := step.evolves
      exact ⟨d, stored'⟩
    · rw [Option.mem_toList.mp latest] at step
      generalize (l.after h).store.campaigns.get? id = stored at step
      generalize (l.after (t :: h)).store.campaigns.get? id = stored' at step
      cases step with
      | created => exact ⟨_, rfl⟩
      | moved same moves => exact ⟨_, rfl⟩
      | kept other => exact absurd rfl (other _ _ rfl)

/-- The log of a campaign leads from a draft to its record, by the events of the requests for it
that have succeeded. -/
structure Logged (l : Lifecycle) (h : History) (id : Ident) (c : Campaign) : Prop where
  leads : Status.draft.follow? (transitionsOf id (l.after h).events) = some c.status
  transitions : transitionsOf id (l.after h).events =
    (l.successes h).filterMap fun x => x.1.eventFor? id
  count : ((l.after h).events.countP fun e => e.campaign = id ∧ e.kind ≠ .deliveryFailed) =
    (l.successes h).countP fun x => x.1.event?.map (·.1) = some id

/-- Every campaign of a history has a log that leads to its status. -/
theorem logged_of_created (fresh : l.FreshIdents h) {q : NewCampaign} {now : Moment}
    (created : (.create id q, now) ∈ l.successes h) :
    ∃ c, (l.after h).store.campaigns.get? id = some c ∧ l.Logged h id c := by
  obtain ⟨c, stored⟩ := stored_of_created fresh created
  have lead := leadTo_after fresh id
  rw [stored] at lead
  refine ⟨c, stored, lead, transitionsOf_after fresh id, ?_⟩
  rw [← length_transitionsOf, transitionsOf_after fresh, List.length_filterMap_eq_countP]
  apply List.countP_congr
  intro x _
  rw [decide_eq_true_iff]
  exact x.1.isSome_eventFor? id

/-- A campaign is edited, started, stopped and dispatched again, with one message that fails; what
is asked of it after its end is refused. -/
theorem logged_of_created_completed :
    let l := Sample.lifecycle
    let rename : Change := ⟨some "Relaunch", none, none, none, none, none⟩
    let first : History := [.request (.create Sample.campaign Sample.draft) (Sample.moment 1)
      Outages.none, .restock Sample.store]
    let h : History := [.request (.resume Sample.campaign) (Sample.moment 7) Outages.none,
      .request (.complete Sample.campaign) (Sample.moment 6) Outages.none,
      .request (.redispatch Sample.campaign) (Sample.moment 5) Outages.none,
      .request (.resume Sample.campaign) (Sample.moment 4) Outages.none,
      .request (.pause Sample.campaign) (Sample.moment 3) Outages.none,
      .request (.activate Sample.campaign) (Sample.moment 2) Outages.none,
      .request (.edit Sample.campaign rename) (Sample.moment 1) Outages.none] ++ first
    l.FreshIdents h ∧ (.create Sample.campaign Sample.draft, Sample.moment 1) ∈ l.successes h ∧
      (l.after h).events.length = 6 ∧ transitionsOf Sample.campaign (l.after h).events =
        [.edit, .activate, .pause, .resume, .complete] ∧
      ∃ c, (l.after h).store.campaigns.get? Sample.campaign = some c ∧
        l.Logged h Sample.campaign c := by
  intro l rename first h
  have fresh : l.FreshIdents h := by decide +kernel
  have success : (l.perform (Sample.moment 1) (.create Sample.campaign Sample.draft)).succeeds
      (l.after [.restock Sample.store]) = true := by decide +kernel
  have created : (.create Sample.campaign Sample.draft, Sample.moment 1) ∈ l.successes h := by
    have latest : (Turn.request (.create Sample.campaign Sample.draft) (Sample.moment 1)
        Outages.none).success? l (l.after [.restock Sample.store]) =
          some (.create Sample.campaign Sample.draft, Sample.moment 1) := by
      unfold Turn.success?
      exact if_pos success
    iterate 7 apply List.mem_append_left
    exact List.mem_append_right _ (Option.mem_toList.mpr latest)
  exact ⟨fresh, created, by decide +kernel, by decide +kernel, logged_of_created fresh created⟩

end Lifecycle

end Outreach
