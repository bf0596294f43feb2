import Outreach.Proofs.Lifecycle.Invariant
import Outreach.Proofs.Lifecycle.Pass

/-!
Two runs of an operation compared. The runs start in states that are related somehow; both
succeed or both fail with the same problem, and the states behind them are related again. Every
request is put together from looking up its campaign, planning, storing, delivering and
recording an event, so two lifecycles that differ in their sink only do it alike as soon as each
of these does.
-/

namespace Outreach

/-- Both have failed with the same problem, or both have succeeded with related values. -/
inductive Alike {α β : Type} (Q : α → β → Prop) : Except Problem α → Except Problem β → Prop
  | ok {a : α} {b : β} (related : Q a b) : Alike Q (.ok a) (.ok b)
  | error (p : Problem) : Alike Q (.error p) (.error p)

theorem Alike.of_eq {α : Type} {Q : α → α → Prop} {e e' : Except Problem α} (same : e' = e)
    (refl : ∀ a, e = .ok a → Q a a) : Alike Q e e' := by
  subst same
  cases e' with
  | ok a => exact .ok (refl a rfl)
  | error p => exact .error p

theorem Alike.eq {α : Type} {Q : α → α → Prop} {e e' : Except Problem α} (h : Alike Q e e')
    (same : ∀ {a b}, Q a b → a = b) : e = e' := by
  cases h with
  | ok related => rw [same related]
  | error p => rfl

/-- Two answers: the same record, or related reports. -/
inductive Answer.Alike (Q : Report → Report → Prop) : Answer → Answer → Prop
  | campaign (c : Campaign) : Answer.Alike Q (.campaign c) (.campaign c)
  | report {r r' : Report} (related : Q r r') : Answer.Alike Q (.report r) (.report r')

theorem Answer.Alike.eq {a b : Answer} (h : Answer.Alike Eq a b) : a = b := by
  cases h with
  | campaign c => rfl
  | report same => rw [same]

namespace Operation

variable {α β γ δ : Type}

def respond (x : Operation α) (s : LifecycleState) : Except Problem α × LifecycleState :=
  match x s with
  | .ok a t => (.ok a, t)
  | .error p t => (.error p, t)

theorem respond_of_ok {x : Operation α} {s t : LifecycleState} {a : α} (h : x s = .ok a t) :
    x.respond s = (.ok a, t) := by
  rw [respond, h]

theorem respond_of_error {x : Operation α} {s t : LifecycleState} {p : Problem}
    (h : x s = .error p t) : x.respond s = (.error p, t) := by
  rw [respond, h]

def Relates (R : LifecycleState → LifecycleState → Prop) (Q : α → β → Prop) (x : Operation α)
    (y : Operation β) : Prop :=
  ∀ s t, R s t → Alike Q (x.respond s).1 (y.respond t).1 ∧ R (x.respond s).2 (y.respond t).2

section Relates

variable {R : LifecycleState → LifecycleState → Prop}

theorem Relates.bind {P : α → β → Prop} {Q : γ → δ → Prop} {x : Operation α} {y : Operation β}
    {f : α → Operation γ} {g : β → Operation δ} (hx : Relates R P x y)
    (hf : ∀ a b, P a b → Relates R Q (f a) (g b)) : Relates R Q (x >>= f) (y >>= g) := by
  intro s t start
  obtain ⟨alike, states⟩ := hx s t start
  cases left : x s with
  | ok a s' =>
    cases right : y t with
    | ok b t' =>
      rw [respond_of_ok left, respond_of_ok right] at alike states
      have rest := hf a b (by cases alike; assumption) s' t' states
      unfold respond at rest ⊢
      rwa [bind_of_ok left, bind_of_ok right]
    | error p t' =>
      rw [respond_of_ok left, respond_of_error right] at alike
      cases alike
  | error p s' =>
    cases right : y t with
    | ok b t' =>
      rw [respond_of_error left, respond_of_ok right] at alike
      cases alike
    | error q t' =>
      rw [respond_of_error left, respond_of_error right] at alike states
      rw [respond_of_error (bind_of_error left), respond_of_error (bind_of_error right)]
      cases alike
      exact ⟨.error p, states⟩

theorem relates_pure {Q : α → β → Prop} {a : α} {b : β} (related : Q a b) :
    Relates R Q (pure a) (pure b) :=
  fun _ _ start => ⟨.ok related, start⟩

theorem relates_ask {Q : α → β → Prop} {f : Store → Except Problem α}
    {g : Store → Except Problem β} (alike : ∀ s t, R s t → Alike Q (f s.store) (g t.store)) :
    Relates R Q (ask f) (ask g) := by
  intro s t start
  have looked := alike s t start
  unfold respond ask
  cases left : f s.store <;> cases right : g t.store <;> rw [left, right] at looked <;>
    exact ⟨looked, start⟩

theorem relates_check (e : Except Problem α) : Relates R Eq (check e) (check e) :=
  relates_ask fun _ _ _ => .of_eq rfl fun _ _ => rfl

theorem relates_log {e e' : Event} (step : ∀ s t, R s t → R (s.log e) (t.log e')) :
    Relates R Eq (log e) (log e') :=
  fun s t start => ⟨.ok rfl, step s t start⟩

theorem relates_modifyGet {Q : α → β → Prop} {f : LifecycleState → α × LifecycleState}
    {g : LifecycleState → β × LifecycleState}
    (step : ∀ s t, R s t → Q (f s).1 (g t).1 ∧ R (f s).2 (g t).2) :
    Relates R Q (modifyGet f) (modifyGet g) :=
  fun s t start => ⟨.ok (step s t start).1, (step s t start).2⟩

theorem Relates.campaign {x y : Operation Campaign} (hx : Relates R Eq x y)
    (Q : Report → Report → Prop) :
    Relates R (Answer.Alike Q) (do return .campaign (← x)) (do return .campaign (← y)) := by
  apply hx.bind
  rintro c _ rfl
  exact relates_pure (.campaign c)

theorem Relates.report {Q : Report → Report → Prop} {x y : Operation Report}
    (hx : Relates R Q x y) :
    Relates R (Answer.Alike Q) (do return .report (← x)) (do return .report (← y)) :=
  hx.bind fun _ _ reports => relates_pure (.report reports)

end Relates

end Operation

namespace Lifecycle

theorem campaign_congr (l : Lifecycle) {id : Ident} {s t : Store}
    (same : t.campaigns.get? id = s.campaigns.get? id) : l.campaign id t = l.campaign id s := by
  unfold campaign reach
  cases l.outages.campaignReads with
  | none => simp only [Except.ok_bind, same]
  | some reason => rfl

/-- What is done for campaigns of a kind keeps states related, also where the second lifecycle
has another sink; `Q` relates the reports of two passes. -/
structure Simulates (l : Lifecycle) (sink : Sink) (own : Ident → Prop)
    (R : LifecycleState → LifecycleState → Prop) (Q : Report → Report → Prop) : Prop where
  stock : ∀ {s t}, R s t → s.store.SameStock t.store
  record : ∀ {s t id}, own id → R s t →
    t.store.campaigns.get? id = s.store.campaigns.get? id
  keyed : ∀ {s t id c}, own id → R s t → s.store.campaigns.get? id = some c → own c.id
  put : ∀ {s t} c, R s t → R (s.putCampaign c) (t.putCampaign c)
  deliver : ∀ {s t id} occasion schedule recipients, own id → R s t →
    Q (l.deliver id occasion schedule recipients s).1
        ({ l with sink := sink }.deliver id occasion schedule recipients t).1 ∧
      R (l.deliver id occasion schedule recipients s).2
        ({ l with sink := sink }.deliver id occasion schedule recipients t).2
  log : ∀ {s t} id e, R s t → R (s.log (.ofTransition id e)) (t.log (.ofTransition id e))
  logPass : ∀ {s t r r'} e start, Q r r' → R s t →
    R (s.log (.ofPass e start r)) (t.log (.ofPass e start r'))

namespace Simulates

open Operation

variable {l : Lifecycle} {sink : Sink} {own : Ident → Prop}
  {R : LifecycleState → LifecycleState → Prop} {Q : Report → Report → Prop}
  (h : l.Simulates sink own R Q) (now : Moment)
include h

theorem relates_campaign {id : Ident} (subject : own id) :
    Relates R (fun c d => c = d ∧ own c.id) (ask (l.campaign id))
      (ask ({ l with sink := sink }.campaign id)) := by
  apply relates_ask
  intro s t start
  apply Alike.of_eq (l.campaign_congr (h.record subject start))
  intro c found
  exact ⟨rfl, h.keyed subject start (campaign_eq_ok.mp found).2⟩

theorem relates_findFlow (id : Option Ident) :
    Relates R Eq (ask (l.findFlow id)) (ask ({ l with sink := sink }.findFlow id)) :=
  relates_ask fun _ _ start => .of_eq (l.findFlow_congr (h.stock start) id) fun _ _ => rfl

theorem relates_plan (c : Campaign) (start : Moment) :
    Relates R Eq (ask (l.plan c start now)) (ask ({ l with sink := sink }.plan c start now)) := by
  apply relates_ask
  intro s t related
  exact .of_eq (l.plan_congr ⟨rfl, rfl, rfl, rfl⟩ (h.stock related) start now) fun _ _ => rfl

theorem relates_save (c : Campaign) :
    Relates R Eq (l.save c) ({ l with sink := sink }.save c) := by
  apply (relates_check _).bind
  rintro c _ rfl
  exact relates_modifyGet fun s t start => ⟨rfl, h.put c start⟩

theorem relates_transition (e : CampaignEvent) {id : Ident} (subject : own id) :
    Relates R Eq (l.transition e id now) ({ l with sink := sink }.transition e id now) := by
  apply (h.relates_campaign subject).bind
  rintro c _ ⟨rfl, _⟩
  apply (relates_check _).bind
  rintro status _ rfl
  apply (h.relates_save _).bind
  intro _ _ _
  apply (relates_log fun _ _ => h.log c.id e).bind
  intro _ _ _
  exact relates_pure rfl

theorem relates_deliver {id : Ident} (subject : own id) (occasion : Occasion)
    (schedule : List ScheduledStep) (recipients : List Customer) :
    Relates R Q (modifyGet (l.deliver id occasion schedule recipients))
      (modifyGet ({ l with sink := sink }.deliver id occasion schedule recipients)) :=
  relates_modifyGet fun _ _ start => h.deliver occasion schedule recipients subject start

theorem relates_launch (e : CampaignEvent) (occasion : Occasion) {c : Campaign}
    (subject : own c.id) (start : Moment) :
    Relates R Q (l.launch e occasion c start now)
      ({ l with sink := sink }.launch e occasion c start now) := by
  apply (relates_check _).bind
  rintro status _ rfl
  apply (h.relates_plan now c start).bind
  rintro ⟨schedule, recipients⟩ _ rfl
  apply (h.relates_save _).bind
  intro _ _ _
  apply (h.relates_deliver subject occasion schedule recipients).bind
  intro r r' reports
  apply (relates_log fun _ _ => h.logPass e start reports).bind
  intro _ _ _
  exact relates_pure reports

theorem relates_createCampaign (id : Ident) (r : NewCampaign) :
    Relates R Eq (l.createCampaign id r now)
      ({ l with sink := sink }.createCampaign id r now) := by
  have resolved : Relates R Eq (ask fun s => (l.directory s).resolve r.segment)
      (ask fun s => ({ l with sink := sink }.directory s).resolve r.segment) := by
    apply relates_ask
    intro s t start
    exact .of_eq (congrArg (Directory.resolve · r.segment) (l.directory_congr (h.stock start)))
      fun _ _ => rfl
  apply resolved.bind
  intro _ _ _
  apply (h.relates_findFlow r.flow).bind
  intro _ _ _
  apply (h.relates_save _).bind
  intro _ _ _
  exact relates_pure rfl

theorem relates_edit {id : Ident} (subject : own id) (r : Change) :
    Relates R Eq (l.edit id r now) ({ l with sink := sink }.edit id r now) := by
  apply (h.relates_campaign subject).bind
  rintro c _ ⟨rfl, _⟩
  apply (relates_check _).bind
  intro _ _ _
  apply (h.relates_findFlow r.flow.join).bind
  intro _ _ _
  apply (h.relates_save _).bind
  intro _ _ _
  apply (relates_log fun _ _ => h.log c.id .edit).bind
  intro _ _ _
  exact relates_pure rfl

theorem relates_redispatch {id : Ident} (subject : own id) :
    Relates R Q (l.redispatch id now) ({ l with sink := sink }.redispatch id now) := by
  apply (h.relates_campaign subject).bind
  rintro c _ ⟨rfl, mine⟩
  apply (relates_check _).bind
  intro _ _ _
  apply (h.relates_plan now c _).bind
  rintro ⟨schedule, recipients⟩ _ rfl
  exact h.relates_deliver mine .redispatch schedule recipients

/-- Every request for such a campaign is done alike. -/
theorem relates_perform {r : Request} (subject : own r.subject) :
    Relates R (Answer.Alike Q) (l.perform now r) ({ l with sink := sink }.perform now r) := by
  cases r with
  | create id r => exact (h.relates_createCampaign now id r).campaign Q
  | edit id r => exact (h.relates_edit now subject r).campaign Q
  | pause id => exact (h.relates_transition now .pause subject).campaign Q
  | complete id => exact (h.relates_transition now .complete subject).campaign Q
  | activate id =>
    apply Relates.report
    apply (h.relates_campaign subject).bind
    rintro c _ ⟨rfl, mine⟩
    exact h.relates_launch now .activate .activate mine _
  | resume id =>
    apply Relates.report
    apply (h.relates_campaign subject).bind
    rintro c _ ⟨rfl, mine⟩
    exact h.relates_launch now .resume .resume mine now
  | redispatch id => exact (h.relates_redispatch now subject).report

end Simulates

end Lifecycle

end Outreach
