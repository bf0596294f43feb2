import Outreach.Proofs.Lifecycle.Failure

/-!
What histories keep. A request stores a record, makes a pass or records an event, each of them
for the campaign that it is for; so what these three keep, every request keeps, and with the
changes of stock every history.
-/

namespace Outreach

def Request.subject : Request → Ident
  | .create id _ | .edit id _ | .activate id | .pause id | .resume id | .complete id
  | .redispatch id => id

theorem EventKind.ofTransition_ne (e : CampaignEvent) : ofTransition e ≠ .deliveryFailed := by
  cases e <;> decide

namespace Lifecycle

/-- Nothing that is done for campaigns of a kind breaks a property of the state. -/
structure Maintains (l : Lifecycle) (own : Ident → Prop) (P : LifecycleState → Prop) : Prop where
  put : ∀ {s c}, own c.id → P s → P (s.putCampaign c)
  deliver : ∀ {s id} occasion schedule recipients, own id → P s →
    P (l.deliver id occasion schedule recipients s).2
  log : ∀ {s e}, own e.campaign → e.kind ≠ .deliveryFailed → P s → P (s.log e)

end Lifecycle

theorem Done.maintained {l : Lifecycle} {now : Moment} {s s' : LifecycleState} {r : Request}
    {a : Answer} {own : Ident → Prop} {P : LifecycleState → Prop} (h : Done l now s r a s')
    (m : l.Maintains own P) (subject : own r.subject)
    (stored : ∀ c, s.store.campaigns.get? r.subject = some c → own c.id) (start : P s) : P s' := by
  cases h with
  | create segment flow => exact m.put subject start
  | edit record draft flow =>
    have mine := stored _ record
    exact m.log mine (EventKind.ofTransition_ne .edit) (m.put mine start)
  | pause record active =>
    have mine := stored _ record
    exact m.log mine (EventKind.ofTransition_ne .pause) (m.put mine start)
  | complete record started =>
    have mine := stored _ record
    exact m.log mine (EventKind.ofTransition_ne .complete) (m.put mine start)
  | activate record draft plan saved =>
    have mine := stored _ record
    subst saved
    exact m.log mine (EventKind.ofTransition_ne .activate) (m.deliver _ _ _ mine (m.put mine start))
  | resume record paused plan saved =>
    have mine := stored _ record
    subst saved
    exact m.log mine (EventKind.ofTransition_ne .resume) (m.deliver _ _ _ mine (m.put mine start))
  | redispatch record active plan => exact m.deliver _ _ _ (stored _ record) start

theorem Turn.Effect.maintained {l : Lifecycle} {s s' : LifecycleState} {t : Turn}
    {P : LifecycleState → Prop} (h : t.Effect l s s') (m : l.Maintains (fun _ => True) P)
    (restock : ∀ store, P s → P { s with store := store }) (start : P s) : P s' := by
  cases h with
  | @done r now outages a s' success done =>
    have m' : ({ l with outages := outages } : Lifecycle).Maintains (fun _ => True) P :=
      ⟨m.put, m.deliver, m.log⟩
    exact done.maintained m' trivial (fun _ _ => trivial) start
  | failed success => exact start
  | restocked store => exact restock _ start

/-- A property of the books, which no change of stock concerns, holds after every history. -/
theorem Lifecycle.maintained_after {l : Lifecycle} {P : LifecycleState → Prop}
    (m : l.Maintains (fun _ => True) P) (empty : P .empty)
    (restock : ∀ s store, P s → P { s with store := store }) (h : History) : P (l.after h) := by
  induction h with
  | nil => exact empty
  | cons t h ih =>
    rw [after_cons]
    exact (t.effect l (l.after h)).maintained m (restock _) ih

end Outreach
