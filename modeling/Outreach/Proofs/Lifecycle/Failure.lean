import Outreach.Proofs.Lifecycle.History

/-!
A request that fails changes nothing: every operation looks up and checks all that it
needs, then stores the campaign, and what comes after that never fails. Deliveries are
made and events recorded only behind the last check. A turn thus does its request, or leaves
the state as it is, or changes what is stored besides the campaigns.
-/

namespace Outreach

namespace Lifecycle

open Operation

variable (l : Lifecycle) (id : Ident) (now : Moment)

theorem atomic_save (c : Campaign) : Atomic (l.save c) :=
  (looks_check _).bind_atomic fun _ => (total_modifyGet _).atomic

theorem atomic_createCampaign (r : NewCampaign) : Atomic (l.createCampaign id r now) := by
  apply (looks_ask _).bind_atomic
  intro segment
  apply (looks_ask _).bind_atomic
  intro flow
  apply (l.atomic_save _).bind_total
  intro saved
  exact total_pure _

theorem atomic_edit (r : Change) : Atomic (l.edit id r now) := by
  apply (looks_ask _).bind_atomic
  intro c
  apply (looks_check _).bind_atomic
  intro status
  apply (looks_ask _).bind_atomic
  intro flow
  apply (l.atomic_save _).bind_total
  intro saved
  exact (total_log _).bind fun _ => total_pure _

theorem atomic_transition (e : CampaignEvent) : Atomic (l.transition e id now) := by
  apply (looks_ask _).bind_atomic
  intro c
  apply (looks_check _).bind_atomic
  intro status
  apply (l.atomic_save _).bind_total
  intro saved
  exact (total_log _).bind fun _ => total_pure _

theorem atomic_launch (e : CampaignEvent) (occasion : Occasion) (c : Campaign)
    (start : Moment) : Atomic (l.launch e occasion c start now) := by
  apply (looks_check _).bind_atomic
  intro status
  apply (looks_ask _).bind_atomic
  intro plan
  apply (l.atomic_save _).bind_total
  intro saved
  apply (total_modifyGet _).bind
  intro report
  exact (total_log _).bind fun _ => total_pure _

theorem atomic_activate : Atomic (l.activate id now) :=
  (looks_ask _).bind_atomic fun c => l.atomic_launch now _ _ c _

theorem atomic_resume : Atomic (l.resume id now) :=
  (looks_ask _).bind_atomic fun c => l.atomic_launch now _ _ c _

theorem atomic_redispatch : Atomic (l.redispatch id now) := by
  apply (looks_ask _).bind_atomic
  intro c
  apply (looks_check _).bind_atomic
  intro active
  apply (looks_ask _).bind_atomic
  intro plan
  exact (total_modifyGet _).atomic

theorem atomic_perform (r : Request) : Atomic (l.perform now r) := by
  cases r with
  | create id r => exact (l.atomic_createCampaign id now r).bind_total fun _ => total_pure _
  | edit id r => exact (l.atomic_edit id now r).bind_total fun _ => total_pure _
  | activate id => exact (l.atomic_activate id now).bind_total fun _ => total_pure _
  | pause id => exact (l.atomic_transition id now .pause).bind_total fun _ => total_pure _
  | resume id => exact (l.atomic_resume id now).bind_total fun _ => total_pure _
  | complete id => exact (l.atomic_transition id now .complete).bind_total fun _ => total_pure _
  | redispatch id => exact (l.atomic_redispatch id now).bind_total fun _ => total_pure _

/-- A request that fails leaves campaigns, delivered keys, calls, totals and events as they
were. -/
theorem state_eq_of_perform_eq_error {r : Request} {p : Problem} {s s' : LifecycleState}
    (h : l.perform now r s = .error p s') : s' = s :=
  l.atomic_perform now r s p s' h

/-- The segment of an active campaign has lost its criteria: dispatching again fails at the
last check. -/
theorem redispatch_fails_without_criteria :
    let s := Sample.lifecycle.after
      (.restock (Sample.store.addSegment { Sample.segment with definition := ⟨.all, []⟩ }) ::
        Sample.started)
    ∃ p s', Sample.lifecycle.perform (Sample.moment 2) (.redispatch Sample.campaign) s =
      .error p s' ∧ s' = s := by
  intro s
  have h : (Sample.lifecycle.perform (Sample.moment 2) (.redispatch Sample.campaign)).succeeds s =
      false := by decide +kernel
  obtain ⟨p, s', h⟩ := succeeds_eq_false_iff.mp h
  exact ⟨p, s', h, state_eq_of_perform_eq_error _ _ h⟩

end Lifecycle

/-- What a turn has done to the state. -/
inductive Turn.Effect (l : Lifecycle) (s : LifecycleState) : Turn → LifecycleState → Prop
  | done {r : Request} {now : Moment} {outages : Outages} {a : Answer} {s' : LifecycleState}
      (success : (request r now outages).success? l s = some (r, now))
      (done : Done { l with outages := outages } now s r a s') :
      Effect l s (request r now outages) s'
  | failed {r : Request} {now : Moment} {outages : Outages}
      (success : (request r now outages).success? l s = none) :
      Effect l s (request r now outages) s
  | restocked (store : Store) :
      Effect l s (restock store) { s with store := s.store.restocked store }

theorem Turn.effect (l : Lifecycle) (s : LifecycleState) (t : Turn) :
    t.Effect l s (t.state l s) := by
  cases t with
  | restock store => exact .restocked store
  | request r now outages =>
    cases h : ({ l with outages := outages } : Lifecycle).perform now r s with
    | ok a s' =>
      have done := Lifecycle.done_of_perform h
      simp only [state, h]
      exact .done (by simp [success?, Operation.succeeds, h]) done
    | error p s' =>
      have same : s' = s := Lifecycle.atomic_perform _ _ _ _ _ _ h
      simp only [state, h, same]
      exact .failed (by simp [success?, Operation.succeeds, h])

end Outreach
