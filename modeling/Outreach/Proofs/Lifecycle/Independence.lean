import Outreach.Proofs.Delivery.Agreement
import Outreach.Proofs.Lifecycle.Accounts
import Outreach.Proofs.Lifecycle.Simulation

/-!
Requests for different campaigns. What a request does depends on the stock and on the record,
the totals and the keys of its own campaign, if the answers to messages depend on nothing but
the message; and it leaves those of other campaigns as they are. So two requests for different
campaigns do the same in either order.
-/

namespace Outreach

def Store.stock (s : Store) : Store :=
  { s with campaigns := Table.empty }

theorem Store.sameStock_of_stock_eq {s t : Store} (h : t.stock = s.stock) : s.SameStock t := by
  have customers : t.stock.customers = s.stock.customers := by rw [h]
  have segments : t.stock.segments = s.stock.segments := by rw [h]
  have flows : t.stock.flows = s.stock.flows := by rw [h]
  exact ⟨customers, segments, flows⟩

namespace LifecycleState

/-- Two states that are the same for a campaign: stock, record, totals, keys, calls and events. -/
structure SameFor (id : Ident) (s t : LifecycleState) : Prop where
  stock : t.store.stock = s.store.stock
  record : t.store.campaigns.get? id = s.store.campaigns.get? id
  totals : t.totals.get? id = s.totals.get? id
  ledger : s.ledger.Agree (fun k => k.campaign = id) t.ledger
  events : (t.events.filter fun e => e.campaign = id) = s.events.filter fun e => e.campaign = id

section SameFor

variable {id : Ident} {s t u : LifecycleState}

theorem SameFor.refl (id : Ident) (s : LifecycleState) : SameFor id s s :=
  ⟨rfl, rfl, rfl, .refl _ _, rfl⟩

theorem SameFor.symm (h : SameFor id s t) : SameFor id t s :=
  ⟨h.stock.symm, h.record.symm, h.totals.symm, h.ledger.symm, h.events.symm⟩

theorem SameFor.trans (h : SameFor id s t) (h' : SameFor id t u) : SameFor id s u :=
  ⟨h'.stock.trans h.stock, h'.record.trans h.record, h'.totals.trans h.totals,
    h.ledger.trans h'.ledger, h'.events.trans h.events⟩

theorem SameFor.put (h : SameFor id s t) (c : Campaign) :
    SameFor id (s.putCampaign c) (t.putCampaign c) := by
  refine { h with stock := h.stock, record := ?_ }
  rw [get?_putCampaign, get?_putCampaign, h.record]

theorem SameFor.log (h : SameFor id s t) (e : Event) : SameFor id (s.log e) (t.log e) := by
  refine { h with events := ?_ }
  change (t.events ++ [e]).filter _ = (s.events ++ [e]).filter _
  rw [List.filter_append, List.filter_append, h.events]

theorem sameFor_put {c : Campaign} (other : c.id ≠ id) (s : LifecycleState) :
    SameFor id s (s.putCampaign c) := by
  refine { SameFor.refl id s with record := ?_ }
  rw [get?_putCampaign, if_neg other.symm]

theorem sameFor_log {e : Event} (other : e.campaign ≠ id) (s : LifecycleState) :
    SameFor id s (s.log e) := by
  refine { SameFor.refl id s with events := ?_ }
  change (s.events ++ [e]).filter _ = _
  rw [List.filter_append, List.filter_cons_of_neg (by simpa using other), List.filter_nil,
    List.append_nil]

theorem sameFor_deliver (l : Lifecycle) {campaign : Ident} (other : campaign ≠ id)
    (occasion : Occasion) (schedule : List ScheduledStep) (recipients : List Customer)
    (s : LifecycleState) : SameFor id s (l.deliver campaign occasion schedule recipients s).2 := by
  refine { SameFor.refl id s with totals := ?_, ledger := ?_, events := ?_ }
  · exact (Table.get?_insert _ _ _ _).trans (if_neg other.symm)
  · apply Ledger.agree_pass
    intro d hd
    have own : d.key.campaign = campaign := (mem_dispatches.mp hd).1
    rw [own]
    exact decide_eq_false other
  · have none : (((l.deliver campaign occasion schedule recipients s).1.failures.map
        (Event.ofFailure campaign)).filter fun e => e.campaign = id) = [] := by
      apply List.filter_eq_nil_iff.mpr
      intro e he
      obtain ⟨u, _, rfl⟩ := List.mem_map.mp he
      exact fun same => other (of_decide_eq_true same)
    rw [Lifecycle.events_deliver, List.filter_append, none, List.append_nil]

/-- Passes over the campaign itself report the same and leave states that are the same for it. -/
theorem SameFor.deliver {l : Lifecycle} (memoryless : l.sink.Memoryless) (h : SameFor id s t)
    (occasion : Occasion) (schedule : List ScheduledStep) (recipients : List Customer) :
    (l.deliver id occasion schedule recipients s).1 =
        (l.deliver id occasion schedule recipients t).1 ∧
      SameFor id (l.deliver id occasion schedule recipients s).2
        (l.deliver id occasion schedule recipients t).2 := by
  obtain ⟨attempts, ledgers⟩ := Ledger.agree_pass_pass (memoryless.agree _) l.dedupe
    (dispatches id schedule recipients) h.ledger
  have own (u : LifecycleState) :
      ((l.attempts id schedule recipients u).1.filter fun a => a.dispatch.key.campaign = id) =
        (l.attempts id schedule recipients u).1 := by
    apply List.filter_eq_self.mpr
    intro a ha
    exact decide_eq_true (mem_dispatches.mp (Lifecycle.mem_dispatches_of_mem_attempts ha)).1
  have same : (l.attempts id schedule recipients s).1 =
      (l.attempts id schedule recipients t).1 := by
    rw [← own s, ← own t]
    exact attempts
  have reports : (l.deliver id occasion schedule recipients s).1 =
      (l.deliver id occasion schedule recipients t).1 := by
    rw [Lifecycle.deliver_report, Lifecycle.deliver_report, same]
  refine ⟨reports, { h with totals := ?_, ledger := ledgers, events := ?_ }⟩
  · have before : t.totalsOf id = s.totalsOf id := congrArg (Option.getD · _) h.totals
    have entered (u : LifecycleState) :
        (l.deliver id occasion schedule recipients u).2.totals.get? id =
          some ((u.totalsOf id).add (l.deliver id occasion schedule recipients u).1) :=
      (Table.get?_insert _ _ _ _).trans (if_pos rfl)
    rw [entered, entered, reports, before]
  · rw [Lifecycle.events_deliver, Lifecycle.events_deliver, List.filter_append,
      List.filter_append, h.events, reports]

end SameFor

/-- Two states that differ at most in how campaigns alternate in the ledger, the totals and the
events. -/
structure Equivalent (s t : LifecycleState) : Prop where
  store : t.store = s.store
  delivered : ∀ k, k ∈ s.ledger.delivered ↔ k ∈ t.ledger.delivered
  totals : ∀ id, t.totals.get? id = s.totals.get? id
  calls : ∀ id, callsFor id t.ledger.calls = callsFor id s.ledger.calls
  events : ∀ id, (t.events.filter fun e => e.campaign = id) =
    s.events.filter fun e => e.campaign = id

theorem equivalent_of_sameFor {s t : LifecycleState} (same : ∀ id, SameFor id s t)
    (stock : t.store.stock = s.store.stock)
    (ids : t.store.campaigns.ids = s.store.campaigns.ids) : Equivalent s t where
  store := by
    have campaigns : t.store.campaigns = s.store.campaigns :=
      Table.eq_of_get? ids fun id => (same id).record
    calc t.store = { t.store.stock with campaigns := t.store.campaigns } := rfl
      _ = { s.store.stock with campaigns := s.store.campaigns } := by rw [stock, campaigns]
      _ = s.store := rfl
  delivered k := (same k.campaign).ledger.delivered k (decide_eq_true rfl)
  totals id := (same id).totals
  calls id := (same id).ledger.calls.symm
  events id := (same id).events

end LifecycleState

namespace Lifecycle

open LifecycleState

/-- What is done for other campaigns leaves a campaign as it is. -/
theorem maintains_sameFor (l : Lifecycle) (id : Ident) (s : LifecycleState) :
    l.Maintains (· ≠ id) (SameFor id s) where
  put other h := h.trans (sameFor_put other _)
  deliver occasion schedule recipients other h :=
    h.trans (sameFor_deliver _ other occasion schedule recipients _)
  log other _ h := h.trans (sameFor_log other _)

/-- The campaigns keep their places while records are only replaced. -/
theorem maintains_ids (l : Lifecycle) (s : LifecycleState) :
    l.Maintains (· ∈ s.store.campaigns.ids)
      fun t => t.store.campaigns.ids = s.store.campaigns.ids where
  put stored h := (Table.ids_insert_of_mem (h ▸ stored) _).trans h
  deliver _ _ _ _ h := h
  log _ _ h := h

theorem maintains_keyed (l : Lifecycle) : l.Maintains (fun _ => True) (·.store.Keyed) where
  put _ h := Table.KeyedBy.insert h _
  deliver _ _ _ _ h := h
  log _ _ h := h

/-- For a campaign that is keyed, states that are the same for it stay so. -/
theorem simulates_sameFor {l : Lifecycle} (memoryless : l.sink.Memoryless) (id : Ident) :
    l.Simulates l.sink (· = id)
      (fun s t => SameFor id s t ∧ ∀ c, s.store.campaigns.get? id = some c → c.id = id) Eq where
  stock h := Store.sameStock_of_stock_eq h.1.stock
  record := by
    rintro s t _ rfl h
    exact h.1.record
  keyed := by
    rintro s t _ c rfl h stored
    exact h.2 c stored
  put c h := by
    refine ⟨h.1.put c, ?_⟩
    intro d stored
    rw [get?_putCampaign] at stored
    split at stored
    · next same =>
      cases stored
      exact same.symm
    · exact h.2 d stored
  deliver := by
    rintro s t _ occasion schedule recipients rfl h
    obtain ⟨reports, states⟩ := h.1.deliver memoryless occasion schedule recipients
    exact ⟨reports, states, h.2⟩
  log k e h := ⟨h.1.log _, h.2⟩
  logPass := by
    rintro s t r _ e start rfl h
    exact ⟨h.1.log _, h.2⟩

variable {l : Lifecycle} {s t : LifecycleState} {r : Request}

/-- A request keeps what is maintained, whether it succeeds or fails. -/
theorem Maintains.respond {now : Moment} {own : Ident → Prop} {P : LifecycleState → Prop}
    (m : l.Maintains own P) (subject : own r.subject)
    (stored : ∀ c, s.store.campaigns.get? r.subject = some c → own c.id) (start : P s) :
    P ((l.perform now r).respond s).2 := by
  cases h : l.perform now r s with
  | ok a s' =>
    rw [Operation.respond_of_ok h]
    exact (done_of_perform h).maintained m subject stored start
  | error p s' =>
    have same : s' = s := l.atomic_perform now r s p s' h
    rw [Operation.respond_of_error h, same]
    exact start

theorem sameFor_respond (l : Lifecycle) {id : Ident} (keyed : s.store.Keyed)
    (other : r.subject ≠ id) (now : Moment) :
    SameFor id s ((l.perform now r).respond s).2 := by
  apply (l.maintains_sameFor id s).respond other
  · intro c stored
    rwa [keyed _ _ stored]
  · exact .refl id s

theorem keyed_respond (l : Lifecycle) (keyed : s.store.Keyed) (r : Request) (now : Moment) :
    ((l.perform now r).respond s).2.store.Keyed :=
  l.maintains_keyed.respond trivial (fun _ _ => trivial) keyed

theorem ids_respond (l : Lifecycle) (keyed : s.store.Keyed)
    (stored : r.subject ∈ s.store.campaigns.ids) (now : Moment) :
    ((l.perform now r).respond s).2.store.campaigns.ids = s.store.campaigns.ids := by
  apply (l.maintains_ids s).respond stored
  · intro c found
    rwa [keyed _ _ found]
  · rfl

theorem respond_congr (memoryless : l.sink.Memoryless) (keyed : s.store.Keyed)
    (same : SameFor r.subject s t) (now : Moment) :
    ((l.perform now r).respond t).1 = ((l.perform now r).respond s).1 ∧
      SameFor r.subject ((l.perform now r).respond s).2 ((l.perform now r).respond t).2 := by
  obtain ⟨alike, states, _⟩ := (simulates_sameFor memoryless r.subject).relates_perform now rfl
    s t ⟨same, fun c => keyed _ c⟩
  exact ⟨(alike.eq Answer.Alike.eq).symm, states⟩

/-- In either order an operation for a campaign and one for another give the same results and
leave the same behind, and neither touches the campaign of the other. -/
structure Independent (x y : Operation Answer) (id id' : Ident) (s : LifecycleState) : Prop where
  first : (x.respond (y.respond s).2).1 = (x.respond s).1
  second : (y.respond (x.respond s).2).1 = (y.respond s).1
  state : Equivalent (y.respond (x.respond s).2).2 (x.respond (y.respond s).2).2
  untouched : SameFor id s (y.respond s).2
  untouched' : SameFor id' s (x.respond s).2

section Swap

variable {r' : Request} (memoryless : l.sink.Memoryless) (keyed : s.store.Keyed)
  (distinct : r.subject ≠ r'.subject) (now now' : Moment)
include memoryless keyed distinct

/-- In either order two requests leave the same for every campaign. -/
theorem sameFor_swap (id : Ident) :
    SameFor id ((l.perform now' r').respond ((l.perform now r).respond s).2).2
      ((l.perform now r).respond ((l.perform now' r').respond s).2).2 := by
  have keyed₁ := l.keyed_respond keyed r now
  have keyed₂ := l.keyed_respond keyed r' now'
  by_cases first : id = r.subject
  · -- The other request leaves this campaign as it is, be it before or after.
    subst first
    have before := l.sameFor_respond keyed distinct.symm now'
    have after := l.sameFor_respond keyed₁ distinct.symm now'
    exact after.symm.trans (respond_congr memoryless keyed before now).2
  by_cases second : id = r'.subject
  · subst second
    have before := l.sameFor_respond keyed distinct now
    have after := l.sameFor_respond keyed₂ distinct now
    exact (respond_congr memoryless keyed before now').2.symm.trans after
  · have left := (l.sameFor_respond keyed (Ne.symm first) now).trans
      (l.sameFor_respond keyed₁ (Ne.symm second) now')
    have right := (l.sameFor_respond keyed (Ne.symm second) now').trans
      (l.sameFor_respond keyed₂ (Ne.symm first) now)
    exact left.symm.trans right

theorem independent_of_keyed (stored : r.subject ∈ s.store.campaigns.ids)
    (stored' : r'.subject ∈ s.store.campaigns.ids) :
    Independent (l.perform now r) (l.perform now' r') r.subject r'.subject s := by
  have untouched := l.sameFor_respond keyed distinct.symm now'
  have untouched' := l.sameFor_respond keyed distinct now
  have ids := l.ids_respond keyed stored now
  have ids' := l.ids_respond keyed stored' now'
  have last := l.ids_respond (l.keyed_respond keyed r now) (ids ▸ stored') now'
  have last' := l.ids_respond (l.keyed_respond keyed r' now') (ids' ▸ stored) now
  constructor
  · exact (respond_congr memoryless keyed untouched now).1
  · exact (respond_congr memoryless keyed untouched' now').1
  · have same := sameFor_swap memoryless keyed distinct now now'
    apply equivalent_of_sameFor same (same r.subject).stock
    rw [last', ids', last, ids]
  · exact untouched
  · exact untouched'

end Swap

/-- From every state that a history leads to, requests for different campaigns are independent of
each other, whatever sink without a memory answers. -/
theorem independent_of_memoryless {l : Lifecycle} {h : History} (fresh : l.FreshIdents h)
    {sink : Sink} (memoryless : sink.Memoryless) {r r' : Request}
    (stored : r.subject ∈ (l.after h).store.campaigns.ids)
    (stored' : r'.subject ∈ (l.after h).store.campaigns.ids)
    (distinct : r.subject ≠ r'.subject) (now now' : Moment) :
    let k : Lifecycle := { l with sink := sink }
    Independent (k.perform now r) (k.perform now' r') r.subject r'.subject (l.after h) := by
  intro k
  have keyed : (l.after h).store.Keyed := keyed_after fresh
  have memoryless' : k.sink.Memoryless := memoryless
  exact independent_of_keyed memoryless' keyed distinct now now' stored stored'

/-- One campaign is dispatched again and another is activated. Only the order of the calls for
different campaigns tells the two orders apart. -/
theorem independent_of_memoryless_interleaved :
    let other : Ident := .ofNat 8
    let s := Sample.lifecycle.after
      (.request (.create other Sample.draft) (Sample.moment 1) Outages.none :: Sample.started)
    let sink : Sink := fun _ d =>
      if d.customer.id = .ofNat 3 then .failed "mailbox full" else .delivered
    let k : Lifecycle := { Sample.lifecycle with sink := sink }
    let x := k.perform (Sample.moment 2) (.redispatch Sample.campaign)
    let y := k.perform (Sample.moment 3) (.activate other)
    sink.Memoryless ∧ Independent x y Sample.campaign other s ∧
      ((y.respond (x.respond s).2).2.ledger.calls.map (·.dispatch.campaign)) =
        [Sample.campaign, Sample.campaign, Sample.campaign, other, other] ∧
      ((x.respond (y.respond s).2).2.ledger.calls.map (·.dispatch.campaign)) =
        [Sample.campaign, Sample.campaign, other, other, Sample.campaign] := by
  intro other s sink k x y
  have memoryless : sink.Memoryless := fun _ _ _ => rfl
  have stored : Sample.campaign ∈ s.store.campaigns.ids := by decide +kernel
  have stored' : other ∈ s.store.campaigns.ids := by decide +kernel
  have independent : Independent x y Sample.campaign other s :=
    independent_of_memoryless (by decide +kernel) memoryless stored stored' (by decide) _ _
  exact ⟨memoryless, independent, by decide +kernel, by decide +kernel⟩

end Lifecycle

end Outreach
