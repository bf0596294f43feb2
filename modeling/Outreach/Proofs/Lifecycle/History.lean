import Outreach.Proofs.Lifecycle.Request

/-!
Histories of a lifecycle. A history lists what happened, the latest turn first: requests,
each made while some parts of the surroundings may be out of reach, and changes of
everything stored but the campaigns. A lifecycle starts with an empty store.
-/

namespace Outreach

inductive Turn
  | request (r : Request) (now : Moment) (outages : Outages)
  /-- Customers, orders, segments and flows become those of another store. -/
  | restock (store : Store)

abbrev History := List Turn

def Store.restocked (s store : Store) : Store :=
  { store with campaigns := s.campaigns }

namespace Turn

/-- The state after a turn. A request that fails may have changed it as well. -/
def state (l : Lifecycle) (s : LifecycleState) : Turn → LifecycleState
  | request r now outages =>
    match { l with outages := outages }.perform now r s with
    | .ok _ s => s
    | .error _ s => s
  | restock store => { s with store := s.store.restocked store }

def success? (l : Lifecycle) (s : LifecycleState) : Turn → Option (Request × Moment)
  | request r now outages =>
    if ({ l with outages := outages }.perform now r).succeeds s then some (r, now) else none
  | restock _ => none

def created? : Turn → Option Ident
  | request (.create id _) _ _ => some id
  | _ => none

def Fresh (s : LifecycleState) (t : Turn) : Prop :=
  t.created?.bind s.store.campaigns.get? = none

instance (s : LifecycleState) (t : Turn) : Decidable (t.Fresh s) :=
  inferInstanceAs (Decidable (_ = none))

end Turn

namespace Lifecycle

def after (l : Lifecycle) : History → LifecycleState
  | [] => .empty
  | t :: h => t.state l (l.after h)

theorem after_cons (l : Lifecycle) (t : Turn) (h : History) :
    l.after (t :: h) = t.state l (l.after h) := rfl

def FreshIdents (l : Lifecycle) : History → Prop
  | [] => True
  | t :: h => t.Fresh (l.after h) ∧ l.FreshIdents h

instance decidableFreshIdents (l : Lifecycle) : (h : History) → Decidable (l.FreshIdents h)
  | [] => isTrue trivial
  | t :: h =>
    have := decidableFreshIdents l h
    inferInstanceAs (Decidable (t.Fresh (l.after h) ∧ l.FreshIdents h))

end Lifecycle

/-! A small history: a segment with two of three customers and a flow of one message. The
second message handed out is not delivered. -/

namespace Sample

def moment (n : Fin 1000) : Moment :=
  ⟨⟨738000 + n, by have := n.isLt; unfold firstDay; omega,
    by have := n.isLt; unfold lastDay; omega⟩, TimeOfDay.midnight⟩

def segment : Segment :=
  ⟨.ofNat 1, "Subscribers", none, ⟨.all, [⟨.marketingOptIn, .eq, .flag true⟩]⟩, moment 0⟩

def customers : List Customer :=
  [.new (.ofNat 2) "a@example.com", .new (.ofNat 3) "b@example.com",
    { Customer.new (.ofNat 4) "c@example.com" with marketingOptIn := false }]

def flow : Flow :=
  ⟨.ofNat 5, .ofNat 1, none, none, none, [⟨1, .email "Welcome" ""⟩], moment 0⟩

def store : Store :=
  customers.foldl Store.addCustomer ((Store.empty.addSegment segment).addFlow flow)

def campaign : Ident := .ofNat 6

def draft : NewCampaign :=
  ⟨"Launch", none, .ofNat 1, some (.ofNat 5), none, none, none⟩

def lifecycle : Lifecycle :=
  ⟨⟨100, 100, 100⟩, true, TimeOfDay.midnight,
    fun calls _ => if calls.length = 1 then .failed "gateway timeout" else .delivered,
    Outages.none⟩

def started : History :=
  [.request (.activate campaign) (moment 1) Outages.none,
    .request (.create campaign draft) (moment 1) Outages.none, .restock store]

/-- The campaign is paused, and its flow sends another message now. -/
def renewed : History :=
  .restock (store.replaceSteps flow.id [⟨1, .email "Discount" ""⟩]) ::
    .request (.pause campaign) (moment 2) Outages.none :: started

end Sample

end Outreach
