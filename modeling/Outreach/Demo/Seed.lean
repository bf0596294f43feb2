import Outreach.Segment.Draft
import Outreach.Store

/-!
A small store to try the program with: five customers and their orders, a segment of
customers who spend much and accept messages, a flow for it, and a draft campaign that
starts today at ten.
-/

namespace Outreach.Demo

/-- A customer with the amounts of the orders and how many days ago they were made. -/
structure Sample where
  firstName : String
  lastName : String
  email : String
  state : String
  marketingOptIn : Bool
  orders : List (Float × Nat)

def samples : List Sample :=
  [⟨"Ana", "Silva", "ana@example.com", "CA", true, [(1200, 5), (450, 40)]⟩,
    ⟨"Ben", "Okafor", "ben@example.com", "NY", true, [(2100, 12)]⟩,
    ⟨"Chloe", "Martin", "chloe@example.com", "TX", false, [(1800, 3)]⟩,
    ⟨"Dev", "Patel", "dev@example.com", "CA", true, [(300, 90)]⟩,
    ⟨"Eli", "Novak", "eli@example.com", "WA", true, []⟩]

def Sample.customer (s : Sample) (id : Ident) : Customer :=
  { Customer.new id s.email with
    firstName := s.firstName
    lastName := s.lastName
    shippingState := some s.state
    shippingCountry := some "US"
    marketingOptIn := s.marketingOptIn }

def sampleOrder (id customer : Ident) (now : Moment) (amount : Float) (daysAgo : Nat) : Order :=
  { id := id
    customer := customer
    date := (now.addDays? (-(daysAgo : Int))).getD now
    status := .completed
    amount := amount
    currency := "USD"
    channel := "web"
    coupon := none }

/-- Identifiers of the records by their numbers: customers and their orders come in
groups of ten, everything else before them. -/
def addSample (fresh : Nat → Ident) (now : Moment) (store : Store) (n : Nat × Sample) :
    Except Problem Store :=
  let (k, s) := n
  let id := fresh (10 * (k + 1))
  (s.orders.zipIdx 1).foldlM
    (fun store ((amount, daysAgo), j) =>
      store.addOrder (sampleOrder (fresh (10 * (k + 1) + j)) id now amount daysAgo))
    (store.addCustomer (s.customer id))

def segmentDraft : SegmentDraft :=
  ((SegmentDraft.new "High-value subscribers").describe
    "Spent over $1,000 and accept marketing email").totalOrderValueAbove 1000 |>.optedIn

def steps : List Step :=
  [⟨1, .email "Thanks for being one of our best customers" "Here is 10% off."⟩, ⟨2, .wait 3⟩,
    ⟨3, .push "Your reward is waiting" "Use it before it expires"⟩, ⟨4, .wait 4⟩,
    ⟨5, .email "Last chance for your reward" ""⟩, ⟨6, .exit⟩]

def flow (id segment : Ident) (now : Moment) : Flow :=
  { id := id
    segment := segment
    name := some "VIP welcome"
    entryKind := some .orderCompleted
    entryRule := none
    steps := steps
    createdAt := now }

def campaign (id segment flow : Ident) (now : Moment) : Campaign :=
  { id := id
    name := "VIP rewards"
    description := some "Reward series for high-value subscribers"
    segment := segment
    flow := some flow
    status := .draft
    startDate := now.date
    startTime := TimeOfDay.of? 10 0 0 0
    blast := some ⟨"A thank-you from us", ""⟩
    scheduleStart := none
    activatedAt := none
    createdAt := now
    updatedAt := now }

/-- The store with the identifiers of its segment, flow and campaign. -/
structure Seed where
  store : Store
  segment : Ident
  flow : Ident
  campaign : Ident

def seed (fresh : Nat → Ident) (now : Moment) : Except Problem Seed := do
  let numbered := samples.zipIdx.map fun (s, k) => (k, s)
  let store ← numbered.foldlM (addSample fresh now) Store.empty
  let segment ← (segmentDraft.build (fresh 1) now).mapError .invalidDefinition
  let f := flow (fresh 2) segment.id now
  f.check.mapError .invalidFlow
  let c := campaign (fresh 3) segment.id f.id now
  return ⟨((store.addSegment segment).addFlow f).putCampaign c, segment.id, f.id, c.id⟩

end Outreach.Demo
