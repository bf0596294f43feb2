import Outreach.Customer
import Outreach.Segment.Definition

/-!
Which customers a definition matches at a moment. Numbers are compared as floats, texts
regardless of case, moments by the order of time except that equal means the same day.
A number of days ago is compared by age: less than so many days means a later date. A
customer who never ordered is older than any age and earlier than any date.
-/

namespace Outreach

def neverOrderedDays : Nat := 999999

def Customer.orderAge (c : Customer) (now : Moment) : Int :=
  match c.lastOrderDate with
  | some d => now.daysSince d
  | none => neverOrderedDays

def compareFloats? (a b : Float) : Option Ordering :=
  if a < b then some .lt
  else if b < a then some .gt
  else if a == b then some .eq
  else none

def Comparison.holdsOf : Comparison → Ordering → Bool
  | .gt, o => o == .gt
  | .gte, o => o != .lt
  | .lt, o => o == .lt
  | .lte, o => o != .gt
  | .eq, o => o == .eq
  | .contains, _ => false

def compareNumbers (actual : Float) (c : Comparison) (expected : Float) : Bool :=
  match compareFloats? actual expected with
  | some o => c.holdsOf o
  | none => false

def Text.occursIn (cs : List Char) : List Char → Bool
  | [] => cs.isEmpty
  | c :: rest => cs.isPrefixOf (c :: rest) || occursIn cs rest

def compareText (actual : String) (c : Comparison) (expected : String) : Bool :=
  let actual := Text.lowercase actual.toList
  let expected := Text.lowercase expected.toList
  match c with
  | .eq => actual == expected
  | .contains => Text.occursIn expected actual
  | _ => false

def compareFlags (actual : Bool) (c : Comparison) (expected : Bool) : Bool :=
  c == .eq && actual == expected

def cutoff? (now : Moment) (days : UInt32) : Option Moment :=
  now.addDays? (-(days.toNat : Int))

def compareAge (actual : Option Moment) (c : Comparison) (cutoff : Option Moment) : Bool :=
  match actual, cutoff with
  | none, _ => c == .gt
  | some _, none => c == .lt
  | some date, some cutoff =>
    match c with
    | .lt => cutoff.before date
    | .gt => date.before cutoff
    | .eq => date.date == cutoff.date
    | _ => false

def compareDates (actual : Option Moment) (c : Comparison) (expected : Moment) : Bool :=
  match actual with
  | none => c == .lt
  | some date =>
    match c with
    | .gt => expected.before date
    | .lt => date.before expected
    | .eq => date.date == expected.date
    | _ => false

/-- What a feature of a customer is. -/
inductive FeatureValue
  | number (x : Float)
  | text (s : String)
  | flag (b : Bool)
  | date (m : Option Moment)
  | absent

def Feature.ofCustomer (f : Feature) (c : Customer) (now : Moment) : FeatureValue :=
  match f with
  | .totalOrderValue => .number c.totalOrderValue
  | .orderCount => .number (Float.ofNat c.orderCount.toNat)
  | .lastOrderDate => .date c.lastOrderDate
  | .daysSinceLastOrder => .number (Float.ofInt (c.orderAge now))
  | .shippingState => (c.shippingState.map .text).getD .absent
  | .shippingCountry => (c.shippingCountry.map .text).getD .absent
  | .email => .text c.email
  | .marketingOptIn => .flag c.marketingOptIn

def Criterion.holds (k : Criterion) (c : Customer) (now : Moment) : Bool :=
  match k.feature.ofCustomer c now, k.operand with
  | .number actual, .number expected => compareNumbers actual k.comparison expected
  | .text actual, .text expected => compareText actual k.comparison expected
  | .flag actual, .flag expected => compareFlags actual k.comparison expected
  | .date actual, .daysAgo days => compareAge actual k.comparison (cutoff? now days)
  | .date actual, .moment m => compareDates actual k.comparison m
  | _, _ => false

namespace Definition

def holds (d : Definition) (c : Customer) (now : Moment) : Bool :=
  match d.combination with
  | .all => d.criteria.all fun k => k.holds c now
  | .any => d.criteria.any fun k => k.holds c now

def evaluate (d : Definition) (c : Customer) (now : Moment) : Except DefinitionFault Bool := do
  d.check
  return d.holds c now

end Definition

end Outreach
