/-!
What a criterion can test: the features of a customer, each of one kind, and the
comparisons. A kind allows some of the comparisons.
-/

namespace Outreach

inductive Kind
  | numeric
  | text
  | boolean
  | date
  deriving DecidableEq, Repr

inductive Feature
  | totalOrderValue
  | orderCount
  | lastOrderDate
  | daysSinceLastOrder
  | shippingState
  | shippingCountry
  | email
  | marketingOptIn
  deriving DecidableEq, Repr

inductive Comparison
  | gt
  | lt
  | gte
  | lte
  | eq
  | contains
  deriving DecidableEq, Repr

namespace Kind

def name : Kind → String
  | numeric => "numeric"
  | text => "text"
  | boolean => "boolean"
  | date => "date"

def allows : Kind → Comparison → Bool
  | numeric, c => c != .contains
  | text, c => c == .eq || c == .contains
  | boolean, c => c == .eq
  | date, c => c == .gt || c == .lt || c == .eq

end Kind

namespace Feature

def all : List Feature :=
  [totalOrderValue, orderCount, lastOrderDate, daysSinceLastOrder, shippingState,
    shippingCountry, email, marketingOptIn]

def name : Feature → String
  | totalOrderValue => "total_order_value"
  | orderCount => "order_count"
  | lastOrderDate => "last_order_date"
  | daysSinceLastOrder => "days_since_last_order"
  | shippingState => "shipping_state"
  | shippingCountry => "shipping_country"
  | email => "email"
  | marketingOptIn => "marketing_opt_in"

def kind : Feature → Kind
  | totalOrderValue => .numeric
  | orderCount => .numeric
  | lastOrderDate => .date
  | daysSinceLastOrder => .numeric
  | shippingState => .text
  | shippingCountry => .text
  | email => .text
  | marketingOptIn => .boolean

def ofName? (s : String) : Option Feature :=
  all.find? fun a => a.name == s

theorem ofName?_name (a : Feature) : ofName? a.name = some a := by
  cases a <;> decide

end Feature

namespace Comparison

def all : List Comparison := [gt, lt, gte, lte, eq, contains]

def name : Comparison → String
  | gt => "gt"
  | lt => "lt"
  | gte => "gte"
  | lte => "lte"
  | eq => "eq"
  | contains => "contains"

def ofName? (s : String) : Option Comparison :=
  all.find? fun c => c.name == s

theorem ofName?_name (c : Comparison) : ofName? c.name = some c := by
  cases c <;> decide

end Comparison

end Outreach
