import Outreach.Order

/-!
Customers with the totals over their orders: the sum of the amounts, the number of
orders and the date of the latest one. Recording an order updates the totals if it is
the customer's own and counts.
-/

namespace Outreach

structure Customer where
  id : Ident
  email : String
  firstName : String
  lastName : String
  phone : Option String
  marketingOptIn : Bool
  shippingState : Option String
  shippingCountry : Option String
  totalOrderValue : Float
  orderCount : UInt32
  lastOrderDate : Option Moment

namespace Customer

def new (id : Ident) (email : String) : Customer :=
  { id := id
    email := email
    firstName := ""
    lastName := ""
    phone := none
    marketingOptIn := true
    shippingState := none
    shippingCountry := none
    totalOrderValue := 0
    orderCount := 0
    lastOrderDate := none }

def displayName (c : Customer) : String :=
  Text.trim (c.firstName ++ " " ++ c.lastName)

def latest (known : Option Moment) (date : Moment) : Moment :=
  match known with
  | some m => if m.before date then date else m
  | none => date

def recordOrder (c : Customer) (o : Order) : Customer :=
  if o.customer ≠ c.id ∨ o.status.counts = false then c
  else
    { c with
      totalOrderValue := c.totalOrderValue + o.amount
      orderCount := c.orderCount + 1
      lastOrderDate := some (latest c.lastOrderDate o.date) }

namespace Members

def id (fresh : Ident) : Member Ident := .optional "id" Ident.ofJson fresh

def email : Member String := .required "email" Json.text

def firstName : Member String := .optional "first_name" Json.text ""

def lastName : Member String := .optional "last_name" Json.text ""

def phone : Member (Option String) := .nullable "phone" Json.text

def marketingOptIn : Member Bool := .optional "marketing_opt_in" Json.boolean true

def shippingState : Member (Option String) := .nullable "shipping_state" Json.text

def shippingCountry : Member (Option String) := .nullable "shipping_country" Json.text

def totalOrderValue : Member Float := .optional "total_order_value" Json.float 0

def orderCount : Member UInt32 := .optional "order_count" Json.unsigned32 0

def lastOrderDate : Member (Option Moment) := .nullable "last_order_date" Moment.ofJson

end Members

def label : String := "struct CustomerRecord"

/-- The fields of a customer whose identifier is `fresh` if it has none. -/
def fields (fresh : Ident) : List Field :=
  [(Members.id fresh).field, Members.email.field, Members.firstName.field,
    Members.lastName.field, Members.phone.field, Members.marketingOptIn.field,
    Members.shippingState.field, Members.shippingCountry.field,
    Members.totalOrderValue.field, Members.orderCount.field, Members.lastOrderDate.field]

def ofEntries (fresh : Ident) (entries : Entries) : Except Mismatch Customer := do
  return {
    id := ← (Members.id fresh).get entries
    email := ← Members.email.get entries
    firstName := ← Members.firstName.get entries
    lastName := ← Members.lastName.get entries
    phone := ← Members.phone.get entries
    marketingOptIn := ← Members.marketingOptIn.get entries
    shippingState := ← Members.shippingState.get entries
    shippingCountry := ← Members.shippingCountry.get entries
    totalOrderValue := ← Members.totalOrderValue.get entries
    orderCount := ← Members.orderCount.get entries
    lastOrderDate := ← Members.lastOrderDate.get entries }

def ofJson (fresh : Ident) (j : Json) : Except Mismatch Customer := do
  ofEntries fresh (← j.record label (fields fresh))

def toJson (c : Customer) : Json :=
  .object [("email", .string c.email), ("first_name", .string c.firstName),
    ("id", c.id.toJson), ("last_name", .string c.lastName),
    ("last_order_date", Json.ofOption Moment.toJson c.lastOrderDate),
    ("marketing_opt_in", .bool c.marketingOptIn), ("order_count", .nat c.orderCount.toNat),
    ("phone", Json.ofOption .string c.phone),
    ("shipping_country", Json.ofOption .string c.shippingCountry),
    ("shipping_state", Json.ofOption .string c.shippingState),
    ("total_order_value", .real c.totalOrderValue)]

end Customer

end Outreach
