import Outreach.Calendar.Wire
import Outreach.Ident

/-!
Orders of customers. A cancelled or refunded order does not count towards the value of
its customer.
-/

namespace Outreach

inductive OrderStatus
  | pending
  | completed
  | shipped
  | cancelled
  | refunded
  deriving DecidableEq, Repr

namespace OrderStatus

def counts : OrderStatus → Bool
  | cancelled => false
  | refunded => false
  | _ => true

def name : OrderStatus → String
  | pending => "pending"
  | completed => "completed"
  | shipped => "shipped"
  | cancelled => "cancelled"
  | refunded => "refunded"

def names : List (String × OrderStatus) :=
  [pending, completed, shipped, cancelled, refunded].map fun s => (s.name, s)

end OrderStatus

structure Order where
  id : Ident
  customer : Ident
  date : Moment
  status : OrderStatus
  amount : Float
  currency : String
  channel : String
  coupon : Option String

namespace Order

def ofJson (j : Json) : Except Mismatch Order := do
  let id := Member.required "id" Ident.ofJson
  let customer := Member.required "customer_id" Ident.ofJson
  let date := Member.required "order_date" Moment.ofJson
  let status := Member.required "order_status" (Json.name OrderStatus.names)
  let amount := Member.required "total_amount" Json.float
  let currency := Member.required "currency" Json.text
  let channel := Member.required "channel" Json.text
  let coupon := Member.nullable "coupon_code" Json.text
  let entries ← j.record "struct Order" [id.field, customer.field, date.field, status.field,
    amount.field, currency.field, channel.field, coupon.field]
  return {
    id := ← id.get entries
    customer := ← customer.get entries
    date := ← date.get entries
    status := ← status.get entries
    amount := ← amount.get entries
    currency := ← currency.get entries
    channel := ← channel.get entries
    coupon := ← coupon.get entries }

def toJson (o : Order) : Json :=
  .object [("channel", .string o.channel), ("coupon_code", Json.ofOption .string o.coupon),
    ("currency", .string o.currency), ("customer_id", o.customer.toJson), ("id", o.id.toJson),
    ("order_date", o.date.toJson), ("order_status", .string o.status.name),
    ("total_amount", .real o.amount)]

end Order

end Outreach
