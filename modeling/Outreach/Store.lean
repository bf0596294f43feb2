import Outreach.Campaign.Basic
import Outreach.Flow.Basic
import Outreach.Problem
import Outreach.Segment.Definition
import Outreach.Customer

/-!
The store of customers, orders, segments, flows and campaigns. An order is stored with
its customer's totals; the order of an unknown customer is refused. Customers keep the
place at which they were first added.
-/

namespace Outreach

structure Store where
  customers : Table Customer
  orders : Table Order
  segments : Table Segment
  flows : FlowTable
  campaigns : Table Campaign

namespace Store

def empty : Store := ⟨Table.empty, Table.empty, Table.empty, FlowTable.empty, Table.empty⟩

def addCustomer (s : Store) (c : Customer) : Store :=
  { s with customers := s.customers.insert c.id c }

def addOrder (s : Store) (o : Order) : Except Problem Store :=
  if s.customers.contains o.customer then
    .ok { s with
      customers := s.customers.modify o.customer fun c => c.recordOrder o
      orders := s.orders.insert o.id o }
  else .error (.notFound "Customer" o.customer.write)

def orderNotAfter (a b : Order) : Bool :=
  a.date.before b.date || (!b.date.before a.date && !b.id.before a.id)

def ordersOf (s : Store) (customer : Ident) : List Order :=
  (s.orders.values.filter fun o => o.customer = customer).mergeSort orderNotAfter

def addSegment (s : Store) (x : Segment) : Store :=
  { s with segments := s.segments.insert x.id x }

def removeSegment (s : Store) (id : Ident) : Store :=
  { s with segments := s.segments.erase id }

def addFlow (s : Store) (f : Flow) : Store :=
  { s with flows := s.flows.insert f }

def replaceSteps (s : Store) (flow : Ident) (steps : List Step) : Store :=
  { s with flows := s.flows.replaceSteps flow steps }

def putCampaign (s : Store) (c : Campaign) : Store :=
  { s with campaigns := s.campaigns.insert c.id c }

def campaignNotAfter (a b : Campaign) : Bool :=
  b.createdAt.before a.createdAt || (!a.createdAt.before b.createdAt && !b.id.before a.id)

def campaignListing (s : Store) : List Campaign :=
  s.campaigns.values.mergeSort campaignNotAfter

end Store

end Outreach
