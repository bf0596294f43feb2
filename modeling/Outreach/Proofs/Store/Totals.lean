import Outreach.Proofs.Customer.Totals
import Outreach.Proofs.Store.Stock

/-!
The totals of customers against the orders a store holds. An order whose identifier is known
replaces the stored one, but what the replaced order has added to the totals of its customer stays
there. So the totals are over the orders that are held and those that have been replaced, and they
are right for the held ones alone exactly if no replaced order counts.
-/

namespace Outreach

namespace Store

/-- What is entered in a store: a customer or an order. -/
inductive Entry
  | customer (c : Customer)
  | order (o : Order)

/-- The store after an entry; a refused order leaves it as it was. -/
def enter (s : Store) : Entry → Store
  | .customer c => s.addCustomer c
  | .order o =>
    match s.addOrder o with
    | .ok t => t
    | .error _ => s

def replacedBy (s : Store) : Entry → Option Order
  | .customer _ => none
  | .order o => if s.customers.contains o.customer then s.orders.get? o.id else none

/-- The store that entries make of the empty one; the last entry comes first. -/
def ofEntries : List Entry → Store
  | [] => empty
  | e :: earlier => (ofEntries earlier).enter e

def replaced : List Entry → List Order
  | [] => []
  | e :: earlier => ((ofEntries earlier).replacedBy e).toList ++ replaced earlier

/-- A customer is unknown to a store and has no orders yet. -/
structure NewCustomer (s : Store) (c : Customer) : Prop where
  unknown : s.customers.get? c.id = none
  count : c.orderCount = 0
  date : c.lastOrderDate = none

def Fresh : List Entry → Prop
  | [] => True
  | .customer c :: earlier => (ofEntries earlier).NewCustomer c ∧ Fresh earlier
  | .order _ :: earlier => Fresh earlier

/-- What holds of a store and the orders replaced in it: every order has a customer, and the totals
of a customer are over the held and the replaced orders. -/
structure Accounted (s : Store) (gone : List Order) : Prop where
  keyed : s.customers.KeyedBy (·.id)
  known : ∀ o ∈ s.orders.values ++ gone, s.customers.contains o.customer = true
  totals : ∀ id c, s.customers.get? id = some c → c.TotalsOver (s.orders.values ++ gone)

theorem accounted_empty : Accounted empty [] where
  keyed := Table.keyedBy_empty
  known := by
    intro o ho
    cases ho
  totals := by
    intro id c stored
    cases stored

section Step

variable {s : Store} {gone : List Order}

theorem Accounted.addCustomer (h : s.Accounted gone) {c : Customer} (new : s.NewCustomer c) :
    (s.addCustomer c).Accounted gone where
  keyed := h.keyed.insert c
  known := by
    intro o ho
    have before : (s.customers.get? o.customer).isSome = true := h.known o ho
    rw [Store.addCustomer, Table.contains, Table.get?_insert]
    split
    · rfl
    · exact before
  totals := by
    intro id d stored
    rw [Store.addCustomer, Table.get?_insert] at stored
    by_cases same : id = c.id
    · rw [if_pos same] at stored
      cases stored
      have foreign : ∀ o ∈ s.orders.values ++ gone, o.countsFor c.id = false := by
        intro o ho
        apply Order.countsFor_eq_false_of_ne
        intro own
        have known := h.known o ho
        rw [own, Table.contains, new.unknown] at known
        cases known
      exact (Customer.totalsOver_append_iff foreign).mpr
        (Customer.totalsOver_nil new.count new.date)
    · rw [if_neg same] at stored
      exact h.totals id d stored

/-- An order that replaces another leaves both in the totals. -/
theorem Accounted.addOrder (h : s.Accounted gone) {o : Order}
    (customer : s.customers.contains o.customer = true) {t : Store} (added : s.addOrder o = .ok t) :
    t.Accounted ((s.orders.get? o.id).toList ++ gone) := by
  rw [Store.addOrder, if_pos customer] at added
  cases added
  have orders : ((s.orders.insert o.id o).values ++ ((s.orders.get? o.id).toList ++ gone)).Perm
      (o :: (s.orders.values ++ gone)) := by
    rw [← List.append_assoc]
    exact (s.orders.values_insert_perm o.id o).append_right gone
  refine ⟨h.keyed.modify (fun c => c.recordOrder_id o) _, ?_, ?_⟩
  · intro x hx
    have known : s.customers.contains x.customer = true := by
      rcases List.mem_cons.mp (orders.mem_iff.mp hx) with rfl | before
      · exact customer
      · exact h.known x before
    simp only [Table.contains, Table.get?_modify] at known ⊢
    split
    · rwa [Option.isSome_map]
    · exact known
  · intro id d stored
    simp only [Table.get?_modify] at stored
    refine Customer.TotalsOver.perm ?_ orders.symm
    by_cases same : id = o.customer
    · rw [if_pos same, Option.map_eq_some_iff] at stored
      obtain ⟨c, before, rfl⟩ := stored
      exact (h.totals id c before).recordOrder o
    · rw [if_neg same] at stored
      have foreign : o.countsFor d.id = false := by
        apply Order.countsFor_eq_false_of_ne
        have under : d.id = id := h.keyed id d stored
        rw [under]
        exact fun own => same own.symm
      have counted := (h.totals id d stored).recordOrder o
      rwa [Customer.recordOrder_of_not_counts foreign] at counted

end Step

theorem accounted_ofEntries {entries : List Entry} (fresh : Fresh entries) :
    (ofEntries entries).Accounted (replaced entries) := by
  induction entries with
  | nil => exact accounted_empty
  | cons e earlier ih =>
    cases e with
    | customer c => exact (ih fresh.2).addCustomer fresh.1
    | order o =>
      have before := ih fresh
      simp only [ofEntries, replaced, enter, replacedBy]
      by_cases customer : (ofEntries earlier).customers.contains o.customer = true
      · rw [if_pos customer]
        cases added : (ofEntries earlier).addOrder o with
        | ok t => exact before.addOrder customer added
        | error p =>
          rw [addOrder, if_pos customer] at added
          cases added
      · rw [if_neg customer, addOrder, if_neg customer]
        exact before

/-- Every customer that is stored has the totals over its orders, the held and the replaced ones. -/
theorem Accounted.totalsOver_ordersOf {s : Store} {gone : List Order} (h : s.Accounted gone)
    {c : Customer} (stored : c ∈ s.customers.values) :
    c.TotalsOver (s.ordersOf c.id ++ gone.filter fun o => o.customer = c.id) := by
  obtain ⟨e, member, rfl⟩ := List.mem_map.mp stored
  have totals := h.totals e.1 e.2 (Table.get?_of_mem member)
  rw [← Customer.totalsOver_filter_iff, List.filter_append] at totals
  exact totals.perm ((List.mergeSort_perm _ _).symm.append_right _)

theorem mem_ordersOf {s : Store} {customer : Ident} {o : Order} (h : o ∈ s.ordersOf customer) :
    o.customer = customer := by
  have member := (List.mergeSort_perm _ _).mem_iff.mp h
  exact of_decide_eq_true (List.mem_filter.mp member).2

/-- Whatever customers and orders are entered, as long as every customer is new: a customer's totals
are over the orders that are held and those that have been replaced. While their number fits its
width, the totals agree with the held orders if and only if no replaced order counts. -/
theorem totals_of_held_and_replaced {entries : List Entry} (fresh : Fresh entries) {c : Customer}
    (stored : c ∈ (ofEntries entries).customers.values) :
    let held := (ofEntries entries).ordersOf c.id
    let gone := (replaced entries).filter fun o => o.customer = c.id
    c.TotalsOver (held ++ gone) ∧
      (((held ++ gone).countP fun o => o.status.counts) < UInt32.size →
        (c.AgreesWith held ↔ ∀ o ∈ gone, o.status.counts = false)) := by
  intro held gone
  have totals : c.TotalsOver (held ++ gone) :=
    (accounted_ofEntries fresh).totalsOver_ordersOf stored
  have own : ∀ o ∈ held ++ gone, o.customer = c.id := by
    intro o ho
    rcases List.mem_append.mp ho with now | before
    · exact mem_ordersOf now
    · exact of_decide_eq_true (List.mem_filter.mp before).2
  exact ⟨totals, totals.agreesWith_iff own⟩

section Twice

def twice (c : Customer) (o : Order) (first second : OrderStatus) : List Entry :=
  [.order { o with status := second }, .order { o with status := first }, .customer c]

def newCustomer : Customer := .new default "ana@example.com"

def newOrder : Order :=
  { id := default
    customer := newCustomer.id
    date := ⟨⟨civilDay 2024 3 1, by decide, by decide⟩, .midnight⟩
    status := .pending
    amount := 10
    currency := "USD"
    channel := "web"
    coupon := none }

theorem fresh_twice (first second : OrderStatus) :
    Fresh (twice newCustomer newOrder first second) :=
  ⟨⟨rfl, rfl, rfl⟩, trivial⟩

theorem ordersOf_twice (first second : OrderStatus) :
    (ofEntries (twice newCustomer newOrder first second)).ordersOf newCustomer.id =
      [{ newOrder with status := second }] :=
  List.mergeSort_singleton _

/-- A cancelled order that is taken up again counts once. -/
theorem totals_of_reinstated :
    let entries := twice newCustomer newOrder .cancelled .completed
    let c := newCustomer.recordOrder { newOrder with status := .completed }
    Fresh entries ∧ c ∈ (ofEntries entries).customers.values ∧ c.orderCount = 1 ∧
      c.AgreesWith ((ofEntries entries).ordersOf c.id) := by
  intro entries c
  have fresh : Fresh entries := fresh_twice .cancelled .completed
  have stored : c ∈ (ofEntries entries).customers.values := List.mem_singleton_self c
  have held : (ofEntries entries).ordersOf c.id = [{ newOrder with status := .completed }] :=
    ordersOf_twice .cancelled .completed
  have totals := (totals_of_held_and_replaced fresh stored).2
  rw [held] at totals ⊢
  exact ⟨fresh, stored, rfl, (totals (by decide)).mpr (by decide)⟩

/-- An order that is cancelled after it has counted goes on counting. -/
theorem totals_disagree_of_cancelled :
    ¬ ∀ entries, Fresh entries → ∀ c ∈ (ofEntries entries).customers.values,
      c.AgreesWith ((ofEntries entries).ordersOf c.id) := by
  intro agree
  let c := newCustomer.recordOrder { newOrder with status := .pending }
  have agrees := agree _ (fresh_twice .pending .cancelled) c (List.mem_singleton_self c)
  have held : (ofEntries (twice newCustomer newOrder .pending .cancelled)).ordersOf c.id =
      [{ newOrder with status := .cancelled }] := ordersOf_twice .pending .cancelled
  rw [held] at agrees
  have count : 1 = 0 := agrees.count
  exact absurd count (by decide)

end Twice

end Store

end Outreach
