import Mathlib.Data.List.Induction
import Outreach.Proofs.Customer.Totals

/-!
What a list of orders makes of a customer. The number of orders grows by those that are the
customer's own and neither cancelled nor refunded, the date becomes the latest of theirs and the one
it was, and the value grows by their amounts. Other orders change nothing, and nothing else changes.
The number and the date do not depend on the order of the list.
-/

namespace Outreach

namespace Moment

/-- Dates have one latest. -/
theorem IsLatest.unique {dates : List Moment} {a b : Option Moment} (ha : IsLatest dates a)
    (hb : IsLatest dates b) : a = b := by
  cases a with
  | none =>
    have none : dates = [] := ha
    subst none
    cases b with
    | none => rfl
    | some n => exact absurd hb.1 List.not_mem_nil
  | some m =>
    cases b with
    | none =>
      have none : dates = [] := hb
      subst none
      exact absurd ha.1 List.not_mem_nil
    | some n =>
      have le : n.ticks ≤ m.ticks := before_eq_false_iff.mp (ha.2 n hb.1)
      have ge : m.ticks ≤ n.ticks := before_eq_false_iff.mp (hb.2 m ha.1)
      rw [eq_of_ticks_eq (Int.le_antisymm ge le)]

end Moment

theorem OrderStatus.counts_iff {s : OrderStatus} :
    s.counts = true ↔ s ≠ .cancelled ∧ s ≠ .refunded := by
  cases s <;> decide

namespace Customer

def counting (c : Customer) (orders : List Order) : List Order :=
  orders.filter fun o => o.customer = c.id ∧ o.status ≠ .cancelled ∧ o.status ≠ .refunded

def recordOrders (c : Customer) (orders : List Order) : Customer :=
  orders.foldl recordOrder c

theorem counting_eq_filter (c : Customer) (orders : List Order) :
    c.counting orders = orders.filter fun o => o.countsFor c.id := by
  apply List.filter_congr
  intro o _
  simp only [Order.countsFor, ← OrderStatus.counts_iff, Bool.decide_and, Bool.decide_eq_true]

theorem counting_concat_of_counts {c : Customer} {o : Order} (counts : o.countsFor c.id = true)
    (orders : List Order) : c.counting (orders ++ [o]) = c.counting orders ++ [o] := by
  rw [counting_eq_filter, counting_eq_filter, List.filter_append, List.filter_cons_of_pos counts,
    List.filter_nil]

theorem counting_concat_of_not_counts {c : Customer} {o : Order}
    (ignored : o.countsFor c.id = false) (orders : List Order) :
    c.counting (orders ++ [o]) = c.counting orders := by
  rw [counting_eq_filter, counting_eq_filter, List.filter_append,
    List.filter_cons_of_neg (Bool.eq_false_iff.mp ignored), List.filter_nil, List.append_nil]

theorem recordOrders_concat (c : Customer) (orders : List Order) (o : Order) :
    c.recordOrders (orders ++ [o]) = (c.recordOrders orders).recordOrder o :=
  List.foldl_append

theorem recordOrders_id (c : Customer) (orders : List Order) :
    (c.recordOrders orders).id = c.id := by
  induction orders using List.reverseRecOn with
  | nil => rfl
  | append_singleton orders o ih => rw [recordOrders_concat, recordOrder_id, ih]

/-- The orders that do not count might as well not be there. -/
theorem recordOrders_counting (c : Customer) (orders : List Order) :
    c.recordOrders (c.counting orders) = c.recordOrders orders := by
  induction orders using List.reverseRecOn with
  | nil => rfl
  | append_singleton orders o ih =>
    by_cases counts : o.countsFor c.id = true
    · rw [counting_concat_of_counts counts, recordOrders_concat, recordOrders_concat, ih]
    · have ignored : o.countsFor c.id = false := Bool.eq_false_iff.mpr counts
      have kept : (c.recordOrders orders).recordOrder o = c.recordOrders orders := by
        apply recordOrder_of_not_counts
        rw [recordOrders_id, ignored]
      rw [counting_concat_of_not_counts ignored, recordOrders_concat, kept, ih]

/-- What a customer has become after a list of orders. The number of orders wraps at its width. -/
structure HasRecorded (c : Customer) (orders : List Order) (d : Customer) : Prop where
  value : d.totalOrderValue =
    (c.counting orders).foldl (fun sum o => sum + o.amount) c.totalOrderValue
  count : d.orderCount = c.orderCount + .ofNat (c.counting orders).length
  latest : Moment.IsLatest (c.lastOrderDate.toList ++ (c.counting orders).map (·.date))
    d.lastOrderDate
  kept : d = { c with
    totalOrderValue := d.totalOrderValue
    orderCount := d.orderCount
    lastOrderDate := d.lastOrderDate }

theorem hasRecorded_nil (c : Customer) : c.HasRecorded [] c where
  value := rfl
  count := (UInt32.add_zero c.orderCount).symm
  latest := by
    have first : Moment.IsLatest [] none := rfl
    cases c.lastOrderDate with
    | none => exact first
    | some m => exact first.cons m
  kept := rfl

theorem HasRecorded.recordOrder {c d : Customer} {orders : List Order}
    (h : c.HasRecorded orders d) (o : Order) : c.HasRecorded (orders ++ [o]) (d.recordOrder o) := by
  have id : d.id = c.id := by
    rw [h.kept]
  by_cases counts : o.countsFor c.id = true
  · rw [recordOrder_of_counts (id ▸ counts)]
    constructor
    · rw [counting_concat_of_counts counts, List.foldl_append, ← h.value]
      rfl
    · rw [counting_concat_of_counts counts, List.length_append, List.length_singleton,
        UInt32.ofNat_add, ← UInt32.add_assoc, ← h.count]
      rfl
    · rw [counting_concat_of_counts counts, List.map_append, ← List.append_assoc]
      exact (h.latest.cons o.date).perm (List.perm_append_singleton o.date _).symm
    · rw [h.kept]
  · have ignored : o.countsFor c.id = false := Bool.eq_false_iff.mpr counts
    have same : c.counting (orders ++ [o]) = c.counting orders :=
      counting_concat_of_not_counts ignored orders
    rw [recordOrder_of_not_counts (id ▸ ignored)]
    exact ⟨same ▸ h.value, same ▸ h.count, same ▸ h.latest, h.kept⟩

theorem hasRecorded_recordOrders (c : Customer) (orders : List Order) :
    c.HasRecorded orders (c.recordOrders orders) := by
  induction orders using List.reverseRecOn with
  | nil => exact c.hasRecorded_nil
  | append_singleton orders o ih =>
    rw [recordOrders_concat]
    exact ih.recordOrder o

theorem HasRecorded.perm {c d d' : Customer} {orders orders' : List Order}
    (h : c.HasRecorded orders d) (h' : c.HasRecorded orders' d') (same : orders.Perm orders') :
    d.orderCount = d'.orderCount ∧ d.lastOrderDate = d'.lastOrderDate := by
  have counting : (c.counting orders).Perm (c.counting orders') := same.filter _
  constructor
  · rw [h.count, h'.count, counting.length_eq]
  · have dates := (counting.map (·.date)).append_left c.lastOrderDate.toList
    exact (h.latest.perm dates).unique h'.latest

/-- Whatever orders are recorded, as long as their number fits its width: a customer has become what
the own orders that count make of it, the others might as well not have been there, and the number
and the date are those that any other order of the list gives. -/
theorem aggregates_of_orders (c : Customer) (orders : List Order)
    (fits : c.orderCount.toNat + (c.counting orders).length < UInt32.size) :
    (c.recordOrders orders).orderCount.toNat =
        c.orderCount.toNat + (c.counting orders).length ∧
      c.HasRecorded orders (c.recordOrders orders) ∧
      c.recordOrders (c.counting orders) = c.recordOrders orders ∧
      ∀ orders', orders'.Perm orders →
        (c.recordOrders orders').orderCount = (c.recordOrders orders).orderCount ∧
          (c.recordOrders orders').lastOrderDate = (c.recordOrders orders).lastOrderDate := by
  have recorded := c.hasRecorded_recordOrders orders
  refine ⟨?_, recorded, c.recordOrders_counting orders, ?_⟩
  · have few : (c.counting orders).length < UInt32.size := by omega
    rw [recorded.count, UInt32.toNat_add, UInt32.toNat_ofNat_of_lt' few]
    exact Nat.mod_eq_of_lt fits
  · intro orders' same
    exact (c.hasRecorded_recordOrders orders').perm recorded same

section OutOfOrder

def inMarch (day : Fin 31) : Moment :=
  have first : civilDay 2024 3 1 = 739251 := by decide
  have within := day.isLt
  ⟨⟨civilDay 2024 3 1 + day.val, by unfold firstDay; omega, by unfold lastDay; omega⟩, .midnight⟩

def returning : Customer :=
  { new default "ana@example.com" with orderCount := 2, lastOrderDate := some (inMarch 2) }

def placed (customer : Ident) (day : Fin 31) (status : OrderStatus) : Order :=
  { id := default
    customer := customer
    date := inMarch day
    status := status
    amount := 10
    currency := "USD"
    channel := "web"
    coupon := none }

/-- Of these orders three count, two of them on the same day and one before the known date. -/
def mixedOrders : List Order :=
  [placed default 8 .shipped, placed default 20 .cancelled, placed default 0 .completed,
    placed (.ofNat 1) 25 .completed, placed default 8 .pending, placed default 27 .refunded]

theorem aggregates_of_orders_out_of_order :
    returning.orderCount.toNat + (returning.counting mixedOrders).length < UInt32.size ∧
      (returning.recordOrders mixedOrders).orderCount.toNat = 5 ∧
      (returning.recordOrders mixedOrders).lastOrderDate = some (inMarch 8) ∧
      (returning.recordOrders mixedOrders.reverse).lastOrderDate = some (inMarch 8) := by
  have counting : (returning.counting mixedOrders).length = 3 := by decide
  have fits : returning.orderCount.toNat + (returning.counting mixedOrders).length <
      UInt32.size := by
    rw [counting]
    decide
  obtain ⟨count, recorded, -, anyOrder⟩ := returning.aggregates_of_orders mixedOrders fits
  have latest : (returning.recordOrders mixedOrders).lastOrderDate = some (inMarch 8) := by
    apply recorded.latest.unique
    exact ⟨by decide, by decide⟩
  refine ⟨fits, ?_, latest, ?_⟩
  · rw [count, counting]
    rfl
  · rw [(anyOrder mixedOrders.reverse mixedOrders.reverse_perm).2, latest]

end OutOfOrder

end Customer

end Outreach
