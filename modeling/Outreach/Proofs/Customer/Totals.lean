import Outreach.Customer
import Outreach.Proofs.Calendar.Ticks

/-!
The totals of a customer over a list of orders. The number of orders counts those that are the
customer's own and count, and the date is the latest of theirs. Recording an order adds it to the
list, and the order of the list does not matter.
-/

namespace Outreach

namespace Moment

theorem IsLatest.perm {dates dates' : List Moment} {latest : Option Moment}
    (h : IsLatest dates latest) (same : dates.Perm dates') : IsLatest dates' latest := by
  cases latest with
  | none =>
    have none : dates = [] := h
    subst none
    exact List.nil_perm.mp same
  | some m =>
    obtain ⟨member, last⟩ := h
    refine ⟨same.mem_iff.mp member, ?_⟩
    intro x hx
    exact last x (same.mem_iff.mpr hx)

theorem IsLatest.cons {dates : List Moment} {latest : Option Moment} (h : IsLatest dates latest)
    (date : Moment) : IsLatest (date :: dates) (some (Customer.latest latest date)) := by
  cases latest with
  | none =>
    have none : dates = [] := h
    subst none
    refine ⟨List.mem_singleton_self date, ?_⟩
    intro x hx
    rw [List.mem_singleton.mp hx, before_eq_false_iff]
    exact Int.le_refl _
  | some m =>
    obtain ⟨member, last⟩ := h
    unfold Customer.latest
    by_cases later : m.before date = true
    · have passed : m.ticks < date.ticks := before_eq_true_iff.mp later
      simp only [later, if_true]
      refine ⟨List.mem_cons_self, ?_⟩
      intro x hx
      rw [before_eq_false_iff]
      rcases List.mem_cons.mp hx with rfl | old
      · exact Int.le_refl _
      · have : x.ticks ≤ m.ticks := before_eq_false_iff.mp (last x old)
        omega
    · have kept : m.before date = false := Bool.eq_false_iff.mpr later
      simp only [kept, Bool.false_eq_true, if_false]
      refine ⟨List.mem_cons_of_mem date member, ?_⟩
      intro x hx
      rcases List.mem_cons.mp hx with rfl | old
      · exact kept
      · exact last x old

end Moment

def Order.countsFor (customer : Ident) (o : Order) : Bool :=
  o.customer = customer && o.status.counts

theorem Order.countsFor_eq_false_of_ne {customer : Ident} {o : Order} (h : o.customer ≠ customer) :
    o.countsFor customer = false := by
  rw [countsFor, decide_eq_false h, Bool.false_and]

def Order.datesFor (customer : Ident) (orders : List Order) : List Moment :=
  (orders.filter fun o => o.countsFor customer).map (·.date)

namespace Customer

theorem recordOrder_id (c : Customer) (o : Order) : (c.recordOrder o).id = c.id := by
  unfold recordOrder
  split <;> rfl

theorem recordOrder_of_not_counts {c : Customer} {o : Order} (h : o.countsFor c.id = false) :
    c.recordOrder o = c := by
  rw [Order.countsFor, Bool.and_eq_false_iff, decide_eq_false_iff_not] at h
  exact if_pos h

theorem recordOrder_of_foreign {c : Customer} {o : Order} (h : o.customer ≠ c.id) :
    c.recordOrder o = c :=
  recordOrder_of_not_counts (Order.countsFor_eq_false_of_ne h)

theorem recordOrder_of_counts {c : Customer} {o : Order} (h : o.countsFor c.id = true) :
    c.recordOrder o =
      { c with
        totalOrderValue := c.totalOrderValue + o.amount
        orderCount := c.orderCount + 1
        lastOrderDate := some (latest c.lastOrderDate o.date) } := by
  have skipped : ¬ (o.customer ≠ c.id ∨ o.status.counts = false) := by
    rw [Order.countsFor, Bool.and_eq_true, decide_eq_true_iff] at h
    simp [h.1, h.2]
  exact if_neg skipped

/-- A customer's number of orders and latest date are those of the orders of a list that count for
the customer. The number wraps at its width. -/
structure TotalsOver (c : Customer) (orders : List Order) : Prop where
  count : c.orderCount = .ofNat (orders.countP fun o => o.countsFor c.id)
  latest : Moment.IsLatest (Order.datesFor c.id orders) c.lastOrderDate

theorem TotalsOver.perm {c : Customer} {orders orders' : List Order} (h : c.TotalsOver orders)
    (same : orders.Perm orders') : c.TotalsOver orders' where
  count := by rw [h.count, same.countP_eq]
  latest := h.latest.perm ((same.filter _).map _)

/-- Only the orders that count matter. -/
theorem totalsOver_congr {c : Customer} {orders orders' : List Order}
    (same : orders.filter (fun o => o.countsFor c.id) = orders'.filter fun o => o.countsFor c.id) :
    c.TotalsOver orders ↔ c.TotalsOver orders' := by
  have count : orders.countP (fun o => o.countsFor c.id) =
      orders'.countP fun o => o.countsFor c.id := by
    rw [List.countP_eq_length_filter, same, ← List.countP_eq_length_filter]
  have dates : Order.datesFor c.id orders = Order.datesFor c.id orders' := by
    rw [Order.datesFor, same, Order.datesFor]
  constructor
  · intro h
    exact ⟨count ▸ h.count, dates ▸ h.latest⟩
  · intro h
    exact ⟨count.symm ▸ h.count, dates.symm ▸ h.latest⟩

theorem totalsOver_append_iff {c : Customer} {orders others : List Order}
    (none : ∀ o ∈ others, o.countsFor c.id = false) :
    c.TotalsOver (orders ++ others) ↔ c.TotalsOver orders := by
  apply totalsOver_congr
  have unfiltered : others.filter (fun o => o.countsFor c.id) = [] := by
    rw [List.filter_eq_nil_iff]
    intro o ho
    rw [none o ho]
    exact Bool.false_ne_true
  rw [List.filter_append, unfiltered, List.append_nil]

theorem totalsOver_filter_iff {c : Customer} {orders : List Order} :
    c.TotalsOver (orders.filter fun o => o.customer = c.id) ↔ c.TotalsOver orders := by
  apply totalsOver_congr
  rw [List.filter_filter]
  apply List.filter_congr
  intro o _
  rw [Order.countsFor, Bool.and_right_comm, Bool.and_self]

/-- A customer without orders has no totals. -/
theorem totalsOver_nil {c : Customer} (count : c.orderCount = 0) (date : c.lastOrderDate = none) :
    c.TotalsOver [] where
  count := count
  latest := by
    rw [date]
    rfl

/-- Recording an order puts it among the orders that are counted. -/
theorem TotalsOver.recordOrder {c : Customer} {orders : List Order} (h : c.TotalsOver orders)
    (o : Order) : (c.recordOrder o).TotalsOver (o :: orders) := by
  by_cases counts : o.countsFor c.id = true
  · have count : (o :: orders).countP (fun o => o.countsFor c.id) =
        orders.countP (fun o => o.countsFor c.id) + 1 := List.countP_cons_of_pos counts
    have dates : Order.datesFor c.id (o :: orders) = o.date :: Order.datesFor c.id orders := by
      rw [Order.datesFor, List.filter_cons_of_pos counts, List.map_cons, Order.datesFor]
    rw [recordOrder_of_counts counts]
    constructor
    · simp only [count, h.count, UInt32.ofNat_add]
      rfl
    · simp only [dates]
      exact h.latest.cons o.date
  · have ignored : o.countsFor c.id = false := Bool.eq_false_iff.mpr counts
    rw [recordOrder_of_not_counts ignored]
    constructor
    · rw [List.countP_cons_of_neg counts]
      exact h.count
    · rw [Order.datesFor, List.filter_cons_of_neg counts]
      exact h.latest

/-- A customer's number of orders is exactly that of the orders of a list that count, whoever they
belong to, and the date is the latest of theirs. -/
structure AgreesWith (c : Customer) (orders : List Order) : Prop where
  count : c.orderCount.toNat = orders.countP fun o => o.status.counts
  latest : Moment.IsLatest ((orders.filter fun o => o.status.counts).map (·.date))
    c.lastOrderDate

section AgreesWith

variable {c : Customer} {orders others : List Order}

theorem TotalsOver.agreesWith (h : c.TotalsOver orders) (own : ∀ o ∈ orders, o.customer = c.id)
    (fits : (orders.countP fun o => o.status.counts) < UInt32.size) : c.AgreesWith orders := by
  have counts : ∀ o ∈ orders, o.countsFor c.id = o.status.counts := by
    intro o ho
    rw [Order.countsFor, decide_eq_true (own o ho), Bool.true_and]
  have sameCount : (orders.countP fun o => o.countsFor c.id) =
      orders.countP fun o => o.status.counts := by
    apply List.countP_congr
    intro o ho
    rw [counts o ho]
  have sameOrders : (orders.filter fun o => o.countsFor c.id) =
      orders.filter fun o => o.status.counts := List.filter_congr counts
  constructor
  · rw [h.count, sameCount, UInt32.toNat_ofNat']
    exact Nat.mod_eq_of_lt fits
  · rw [← sameOrders]
    exact h.latest

/-- Totals over more orders are right for some of them exactly if none of the others counts. -/
theorem TotalsOver.agreesWith_iff (h : c.TotalsOver (orders ++ others))
    (own : ∀ o ∈ orders ++ others, o.customer = c.id)
    (fits : ((orders ++ others).countP fun o => o.status.counts) < UInt32.size) :
    c.AgreesWith orders ↔ ∀ o ∈ others, o.status.counts = false := by
  constructor
  · intro agrees o ho
    have all := (h.agreesWith own fits).count
    rw [agrees.count, List.countP_append] at all
    have none : (others.countP fun o => o.status.counts) = 0 := by omega
    exact Bool.eq_false_iff.mpr (List.countP_eq_zero.mp none o ho)
  · intro none
    have uncounted : ∀ o ∈ others, o.countsFor c.id = false := by
      intro o ho
      rw [Order.countsFor, none o ho, Bool.and_false]
    refine ((totalsOver_append_iff uncounted).mp h).agreesWith ?_ ?_
    · intro o ho
      exact own o (List.mem_append_left others ho)
    · rw [List.countP_append] at fits
      omega

end AgreesWith

end Customer

end Outreach
