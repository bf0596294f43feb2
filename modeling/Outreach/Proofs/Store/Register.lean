import Outreach.Proofs.Customer.Orders
import Outreach.Proofs.Store.Totals

/-!
The register of customers that entries make. Every customer is listed once, at the place of its
first entry, with the record of its last entry and the orders that it has placed since. The order of
an unknown customer is refused before anything is changed.
-/

namespace Outreach

/-- Without repetitions, what comes again stays where it first came. -/
theorem eraseDups_concat {α : Type} [DecidableEq α] (xs : List α) (x : α) :
    (xs ++ [x]).eraseDups = if x ∈ xs then xs.eraseDups else xs.eraseDups ++ [x] := by
  rw [List.eraseDups_append]
  by_cases known : x ∈ xs
  · have none : [x].removeAll xs = [] := by
      simp [List.removeAll, known]
    rw [if_pos known, none, List.eraseDups_nil, List.append_nil]
  · have new : [x].removeAll xs = [x] := by
      simp [List.removeAll, known]
    rw [if_neg known, new]
    rfl

namespace Store

/-- The identifiers of the customers among entries, the last first. -/
def added : List Entry → List Ident
  | [] => []
  | .customer c :: earlier => c.id :: added earlier
  | .order _ :: earlier => added earlier

def placedBy (customer : Ident) : List Entry → List Order
  | [] => []
  | .customer _ :: earlier => placedBy customer earlier
  | .order o :: earlier =>
    if o.customer = customer then placedBy customer earlier ++ [o] else placedBy customer earlier

/-- A record as entries leave it: that of the customer's last entry, with the orders
placed since. -/
def Current (entries : List Entry) (d : Customer) : Prop :=
  ∃ later c earlier, entries = later ++ .customer c :: earlier ∧ c.id ∉ added later ∧
    d = c.recordOrders (placedBy c.id later)

/-- An order entered in place. What a step has changed stays so, even if a later step fails. -/
def takeOrder (o : Order) : EStateM Problem Store Unit := do
  unless (← get).customers.contains o.customer do
    throw (.notFound "Customer" o.customer.write)
  modify fun s =>
    { s with customers := s.customers.modify o.customer fun c => c.recordOrder o }
  modify fun s => { s with orders := s.orders.insert o.id o }

/-- Entering an order in place is adding it, and if it fails the store is what it was. -/
theorem takeOrder_eq (o : Order) (s : Store) :
    takeOrder o s = match s.addOrder o with
      | .ok t => .ok () t
      | .error p => .error p s := by
  unfold takeOrder addOrder
  change (if s.customers.contains o.customer = true then _ else _ : EStateM _ _ _) s = _
  by_cases known : s.customers.contains o.customer = true
  · rw [if_pos known, if_pos known]
    rfl
  · rw [if_neg known, if_neg known]
    rfl

section Current

variable {entries : List Entry} {c d : Customer} {o : Order}

theorem recordOrders_placedBy_order (c : Customer) (o : Order) (entries : List Entry) :
    c.recordOrders (placedBy c.id (.order o :: entries)) =
      (c.recordOrders (placedBy c.id entries)).recordOrder o := by
  rw [placedBy]
  by_cases own : o.customer = c.id
  · rw [if_pos own, Customer.recordOrders_concat]
  · have foreign : o.customer ≠ (c.recordOrders (placedBy c.id entries)).id := by
      rwa [Customer.recordOrders_id]
    rw [if_neg own, Customer.recordOrder_of_foreign foreign]

theorem not_current_nil : ¬ Current [] d := by
  rintro ⟨later, c, earlier, split, -⟩
  exact List.append_ne_nil_of_right_ne_nil later (List.cons_ne_nil _ _) split.symm

theorem current_customer_iff :
    Current (.customer c :: entries) d ↔ d = c ∨ d.id ≠ c.id ∧ Current entries d := by
  constructor
  · rintro ⟨later, a, earlier, split, last, rfl⟩
    rcases List.cons_eq_append_iff.mp split with ⟨rfl, same⟩ | ⟨later, rfl, rfl⟩
    · cases same
      exact .inl rfl
    · rw [added, List.mem_cons, not_or] at last
      refine .inr ⟨?_, later, a, earlier, rfl, last.2, rfl⟩
      rw [Customer.recordOrders_id]
      exact last.1
  · rintro (rfl | ⟨other, later, a, earlier, rfl, last, rfl⟩)
    · exact ⟨[], d, entries, rfl, List.not_mem_nil, rfl⟩
    · rw [Customer.recordOrders_id] at other
      refine ⟨.customer c :: later, a, earlier, rfl, ?_, rfl⟩
      rw [added, List.mem_cons, not_or]
      exact ⟨other, last⟩

theorem current_order_iff :
    Current (.order o :: entries) d ↔ ∃ a, Current entries a ∧ a.recordOrder o = d := by
  constructor
  · rintro ⟨later, c, earlier, split, last, rfl⟩
    rcases List.cons_eq_append_iff.mp split with ⟨rfl, same⟩ | ⟨later, rfl, rfl⟩
    · cases same
    · exact ⟨_, ⟨later, c, earlier, rfl, last, rfl⟩, (recordOrders_placedBy_order c o later).symm⟩
  · rintro ⟨a, ⟨later, c, earlier, rfl, last, rfl⟩, rfl⟩
    exact ⟨.order o :: later, c, earlier, rfl, last, (recordOrders_placedBy_order c o later).symm⟩

end Current

section Step

variable {s : Store} (keyed : s.customers.KeyedBy (·.id))

include keyed

theorem mem_values_addCustomer_iff {c d : Customer} :
    d ∈ (s.addCustomer c).customers.values ↔ d = c ∨ d.id ≠ c.id ∧ d ∈ s.customers.values := by
  have after : (s.addCustomer c).customers.KeyedBy (·.id) := keyed.insert c
  rw [after.mem_values_iff, keyed.mem_values_iff, addCustomer, Table.get?_insert]
  by_cases same : d.id = c.id
  · rw [if_pos same, Option.some_inj]
    constructor
    · rintro rfl
      exact .inl rfl
    · rintro (rfl | ⟨other, -⟩)
      · rfl
      · exact absurd same other
  · rw [if_neg same]
    constructor
    · intro stored
      exact .inr ⟨same, stored⟩
    · rintro (rfl | ⟨-, stored⟩)
      · exact absurd rfl same
      · exact stored

/-- An order might as well be recorded with every customer. -/
theorem values_enter_order (o : Order) :
    (s.enter (.order o)).customers.values = s.customers.values.map fun c => c.recordOrder o := by
  rw [enter, addOrder]
  by_cases known : s.customers.contains o.customer = true
  · simp only [if_pos known]
    apply keyed.values_modify
    intro c other
    exact Customer.recordOrder_of_foreign other.symm
  · have foreign : ∀ c ∈ s.customers.values, c.recordOrder o = c := by
      intro c stored
      apply Customer.recordOrder_of_foreign
      intro own
      apply known
      rw [own, Table.contains, keyed.mem_values_iff.mp stored, Option.isSome_some]
    simp only [if_neg known]
    rw [List.map_congr_left foreign, List.map_id']

end Step

theorem stocked_ofEntries (entries : List Entry) : (ofEntries entries).Stocked := by
  induction entries with
  | nil => exact .empty
  | cons e earlier ih =>
    cases e with
    | customer c => exact ih.customer c
    | order o =>
      simp only [ofEntries, enter]
      cases added : (ofEntries earlier).addOrder o with
      | ok t => exact ih.order added
      | error p => exact ih

theorem keyed_ofEntries (entries : List Entry) :
    (ofEntries entries).customers.KeyedBy (·.id) :=
  (stocked_ofEntries entries).keyedBy_customers

/-- A customer keeps the place of its first entry. -/
theorem map_id_values_ofEntries (entries : List Entry) :
    (ofEntries entries).customers.values.map (·.id) = (added entries).reverse.eraseDups := by
  induction entries with
  | nil => rfl
  | cons e earlier ih =>
    have before := keyed_ofEntries earlier
    cases e with
    | customer c =>
      have after := keyed_ofEntries (.customer c :: earlier)
      rw [after.map_values, ofEntries, enter, addCustomer, Table.ids_insert, ← before.map_values,
        ih, added, List.reverse_cons, eraseDups_concat]
      simp only [List.mem_eraseDups]
    | order o =>
      rw [ofEntries, values_enter_order before, List.map_map, added, ← ih]
      apply List.map_congr_left
      intro c _
      exact c.recordOrder_id o

theorem mem_values_ofEntries_iff {entries : List Entry} {d : Customer} :
    d ∈ (ofEntries entries).customers.values ↔ Current entries d := by
  induction entries generalizing d with
  | nil => exact iff_of_false List.not_mem_nil not_current_nil
  | cons e earlier ih =>
    have before := keyed_ofEntries earlier
    cases e with
    | customer c =>
      rw [ofEntries, enter, mem_values_addCustomer_iff before, current_customer_iff, ih]
    | order o =>
      rw [ofEntries, values_enter_order before, List.mem_map, current_order_iff]
      simp only [ih]

theorem contains_ofEntries_iff {entries : List Entry} {id : Ident} :
    (ofEntries entries).customers.contains id = true ↔ id ∈ added entries := by
  rw [Table.contains_iff, ← (keyed_ofEntries entries).map_values, map_id_values_ofEntries,
    List.mem_eraseDups, List.mem_reverse]

/-- What a store is after entries. Customers are listed once each, in the order of their first
entries, as entries leave their records. An order is refused if and only if its customer has not
been entered, and then the store is what it was. -/
structure Registers (s : Store) (entries : List Entry) : Prop where
  distinct : (s.customers.values.map (·.id)).Nodup
  places : s.customers.values.map (·.id) = (added entries).reverse.eraseDups
  records : ∀ d, d ∈ s.customers.values ↔ Current entries d
  refuses : ∀ o p, s.addOrder o = .error p ↔
    o.customer ∉ added entries ∧ p = .notFound "Customer" o.customer.write
  unchanged : ∀ o p, s.addOrder o = .error p → takeOrder o s = .error p s

/-- Whatever customers and orders are entered. -/
theorem registers_ofEntries (entries : List Entry) : (ofEntries entries).Registers entries where
  distinct := (keyed_ofEntries entries).nodup_values
  places := map_id_values_ofEntries entries
  records := fun _ => mem_values_ofEntries_iff
  refuses := by
    intro o p
    rw [← contains_ofEntries_iff, addOrder]
    by_cases known : (ofEntries entries).customers.contains o.customer = true
    · simp [known]
    · simp [known, eq_comm]
  unchanged := by
    intro o p refused
    rw [takeOrder_eq, refused]

end Store

end Outreach
