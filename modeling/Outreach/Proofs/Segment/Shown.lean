import Outreach.Proofs.Segment.Casing
import Outreach.Proofs.Segment.Listing
import Outreach.Proofs.Segment.OrderAge
import Outreach.Proofs.Segment.Storing

/-!
What a preview shows beside name and address: the first feature tested other than the e-mail
address, as the evaluation sees it. The cell of a customer who has the feature is read as an operand
that this very feature equals at the same time. That is not to say that the operand is what the
customer has: a date is compared as a day, and a leap second inside a minute is shown as the second
after it.
-/

namespace Outreach

/-- The customer has the feature, a number if it is finite and a date if its year needs no sign. The
age of the last order is had by all, also by those who never ordered. -/
def Customer.Has (c : Customer) : Feature → Prop
  | .totalOrderValue => c.totalOrderValue.isFinite = true
  | .lastOrderDate => ∃ m, c.lastOrderDate = some m ∧ m.date.PlainYear
  | .shippingState => ∃ s, c.shippingState = some s
  | .shippingCountry => ∃ s, c.shippingCountry = some s
  | _ => True

namespace Feature

variable {f : Feature} {c : Customer}

theorem holds_of_own_text {now : Moment} {s : String} (actual : f.ofCustomer c now = .text s) :
    (Criterion.mk f .eq (.text s)).holds c now = true := by
  rw [holds_of_text actual, compareText_eq_self]

/-- The operand that is read from the cell of a feature equals the feature. -/
theorem exists_operand_of_cell (had : c.Has f) (now : Moment) :
    ∃ o, Operand.ofJson? f.kind (f.cell c now) = some o ∧
      (Criterion.mk f .eq o).holds c now = true := by
  cases f with
  | totalOrderValue =>
    refine ⟨.number c.totalOrderValue, ?_, Whole.compareNumbers_self had .eq⟩
    simp only [cell, Json.real_of_isFinite had]
    rfl
  | orderCount =>
    have small : (c.orderCount.toNat : Int).natAbs < 2 ^ 53 :=
      Nat.lt_trans c.orderCount.toNat_lt (by decide)
    have same := Whole.compareNumbers_ofInt_self small
    exact ⟨.number (Float.ofInt c.orderCount.toNat), rfl, same⟩
  | lastOrderDate =>
    obtain ⟨m, last, plain⟩ := had
    obtain ⟨t, read⟩ := Moment.exists_readStrict?_writeOffset plain
    refine ⟨.moment ⟨m.date, t⟩, ?_, ?_⟩
    · have operand := Operand.ofDateText?_writeOffset m
      rw [read] at operand
      simp only [cell, last]
      exact operand
    · simp only [Criterion.holds, ofCustomer, last, compareDates, beq_self_eq_true]
  | daysSinceLastOrder =>
    have same := Whole.compareNumbers_ofInt_self (Criterion.natAbs_orderAge_lt c now)
    exact ⟨.number (Float.ofInt (c.orderAge now)), rfl, same⟩
  | shippingState =>
    obtain ⟨s, state⟩ := had
    have actual : shippingState.ofCustomer c now = .text s := by simp [ofCustomer, state]
    exact ⟨.text s, by simp [cell, state, kind, Operand.ofJson?], holds_of_own_text actual⟩
  | shippingCountry =>
    obtain ⟨s, country⟩ := had
    have actual : shippingCountry.ofCustomer c now = .text s := by simp [ofCustomer, country]
    exact ⟨.text s, by simp [cell, country, kind, Operand.ofJson?], holds_of_own_text actual⟩
  | email => exact ⟨.text c.email, rfl, holds_of_own_text rfl⟩
  | marketingOptIn => exact ⟨.flag c.marketingOptIn, rfl, beq_self_eq_true c.marketingOptIn⟩

theorem exists_criterion_of_cell (had : c.Has f) (now : Moment) :
    ∃ k, Criterion.ofJson (Criterion.item f.name "eq" (f.cell c now)) = .ok k ∧
      k.holds c now = true := by
  obtain ⟨o, read, holds⟩ := exists_operand_of_cell had now
  have allowed : f.kind.allows .eq = true := by cases f <;> rfl
  have made : Criterion.ofNames f.name "eq" (f.cell c now) = .ok ⟨f, .eq, o⟩ :=
    Criterion.ofNames_eq_ok_iff.mpr ⟨f.ofName?_name, Comparison.ofName?_name .eq, read, allowed,
      Operand.fits_of_ofJson? read⟩
  exact ⟨_, Criterion.ofJson_item_eq_ok_iff.mpr made, holds⟩

end Feature

namespace Definition

/-- Leaving out repetitions does not change which feature is found first. -/
theorem find?_foldl_features (p : Feature → Bool) (cs : List Criterion) (seen : List Feature) :
    (cs.foldl (fun seen c => if seen.contains c.feature then seen else seen ++ [c.feature])
      seen).find? p = (seen ++ cs.map (·.feature)).find? p := by
  induction cs generalizing seen with
  | nil => rw [List.foldl_nil, List.map_nil, List.append_nil]
  | cons c rest ih =>
    rw [List.foldl_cons, ih, List.map_cons]
    by_cases known : c.feature ∈ seen
    · rw [if_pos (List.contains_iff_mem.mpr known), List.find?_append, List.find?_append,
        List.find?_cons]
      by_cases wanted : p c.feature = true
      · -- it has been found before
        obtain ⟨f, found⟩ := Option.isSome_iff_exists.mp
          (List.find?_isSome.mpr ⟨c.feature, known, wanted⟩)
        rw [found, Option.some_or, Option.some_or]
      · simp only [wanted]
    · rw [if_neg (mt List.contains_iff_mem.mp known), List.append_assoc, List.singleton_append]

/-- The feature that a preview shows is the first one that a criterion tests, other than the
address. -/
theorem shownFeature?_eq (d : Definition) :
    d.shownFeature? = (d.criteria.map (·.feature)).find? fun f => f != .email :=
  find?_foldl_features _ d.criteria []

end Definition

namespace PreviewRow

/-- A row shows a customer: who it is and, of the shown feature, one cell, under the name of that
feature. If the customer has the feature, the criterion that it equals that cell is read and holds
for the customer. -/
structure Shows (r : PreviewRow) (shown : Option Feature) (c : Customer) (now : Moment) :
    Prop where
  id : r.id = c.id
  name : r.name = c.displayName
  email : r.email = c.email
  extra : r.cell.map (·.1) = shown
  /-- There are no other cells in what is written of the row. -/
  entries : r.toJson.entries.Perm ([("email", .string c.email), ("id", c.id.toJson),
    ("name", .string c.displayName)] ++ (r.cell.map fun x => (x.1.name, x.2)).toList)
  compared : ∀ f cell, r.cell = some (f, cell) → c.Has f →
    ∃ k, Criterion.ofJson (Criterion.item f.name "eq" cell) = .ok k ∧ k.holds c now = true

theorem shows_row {shown : Option Feature} (other : ∀ f, shown = some f → f ≠ .email)
    (c : Customer) (now : Moment) : (Preview.row shown now c).Shows shown c now where
  id := rfl
  name := rfl
  email := rfl
  extra := by
    cases shown <;> rfl
  entries := by
    cases shown with
    | none =>
      have distinct : ["email", "id", "name"].Nodup := by decide
      exact Json.sortEntries_perm distinct
    | some f =>
      have distinct : ["email", "id", "name", f.name].Nodup := by
        cases f with
        | email => exact absurd rfl (other _ rfl)
        | _ => decide
      exact Json.sortEntries_perm distinct
  compared := by
    intro f cell found had
    cases shown with
    | none => cases found
    | some g =>
      obtain ⟨rfl, rfl⟩ := Prod.mk.inj (Option.some.inj found)
      exact Feature.exists_criterion_of_cell had now

end PreviewRow

namespace MatchSettings

variable {m : MatchSettings} {d : Definition} {limit : Option Nat} {n : Nat}

/-- A preview shows what was compared. Its columns are the name, the address and the first feature
that a criterion tests other than the address, if there is one. Its rows are those of the first
matches, as many as the limit allows, each with one cell for that feature; and whoever has the
feature matches the criterion that it equals what the cell shows. -/
theorem preview_shows_compared (sound : d.check = .ok ()) (allowed : m.limit limit = .ok n)
    (customers : List Customer) (now : Moment) :
    let shown := (d.criteria.map (·.feature)).find? fun f => f != .email
    ∃ p, m.preview d customers now limit = .ok p ∧
      p.columns = ["name", "email"] ++ (shown.map Feature.name).toList ∧
      List.Forall₂ (fun r c => PreviewRow.Shows r shown c now) p.rows
        ((d.matched customers now).take n) := by
  intro shown
  have first : d.shownFeature? = shown := d.shownFeature?_eq
  have other : ∀ f, shown = some f → f ≠ .email := by
    intro f found
    have wanted := List.find?_some found
    exact bne_iff_ne.mp wanted
  refine ⟨_, preview_eq_ok_iff.mpr ⟨n, allowed, sound, rfl⟩, ?_, ?_⟩
  · rw [first]
  · rw [first, List.forall₂_map_left_iff, List.forall₂_same]
    exact fun c _ => PreviewRow.shows_row other c now

/-- The address is tested first, and the last order was half a second into a leap second inside a
minute. -/
theorem preview_shows_compared_leap_second :
    let noon : Moment := ⟨⟨civilDay 2016 12 31, by decide, by decide⟩,
      ⟨43200, 1500000000, by decide, by decide⟩⟩
    let c : Customer :=
      { Customer.new (.ofNat 1) "ana@example.com" with lastOrderDate := some noon }
    let d : Definition := ⟨.all, [⟨.email, .contains, .text "@"⟩,
      ⟨.lastOrderDate, .lt, .daysAgo 30⟩, ⟨.marketingOptIn, .eq, .flag true⟩]⟩
    ∃ p r cell k, MatchSettings.default.preview d [c] noon none = .ok p ∧
      p.columns = ["name", "email", "last_order_date"] ∧ p.rows = [r] ∧
      r.cell = some (.lastOrderDate, cell) ∧
      Criterion.ofJson (Criterion.item "last_order_date" "eq" cell) = .ok k ∧
      k.holds c noon = true := by
  intro noon c d
  have sound : d.check = .ok () := rfl
  have matched : d.matched [c] noon = [c] := by
    have accepted : d.accepts c noon = true := by decide +kernel
    exact List.filter_cons_of_pos accepted
  obtain ⟨p, made, columns, rows⟩ :=
    preview_shows_compared sound MatchSettings.default.limit_none [c] noon
  rw [matched] at rows
  obtain ⟨r, rest, shows, none, listed⟩ := List.forall₂_cons_right_iff.mp rows
  obtain rfl := List.forall₂_nil_right_iff.mp none
  obtain ⟨⟨f, cell⟩, extra, feature⟩ := Option.map_eq_some_iff.mp shows.extra
  obtain rfl : f = .lastOrderDate := feature
  have had : c.Has .lastOrderDate := ⟨noon, rfl, by decide⟩
  obtain ⟨k, read, holds⟩ := shows.compared _ _ extra had
  exact ⟨p, r, cell, k, made, columns, listed, extra, read, holds⟩

end MatchSettings

end Outreach
