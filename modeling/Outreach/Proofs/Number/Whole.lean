import Mathlib
import Outreach.Segment.Evaluation

/-!
Floats of whole numbers. A number of at most 53 binary digits is a float exactly: its digits, with
zeros after them, fill the mantissa, and the exponent tells how many they are. Rounding shifts out
nothing but zeros, and packing keeps all of a full mantissa. So the floats of two such numbers
compare as the numbers do. Of the other floats it is only said that a finite one equals itself.
-/

namespace Outreach.Whole

open Float.Model (Format UnpackedFloat totalExponent)
open Float.Model.UnpackedFloat

/-- The mantissa has all its digits, the first of which is one. -/
structure IsFull (m : Nat) : Prop where
  lower : 2 ^ 52 ≤ m
  upper : m < 2 ^ 53

section Full

variable {m : Nat} {e : Int}

theorem IsFull.pos (full : IsFull m) : 0 < m :=
  Nat.lt_of_lt_of_le (by decide) full.lower

theorem IsFull.log2_shifted (full : IsFull m) (k : Nat) : (m * 2 ^ k).log2 = 52 + k := by
  have pos := Nat.mul_pos full.pos (Nat.two_pow_pos k)
  rw [Nat.log2_eq_iff (Nat.ne_of_gt pos)]
  have lower := Nat.mul_le_mul_right (2 ^ k) full.lower
  have upper := Nat.mul_lt_mul_of_pos_right full.upper (Nat.two_pow_pos k)
  rw [← Nat.pow_add] at lower upper
  rw [show 52 + k + 1 = 53 + k by omega]
  exact ⟨lower, upper⟩

theorem IsFull.log2 (full : IsFull m) : m.log2 = 52 := by
  simpa using full.log2_shifted 0

/-- Zeros are shifted out without a trace. -/
theorem shiftRight_zeros (m k : Nat) :
    (⟨m * 2 ^ k, false, false⟩ : ExtendedMantissa) >>> k = ⟨m, false, false⟩ := by
  induction k generalizing m with
  | zero =>
    rw [Nat.pow_zero, Nat.mul_one]
    rfl
  | succ k ih =>
    -- the last shift is the outermost one, so the others are made on a number that is still even
    change ((⟨m * 2 ^ (k + 1), false, false⟩ : ExtendedMantissa) >>> k).shiftRightOne = _
    rw [Nat.pow_succ', ← Nat.mul_assoc, ih, ExtendedMantissa.shiftRightOne]
    simp

theorem shiftToTargetExponent_zeros (full : IsFull m) (k : Nat) (normal : -1074 ≤ e) :
    shiftToTargetExponent Format.binary64 (m * 2 ^ k) (e - k) .exact =
      (⟨m, false, false⟩, e) := by
  have target : Format.binary64.targetExponent (totalExponent (m * 2 ^ k) (e - k)) = e := by
    simp only [Format.targetExponent, totalExponent, full.log2_shifted, Format.mantissaBits,
      Format.minExponent]
    omega
  have amount : (e - (e - k)).toNat = k := by omega
  simp only [shiftToTargetExponent, shiftToExponent, target, amount,
    ExtendedMantissa.ofMantissaAndAccuracy, shiftRight_zeros, Prod.mk.injEq, true_and]
  omega

/-- A full mantissa with zeros after it is rounded to itself. -/
theorem roundWithAccuracy_zeros (s : Sign) (full : IsFull m) (k : Nat) (normal : -1074 ≤ e) :
    roundWithAccuracy Format.binary64 s (m * 2 ^ k) (e - k) .exact =
      .finite s m e full.pos := by
  have again := shiftToTargetExponent_zeros full 0 normal
  rw [Nat.pow_zero, Nat.mul_one, Int.natCast_zero, Int.sub_zero] at again
  have rounded : (⟨m, false, false⟩ : ExtendedMantissa).roundedMantissa = m := rfl
  simp only [roundWithAccuracy, shiftToTargetExponent_zeros full k normal, rounded, again,
    Nat.ne_of_gt full.pos, dite_false]

/-- The first digit of a full mantissa is left out. -/
theorem pack_finite (s : Sign) (full : IsFull m) {biased : Nat} (upper : biased < 2047) :
    pack Format.binary64 (.finite s m (biased - 1075) full.pos) =
      packComponents Format.binary64 s (BitVec.ofNat 11 biased) (BitVec.ofNat 52 m) := by
  have bias : ((biased - 1075 : Int) + Format.binary64.exponentBias +
      Format.binary64.mantissaBitsWithoutImplicit).toNat = biased := by
    change ((biased - 1075 : Int) + 1023 + 52).toNat = biased
    omega
  have below : ¬ 2 ^ Format.binary64.exponentBits ≤ biased + 1 := by
    change ¬ 2048 ≤ biased + 1
    omega
  have normal : m.log2 + 1 = Format.binary64.mantissaBits := by
    rw [full.log2]
    rfl
  rw [pack, bias, if_neg below, if_pos normal]

/-- The first digit of a full mantissa is put back. -/
theorem IsFull.toNat_append (full : IsFull m) : (1#1 ++ BitVec.ofNat 52 m).toNat = m := by
  have lower := full.lower
  have upper := full.upper
  rw [BitVec.toNat_append, BitVec.toNat_ofNat, Nat.shiftLeft_eq, Nat.or_comm]
  change m % 2 ^ 52 ||| 2 ^ 52 = m
  rw [Nat.or_two_pow_eq_add_of_lt (Nat.mod_lt m (Nat.two_pow_pos 52))]
  omega

theorem unpack_pack_finite (s : Sign) (full : IsFull m) (lower : -1074 ≤ e) (upper : e ≤ 971) :
    unpack Format.binary64 (pack Format.binary64 (.finite s m e full.pos)) =
      .finite s m e full.pos := by
  obtain ⟨biased, rfl⟩ : ∃ n : Nat, e = n - 1075 := ⟨(e + 1075).toNat, by omega⟩
  have kept : (BitVec.ofNat 11 biased).toNat = biased := by
    rw [BitVec.toNat_ofNat]
    omega
  have other (x : BitVec 11) (ne : biased ≠ x.toNat) : BitVec.ofNat 11 biased ≠ x := by
    rintro rfl
    exact ne kept.symm
  have noInfinity : BitVec.ofNat 11 biased ≠ -1#11 := other _ (show biased ≠ 2047 by omega)
  have noZero : BitVec.ofNat 11 biased ≠ 0#11 := other _ (show biased ≠ 0 by omega)
  have sign : Sign.ofBitVec s.toBitVec = s := by cases s <;> rfl
  rw [pack_finite s full (by omega), unpack]
  simp only [unpackMantissa_packComponents, unpackExponent_packComponents,
    unpackSign_packComponents, if_neg noInfinity, if_neg noZero, kept, full.toNat_append, sign]
  rfl

end Full

theorem unpack_pack_zero (s : Sign) :
    unpack Format.binary64 (pack Format.binary64 (.zero s)) = .zero s :=
  unpack_packedZero

def mantissa (n : Nat) : Nat := n * 2 ^ (52 - n.log2)

def exponent (n : Nat) : Int := (n.log2 : Int) - 52

/-- The number has as many digits as a mantissa, or fewer. -/
structure Fits (n : Nat) : Prop where
  pos : 0 < n
  lt : n < 2 ^ 53

section Number

variable {m n : Nat}

theorem Fits.log2_le (fits : Fits n) : n.log2 ≤ 52 :=
  Nat.le_of_lt_succ ((Nat.log2_lt (Nat.ne_of_gt fits.pos)).mpr fits.lt)

theorem Fits.isFull (fits : Fits n) : IsFull (mantissa n) := by
  have digits : n.log2 + (52 - n.log2) = 52 := Nat.add_sub_of_le fits.log2_le
  have first := Nat.log2_self_le (Nat.ne_of_gt fits.pos)
  have last := Nat.lt_log2_self (n := n)
  constructor
  · calc 2 ^ 52 = 2 ^ n.log2 * 2 ^ (52 - n.log2) := by rw [← Nat.pow_add, digits]
      _ ≤ n * 2 ^ (52 - n.log2) := Nat.mul_le_mul_right _ first
  · calc n * 2 ^ (52 - n.log2) < 2 ^ (n.log2 + 1) * 2 ^ (52 - n.log2) :=
          Nat.mul_lt_mul_of_pos_right last (Nat.two_pow_pos _)
      _ = 2 ^ 53 := by rw [← Nat.pow_add, Nat.add_right_comm, digits]

def whole (s : Sign) (n : Nat) : UnpackedFloat :=
  if pos : 0 < n then
    .finite s (mantissa n) (exponent n) (Nat.mul_pos pos (Nat.two_pow_pos _))
  else .zero s

theorem Fits.whole_eq (fits : Fits n) (s : Sign) :
    whole s n = .finite s (mantissa n) (exponent n) fits.isFull.pos := dif_pos fits.pos

theorem neg_whole (s : Sign) (n : Nat) : (whole s n).neg = whole (-s) n := by
  unfold whole
  split <;> rfl

theorem zero_or_fits (lt : n < 2 ^ 53) : n = 0 ∨ Fits n := by
  rcases Nat.eq_zero_or_pos n with zero | pos
  · exact .inl zero
  · exact .inr ⟨pos, lt⟩

theorem unpack_pack_whole (lt : n < 2 ^ 53) (s : Sign) :
    (Float.Model.pack (whole s n)).unpack = whole s n := by
  change unpack Format.binary64 (pack Format.binary64 (whole s n)) = whole s n
  rcases zero_or_fits lt with rfl | fits
  · exact unpack_pack_zero s
  · have := fits.log2_le
    rw [fits.whole_eq]
    exact unpack_pack_finite s fits.isFull (by unfold exponent; omega) (by unfold exponent; omega)

/-- A number is rounded to its exact form. -/
theorem round_eq_whole (fits : Fits n) (s : Sign) :
    UnpackedFloat.round Format.binary64 s n 0 = whole s n := by
  have digits := fits.log2_le
  have target : Format.binary64.targetExponent (totalExponent n 0) = exponent n := by
    simp only [Format.targetExponent, totalExponent, Format.mantissaBits, Format.minExponent,
      exponent]
    omega
  have amount : (0 - exponent n).toNat = 52 - n.log2 := by
    unfold exponent
    omega
  have shifted : (0 : Int) - (52 - n.log2 : Nat) = exponent n := by
    unfold exponent
    omega
  have normal : -1074 ≤ exponent n := by
    unfold exponent
    omega
  have rounded := roundWithAccuracy_zeros s fits.isFull 0 normal
  rw [Nat.pow_zero, Nat.mul_one, Int.natCast_zero, Int.sub_zero] at rounded
  rw [fits.whole_eq, ← rounded]
  simp only [UnpackedFloat.round, target, decreaseExponent, amount, shifted, Nat.shiftLeft_eq]
  rfl

theorem unpack_toFloat (lt : n < 2 ^ 53) :
    n.toUInt64.toFloat.toModel.unpack = whole .positive n := by
  have same : n.toUInt64.toNat = n := Nat.mod_eq_of_lt (by omega)
  have normalized : UnpackedFloat.ofUInt64 Format.binary64 n.toUInt64 = whole .positive n := by
    rw [UnpackedFloat.ofUInt64, same, UnpackedFloat.ofNat, UnpackedFloat.ofInt,
      UnpackedFloat.normalize]
    rcases zero_or_fits lt with rfl | fits
    · rfl
    · rw [Int.compare_eq_gt.mpr (Int.natCast_pos.mpr fits.pos)]
      exact round_eq_whole fits .positive
  change (Float.Model.pack (UnpackedFloat.ofUInt64 Format.binary64 n.toUInt64)).unpack = _
  rw [normalized, unpack_pack_whole lt]

theorem whole_mul_one (lt : n < 2 ^ 53) :
    UnpackedFloat.mul Format.binary64 (whole .positive n)
      (.finite .positive (2 ^ 52) (-52) (by decide)) = whole .positive n := by
  rcases zero_or_fits lt with rfl | fits
  · rfl
  · rw [fits.whole_eq]
    exact roundWithAccuracy_zeros .positive fits.isFull 52 (by unfold exponent; omega)

theorem unpack_ofNat (lt : n < 2 ^ 53) :
    (Float.ofNat n).toModel.unpack = whole .positive n := by
  -- numbers are read as decimals, these with the zeroth power of ten
  have scaled : Float.ofNat n = n.toUInt64.toFloat * Float.ofBits 0x3FF0000000000000 := by
    change Float.ofScientific n false 0 = _
    rw [Float.ofScientific, dif_pos ⟨lt, by decide⟩]
    rfl
  have one : (Float.ofBits 0x3FF0000000000000).toModel.unpack =
      .finite .positive (2 ^ 52) (-52) (by decide) := by rfl
  rw [scaled]
  change (Float.Model.pack (UnpackedFloat.mul Format.binary64 n.toUInt64.toFloat.toModel.unpack
    (Float.ofBits 0x3FF0000000000000).toModel.unpack)).unpack = _
  rw [unpack_toFloat lt, one, whole_mul_one lt, unpack_pack_whole lt]

theorem lt_of_log2_lt (pos : 0 < n) (fewer : m.log2 < n.log2) : m < n :=
  calc m < 2 ^ (m.log2 + 1) := Nat.lt_log2_self
    _ ≤ 2 ^ n.log2 := Nat.pow_le_pow_right (by decide) fewer
    _ ≤ n := Nat.log2_self_le (Nat.ne_of_gt pos)

theorem compare_mantissa (same : m.log2 = n.log2) :
    compare (mantissa m) (mantissa n) = compare m n := by
  have scale : 0 < 2 ^ (52 - n.log2) := Nat.two_pow_pos _
  rw [mantissa, mantissa, same, Nat.compare_eq_ite_lt, Nat.compare_eq_ite_lt]
  simp only [Nat.mul_lt_mul_right scale]

/-- Numbers with more digits have the greater exponent, and numbers with as many digits compare as
their mantissas do. -/
theorem compare_exponent_mantissa (posM : 0 < m) (posN : 0 < n) :
    (compare (exponent m) (exponent n)).then (compare (mantissa m) (mantissa n)) = compare m n := by
  rcases Nat.lt_trichotomy m.log2 n.log2 with fewer | same | more
  · have exponents : exponent m < exponent n := by
      unfold exponent
      omega
    rw [Int.compare_eq_lt.mpr exponents, Nat.compare_eq_lt.mpr (lt_of_log2_lt posN fewer)]
    rfl
  · have exponents : exponent m = exponent n := by
      unfold exponent
      omega
    rw [Int.compare_eq_eq.mpr exponents, Ordering.eq_then, compare_mantissa same]
  · have exponents : exponent n < exponent m := by
      unfold exponent
      omega
    rw [Int.compare_eq_gt.mpr exponents, Nat.compare_eq_gt.mpr (lt_of_log2_lt posM more)]
    rfl

theorem compare_natCast (m n : Nat) : compare (m : Int) n = compare m n := by
  rw [Int.compare_eq_ite_lt, Nat.compare_eq_ite_lt]
  simp only [Int.ofNat_lt]

theorem compare_neg (a b : Int) : compare (-a) (-b) = compare b a := by
  rw [Int.compare_eq_ite_lt, Int.compare_eq_ite_lt]
  simp only [Int.neg_lt_neg_iff]

theorem apply_zero (s : Sign) : s.apply 0 = 0 := by cases s <;> rfl

/-- Exact forms compare as the numbers that they stand for. -/
theorem compare_whole (ltM : m < 2 ^ 53) (ltN : n < 2 ^ 53) (s t : Sign) :
    (whole s m).compare (whole t n) = some (compare (s.apply m) (t.apply n)) := by
  rcases zero_or_fits ltM with rfl | fitsM <;> rcases zero_or_fits ltN with rfl | fitsN
  · cases s <;> cases t <;> rfl
  · have pos : (0 : Int) < n := Int.natCast_pos.mpr fitsN.pos
    rw [fitsN.whole_eq, Int.natCast_zero, apply_zero]
    cases t with
    | negative => exact congrArg some (Int.compare_eq_gt.mpr (Int.neg_neg_of_pos pos)).symm
    | positive => exact congrArg some (Int.compare_eq_lt.mpr pos).symm
  · have pos : (0 : Int) < m := Int.natCast_pos.mpr fitsM.pos
    rw [fitsM.whole_eq, Int.natCast_zero, apply_zero]
    cases s with
    | negative => exact congrArg some (Int.compare_eq_lt.mpr (Int.neg_neg_of_pos pos)).symm
    | positive => exact congrArg some (Int.compare_eq_gt.mpr pos).symm
  · have posM : (0 : Int) < m := Int.natCast_pos.mpr fitsM.pos
    have posN : (0 : Int) < n := Int.natCast_pos.mpr fitsN.pos
    have magnitudes := compare_exponent_mantissa fitsM.pos fitsN.pos
    rw [fitsM.whole_eq, fitsN.whole_eq]
    cases s <;> cases t
    · change some (_ : Ordering).swap = some (compare (-(m : Int)) (-n))
      rw [magnitudes, compare_neg, compare_natCast, Nat.compare_swap]
    · have less : -(m : Int) < n := by omega
      exact congrArg some (Int.compare_eq_lt.mpr less).symm
    · have greater : -(n : Int) < m := by omega
      exact congrArg some (Int.compare_eq_gt.mpr greater).symm
    · change some (_ : Ordering) = some (compare (m : Int) n)
      rw [magnitudes, compare_natCast]

end Number

section Order

variable {x y : Float}

theorem lt_iff_compare : x < y ↔ x.toModel.unpack.compare y.toModel.unpack = some .lt := by
  change decide (x.toModel < y.toModel) = true ↔ _
  rw [decide_eq_true_iff]
  exact beq_iff_eq

theorem beq_iff_compare :
    (x == y) = true ↔ x.toModel.unpack.compare y.toModel.unpack = some .eq := by
  change (x.toModel.unpack.compare y.toModel.unpack == some .eq) = true ↔ _
  exact beq_iff_eq

theorem compare_self_of_isFinite {u : UnpackedFloat} (finite : u.isFinite = true) :
    u.compare u = some .eq := by
  cases u with
  | finite s m e pos => cases s <;> simp [UnpackedFloat.compare]
  | zero s => rfl
  | infinity s => cases finite
  | notANumber => cases finite

/-- Finite floats equal themselves. -/
theorem compareNumbers_self (finite : x.isFinite = true) (c : Comparison) :
    compareNumbers x c x = c.holdsOf .eq := by
  have same : x.toModel.unpack.compare x.toModel.unpack = some .eq :=
    compare_self_of_isFinite finite
  have irrefl : ¬ x < x := by
    rw [lt_iff_compare, same]
    decide
  rw [compareNumbers, compareFloats?, if_neg irrefl, if_neg irrefl,
    if_pos (beq_iff_compare.mpr same)]

end Order

section Signed

variable {a b : Int}

def signOf (a : Int) : Sign := if a < 0 then .negative else .positive

theorem apply_signOf (a : Int) : (signOf a).apply a.natAbs = a := by
  unfold signOf
  split
  · change -(a.natAbs : Int) = a
    omega
  · change (a.natAbs : Int) = a
    omega

theorem unpack_ofInt (lt : a.natAbs < 2 ^ 53) :
    (Float.ofInt a).toModel.unpack = whole (signOf a) a.natAbs := by
  cases a with
  | ofNat n => exact unpack_ofNat lt
  | negSucc n =>
    rw [signOf, if_pos (Int.negSucc_lt_zero n)]
    have fewer : n + 1 < 2 ^ 53 := lt
    change (Float.Model.pack (Float.ofNat (n + 1)).toModel.unpack.neg).unpack =
      whole (-.positive) (n + 1)
    rw [unpack_ofNat fewer, neg_whole, unpack_pack_whole fewer]

theorem compare_unpack_ofInt (ltA : a.natAbs < 2 ^ 53) (ltB : b.natAbs < 2 ^ 53) :
    (Float.ofInt a).toModel.unpack.compare (Float.ofInt b).toModel.unpack =
      some (compare a b) := by
  rw [unpack_ofInt ltA, unpack_ofInt ltB, compare_whole ltA ltB, apply_signOf, apply_signOf]

theorem ofInt_lt_iff (ltA : a.natAbs < 2 ^ 53) (ltB : b.natAbs < 2 ^ 53) :
    Float.ofInt a < Float.ofInt b ↔ a < b := by
  rw [lt_iff_compare, compare_unpack_ofInt ltA ltB, Option.some.injEq, Int.compare_eq_lt]

theorem ofInt_beq_iff (ltA : a.natAbs < 2 ^ 53) (ltB : b.natAbs < 2 ^ 53) :
    (Float.ofInt a == Float.ofInt b) = true ↔ a = b := by
  rw [beq_iff_compare, compare_unpack_ofInt ltA ltB, Option.some.injEq, Int.compare_eq_eq]

theorem compareFloats?_ofInt (ltA : a.natAbs < 2 ^ 53) (ltB : b.natAbs < 2 ^ 53) :
    compareFloats? (Float.ofInt a) (Float.ofInt b) = some (compare a b) := by
  unfold compareFloats?
  rcases Int.lt_trichotomy a b with less | rfl | greater
  · rw [if_pos ((ofInt_lt_iff ltA ltB).mpr less), Int.compare_eq_lt.mpr less]
  · have irrefl : ¬ Float.ofInt a < Float.ofInt a := by
      rw [ofInt_lt_iff ltA ltA]
      exact Int.lt_irrefl a
    rw [if_neg irrefl, if_neg irrefl, if_pos ((ofInt_beq_iff ltA ltA).mpr rfl),
      Int.compare_eq_eq.mpr rfl]
  · have notLess : ¬ Float.ofInt a < Float.ofInt b := by
      rw [ofInt_lt_iff ltA ltB]
      exact Int.not_lt.mpr (Int.le_of_lt greater)
    rw [if_neg notLess, if_pos ((ofInt_lt_iff ltB ltA).mpr greater),
      Int.compare_eq_gt.mpr greater]

/-- Whole numbers compare as floats as they do as numbers. -/
theorem compareNumbers_ofInt (ltA : a.natAbs < 2 ^ 53) (ltB : b.natAbs < 2 ^ 53) (c : Comparison) :
    compareNumbers (Float.ofInt a) c (Float.ofInt b) = c.holdsOf (compare a b) := by
  rw [compareNumbers, compareFloats?_ofInt ltA ltB]

theorem compareNumbers_ofInt_self (lt : a.natAbs < 2 ^ 53) :
    compareNumbers (Float.ofInt a) .eq (Float.ofInt a) = true := by
  rw [compareNumbers_ofInt lt lt, Int.compare_eq_eq.mpr rfl]
  rfl

end Signed

end Outreach.Whole
