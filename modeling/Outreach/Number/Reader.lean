import Outreach.Text.Format

/-!
Reading numbers in full: the float nearest to a decimal, floats from plain text, and
numbers in hexadecimal.

Reading a decimal as a float from its leading digits. The digits that fit into
sixty-four bits become a float, which is then multiplied or divided by a power of ten;
for few digits and small exponents this is the float nearest to the decimal. Rounding
a float to a whole number is here too.
-/

namespace Outreach

def nearestFloat (digits : Nat) (exponent : Int) : Float :=
  let leading := exponent + (Nat.toDigits 10 digits).length
  if digits = 0 ∨ leading < -400 then 0
  else if 400 < leading then 1.0 / 0.0
  else if exponent < 0 then Float.ofScientific digits true exponent.natAbs
  else Float.ofScientific digits false exponent.natAbs

def hexNumber? (cs : List Char) : Option Nat :=
  cs.foldlM (fun n c =>
    if c.isDigit then some (16 * n + (c.toNat - '0'.toNat))
    else if 'a' ≤ c ∧ c ≤ 'f' then some (16 * n + (c.toNat - 'a'.toNat + 10))
    else if 'A' ≤ c ∧ c ≤ 'F' then some (16 * n + (c.toNat - 'A'.toNat + 10))
    else none) 0

namespace Text

def readUnsignedFloat (cs : List Char) : Option Float :=
  let mantissa := cs.takeWhile fun c => c ≠ 'e' ∧ c ≠ 'E'
  let whole := mantissa.takeWhile Char.isDigit
  let fraction? :=
    match mantissa.drop whole.length with
    | [] => some []
    | '.' :: fraction => if fraction.all Char.isDigit then some fraction else none
    | _ => none
  let exponent? : Option Int :=
    match cs.drop mantissa.length with
    | [] => some 0
    | _ :: '-' :: e => (readDigits e).map fun n => -(n : Int)
    | _ :: '+' :: e => (readDigits e).map Int.ofNat
    | _ :: e => (readDigits e).map Int.ofNat
  match fraction?, exponent? with
  | some fraction, some e =>
    if whole.isEmpty ∧ fraction.isEmpty then none
    else some (nearestFloat (digitsValue (whole ++ fraction)) (e - fraction.length))
  | _, _ => none

def readFloat (cs : List Char) : Option Float :=
  let (negative, rest) :=
    match cs with
    | '-' :: rest => (true, rest)
    | '+' :: rest => (false, rest)
    | _ => (false, cs)
  let word := String.ofList (rest.map Char.toLower)
  let x? : Option Float :=
    if word = "inf" ∨ word = "infinity" then some (1.0 / 0.0)
    else if word = "nan" then some (0.0 / 0.0)
    else readUnsignedFloat rest
  x?.map fun x => if negative then -x else x

end Text

/-- The leading digits of a decimal and the power of ten they are to be scaled by. -/
structure LeadingDigits where
  significand : Nat
  exponent : Int
  deriving DecidableEq, Repr

namespace LeadingDigits

def fits (d : LeadingDigits) (digit : Nat) : Bool :=
  d.significand * 10 + digit < UInt64.size

/-- Digits before the point: once one does not fit, it and all later ones only scale. -/
def pushWhole (d : LeadingDigits) : List Nat → LeadingDigits
  | [] => d
  | digit :: rest =>
    if d.fits digit then pushWhole ⟨d.significand * 10 + digit, d.exponent⟩ rest
    else ⟨d.significand, d.exponent + (rest.length + 1)⟩

/-- Digits after the point: once one does not fit, it and all later ones are dropped. -/
def pushFraction (d : LeadingDigits) : List Nat → LeadingDigits
  | [] => d
  | digit :: rest =>
    if d.fits digit then pushFraction ⟨d.significand * 10 + digit, d.exponent - 1⟩ rest
    else d

def powerOfTen (k : Nat) : Float :=
  Float.ofScientific 1 false k

/-- Scales by powers of ten no larger than `10 ^ 308`; `none` when the number is too large. -/
def scale (x : Float) (exponent : Int) : Nat → Option Float
  | 0 => some x
  | fuel + 1 =>
    if exponent.natAbs ≤ 308 then
      if 0 ≤ exponent then
        let y := x * powerOfTen exponent.natAbs
        if y.isInf then none else some y
      else some (x / powerOfTen exponent.natAbs)
    else if x == 0 then some x
    else if 0 ≤ exponent then none
    else scale (x / powerOfTen 308) (exponent + 308) fuel

def toFloat? (d : LeadingDigits) : Option Float :=
  scale (Float.ofNat d.significand) d.exponent (d.exponent.natAbs / 308 + 1)

end LeadingDigits

namespace Number

/-- A nonnegative float rounded to the nearest whole number, halves upwards, and kept
below a bound; negative ones and those that are not numbers give zero. -/
def roundNat (bound : Nat) (x : Float) : Nat :=
  if x.isNaN || x ≤ 0 then 0
  else if x.isInf then bound
  else
    let magnitude := x.toBits.toNat % (1 <<< 63)
    let field := magnitude / (1 <<< 52)
    let significand := if field = 0 then magnitude else 1 <<< 52 + magnitude % (1 <<< 52)
    let n :=
      if 1075 ≤ field then significand <<< (field - 1075)
      else (2 * significand + 1 <<< (1075 - field)) / (2 <<< (1075 - field))
    min n bound

end Number

end Outreach
