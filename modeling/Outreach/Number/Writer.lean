/-!
The shortest decimal that reads back as a given float. A finite nonzero float is a
significand times a power of two; the decimals that round to it fill an interval
around it, whose ends belong to it when the significand is even. For growing numbers
of digits the two neighbours of the float on the decimal grid are tried; the first
grid with a neighbour inside the interval gives the answer, the nearer one if both are.

How a float is written. The digits are always the shortest that read back; a style
says which numbers are written positionally and how an exponent is marked.
-/

namespace Outreach

/-- A decimal number `digits * 10 ^ exponent`. -/
structure Decimal where
  digits : Nat
  exponent : Int
  deriving DecidableEq, Repr

namespace Decimal

def stripZeros : Nat → Decimal → Decimal
  | 0, d => d
  | fuel + 1, d =>
    if d.digits ≠ 0 ∧ d.digits % 10 = 0 then stripZeros fuel ⟨d.digits / 10, d.exponent + 1⟩
    else d

def leadingExponent (d : Decimal) : Int :=
  d.exponent + (Nat.toDigits 10 d.digits).length - 1

end Decimal

namespace Number

/-- Significand and exponent of the magnitude of a finite float: the value is
`significand * 2 ^ exponent`. -/
def binary (x : Float) : Nat × Int :=
  let magnitude := x.toBits.toNat % (1 <<< 63)
  let field : Nat := magnitude / (1 <<< 52)
  let fraction : Nat := magnitude % (1 <<< 52)
  if field = 0 then (fraction, -1074) else (1 <<< 52 + fraction, (field : Int) - 1075)

/-- The interval of the positive reals that round to `significand * 2 ^ exponent`,
with the value itself, as numerators over one common denominator. -/
structure Interval where
  low : Nat
  value : Nat
  high : Nat
  denominator : Nat
  closed : Bool

/-- Below a power of two the spacing of floats halves, so the lower end is nearer. -/
def Interval.of (significand : Nat) (exponent : Int) : Interval :=
  let up := exponent.toNat
  let down := (-exponent).toNat
  let gap := if significand = 1 <<< 52 ∧ exponent > -1074 then 1 else 2
  { low := (4 * significand - gap) <<< up
    value := (4 * significand) <<< up
    high := (4 * significand + 2) <<< up
    denominator := 4 <<< down
    closed := significand % 2 == 0 }

def Interval.leadingExponent (i : Interval) : Int :=
  if i.denominator ≤ i.value then
    ((Nat.toDigits 10 (i.value / i.denominator)).length : Int) - 1
  else
    match (List.range 400).find? fun k => i.denominator ≤ i.value * Nat.pow 10 k with
    | some k => -(k : Int)
    | none => 0

def Interval.scale (i : Interval) (exponent : Int) : Interval :=
  let factor := Nat.pow 10 (-exponent).toNat
  { i with
    low := i.low * factor
    value := i.value * factor
    high := i.high * factor
    denominator := i.denominator * Nat.pow 10 exponent.toNat }

def Interval.contains (i : Interval) (n : Nat) : Bool :=
  let scaled := n * i.denominator
  if i.closed then i.low ≤ scaled && scaled ≤ i.high else i.low < scaled && scaled < i.high

/-- The neighbour of the value on the grid of units that lies in the interval; of two,
the nearer one, and of two equally near the even one. -/
def Interval.neighbour? (i : Interval) : Option Nat :=
  let below := i.value / i.denominator
  let above := below + 1
  match i.contains below, i.contains above with
  | true, true =>
    let twice := 2 * i.value
    let middle := (below + above) * i.denominator
    if twice < middle then some below
    else if middle < twice then some above
    else some (if below % 2 = 0 then below else above)
  | true, false => some below
  | false, true => some above
  | false, false => none

def Interval.decimal? (i : Interval) (leading : Int) (digits : Nat) : Option Decimal :=
  let exponent := leading + 1 - digits
  (i.scale exponent).neighbour?.map fun n => ⟨n, exponent⟩

def shortest (x : Float) : Decimal :=
  let (significand, exponent) := binary x
  let i := Interval.of significand exponent
  let leading := i.leadingExponent
  match (List.range' 1 17).findSome? (i.decimal? leading) with
  | some d => d.stripZeros 18
  | none => ⟨0, 0⟩

end Number

structure NumberStyle where
  /-- Numbers whose first digit has at least this exponent are positional. -/
  lowest : Int
  /-- Numbers whose first digit has this exponent or a larger one are not. -/
  highest : Int
  /-- Positive exponents carry a plus sign. -/
  plusSign : Bool
  /-- Whole numbers written positionally end in `.0`. -/
  pointZero : Bool

namespace NumberStyle

def document : NumberStyle := ⟨-5, 16, true, true⟩

def message : NumberStyle := ⟨-4, 16, false, true⟩

def plain : NumberStyle := ⟨-1000, 1000, false, false⟩

/-- Digits with a decimal point before the digit at `point`, padded with zeros. -/
def positional (digits : List Char) (point : Int) (pointZero : Bool) : List Char :=
  if point ≤ 0 then
    ['0', '.'] ++ List.replicate (-point).toNat '0' ++ digits
  else
    let whole := point.toNat
    if digits.length ≤ whole then
      digits ++ List.replicate (whole - digits.length) '0' ++ if pointZero then ['.', '0'] else []
    else
      digits.take whole ++ '.' :: digits.drop whole

def scientific (digits : List Char) (exponent : Int) (plusSign : Bool) : List Char :=
  let mantissa :=
    match digits with
    | [] => []
    | [d] => [d]
    | d :: rest => d :: '.' :: rest
  let sign := if exponent < 0 then ['-'] else if plusSign then ['+'] else []
  mantissa ++ 'e' :: sign ++ Nat.toDigits 10 exponent.natAbs

def magnitude (style : NumberStyle) (x : Float) : List Char :=
  if x == 0 then '0' :: if style.pointZero then ['.', '0'] else []
  else
    let d := Number.shortest x
    let digits := Nat.toDigits 10 d.digits
    let leading := d.leadingExponent
    if style.lowest ≤ leading ∧ leading < style.highest then
      positional digits (leading + 1) style.pointZero
    else scientific digits leading style.plusSign

def isNegative (x : Float) : Bool :=
  x.toBits.toNat ≥ 1 <<< 63

def write (style : NumberStyle) (x : Float) : String :=
  if x.isNaN then "NaN"
  else
    let sign := if isNegative x then "-" else ""
    sign ++ if x.isInf then "inf" else String.ofList (style.magnitude x)

end NumberStyle

end Outreach
