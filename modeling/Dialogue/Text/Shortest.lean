/-! The shortest decimal that reads back as a given double, worked out in exact arithmetic. A double
is a mantissa times a power of two; the reals that round to it form an interval around it, and the
fewest digits whose grid meets the interval are taken, the nearest point first. -/
namespace Dialogue.Text.Shortest

/-- A positive double `mantissa * 2 ^ exponent`. -/
structure Parts where
  mantissa : Nat
  exponent : Int
  /-- Whether the next smaller double is only half as far away as the next greater one. -/
  narrow : Bool

/-- The magnitude of the double with the given bits; none for zero, infinities and NaN. -/
def Parts.ofBits? (bits : UInt64) : Option Parts :=
  let fraction : Nat := bits.toNat % Nat.pow 2 52
  let biased : Nat := bits.toNat / Nat.pow 2 52 % Nat.pow 2 11
  if biased = 2047 then none
  else if biased = 0 then
    if fraction = 0 then none else some ⟨fraction, -1074, false⟩
  else some ⟨Nat.pow 2 52 + fraction, (biased : Int) - 1075, fraction = 0 && 1 < biased⟩

/-- The value, the ends of its interval and the unit of a decimal grid, all over one denominator. -/
structure Scaled where
  value : Nat
  low : Nat
  high : Nat
  unit : Nat
  closed : Bool

/-- On the grid of multiples of `10 ^ place`, over a common denominator. -/
def Parts.scale (p : Parts) (place : Int) : Scaled :=
  let two := Nat.pow 2 (p.exponent - 2).toNat
  let half := Nat.pow 2 (2 - p.exponent).toNat
  let ten := Nat.pow 10 place.toNat
  let tenth := Nat.pow 10 (-place).toNat
  { value := 4 * p.mantissa * two * tenth
    low := (4 * p.mantissa - if p.narrow then 1 else 2) * two * tenth
    high := (4 * p.mantissa + 2) * two * tenth
    unit := ten * half
    closed := p.mantissa % 2 = 0 }

def Scaled.contains (s : Scaled) (n : Nat) : Bool :=
  if s.closed then s.low ≤ n && n ≤ s.high else s.low < n && n < s.high

/-- The nearest point of the grid in the interval, counted in grid units. -/
def Scaled.nearest? (s : Scaled) : Option Nat :=
  let below := s.value / s.unit
  let above := below + 1
  let fromBelow := s.value - below * s.unit
  let fromAbove := above * s.unit - s.value
  match s.contains (below * s.unit), s.contains (above * s.unit) with
  | true, true =>
    if fromBelow < fromAbove || (fromBelow = fromAbove && below % 2 = 0) then some below
    else some above
  | true, false => some below
  | false, true => some above
  | false, false => none

/-- The decimal exponent of the first digit, searched downwards from `place`. -/
def leadingPlace (p : Parts) : Nat → Int → Int
  | 0, place => place
  | fuel + 1, place =>
    let s := p.scale place
    if s.unit ≤ s.value then place else leadingPlace p fuel (place - 1)

/-- The digits and the place of the last one, tried with `digits` digits and more. -/
def search (p : Parts) (leading : Int) : Nat → Int → Nat × Int
  | 0, place => ((p.scale place).value / (p.scale place).unit, place)
  | fuel + 1, place =>
    match (p.scale place).nearest? with
    | some n => if n = 0 then search p leading fuel (place - 1) else (n, place)
    | none => search p leading fuel (place - 1)

/-- The fewest digits, without zeros at their end, and the exponent of the first of them. -/
def digits (p : Parts) : List Char × Int :=
  let leading := leadingPlace p 640 309
  let (n, place) := search p leading 17 leading
  let text := (toString n).toList
  ((text.reverse.dropWhile (· == '0')).reverse, place + text.length - 1)

end Dialogue.Text.Shortest
