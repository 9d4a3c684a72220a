import Dialogue.Text.Shortest

/-! Numbers of a JSON text. A literal without fraction and exponent that fits in 64 bits is an
integer; all others are doubles. A double is made from the digits that fit in 64 bits, scaled once
by a power of ten, so its last bit may differ from the nearest double. -/
namespace Dialogue.Json

inductive Number
  | natural (n : Nat)
  | negative (n : Int)
  /-- A double, by its bits. -/
  | double (bits : UInt64)
  deriving DecidableEq, Repr

/-- A number as it is written. -/
structure Literal where
  negative : Bool
  integer : List Char
  fraction : List Char
  /-- The sign and the digits of the exponent. -/
  exponent : Option (Bool × List Char)
  deriving DecidableEq, Repr

/-- Naturals of 64 bits stay below it. -/
def naturalBound : Nat := 18446744073709551616

/-- The magnitude of the least negative integer of 64 bits. -/
def negativeBound : Nat := 9223372036854775808

def digitValue (c : Char) : Nat := c.toNat - '0'.toNat

/-- Takes in digits as long as the value fits in 64 bits; also counts those taken. -/
def absorb (value : Nat) : List Char → Nat × Nat
  | [] => (value, 0)
  | c :: cs =>
    let next := 10 * value + digitValue c
    if naturalBound ≤ next then (value, 0)
    else
      let (result, count) := absorb next cs
      (result, count + 1)

/-- Divides by powers of ten as far as a table of doubles goes, then once more. -/
def scaleDown : Nat → Float → Nat → Float
  | 0, x, _ => x
  | fuel + 1, x, places =>
    if places ≤ 308 then x / Float.ofScientific 1 false places
    else if x == 0 then x
    else scaleDown fuel (x / Float.ofScientific 1 false 308) (places - 308)

/-- `significand * 10 ^ exponent` as a double; none where it is too great for one. -/
def doubleOf? (significand : Nat) (exponent : Int) : Option Float :=
  let x := significand.toUInt64.toFloat
  if exponent < 0 then some (scaleDown 3 x exponent.natAbs)
  else if exponent ≤ 308 then
    let y := x * Float.ofScientific 1 false exponent.toNat
    if y.isInf then none else some y
  else if x == 0 then some x
  else none

/-- The value of a literal; none where it is too great for a double. -/
def Literal.value? (l : Literal) : Option Number :=
  let (whole, taken) := absorb 0 l.integer
  let dropped := l.integer.length - taken
  if l.fraction.isEmpty && l.exponent.isNone && dropped = 0 &&
      (!l.negative || (0 < whole && whole ≤ negativeBound)) then
    some (if l.negative then .negative (-whole) else .natural whole)
  else
    let (significand, places) := absorb whole l.fraction
    let power : Int := match l.exponent with
      | none => 0
      | some (isNegative, ds) =>
        let n := ds.foldl (fun n c => 10 * n + digitValue c) 0
        if isNegative then -n else n
    (doubleOf? significand (dropped - places + power)).map fun x =>
      .double (if l.negative then -x else x).toBits

/-- How a double is written: a point between the digits where its first digit is neither too far
before nor too far behind it, else the exponent apart. -/
structure DoubleFormat where
  leastPositional : Int
  greatestPositional : Int

/-- Positional from `1e-5` up to below `1e16`. -/
def doubleFormat : DoubleFormat := ⟨-5, 15⟩

/-- Digits whose first has the place `place`, with the point written. -/
def positional (digits : List Char) (place : Int) : String :=
  if place < 0 then
    "0." ++ String.ofList (List.replicate (place.natAbs - 1) '0' ++ digits)
  else
    let whole := digits.take (place.toNat + 1)
    let fraction := digits.drop (place.toNat + 1)
    String.ofList (whole ++ List.replicate (place.toNat + 1 - whole.length) '0') ++ "." ++
      (if fraction.isEmpty then "0" else String.ofList fraction)

/-- Digits whose first has the place `place`, with a point behind the first and the exponent apart;
the exponent always has a sign. -/
def scientific (digits : List Char) (place : Int) : String :=
  let mantissa := match digits with
    | [] => "0"
    | [d] => d.toString
    | d :: ds => d.toString ++ "." ++ String.ofList ds
  mantissa ++ (if place < 0 then "e-" else "e+") ++ toString place.natAbs

def renderDouble (bits : UInt64) : String :=
  let sign := if negativeBound ≤ bits.toNat then "-" else ""
  match Text.Shortest.Parts.ofBits? bits with
  | none => sign ++ "0.0"
  | some p =>
    let (digits, place) := Text.Shortest.digits p
    let format := doubleFormat
    sign ++
      (if format.leastPositional ≤ place && place ≤ format.greatestPositional then
        positional digits place
      else scientific digits place)

end Dialogue.Json
