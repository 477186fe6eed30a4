import Condition.Double.Basic
import Condition.Text

/-!
# Shortest digits

The digits that show a double are the fewest that read back as the same double and, of these, the
ones nearest to it. All is exact arithmetic on natural numbers: a double with mantissa `m` and
exponent `q` is the middle of the interval of the numbers that round to it, and on the grid of the
decimals with a given count of digits only the two neighbours of the double have to be tried.
-/

namespace Condition.Double

-- Powers are those of core, whatever other instances are in scope.
attribute [local instance (high)] instPowNat instNatPowNat

/-- The mantissa of a finite magnitude. -/
def mantissa (magnitude : Nat) : Nat :=
  if magnitude < 2 ^ (52 : Nat) then magnitude else 2 ^ (52 : Nat) + magnitude % 2 ^ (52 : Nat)

/-- The power of two by which the mantissa of a finite magnitude counts. -/
def exponent (magnitude : Nat) : Int :=
  if magnitude < 2 ^ (52 : Nat) then -1074 else (magnitude / 2 ^ (52 : Nat) : Nat) - 1075

/-- A decimal: digits without a leading or trailing zero, and the place of the point. It stands for
`0.d₁d₂… * 10 ^ point`. -/
structure Decimal where
  digits : Text
  point : Int

/-- The numbers that round to one double, as multiples of `1 / unit`: `low` to `high` with the
double at `middle`, the ends included if `closed`. -/
structure Interval where
  low : Nat
  middle : Nat
  high : Nat
  unit : Nat
  closed : Bool

/-- The interval of a positive finite magnitude. Below a power of two the doubles lie twice as
dense. -/
def intervalOf (magnitude : Nat) : Interval :=
  let m := mantissa magnitude
  let q := exponent magnitude
  let lowGap := if m = 2 ^ (52 : Nat) ∧ magnitude ≥ 2 ^ (53 : Nat) then 1 else 2
  let shift := 2 ^ (q - 2).toNat
  ⟨(4 * m - lowGap) * shift, 4 * m * shift, (4 * m + 2) * shift, 2 ^ (2 - q).toNat, m % 2 == 0⟩

/-- Whether `count * 10 ^ place` lies in the interval. -/
def Interval.covers (i : Interval) (count : Nat) (place : Int) : Bool :=
  let value := count * 10 ^ place.toNat * i.unit
  let low := i.low * 10 ^ (-place).toNat
  let high := i.high * 10 ^ (-place).toNat
  if i.closed then low ≤ value && value ≤ high else low < value && value < high

/-- The multiple of `10 ^ place` in the interval that is nearest to the middle, if there is one. Of
two that are equally near it is the greater one. -/
def Interval.nearest? (i : Interval) (place : Int) : Option Nat :=
  let step := 10 ^ place.toNat * i.unit
  let middle := i.middle * 10 ^ (-place).toNat
  let count := middle / step
  let below := i.covers count place
  let above := i.covers (count + 1) place
  if above && (!below || step ≤ 2 * (middle % step)) then some (count + 1)
  else if below then some count
  else none

/-- The number of digits in front of the point of `num / den`, for a value of at least one; for a
smaller one, minus the number of zeros behind the point. -/
def pointOf (num den : Nat) : Int :=
  if den ≤ num then ((Nat.toDigits 10 (num / den)).length : Int)
  else 1 - ((Nat.toDigits 10 ((den - 1) / num)).length : Int)

/-- The first of the grids with `count` digits, `count + 1` digits and so on that has a point in the
interval, with that point and its place; `tries` grids are looked at. -/
def firstHit (i : Interval) (point : Int) : (tries count : Nat) → Nat × Int
  | 0, count => (i.middle / i.unit, point - count)
  | tries + 1, count =>
    match i.nearest? (point - count) with
    | some hit => (hit, point - count)
    | none => firstHit i point tries (count + 1)

/-- The shortest decimal that reads back as a positive finite magnitude; seventeen digits always
do. -/
def shortest (magnitude : Nat) : Decimal :=
  let i := intervalOf magnitude
  let (hit, place) := firstHit i (pointOf i.middle i.unit) 17 1
  let digits := Nat.toDigits 10 hit
  ⟨(digits.reverse.dropWhile (· == '0')).reverse, place + digits.length⟩

end Condition.Double
