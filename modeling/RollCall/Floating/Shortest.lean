import RollCall.Floating.Double
import RollCall.Text.Digit

/-!
# Shortest decimals

The decimal that is printed for a double is the one of fewest digits among those that read back as
that double, and of these the nearest to it.

The numbers that read back as `x = digits * 2 ^ power` form an interval around `x`.  The search
walks through the decimal grids `10 ^ 309, 10 ^ 308, …`, coarsest first, and looks at the two grid
points next to `x`.  If any point of a grid lies in the interval then one of these two does, so the
first grid with a hit gives the fewest digits.

* `Decimal` — a number `digits * 10 ^ power`.
* `readsBack` — whether a decimal lies in the interval of a double.
* `shortest` — the decimal that is printed.
-/

namespace RollCall.Floating

-- Powers are the core library's, also where Mathlib has its own.
attribute [local instance (high)] instPowNat

/-- The number `digits * 10 ^ power`. -/
structure Decimal where
  digits : Nat
  power : Int
deriving DecidableEq, Repr

/-- The interval of numbers that round to a positive double, in quarters of its unit. -/
structure RoundingInterval where
  /-- Quarters of the unit at the lower end. -/
  low : Nat
  /-- Quarters of the unit at the number itself. -/
  centre : Nat
  /-- Quarters of the unit at the upper end. -/
  high : Nat
  /-- A quarter of the unit is this power of two. -/
  power : Int
  /-- Whether the ends round to the number too. -/
  closed : Bool

/-- The rounding interval of `digits * 2 ^ power`.  Below a power of two the neighbour is only half
a unit away, unless the unit is already the smallest. -/
def roundingInterval (digits : Nat) (power : Int) : RoundingInterval where
  low :=
    if digits = 2 ^ (52 : Nat) ∧ Format.double.leastPower < power then 4 * digits - 1
    else 4 * digits - 2
  centre := 4 * digits
  high := 4 * digits + 2
  power := power - 2
  closed := digits % 2 == 0

/-- `digits * 10 ^ power` on the scale on which `n * 2 ^ unit` is `onScale n power unit`. -/
def decimalOnScale (d : Decimal) (unit : Int) : Nat :=
  d.digits * 10 ^ d.power.toNat * 2 ^ (-unit).toNat

/-- `n * 2 ^ unit` on the scale of decimals with the given power. -/
def binaryOnScale (n : Nat) (power unit : Int) : Nat := n * 2 ^ unit.toNat * 10 ^ (-power).toNat

/-- Whether a decimal lies in a rounding interval. -/
def readsBack (i : RoundingInterval) (d : Decimal) : Bool :=
  let point := decimalOnScale d i.power
  let low := binaryOnScale i.low d.power i.power
  let high := binaryOnScale i.high d.power i.power
  if i.closed then decide (low ≤ point) && decide (point ≤ high)
  else decide (low < point) && decide (point < high)

/-- The grid point next below the centre of an interval, or at it. -/
def floorOnGrid (i : RoundingInterval) (power : Int) : Nat :=
  binaryOnScale i.centre power i.power / decimalOnScale ⟨1, power⟩ i.power

/-- Of the two grid points next to the centre those that read back, the nearer first; of two equally
near the even one. -/
def hit? (i : RoundingInterval) (power : Int) : Option Decimal :=
  let below := floorOnGrid i power
  let lower : Decimal := ⟨below, power⟩
  let upper : Decimal := ⟨below + 1, power⟩
  match decide (below ≠ 0) && readsBack i lower, readsBack i upper with
  | true, true =>
    let centre := 2 * binaryOnScale i.centre power i.power
    let middle := decimalOnScale ⟨2 * below + 1, power⟩ i.power
    if centre < middle then some lower
    else if middle < centre then some upper
    else if below % 2 = 0 then some lower else some upper
  | true, false => some lower
  | false, true => some upper
  | false, false => none

/-- The coarsest grid of the search: its unit is larger than every double. -/
def coarsestGrid : Int := 309

/-- The first hit on `grids` grids from `power` downwards. -/
def firstHit : (grids : Nat) → (power : Int) → RoundingInterval → Option Decimal
  | 0, _, _ => none
  | grids + 1, power, i =>
    match hit? i power with
    | some d => some d
    | none => firstHit grids (power - 1) i

/-- The shortest decimal that reads back as the positive double `digits * 2 ^ power`.  The finest
grid that can be needed is the one of the seventeenth digit of the smallest double. -/
def shortest (digits : Nat) (power : Int) : Decimal :=
  (firstHit 660 coarsestGrid (roundingInterval digits power)).getD ⟨0, 0⟩

end RollCall.Floating
