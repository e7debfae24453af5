import DiceTower.Binary

/-!
# The fewest digits of a binary number

The decimals that are read as a given binary number lie between the points half way to its two
neighbours; these points themselves belong to it exactly if its mantissa is even. `Binary.shortest`
is the decimal in that reach that has the fewest digits, and of those the nearest one. It goes from
coarse grids to fine ones and takes the first that has a point in reach; the last grid holds the
number itself, so the search always ends with a decimal that is read back.
-/

namespace DiceTower.Binary

/-- The decimals that are read as a number, all in one unit. -/
structure Reach where
  value : Nat
  lower : Nat
  upper : Nat
  /-- Whether the bounds belong to the reach. -/
  closed : Bool

namespace Reach

/-- Whether a count of units lies in a reach. -/
def holds (reach : Reach) (n : Nat) : Bool :=
  (reach.lower < n && n < reach.upper) || (reach.closed && (n == reach.lower || n == reach.upper))

/-- The point of a grid that lies in a reach, the nearest to the value if there are two. Only the
neighbours of the value have to be looked at. -/
def onGrid? (reach : Reach) (grid : Nat) : Option Nat :=
  let below := reach.value / grid
  match reach.holds (below * grid), reach.holds ((below + 1) * grid) with
  | true, true => some (nearest reach.value grid)
  | true, false => some below
  | false, true => some (below + 1)
  | false, false => none

/-- A point in reach on the coarsest grid that has one, from a grid on: a count, and the power of ten
it counts. -/
def coarsest (reach : Reach) : (power : Nat) → Nat × Nat
  | 0 => (reach.value, 0)
  | power + 1 =>
    match reach.onGrid? (Nat.pow 10 (power + 1)) with
    | some count => (count, power + 1)
    | none => coarsest reach power

end Reach

/-- The reach of a finite number above zero, in quarters of its last binary place. Below a power of
two the next number is half as far away. -/
def reach (mantissa : Nat) (exponent : Int) : Reach :=
  let unit := (expansion 1 (exponent - 2)).1
  let below := if mantissa = fullMantissa ∧ leastExponent < exponent then 1 else 2
  { value := 4 * mantissa * unit
    lower := (4 * mantissa - below) * unit
    upper := (4 * mantissa + 2) * unit
    closed := mantissa % 2 == 0 }

/-- The fewest digits that are read as a finite number, and the power of ten they count. -/
def shortest (mantissa : Nat) (exponent : Int) : Nat × Int :=
  if mantissa = 0 then (0, 0)
  else
    let reach := reach mantissa exponent
    let (count, power) := reach.coarsest ((Nat.toDigits 10 reach.value).length - 1)
    (count, power - (expansion 1 (exponent - 2)).2)

end DiceTower.Binary
