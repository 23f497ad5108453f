import KbConsole.Number.Basic

/-
  The shortest decimal that reads back as a binary fraction.

  Around each fraction lies the interval of reals that are
  rounded to it; its ends belong to it when the mantissa is
  even. Decimal grids are tried from coarse to fine, and on
  the first grid with a point in the interval the point
  nearest to the fraction is taken.

  Key definitions include:
    * `Number.Interval`
    * `Number.shortest`
-/

namespace KbConsole

namespace Number

------------------------------------------------------------
-- The Interval Around a Fraction
------------------------------------------------------------

/-
  A value and the ends of its rounding interval, as
  multiples of one power of two.
-/
structure Interval where
  low : Nat
  value : Nat
  high : Nat
  exponent : Int
  closed : Bool
deriving Repr

/-
  The interval of a fraction. Below a power of two the
  neighbours are half as far away as above it.
-/
def Interval.around
    (mantissa : Nat)
    (exponent : Int) : Interval :=
  let narrow := mantissa = Nat.pow 2 52 ∧ -1074 < exponent
  { low := 4 * mantissa - (if narrow then 1 else 2)
    value := 4 * mantissa
    high := 4 * mantissa + 2
    exponent := exponent - 2
    closed := mantissa % 2 = 0 }

/-
  The factors that turn multiples of `2 ^ exponent` and of
  `10 ^ grid` into multiples of a common unit.
-/
def commonUnit (exponent grid : Int) : Nat × Nat :=
  (Nat.pow 2 exponent.toNat * Nat.pow 10 (-grid).toNat,
    Nat.pow 2 (-exponent).toNat * Nat.pow 10 grid.toNat)

/- Whether a point lies in the interval, in common units. -/
def Interval.holds
    (i : Interval)
    (unit point : Nat) : Bool :=
  if i.closed then
    i.low * unit ≤ point && point ≤ i.high * unit
  else
    i.low * unit < point && point < i.high * unit

/-
  The point of the grid of multiples of `10 ^ grid` that
  lies in the interval, nearest to its value.
-/
def Interval.gridPoint?
    (i : Interval)
    (grid : Int) : Option Nat :=
  let (unit, step) := commonUnit i.exponent grid
  let value := i.value * unit
  let below := value / step
  let above := below + 1
  let belowIn := i.holds unit (below * step)
  let aboveIn := i.holds unit (above * step)
  if belowIn && aboveIn then
    let toBelow := value - below * step
    let toAbove := above * step - value
    if toBelow < toAbove then
      some below
    else if toAbove < toBelow then
      some above
    else
      some (if below % 2 = 0 then below else above)
  else if belowIn then
    some below
  else if aboveIn then
    some above
  else
    none

------------------------------------------------------------
-- The Search
------------------------------------------------------------

/- Try `tries` grids, each ten times finer than the last. -/
def Interval.search
    (i : Interval) : Nat → Int → Nat × Int
  | 0, grid => (0, grid)
  | tries + 1, grid =>
      match i.gridPoint? grid with
      | some point => (point, grid)
      | none => i.search tries (grid - 1)

/-
  The digits and decimal exponent of the shortest decimal
  that reads back as the fraction. The first grid is too
  coarse by at most a few digits, and seventeen digits are
  always enough.
-/
def shortest (mantissa : Nat) (exponent : Int) : Nat × Int :=
  let bits : Int := Nat.log2 mantissa + exponent
  let coarse : Int := ((bits + 1) * 30103).fdiv 100000 + 1
  (Interval.around mantissa exponent).search 24 coarse

end Number

end KbConsole
