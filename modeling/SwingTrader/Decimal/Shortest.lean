import SwingTrader.Decimal.Double

/-!
# SwingTrader — the shortest decimal of a double

Of all decimals that a reader rounds back to a given double, the shortest has
the fewest digits, and is the nearest of those. The reals that round to a
double form an interval, which holds its ends when the significand is even.
Grids of decimals are tried from coarse to fine; on each, only the two
neighbours of the double can be the nearest decimal in the interval.

* `Decimal.Interval` — the interval, in quarter steps of the double's own grid;
* `Decimal.onGrid?` — the nearest decimal of one grid, if it reads back;
* `Decimal.shortest` — the shortest decimal.
-/

namespace SwingTrader.Decimal

/-- Which of two equally near decimals is taken. -/
inductive Tie where
  | up
  | even
  deriving DecidableEq, Repr

/-- The positive number `coefficient * 10 ^ exponent`. -/
structure Digits where
  coefficient : Nat
  exponent : Int
  deriving DecidableEq, Repr

/-- A double and the reals that round to it, all counted in units of `2 ^ exponent`. -/
structure Interval where
  low : Nat
  value : Nat
  high : Nat
  exponent : Int
  closed : Bool

/--
The reals that round to `significand * 2 ^ exponent`. They reach half a step up
and half a step down, but only a quarter of a step down from a power of two,
below which doubles lie twice as close.
-/
def Interval.ofDouble (significand : Nat) (exponent : Int) : Interval where
  low := 4 * significand
    - (if significand == Double.leastNormal && Double.leastExponent < exponent then 1 else 2)
  value := 4 * significand
  high := 4 * significand + 2
  exponent := exponent - 2
  closed := significand % 2 == 0

/-- A whole number of decimal units and one of binary units, as multiples of one amount. -/
def scales (binary decimal : Int) : Nat × Nat :=
  (Nat.pow 10 decimal.toNat * Nat.pow 2 (-binary).toNat,
    Nat.pow 2 binary.toNat * Nat.pow 10 (-decimal).toNat)

/-- The multiple of `10 ^ decimal` that lies nearest to a double, if it reads back as the double. -/
def onGrid? (tie : Tie) (interval : Interval) (decimal : Int) : Option Digits :=
  let (decimalUnit, binaryUnit) := scales interval.exponent decimal
  let value := interval.value * binaryUnit
  let below := value / decimalUnit
  let readsBack (c : Nat) : Bool :=
    let point := c * decimalUnit
    let low := interval.low * binaryUnit
    let high := interval.high * binaryUnit
    if interval.closed then low ≤ point && point ≤ high else low < point && point < high
  let distanceBelow := value - below * decimalUnit
  let distanceAbove := (below + 1) * decimalUnit - value
  let belowIsNearer :=
    distanceBelow < distanceAbove
      || (distanceBelow == distanceAbove && tie == .even && below % 2 == 0)
  match readsBack below, readsBack (below + 1) with
  | true, true => some ⟨if belowIsNearer then below else below + 1, decimal⟩
  | true, false => some ⟨below, decimal⟩
  | false, true => some ⟨below + 1, decimal⟩
  | false, false => none

/--
The shortest decimal of `significand * 2 ^ exponent`. The first grid tried is
too coarse to hold more than one digit of the number, and the twentieth finer
one has a decimal in every interval.
-/
def shortest (tie : Tie) (significand : Nat) (exponent : Int) : Digits :=
  let interval := Interval.ofDouble significand exponent
  -- The number of binary digits times a little more than the decimal logarithm of two.
  let top := (((Nat.log2 significand : Int) + 1 + exponent) * 30103) / 100000 + 2
  let grids := (List.range 21).map fun step => top - (step : Nat)
  (grids.findSome? (onGrid? tie interval)).getD ⟨0, 0⟩

end SwingTrader.Decimal
