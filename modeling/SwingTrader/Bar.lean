import SwingTrader.Arithmetic
import SwingTrader.Instant.Civil

/-!
# SwingTrader — price bars

A bar samples the price over a span of time, and a series holds one bar for
each tick of a market, in the order of their ends. A bar is known by its place
in the series, counted from zero.

* `BarSeries.push` — appends a bar that is not inverted and not out of order;
* `BarSeries.close`, `BarSeries.price` — prices by place, NaN past the end;
* `BarSeries.size_push`, `BarSeries.getElem?_push` — a bar pushed is the last
  one, and those before it stay.
-/

namespace SwingTrader

/-- A price sample from `start` to `stop`. -/
structure Bar where
  start : Instant
  stop : Instant
  opening : Float
  high : Float
  low : Float
  close : Float

/-- A bar with a missing price. -/
def Bar.isVoid (bar : Bar) : Bool :=
  bar.opening.isNaN || bar.high.isNaN || bar.low.isNaN || bar.close.isNaN

/-- Why a series refuses a bar. -/
inductive BarError where
  | outOfOrder (stop lastStop : Instant)
  | invertedSpan (start stop : Instant)
  deriving DecidableEq, Repr

/-- The text of the error. -/
def BarError.message : BarError → String
  | outOfOrder stop lastStop =>
    s!"bar ending at {stop.message} precedes the last bar ending at {lastStop.message}"
  | invertedSpan start stop => s!"bar starts at {start.message} after it ends at {stop.message}"

/-- The bars of one market, oldest first. -/
structure BarSeries where
  bars : Array Bar := #[]

/-- A price of a bar that indicators read. -/
inductive PriceField where
  | close
  | high
  | low
  deriving DecidableEq, Repr

/-- One price of a bar. -/
def Bar.price (bar : Bar) : PriceField → Float
  | .close => bar.close
  | .high => bar.high
  | .low => bar.low

namespace BarSeries

/-- The series without bars. -/
def empty : BarSeries := {}

/-- The number of bars. -/
def size (series : BarSeries) : Nat :=
  series.bars.size

/-- The bar at a place. -/
def get? (series : BarSeries) (index : Nat) : Option Bar :=
  series.bars[index]?

/-- The newest bar. -/
def last? (series : BarSeries) : Option Bar :=
  series.bars.back?

/-- The place of the newest bar. -/
def lastIndex? (series : BarSeries) : Option Nat :=
  if series.size = 0 then none else some (series.size - 1)

/-- A price of the bar at a place, NaN past the end. -/
def price (series : BarSeries) (field : PriceField) (index : Nat) : Float :=
  match series.get? index with
  | some bar => bar.price field
  | none => notANumber

/-- The close of the bar at a place, NaN past the end. -/
def close (series : BarSeries) (index : Nat) : Float :=
  series.price .close index

/--
Appends a bar. It must not end before it starts, and not before the newest bar
ends; the first of these is looked at first.
-/
def push (series : BarSeries) (bar : Bar) : Except BarError BarSeries :=
  if bar.stop < bar.start then .error (.invertedSpan bar.start bar.stop)
  else
    match series.last? with
    | some last =>
      if bar.stop < last.stop then .error (.outOfOrder bar.stop last.stop)
      else .ok ⟨series.bars.push bar⟩
    | none => .ok ⟨series.bars.push bar⟩

/-! ## What a push does -/

/-- A series that takes a bar has it after all the others. -/
theorem bars_push {series series' : BarSeries} {bar : Bar} (h : series.push bar = .ok series') :
    series'.bars = series.bars.push bar := by
  unfold push at h
  split at h
  · contradiction
  · split at h
    · split at h
      · contradiction
      · injection h with h
        rw [← h]
    · injection h with h
      rw [← h]

/-- A series that takes a bar is one longer. -/
@[simp] theorem size_push {series series' : BarSeries} {bar : Bar}
    (h : series.push bar = .ok series') : series'.size = series.size + 1 := by
  simp [size, bars_push h]

/-- The new bar stands at the end, and every other index reads as before. -/
theorem getElem?_push {series series' : BarSeries} {bar : Bar} (h : series.push bar = .ok series')
    (index : Nat) :
    series'.get? index = if index = series.size then some bar else series.get? index := by
  rw [get?, bars_push h, Array.getElem?_push]
  rfl

end BarSeries

end SwingTrader
