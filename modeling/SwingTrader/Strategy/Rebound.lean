import SwingTrader.Indicator.Read
import SwingTrader.Strategy.Basic

/-!
# SwingTrader — the rebound strategy

Goes long after a low. A position is opened when the latest pivot is a low and
the latest closes all lie above the lowest close of a longer window. It is
opened at the market and left at a trailing stop, which is placed at once and
moved on every tick.

* `Rebound` — the strategy and its settings;
* `Rebound.shouldEnter` — the decision to open a position, which depends on the
  bars alone;
* `Rebound.strategy` — the strategy as a `Strategy`.
-/

namespace SwingTrader

/-- The settings of the rebound strategy. `ledger` is where its positions are recorded. -/
structure Rebound where
  lookback : Lookback
  timesAbove : Nat
  fees : Fees
  distances : StopDistances
  ledger : LedgerId

namespace Rebound

/-- The strategy of a configuration that looks back on at least one bar. -/
def ofConfig (config : StrategyConfig) (pos : 0 < config.lookback) (fees : Fees)
    (ledger : LedgerId) : Rebound where
  lookback := ⟨config.lookback, pos⟩
  timesAbove := config.timesAbove
  fees := fees
  distances := config.stopDistances
  ledger := ledger

/-! ## Indicators -/

/-- The lowest close of the window. -/
def lowest (rule : Rebound) : Indicator .number :=
  .lowest (.price .close) rule.lookback

/-- The break-even price of the open position. -/
def breakEven (rule : Rebound) : Indicator .number :=
  .memo (.breakEven (.price .close) rule.fees (.shared rule.ledger))

/-- The trailing stop of the open position. -/
def trailingStop (rule : Rebound) : Indicator .number :=
  .memo (.trailingStop rule.fees rule.distances (.shared rule.ledger))

/-- Whether a position is open. -/
def inMarket (rule : Rebound) : Indicator .flag :=
  .inMarket (.shared rule.ledger)

/-- What the strategy remembers: the pivots of the bars so far, and its indicators. -/
structure Memory (rule : Rebound) where
  scan : PivotScan := {}
  breakEven : rule.breakEven.State := rule.breakEven.start
  trailingStop : rule.trailingStop.State := rule.trailingStop.start
  inMarket : rule.inMarket.State := rule.inMarket.start

variable {rule : Rebound}

/-- The break-even price at a bar. -/
def readBreakEven (view : MarketView) (index : Nat) : StateM rule.Memory Float := do
  let memory ← get
  let (value, breakEven) := rule.breakEven.read view index memory.breakEven
  set { memory with breakEven }
  return value

/-- The trailing stop at a bar. -/
def readTrailingStop (view : MarketView) (index : Nat) : StateM rule.Memory Float := do
  let memory ← get
  let (value, trailingStop) := rule.trailingStop.read view index memory.trailingStop
  set { memory with trailingStop }
  return value

/-- Whether a position is open at a bar. -/
def readInMarket (view : MarketView) (index : Nat) : StateM rule.Memory Bool := do
  let memory ← get
  let (value, inMarket) := rule.inMarket.read view index memory.inMarket
  set { memory with inMarket }
  return value

/-! ## Decisions -/

/-- Whether the latest closes up to a bar all lie above the lowest close of the window there. -/
def hasRebounded (rule : Rebound) (view : MarketView) (index : Nat) : Bool :=
  let lowest : Float := ((rule.lowest.read view index).run rule.lowest.start).1
  if lowest.isNaN || index + 1 < rule.timesAbove then false
  else (barRange (index + 1 - rule.timesAbove) index).all fun i => lowest < view.bars.close i

/-- Opens a position after a low from which the price has rebounded. -/
def shouldEnter : Decision rule.Memory := fun view => do
  match view.lastIndex? with
  | none => return false
  | some index =>
    let memory ← get
    let (answer, scan) := memory.scan.sync view.bars
    set { memory with scan }
    match answer with
    | .error error => throw (.reversal error)
    | .ok () =>
      let isAfterLow := scan.detector.lastPivot?.any fun pivot => pivot.kind == .low
      return isAfterLow && rule.hasRebounded view index

/-- The trailing stop at the newest bar, NaN when there is none. -/
def exitPrice : PriceRule rule.Memory := fun view _ =>
  match view.lastIndex? with
  | some index => readTrailingStop view index
  | none => return notANumber

/-- The strategy: long only, in at the market, and out at the trailing stop at any time. -/
def strategy (rule : Rebound) : Strategy rule.Memory where
  name := "lowest_price_rebound"
  side _ := .long
  shouldEnter := shouldEnter
  shouldExit _ := return true
  enterPrice := .marketEnter
  exitPrice := exitPrice

end Rebound

end SwingTrader
