import SwingTrader.Tracker.Basic

/-!
# SwingTrader — strategies

A strategy decides whether a position is opened and closed, in which direction,
and at what prices. What it remembers between two questions is its own affair;
the phase of the tracker alone decides which of them is asked on a tick.

* `Strategy` — the questions;
* `Strategy.execute` — one tick: asks what the phase calls for, and places or
  watches the order of that phase.
-/

namespace SwingTrader

/-- A decision of a strategy; what it remembers changes even when it cannot be made. -/
abbrev Decision (κ : Type) := MarketView → ExceptT StrategyError (StateM κ) Bool

/-- A strategy that remembers a `κ`. -/
structure Strategy (κ : Type) where
  name : String
  side : κ → Side
  shouldEnter : Decision κ
  shouldExit : Decision κ
  enterPrice : PriceRule κ
  exitPrice : PriceRule κ
  onTradeClosed : ClosedTrade → κ → κ := fun _ memory => memory

/-- Has a decision made on what there is to see. -/
def Desk.decide {σ κ τ : Type} (decision : Decision κ) : TradeM σ κ τ Bool := do
  let desk ← get
  let (answer, rules) := (decision desk.view).run desk.rules
  set { desk with rules }
  match answer with
  | .ok decided => return decided
  | .error error => throw (.strategy error)

namespace Strategy

variable {σ κ τ : Type} [TrackerForm τ]

/-- Opens a position if the strategy decides to. -/
def enter (venue : Venue σ) (strategy : Strategy κ) : TradeM σ κ τ Unit := do
  if ← Desk.decide strategy.shouldEnter then
    TrackerForm.placeEnter venue strategy.enterPrice (strategy.side (← get).rules)

/-- Places the exit of a position if the strategy decides to. -/
def leave (venue : Venue σ) (strategy : Strategy κ) : TradeM σ κ τ Unit := do
  if ← Desk.decide strategy.shouldExit then
    TrackerForm.placeExit venue strategy.exitPrice

/-- Watches the exit of a position, and tells the strategy of the trade it closes. -/
def watchExit (venue : Venue σ) (strategy : Strategy κ) :
    TradeM σ κ τ (Option ClosedTrade) := do
  let closed ← TrackerForm.trackExit venue strategy.exitPrice
  if let some trade := closed then
    modify fun desk => { desk with rules := strategy.onTradeClosed trade desk.rules }
  return closed

/-- Places or watches the order that the phase calls for; answers the trade this closed. -/
def execute (venue : Venue σ) (strategy : Strategy κ) : TradeM σ κ τ (Option ClosedTrade) := do
  match ← TrackerForm.currentState venue with
  | .needEnter =>
    strategy.enter venue
    return none
  | .waitForEnter =>
    TrackerForm.trackEnter venue strategy.enterPrice
    return none
  | .needExit =>
    strategy.leave venue
    return none
  | .waitForExit => strategy.watchExit venue

end Strategy

end SwingTrader
