import SwingTrader.Tracker.Basic

/-!
# SwingTrader — resuming a position

A tracker that has not looked at the venue yet finds out where its position
stands from what is there. One open order is adopted; without an order, a base
balance above the minimum volume is a long position; more than one order cannot
be told apart.

* `Tracker.resume` — the stage of the tracker, found out first if need be.
-/

namespace SwingTrader.Tracker

variable {σ κ : Type}

/-- An order found at the venue, in its full quantity. -/
def adopt (order : OpenOrder) : PlacedOrder where
  id := order.id
  kind := order.kind
  quantity := order.ordered
  price := order.price

/-- The last price, which a position that is found must be valued at. -/
def lastPrice {τ : Type} : TradeM σ κ τ Float := do
  match (← get).prices.lastPrice? with
  | some price => return price
  | none => throw (.strategy .noMarketData)

/-- Without an order, what is held tells whether a position is open. -/
def stageFromHoldings (venue : Venue σ) : DeskM σ κ Stage := do
  let market := (← Desk.settings).market
  let base ← Desk.call (venue.availableBalance market.base)
  let minimum ← Desk.call (venue.minimumOrderVolume market)
  if base ≤ minimum then return .needEnter
  let price ← lastPrice
  Desk.recordEntry .long
  return .needExit { id := .synthetic, kind := .buy, quantity := base, price } none

/-- An exit order belongs to a position whose entry is not known any more. -/
def stageFromExit (order : OpenOrder) : DeskM σ κ Stage := do
  let side := order.kind.side
  let last ← lastPrice
  Desk.recordEntry side
  let entry : PlacedOrder :=
    { id := .synthetic
      kind := side.enterKind
      quantity := order.ordered
      price := maxNumber last order.price }
  return .waitForExit entry (adopt order) { side, level := some order.price }

/-- The stage that the open orders tell of. -/
def stageFromOrders (venue : Venue σ) : List OpenOrder → DeskM σ κ Stage
  | [] => stageFromHoldings venue
  | [order] =>
    if order.kind.isEnter then return .waitForEnter (adopt order) else stageFromExit order
  | orders => throw (.strategy (.ambiguousResume orders.length))

/-- The stage of the tracker. It is found out once, and only by an attempt that succeeds. -/
def resume (venue : Venue σ) : DeskM σ κ Stage := do
  match (← get).tracker.stage with
  | some stage => return stage
  | none =>
    let orders ← Desk.listOrders venue
    let stage ← stageFromOrders venue orders
    Desk.setStage stage
    return stage

/-- The failure of an operation that belongs to another phase. -/
def wrongState {α : Type} (operation : String) (expected : Phase) (stage : Stage) : DeskM σ κ α :=
  throw (.strategy (.wrongState operation expected stage.phase))

end SwingTrader.Tracker
