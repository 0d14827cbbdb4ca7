import SwingTrader.Sizing
import SwingTrader.Tracker.Resume

/-!
# SwingTrader — entering a position

* `Tracker.placeEnter` — sizes and submits an entry, or leaves the tick out;
* `Tracker.trackEnter` — watches an entry until it is filled, accepts a part of
  it after some time, and gives it up when the market has run away.
-/

namespace SwingTrader.Tracker

variable {σ κ : Type}

/-- The amount to enter with at a price, if one is permitted. -/
def enterAmount {τ : Type} (venue : Venue σ) (side : Side) (price : Float) :
    TradeM σ κ τ (Option Float) := do
  let settings ← Desk.settings
  let counter ← Desk.call (venue.availableBalance settings.market.counter)
  let minimum ← Desk.call (venue.minimumOrderVolume settings.market)
  let fee ← match side with
    | .long => Desk.call (venue.buyFee settings.market)
    | .short => Desk.call (venue.sellFee settings.market)
  let amount := entryAmount counter settings.balancePercentage price
  return permittedAmount amount minimum price fee counter settings.emergencyStop

/--
Submits an entry. Nothing is done when the price is unusable, or when the order
would cut into the emergency stop.
-/
def placeEnter (venue : Venue σ) (rule : PriceRule κ) (side : Side) : DeskM σ κ Unit := do
  match ← resume venue with
  | .needEnter =>
    let price ← Desk.askPrice rule side
    if PriceRule.isUsable price then
      if let some amount ← enterAmount venue side price then
        let order ← Desk.submit venue side.enterKind amount price
        Desk.setStage (.waitForEnter order)
  | stage => wrongState "place_enter_order" .needEnter stage

/-- The fill of an entry opens the position. -/
def enterPosition (entry : PlacedOrder) : DeskM σ κ Unit := do
  Desk.recordEntry entry.side
  Desk.setStage (.needExit entry none)

/--
Waits for the rest of an entry that is filled in part, and then takes what there
is. What is held is read before the cancel, after which the order looks the same
as one that was filled.
-/
def trackPartialEntry (venue : Venue σ) (entry : PlacedOrder) (order : OpenOrder) :
    DeskM σ κ Unit := do
  let settings ← Desk.settings
  let entry := entry.countPartiallyExecuted
  if entry.partiallyExecuted ≤ settings.limits.enterPartiallyExecuted then
    Desk.setStage (.waitForEnter entry)
  else
    let held ← match entry.side with
      | .long => Desk.call (venue.availableBalance settings.market.base)
      | .short => pure order.filledQuantity
    if ← Desk.cancel venue entry.id then enterPosition (entry.withQuantity held)
    else Desk.setStage (.waitForEnter entry)

/-- Whether the market has left an entry behind: a fresh price would be worse. -/
def hasRunAway (side : Side) (fresh price : Float) : Bool :=
  match side with
  | .long => price < fresh
  | .short => fresh < price

/-- Gives up an entry that the market has left behind for too long. -/
def trackOpenEntry (venue : Venue σ) (rule : PriceRule κ) (entry : PlacedOrder) :
    DeskM σ κ Unit := do
  let fresh ← Desk.askPrice rule entry.side
  if hasRunAway entry.side fresh entry.price then
    let entry := entry.countNotExecuted
    if entry.notExecuted ≤ (← Desk.settings).limits.enterNotExecuted then
      Desk.setStage (.waitForEnter entry)
    else if ← Desk.cancel venue entry.id then Desk.setStage .needEnter
    else Desk.setStage (.waitForEnter entry)

/-- Watches the entry. One that is no longer open has been filled. -/
def trackEnter (venue : Venue σ) (rule : PriceRule κ) : DeskM σ κ Unit := do
  match ← resume venue with
  | .waitForEnter entry =>
    match ← Desk.findOrder venue entry.id with
    | none => enterPosition entry
    | some order =>
      if order.isPartiallyFilled then trackPartialEntry venue entry order
      else trackOpenEntry venue rule entry
  | stage => wrongState "track_running_enter_order" .waitForEnter stage

end SwingTrader.Tracker
