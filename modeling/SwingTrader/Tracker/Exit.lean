import SwingTrader.Tracker.Entry

/-!
# SwingTrader — leaving a position

* `Tracker.placeExit` — submits the first exit, or one that could not be replaced;
* `Tracker.trackExit` — watches an exit until it is filled, moves it when a
  better stop is offered, and forces it when the market stays past it.

An exit is only ever replaced after the venue has confirmed that the old one is
cancelled. Between the two the position needs an exit, so that a replacement
that fails is made up for, and the missing order is not taken for a fill.
-/

namespace SwingTrader.Tracker

variable {σ κ : Type}

/-- Submits an exit: all that is held of a long, no quantity for a short, whose debt is covered. -/
def submitExit {τ : Type} (venue : Venue σ) (side : Side) (price : Float) :
    TradeM σ κ τ PlacedOrder := do
  let amount ← match side with
    | .long => Desk.call (venue.availableBalance (← Desk.settings).market.base)
    | .short => pure 0.0
  Desk.submit venue side.exitKind amount price

/--
Submits an exit, or does nothing when the price is unusable. A ratchet that is
left from an exit that could not be replaced keeps the price from falling back.
-/
def placeExit (venue : Venue σ) (rule : PriceRule κ) : DeskM σ κ Unit := do
  match ← resume venue with
  | .needExit entry ratchet? =>
    let price ← Desk.askPrice rule entry.side
    if PriceRule.isUsable price then
      let price := match ratchet? with
        | some ratchet => (ratchet.apply price).levelOr price
        | none => price
      let exit ← submitExit venue entry.side price
      let ratchet := ratchet?.getD { side := entry.side }
      Desk.setStage (.waitForExit entry exit (ratchet.apply price))
  | stage => wrongState "place_exit_order" .needExit stage

/-- The trade of a position whose exit is filled, at the fees of the venue. -/
def closedTrade {τ : Type} (venue : Venue σ) (entry exit : PlacedOrder) :
    TradeM σ κ τ ClosedTrade := do
  let market := (← Desk.settings).market
  let buy ← Desk.call (venue.buyFee market)
  let sell ← Desk.call (venue.sellFee market)
  return {
    side := entry.side
    entryPrice := entry.price
    exitPrice := exit.price
    quantity := entry.quantity
    gain := realizedGain entry.side entry.quantity entry.price exit.price { buy, sell } }

/-- The fill of an exit closes the position. -/
def leavePosition (venue : Venue σ) (entry exit : PlacedOrder) : DeskM σ κ ClosedTrade := do
  let trade ← closedTrade venue entry exit
  Desk.recordExit
  Desk.setStage .needEnter
  return trade

/-- Submits an exit in place of one that was cancelled. -/
def resubmitExit (venue : Venue σ) (entry : PlacedOrder) (ratchet : Ratchet) (price : Float) :
    DeskM σ κ Unit := do
  Desk.setStage (.needExit entry (some ratchet))
  let exit ← submitExit venue entry.side price
  Desk.setStage (.waitForExit entry exit ratchet)

/-- Whether the market is past an exit that is still open. -/
def isCrossed (side : Side) (ticker : Ticker) (price : Float) : Bool :=
  match side with
  | .long => ticker.bid < price
  | .short => price < ticker.ask

/-- Waits for an exit that the market is past, and then moves it to where the market is. -/
def trackCrossedExit (venue : Venue σ) (entry exit : PlacedOrder) (ratchet : Ratchet) :
    DeskM σ κ Unit := do
  let exit := exit.countNotExecuted
  if exit.notExecuted ≤ (← Desk.settings).limits.exitCrossed then
    Desk.setStage (.waitForExit entry exit ratchet)
  else
    let price := PriceRule.ofNewestBar (PriceRule.exitField entry.side) (← get).view
    if ← Desk.cancel venue exit.id then
      resubmitExit venue entry (ratchet.reset price) price
    else Desk.setStage (.waitForExit entry exit ratchet)

/-- Moves an exit when the rule offers a strictly better stop. -/
def trackStop (venue : Venue σ) (rule : PriceRule κ) (entry exit : PlacedOrder)
    (ratchet : Ratchet) : DeskM σ κ Unit := do
  let stop ← Desk.askPrice rule entry.side
  if ratchet.improves stop then
    if ← Desk.cancel venue exit.id then
      resubmitExit venue entry (ratchet.apply stop) stop

/-- Watches the exit. One that is no longer open has been filled; its trade is the answer. -/
def trackExit (venue : Venue σ) (rule : PriceRule κ) : DeskM σ κ (Option ClosedTrade) := do
  match ← resume venue with
  | .waitForExit entry exit ratchet =>
    match ← Desk.findOrder venue exit.id with
    | none => return some (← leavePosition venue entry exit)
    | some _ =>
      let ticker ← Desk.newestTicker
      if isCrossed entry.side ticker exit.price then trackCrossedExit venue entry exit ratchet
      else trackStop venue rule entry exit ratchet
      return none
  | stage => wrongState "track_running_exit_order" .waitForExit stage

/-- A tracker may keep a stage. -/
@[default_instance] instance : TrackerForm (Option Stage) where
  fresh := none
  currentState venue := return (← resume venue).phase
  placeEnter := placeEnter
  trackEnter := trackEnter
  placeExit := placeExit
  trackExit := trackExit

end SwingTrader.Tracker
