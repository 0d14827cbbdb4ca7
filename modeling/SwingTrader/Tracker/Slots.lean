import SwingTrader.Tracker.Exit

/-!
# SwingTrader — a tracker that keeps its orders in slots

A tracker may also keep where its position stands in slots that are filled and
cleared one by one: whether it has looked at the venue, a state, an order for each
side of the trade, and a ratchet. Nothing in the slots themselves keeps them in
accord, so every operation checks those that it goes by, and fails when an order
is missing or one is held already.

* `Slots` — what is kept;
* `Slots.ensureResumed` — finds out where the position stands, once;
* `Slots.placeEnter`, `Slots.trackEnter`, `Slots.placeExit`, `Slots.trackExit` — the
  operations.
-/

namespace SwingTrader

/-- Where a position stands, as the tracker keeps it slot by slot. -/
structure Slots where
  resumed : Bool := false
  state : Phase := .needEnter
  enterOrder : Option PlacedOrder := none
  exitOrder : Option PlacedOrder := none
  ratchet : Option Ratchet := none

/-- An operation on a desk whose tracker keeps slots. -/
abbrev SlotM (σ κ : Type) := TradeM σ κ Slots

namespace Slots

variable {σ κ : Type}

/-- The state, once the tracker has looked at the venue. -/
def state? (slots : Slots) : Option Phase :=
  if slots.resumed then some slots.state else none

/-- The slots of the tracker. -/
def kept : SlotM σ κ Slots := do
  return (← get).tracker.stage

/-- Fills or clears slots of the tracker. -/
def keep (change : Slots → Slots) : SlotM σ κ Unit :=
  modify fun desk =>
    { desk with tracker := { desk.tracker with stage := change desk.tracker.stage } }

/-! ## Checks -/

/-- Fails an operation that belongs to another state. -/
def expectState (operation : String) (expected : Phase) : SlotM σ κ Unit := do
  let slots ← kept
  if slots.state ≠ expected then
    throw (.strategy (.wrongState operation expected slots.state))

/-- Fails an operation that would place an order beside one that is held. -/
def expectEmpty (slot : Slots → Option PlacedOrder) : SlotM σ κ Unit := do
  if (slot (← kept)).isSome then throw (.strategy .orderAlreadyHeld)

/-- The order in a slot. An operation that goes by it fails when there is none. -/
def heldIn (slot : Slots → Option PlacedOrder) : SlotM σ κ PlacedOrder := do
  match slot (← kept) with
  | some order => return order
  | none => throw (.strategy .noOrderHeld)

/-! ## Resuming -/

/-- Without an order, a base balance above the minimum volume is a long position. -/
def resumeWithoutOrders (venue : Venue σ) : SlotM σ κ Unit := do
  let market := (← Desk.settings).market
  let base ← Desk.call (venue.availableBalance market.base)
  let minimum ← Desk.call (venue.minimumOrderVolume market)
  if base ≤ minimum then keep ({ · with state := .needEnter })
  else
    let price ← Tracker.lastPrice
    Desk.recordEntry .long
    let entry : PlacedOrder := { id := .synthetic, kind := .buy, quantity := base, price }
    keep ({ · with enterOrder := some entry, state := .needExit })

/-- An exit order is adopted together with a ratchet at its price; its entry is made up. -/
def resumeWithExit (order : OpenOrder) : SlotM σ κ Unit := do
  let side := order.kind.side
  let last ← Tracker.lastPrice
  Desk.recordEntry side
  let entry : PlacedOrder :=
    { id := .synthetic
      kind := side.enterKind
      quantity := order.ordered
      price := maxNumber last order.price }
  keep ({ · with
    enterOrder := some entry
    exitOrder := some (Tracker.adopt order)
    ratchet := some { side, level := some order.price }
    state := .waitForExit })

/-- Fills the slots by what the open orders tell. -/
def resumeWithOrders (venue : Venue σ) : List OpenOrder → SlotM σ κ Unit
  | [] => resumeWithoutOrders venue
  | [order] =>
    if order.kind.isEnter then
      keep ({ · with enterOrder := some (Tracker.adopt order), state := .waitForEnter })
    else resumeWithExit order
  | orders => throw (.strategy (.ambiguousResume orders.length))

/-- Fills the slots by what is at the venue, until an attempt at it has succeeded. -/
def ensureResumed (venue : Venue σ) : SlotM σ κ Unit := do
  if (← kept).resumed then return
  let orders ← Desk.listOrders venue
  resumeWithOrders venue orders
  keep ({ · with resumed := true })

/-- The state of the tracker, which looks at the venue first if need be. -/
def currentState (venue : Venue σ) : SlotM σ κ Phase := do
  ensureResumed venue
  return (← kept).state

/-! ## Entering -/

/--
Submits an entry. Nothing is done when the price is unusable, or when the order
would cut into the emergency stop.
-/
def placeEnter (venue : Venue σ) (rule : PriceRule κ) (side : Side) : SlotM σ κ Unit := do
  ensureResumed venue
  expectState "place_enter_order" .needEnter
  expectEmpty enterOrder
  let price ← Desk.askPrice rule side
  if PriceRule.isUsable price then
    if let some amount ← Tracker.enterAmount venue side price then
      let order ← Desk.submit venue side.enterKind amount price
      keep ({ · with enterOrder := some order, state := .waitForEnter })

/--
Waits for the rest of an entry that is filled in part, and then takes what there is.
What is held is read before the cancel.
-/
def trackPartialEntry (venue : Venue σ) (entry : PlacedOrder) (order : OpenOrder) :
    SlotM σ κ Unit := do
  let settings ← Desk.settings
  let entry := entry.countPartiallyExecuted
  if entry.partiallyExecuted ≤ settings.limits.enterPartiallyExecuted then
    keep ({ · with enterOrder := some entry })
  else
    let held ← match entry.side with
      | .long => Desk.call (venue.availableBalance settings.market.base)
      | .short => pure order.filledQuantity
    if ← Desk.cancel venue entry.id then
      Desk.recordEntry entry.side
      keep ({ · with enterOrder := some (entry.withQuantity held), state := .needExit })
    else keep ({ · with enterOrder := some entry })

/-- Gives up an entry that the market has left behind for too long. -/
def trackOpenEntry (venue : Venue σ) (rule : PriceRule κ) (entry : PlacedOrder) :
    SlotM σ κ Unit := do
  let fresh ← Desk.askPrice rule entry.side
  if Tracker.hasRunAway entry.side fresh entry.price then
    let entry := entry.countNotExecuted
    if entry.notExecuted ≤ (← Desk.settings).limits.enterNotExecuted then
      keep ({ · with enterOrder := some entry })
    else if ← Desk.cancel venue entry.id then
      keep ({ · with enterOrder := none, state := .needEnter })
    else keep ({ · with enterOrder := some entry })

/-- Watches the entry. One that is no longer open has been filled. -/
def trackEnter (venue : Venue σ) (rule : PriceRule κ) : SlotM σ κ Unit := do
  ensureResumed venue
  expectState "track_running_enter_order" .waitForEnter
  let entry ← heldIn enterOrder
  match ← Desk.findOrder venue entry.id with
  | none =>
    Desk.recordEntry entry.side
    keep ({ · with state := .needExit })
  | some order =>
    if order.isPartiallyFilled then trackPartialEntry venue entry order
    else trackOpenEntry venue rule entry

/-! ## Leaving -/

/--
Submits an exit, or does nothing when the price is unusable. A ratchet that is left
from an exit that could not be replaced keeps the price from falling back.
-/
def placeExit (venue : Venue σ) (rule : PriceRule κ) : SlotM σ κ Unit := do
  ensureResumed venue
  expectState "place_exit_order" .needExit
  expectEmpty exitOrder
  let side := (← heldIn enterOrder).side
  let price ← Desk.askPrice rule side
  if PriceRule.isUsable price then
    let price := match (← kept).ratchet with
      | some ratchet => (ratchet.apply price).levelOr price
      | none => price
    let exit ← Tracker.submitExit venue side price
    keep fun slots => { slots with ratchet := some ((slots.ratchet.getD { side }).apply price) }
    keep ({ · with exitOrder := some exit, state := .waitForExit })

/--
Submits an exit in place of one that was cancelled. The tracker needs an exit until
then, so that one that cannot be submitted is made up for.
-/
def resubmitExit (venue : Venue σ) (side : Side) (price : Float) : SlotM σ κ Unit := do
  keep ({ · with exitOrder := none, state := .needExit })
  let exit ← Tracker.submitExit venue side price
  keep ({ · with exitOrder := some exit, state := .waitForExit })

/-- Waits for an exit that the market is past, and then moves it to where the market is. -/
def trackCrossedExit (venue : Venue σ) (side : Side) (exit : PlacedOrder) : SlotM σ κ Unit := do
  let exit := exit.countNotExecuted
  if exit.notExecuted ≤ (← Desk.settings).limits.exitCrossed then
    keep ({ · with exitOrder := some exit })
  else
    let price := PriceRule.ofNewestBar (PriceRule.exitField side) (← get).view
    if ← Desk.cancel venue exit.id then
      keep fun slots => { slots with ratchet := some ((slots.ratchet.getD { side }).reset price) }
      resubmitExit venue side price
    else keep ({ · with exitOrder := some exit })

/-- Moves an exit when the rule offers a strictly better stop. -/
def trackStop (venue : Venue σ) (rule : PriceRule κ) (side : Side) (exit : PlacedOrder) :
    SlotM σ κ Unit := do
  let stop ← Desk.askPrice rule side
  let ratchet := (← kept).ratchet.getD { side, level := some exit.price }
  keep ({ · with ratchet := some ratchet })
  if ratchet.improves stop then
    if ← Desk.cancel venue exit.id then
      keep fun slots => { slots with ratchet := slots.ratchet.map (·.apply stop) }
      resubmitExit venue side stop

/-- The fill of an exit closes the position and clears its slots. -/
def leavePosition (venue : Venue σ) (entry exit : PlacedOrder) : SlotM σ κ ClosedTrade := do
  let trade ← Tracker.closedTrade venue entry exit
  Desk.recordExit
  keep ({ · with enterOrder := none, exitOrder := none, ratchet := none, state := .needEnter })
  return trade

/-- Watches the exit. One that is no longer open has been filled; its trade is the answer. -/
def trackExit (venue : Venue σ) (rule : PriceRule κ) : SlotM σ κ (Option ClosedTrade) := do
  ensureResumed venue
  expectState "track_running_exit_order" .waitForExit
  let exit ← heldIn exitOrder
  let entry ← heldIn enterOrder
  match ← Desk.findOrder venue exit.id with
  | none => return some (← leavePosition venue entry exit)
  | some _ =>
    let ticker ← Desk.newestTicker
    if Tracker.isCrossed entry.side ticker exit.price then trackCrossedExit venue entry.side exit
    else trackStop venue rule entry.side exit
    return none

/-- A tracker may keep slots. -/
instance : TrackerForm Slots where
  fresh := {}
  currentState := currentState
  placeEnter := placeEnter
  trackEnter := trackEnter
  placeExit := placeExit
  trackExit := trackExit

end Slots

end SwingTrader
