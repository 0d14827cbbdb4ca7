import SwingTrader.Config
import SwingTrader.Failure
import SwingTrader.Indicator.Basic
import SwingTrader.Stop.Ratchet
import SwingTrader.Venue.OpenOrders

/-!
# SwingTrader — the tracker and its desk

A tracker follows one position through its phases. It holds the orders of the
phase it is in and nothing else, so a phase and its orders are one value, its
stage. Before its first look at the venue a tracker has no stage.

The desk is everything a tracker works with: the venue, the prices, the ledgers
and the cache of open orders, along with what the rules of the strategy
remember. An operation on the desk may fail half-way; what it has changed until
then stays changed.

* `Stage`, `Tracker` — where a position stands;
* `Desk`, `DeskM` — what an operation can read and change, and how it fails;
* `PriceRule` — where a tracker takes its prices from.
-/

namespace SwingTrader

/-! ## Stages -/

/--
A phase with its orders. A position that waits for its exit has a ratchet, whose
level its exit order keeps to; one that needs an exit has a ratchet only when an
earlier exit was cancelled and could not be replaced.
-/
inductive Stage where
  | needEnter
  | waitForEnter (entry : PlacedOrder)
  | needExit (entry : PlacedOrder) (ratchet : Option Ratchet)
  | waitForExit (entry exit : PlacedOrder) (ratchet : Ratchet)

namespace Stage

/-- The phase of a stage. -/
def phase : Stage → Phase
  | needEnter => .needEnter
  | waitForEnter _ => .waitForEnter
  | needExit _ _ => .needExit
  | waitForExit _ _ _ => .waitForExit

/-- The order that opened the position, or is to open it. -/
def enterOrder : Stage → Option PlacedOrder
  | needEnter => none
  | waitForEnter entry | needExit entry _ | waitForExit entry _ _ => some entry

/-- The order that is to close the position. -/
def exitOrder : Stage → Option PlacedOrder
  | waitForExit _ exit _ => some exit
  | _ => none

/-- The ratchet of the position. -/
def ratchet : Stage → Option Ratchet
  | needExit _ ratchet => ratchet
  | waitForExit _ _ ratchet => some ratchet
  | _ => none

end Stage

/-! ## Trackers -/

/-- What a tracker is told once: its market, its ledger, and how it sizes and gives up orders. -/
structure TrackerSettings where
  market : Market
  ledger : LedgerId
  balancePercentage : Float
  emergencyStop : Float
  limits : RetryLimits := {}

/--
A tracker. `τ` is the form in which it keeps where its position stands: a stage, or none
until it has looked at the venue.
-/
structure Tracker (τ : Type := Option Stage) where
  settings : TrackerSettings
  stage : τ

namespace Tracker

/-- Whether the tracker has looked at the venue. -/
def isResumed (tracker : Tracker) : Bool :=
  tracker.stage.isSome

/-- The phase as far as it is known: an entry is needed until something else is seen. -/
def phase (tracker : Tracker) : Phase :=
  (tracker.stage.map Stage.phase).getD .needEnter

/-- The order that opened the position, or is to open it. -/
def enterOrder (tracker : Tracker) : Option PlacedOrder :=
  tracker.stage.bind Stage.enterOrder

/-- The order that is to close the position. -/
def exitOrder (tracker : Tracker) : Option PlacedOrder :=
  tracker.stage.bind Stage.exitOrder

/-- The ratchet of the position. -/
def ratchet (tracker : Tracker) : Option Ratchet :=
  tracker.stage.bind Stage.ratchet

end Tracker

/-! ## The desk -/

/--
What one market is traded with. `venue` is what the venue remembers, and
`rules` what the rules of the strategy do.
-/
structure Desk (σ κ : Type) (τ : Type := Option Stage) where
  venue : σ
  prices : PriceFeed
  tick : Nat := 0
  openOrders : OpenOrderCache := .empty
  ledgers : LedgerBook
  tracker : Tracker τ
  rules : κ

/-- An operation on a desk. What it changes before it fails stays changed. -/
abbrev TradeM (σ κ τ : Type) := ExceptT TradingError (StateM (Desk σ κ τ))

/-- An operation on a desk whose tracker keeps a stage. -/
abbrev DeskM (σ κ : Type) := TradeM σ κ (Option Stage)

/-- A rule for a price, given what there is to see and the direction of the position. -/
abbrev PriceRule (κ : Type) := MarketView → Side → StateM κ Float

/--
A form in which a tracker keeps where its position stands: what is kept of a position that
has not been looked for yet, and the operations that keep it.
-/
class TrackerForm (τ : Type) where
  fresh : τ
  currentState {σ κ : Type} (venue : Venue σ) : TradeM σ κ τ Phase
  placeEnter {σ κ : Type} (venue : Venue σ) (rule : PriceRule κ) (side : Side) : TradeM σ κ τ Unit
  trackEnter {σ κ : Type} (venue : Venue σ) (rule : PriceRule κ) : TradeM σ κ τ Unit
  placeExit {σ κ : Type} (venue : Venue σ) (rule : PriceRule κ) : TradeM σ κ τ Unit
  trackExit {σ κ : Type} (venue : Venue σ) (rule : PriceRule κ) :
    TradeM σ κ τ (Option ClosedTrade)

/-- The desk of a tracker that has not begun: no prices yet, and one empty ledger. -/
def Desk.open {σ κ τ : Type} [TrackerForm τ] (settings : TrackerSettings) (venue : σ) (rules : κ) :
    Desk σ κ τ where
  venue := venue
  prices := { market := settings.market }
  ledgers := LedgerBook.empty.create.2
  tracker := { settings, stage := TrackerForm.fresh }
  rules := rules

namespace Desk

variable {σ κ τ α : Type}

/-- What indicators see of a desk. -/
def view (desk : Desk σ κ τ) : MarketView :=
  ⟨desk.prices.bars, desk.ledgers⟩

/-- Makes a call of the venue. -/
def call (request : VenueM σ α) : TradeM σ κ τ α := do
  let desk ← get
  let (answer, venue) := request.run desk.venue
  set { desk with venue }
  match answer with
  | .ok value => return value
  | .error error => throw (.venue error)

/-- Asks a rule for a price. -/
def askPrice (rule : PriceRule κ) (side : Side) : TradeM σ κ τ Float := do
  let desk ← get
  let (price, rules) := (rule desk.view side).run desk.rules
  set { desk with rules }
  return price

/-- The settings of the tracker. -/
def settings : TradeM σ κ τ TrackerSettings := do
  return (← get).tracker.settings

/-- Moves the tracker to a stage. -/
def setStage (stage : Stage) : DeskM σ κ Unit :=
  modify fun desk => { desk with tracker := { desk.tracker with stage := some stage } }

/-- The place of the newest bar. -/
def newestBar : TradeM σ κ τ Nat := do
  match (← get).prices.lastIndex? with
  | some index => return index
  | none => throw (.strategy .noMarketData)

/-- The newest ticker. -/
def newestTicker : TradeM σ κ τ Ticker := do
  match (← get).prices.ticker with
  | some ticker => return ticker
  | none => throw (.strategy .noMarketData)

/-- Writes an entry at the newest bar into the ledger of the tracker. -/
def recordEntry (side : Side) : TradeM σ κ τ Unit := do
  let index ← newestBar
  let desk ← get
  match desk.ledgers.recordEntry desk.tracker.settings.ledger index side with
  | .ok ledgers => set { desk with ledgers }
  | .error error => throw (.ofLedger error)

/-- Writes an exit at the newest bar into the ledger of the tracker. -/
def recordExit : TradeM σ κ τ Unit := do
  let index ← newestBar
  let desk ← get
  match desk.ledgers.recordExit desk.tracker.settings.ledger index with
  | .ok ledgers => set { desk with ledgers }
  | .error error => throw (.ofLedger error)

/-- The orders open at this tick. -/
def listOrders (venue : Venue σ) : TradeM σ κ τ (List OpenOrder) := do
  let desk ← get
  let (orders, openOrders) ←
    call (desk.openOrders.fetch venue desk.tracker.settings.market desk.tick)
  modify ({ · with openOrders })
  return orders

/-- An order as it stands at this tick; one that is missing is no longer open. -/
def findOrder (venue : Venue σ) (id : OrderId) : TradeM σ κ τ (Option OpenOrder) := do
  let desk ← get
  let (order, openOrders) ←
    call (desk.openOrders.find venue desk.tracker.settings.market desk.tick id)
  modify ({ · with openOrders })
  return order

/-- Forgets the open orders of this tick, after the book was changed. -/
def forgetOrders : TradeM σ κ τ Unit :=
  modify fun desk => { desk with openOrders := desk.openOrders.invalidate desk.tick }

/-- Submits an order. -/
def submit (venue : Venue σ) (kind : OrderKind) (quantity price : Float) :
    TradeM σ κ τ PlacedOrder := do
  let id ← call (venue.createOrder (← settings).market kind quantity price)
  forgetOrders
  return { id, kind, quantity, price }

/--
Cancels an order and answers whether it is gone. A call that fails counts as a
refusal, to be tried again; only a call that was answered may have changed the
book.
-/
def cancel (venue : Venue σ) (id : OrderId) : TradeM σ κ τ Bool := do
  let desk ← get
  let (answer, next) := (venue.cancelOrder desk.tracker.settings.market id).run desk.venue
  set { desk with venue := next }
  match answer with
  | .error _ => return false
  | .ok cancelled =>
    forgetOrders
    return cancelled

/-- Takes in the next ticker of the venue as a bar, and answers the place of that bar. -/
def update (venue : Venue σ) : TradeM σ κ τ Nat := do
  let ticker ← call (venue.ticker (← get).prices.market)
  let desk ← get
  match desk.prices.record ticker with
  | .ok prices => set { desk with prices }
  | .error error => throw (.ofBar error)
  newestBar

end Desk

/-! ## Prices across the spread -/

namespace PriceRule

variable {κ : Type}

/-- One price of the newest bar, NaN when there is none. -/
def ofNewestBar (field : PriceField) (view : MarketView) : Float :=
  match view.bars.last? with
  | some bar => bar.price field
  | none => notANumber

/-- The side of the newest bar at which a position is opened at once: a long at the ask. -/
def enterField : Side → PriceField
  | .long => .high
  | .short => .low

/-- The side of the newest bar at which a position is closed at once: a long at the bid. -/
def exitField : Side → PriceField
  | .long => .low
  | .short => .high

/-- Opens a position at once. -/
def marketEnter : PriceRule κ := fun view side => return ofNewestBar (enterField side) view

/-- Closes a position at once. -/
def marketExit : PriceRule κ := fun view side => return ofNewestBar (exitField side) view

/-- Always the same price. -/
def fixed (price : Float) : PriceRule κ := fun _ _ => return price

/-- A price that an order can have: finite and above zero. -/
def isUsable (price : Float) : Bool :=
  price.isFinite && !(price ≤ 0.0)

end PriceRule

end SwingTrader
