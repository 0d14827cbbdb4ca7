import SwingTrader.Decimal.Layout
import SwingTrader.Fees
import SwingTrader.Venue.Balances
import SwingTrader.Venue.Basic

/-!
# SwingTrader — the paper venue

A venue that exists on paper only, for one market. A limit order is filled at
its own price once the ticker reaches it:

| Order | Filled when |
|---|---|
| Buy | `ask ≤ price` |
| Short entry | `price ≤ bid` |
| Sell, a stop with a limit | `price * (1 - tolerance) ≤ bid ≤ price` |
| Short exit, a stop with a limit | `price ≤ ask ≤ price * (1 + tolerance)` |

A stop that the market jumps past stays open. What a buy or a sell may spend is
locked away when it is submitted and comes back when it is cancelled. A short
exit has no quantity of its own and covers the whole debt.

* `Paper.setTicker` — publishes a ticker and fills the orders it reaches;
* `Paper.submit`, `Paper.withdraw` — put an order on the book and take it off;
* `Paper.venue` — the paper venue as a `Venue`.

The venue reckons in any `Arithmetic`, so that what it does to funds can be
said exactly.
-/

namespace SwingTrader

/-- One execution, of a whole order or of a part. -/
structure Fill (α : Type := Float) where
  orderId : OrderId
  kind : OrderKind
  quantity : α
  price : α

/--
What does not change at a paper venue. `tolerance` is how far past its price a stop
still fills.
-/
structure PaperTerms (α : Type := Float) where
  market : Market
  fees : Fees α
  minimumVolume : α
  tolerance : α

/--
A paper venue. `partialFill` is the fraction of an order's remainder that a
ticker fills, all of it where there is none. The three counts are of calls that
are still to fail: cancels to be refused, calls to break off, and calls to break
off once a cancel has succeeded.
-/
structure Paper (α : Type := Float) where
  terms : PaperTerms α
  ticker : Option (Ticker α) := none
  balances : Balances α := {}
  orders : List (OpenOrder α) := []
  nextId : Nat := 1
  shortDebt : α
  fills : List (Fill α) := []
  partialFill : Option α := none
  failingCancels : Nat := 0
  failingCalls : Nat := 0
  failingAfterCancel : Nat := 0

/-- Why a paper venue fails a call. -/
inductive PaperError (α : Type := Float) where
  | connectionReset
  | noTicker
  | unknownMarket (id : String)
  | invalidPrice (price : α)
  | belowMinimum (quantity minimum : α)
  | insufficientFunds

namespace Paper

variable {α : Type} [Arithmetic α]

/-- A paper venue with one fee for both sides, and nothing on its books. -/
def new (market : Market) (fee minimumVolume tolerance : α) : Paper α where
  terms := { market, fees := ⟨fee, fee⟩, minimumVolume, tolerance }
  shortDebt := 0

/-- How far past its price a stop usually still fills. -/
def usualTolerance : Float := 0.005

/-! ## Funds -/

/-- The balance in a currency. -/
def balance (paper : Paper α) (currency : String) : α :=
  paper.balances.get currency

/-- Sets the balance in a currency. -/
def setBalance (paper : Paper α) (currency : String) (amount : α) : Paper α :=
  { paper with balances := paper.balances.set currency amount }

/-- Adds to the balance in the base currency. -/
def creditBase (paper : Paper α) (amount : α) : Paper α :=
  { paper with balances := paper.balances.credit paper.terms.market.base amount }

/-- Adds to the balance in the counter currency. -/
def creditCounter (paper : Paper α) (amount : α) : Paper α :=
  { paper with balances := paper.balances.credit paper.terms.market.counter amount }

/-- What a purchase costs, with its fee. -/
def cost (terms : PaperTerms α) (quantity price : α) : α :=
  quantity * price * (1 + terms.fees.buy)

/-- What a sale brings, after its fee. -/
def proceeds (terms : PaperTerms α) (quantity price : α) : α :=
  quantity * price * (1 - terms.fees.sell)

/-! ## Filling -/

/-- Whether a ticker reaches an order. -/
def reaches (terms : PaperTerms α) (ticker : Ticker α) (order : OpenOrder α) : Bool :=
  match order.kind with
  | .buy => ticker.ask ≤ order.price
  | .shortEnter => order.price ≤ ticker.bid
  | .sell => ticker.bid ≤ order.price && order.price * (1 - terms.tolerance) ≤ ticker.bid
  | .shortExit => order.price ≤ ticker.ask && ticker.ask ≤ order.price * (1 + terms.tolerance)

/-- How much of an order a ticker fills once it reaches it. A short exit is never filled in part. -/
def fillQuantity (paper : Paper α) (order : OpenOrder α) : α :=
  match order.kind, paper.partialFill with
  | .shortExit, _ => order.quantity
  | _, none => order.quantity
  | _, some fraction => order.quantity * fraction

/-- Adds to the record of fills. -/
def recordFill (paper : Paper α) (order : OpenOrder α) (quantity : α) : Paper α :=
  { paper with fills := paper.fills ++ [⟨order.id, order.kind, quantity, order.price⟩] }

/-- Moves the funds of a fill, apart from those locked away before, and records it. -/
def settle (paper : Paper α) (order : OpenOrder α) (quantity : α) : Paper α :=
  match order.kind with
  | .buy => (paper.creditBase quantity).recordFill order quantity
  | .sell =>
    (paper.creditCounter (proceeds paper.terms quantity order.price)).recordFill order quantity
  | .shortEnter =>
    let paid := paper.creditCounter (proceeds paper.terms quantity order.price)
    { paid with shortDebt := paid.shortDebt + quantity }.recordFill order quantity
  | .shortExit =>
    let debt := paper.shortDebt
    let paid := paper.creditCounter (-debt * order.price * (1 + paper.terms.fees.buy))
    { paid with shortDebt := 0 }.recordFill order debt

/-- Whether something is left to fill of an order that was just filled. -/
def staysOpen (order : OpenOrder α) : Bool :=
  order.kind != .shortExit && Arithmetic.dust < order.quantity

/-- Fills the orders that a ticker reaches, in their order; answers those still open. -/
def executeAll (ticker : Ticker α) :
    List (OpenOrder α) → Paper α → List (OpenOrder α) × Paper α
  | [], paper => ([], paper)
  | order :: rest, paper =>
    if reaches paper.terms ticker order then
      let quantity := paper.fillQuantity order
      let remainder := { order with quantity := order.quantity - quantity }
      let (stillOpen, paper) := executeAll ticker rest (paper.settle order quantity)
      (if staysOpen remainder then remainder :: stillOpen else stillOpen, paper)
    else
      let (stillOpen, paper) := executeAll ticker rest paper
      (order :: stillOpen, paper)

/-- Publishes a ticker and fills every order it reaches. -/
def setTicker (paper : Paper α) (ticker : Ticker α) : Paper α :=
  let (orders, paper) := executeAll ticker paper.orders { paper with ticker := some ticker }
  { paper with orders }

/-! ## The book -/

/-- Puts an order on the book under the next id, without locking funds. -/
def insertOpenOrder (paper : Paper α) (kind : OrderKind) (quantity price : α) :
    OrderId × Paper α :=
  let id := OrderId.ofNat paper.nextId
  let order := { id, kind, price, quantity, ordered := quantity }
  (id, { paper with nextId := paper.nextId + 1, orders := paper.orders ++ [order] })

/-- Whether an order may be put on the book: its price, its volume and its funds, in this order. -/
def checkOrder (paper : Paper α) (kind : OrderKind) (quantity price : α) :
    Except (PaperError α) Unit :=
  if !Arithmetic.isFinite price || price ≤ 0 then .error (.invalidPrice price)
  else if kind ≠ .shortExit ∧ quantity < paper.terms.minimumVolume then
    .error (.belowMinimum quantity paper.terms.minimumVolume)
  else
    match kind with
    | .buy =>
      if paper.balance paper.terms.market.counter + Arithmetic.dust
          < cost paper.terms quantity price then
        .error .insufficientFunds
      else .ok ()
    | .sell =>
      if paper.balance paper.terms.market.base + Arithmetic.dust < quantity then
        .error .insufficientFunds
      else .ok ()
    | .shortEnter | .shortExit => .ok ()

/-- Locks away what an order may spend. -/
def lock (paper : Paper α) (kind : OrderKind) (quantity price : α) : Paper α :=
  match kind with
  | .buy => paper.creditCounter (-cost paper.terms quantity price)
  | .sell => paper.creditBase (-quantity)
  | .shortEnter | .shortExit => paper

/-- Gives back what an order has locked away and not spent. -/
def release (paper : Paper α) (order : OpenOrder α) : Paper α :=
  match order.kind with
  | .buy => paper.creditCounter (cost paper.terms order.quantity order.price)
  | .sell => paper.creditBase order.quantity
  | .shortEnter | .shortExit => paper

/-- Submits an order: checks it, locks its funds and puts it on the book. -/
def submit (paper : Paper α) (kind : OrderKind) (quantity price : α) :
    Except (PaperError α) (OrderId × Paper α) := do
  paper.checkOrder kind quantity price
  return (paper.lock kind quantity price).insertOpenOrder kind quantity price

/--
Takes an order off the book. Answers `false` for an order that is not on it, and
once for each cancel that was set to be refused.
-/
def withdraw (paper : Paper α) (id : OrderId) : Bool × Paper α :=
  if 0 < paper.failingCancels then
    (false, { paper with failingCancels := paper.failingCancels - 1 })
  else
    match paper.orders.find? fun order => order.id = id with
    | none => (false, paper)
    | some order =>
      let released := paper.release order
      (true, { released with
        orders := paper.orders.eraseP fun order => order.id = id
        failingCalls := paper.failingCalls + paper.failingAfterCancel
        failingAfterCancel := 0 })

/-! ## Calls -/

/-- A call of a paper venue. -/
abbrev CallM (α : Type) := ExceptT (PaperError α) (StateM (Paper α))

omit [Arithmetic α] in
/-- Breaks off a call that was set to fail. -/
def connect : CallM α Unit := do
  let paper ← get
  if 0 < paper.failingCalls then
    set { paper with failingCalls := paper.failingCalls - 1 }
    throw .connectionReset

omit [Arithmetic α] in
/-- Connects for one market, which must be the one that is traded here. -/
def connectFor (market : Market) : CallM α Unit := do
  connect
  if market.id ≠ (← get).terms.market.id then throw (.unknownMarket market.id)

omit [Arithmetic α] in
/-- The latest ticker. -/
def callTicker (market : Market) : CallM α (Ticker α) := do
  connectFor market
  match (← get).ticker with
  | some ticker => return ticker
  | none => throw .noTicker

omit [Arithmetic α] in
/-- The orders on the book. -/
def callOpenOrders (market : Market) : CallM α (List (OpenOrder α)) := do
  connectFor market
  return (← get).orders

/-- Submits an order. -/
def callCreateOrder (market : Market) (kind : OrderKind) (quantity price : α) :
    CallM α OrderId := do
  connectFor market
  match (← get).submit kind quantity price with
  | .error error => throw error
  | .ok (id, paper) =>
    set paper
    return id

/-- Takes an order off the book. -/
def callCancelOrder (market : Market) (id : OrderId) : CallM α Bool := do
  connectFor market
  let (cancelled, paper) := (← get).withdraw id
  set paper
  return cancelled

/-- The balance in a currency. -/
def callAvailableBalance (currency : String) : CallM α α := do
  connect
  return (← get).balance currency

omit [Arithmetic α] in
/-- A term of the venue. -/
def callTerm (term : PaperTerms α → α) (market : Market) : CallM α α := do
  connectFor market
  return term (← get).terms

end Paper

/-! ## As a venue -/

/-- The error that a trader sees. -/
def PaperError.toVenueError : PaperError → VenueError
  | connectionReset => .network "simulated connection reset"
  | noTicker => .network "no ticker published yet"
  | unknownMarket id => .tradingApi s!"unknown market {id}"
  | invalidPrice price => .tradingApi s!"invalid price {Decimal.message price}"
  | belowMinimum quantity minimum =>
    .tradingApi s!"volume {Decimal.message quantity} below minimum {Decimal.message minimum}"
  | insufficientFunds => .tradingApi "insufficient funds"

namespace Paper

/-- A call with its error as a trader sees it. -/
def visible {β : Type} (call : CallM Float β) : VenueM Paper β :=
  call.adapt PaperError.toVenueError

/-- The paper venue, reckoning in doubles. -/
def venue : Venue Paper where
  ticker market := visible (callTicker market)
  openOrders market := visible (callOpenOrders market)
  createOrder market kind quantity price := visible (callCreateOrder market kind quantity price)
  cancelOrder market id := visible (callCancelOrder market id)
  availableBalance currency := visible (callAvailableBalance currency)
  minimumOrderVolume market := visible (callTerm (·.minimumVolume) market)
  buyFee market := visible (callTerm (·.fees.buy) market)
  sellFee market := visible (callTerm (·.fees.sell) market)

end Paper

end SwingTrader
