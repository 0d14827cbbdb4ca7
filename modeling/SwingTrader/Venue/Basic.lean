import SwingTrader.Order
import SwingTrader.PriceFeed

/-!
# SwingTrader — venues

A venue is where orders are traded. The trader knows it only by the eight calls
of `Venue`, each of which may change what the venue remembers, answer anything,
and fail. A failure of the connection may be tried again on the next tick; a
refusal is final.

* `VenueError` — the two ways a call fails;
* `VenueMethod` — the calls by name;
* `Venue` — the calls, over whatever state the venue keeps.
-/

namespace SwingTrader

/-- Why a call failed: the connection broke, or the venue refused or answered nonsense. -/
inductive VenueError where
  | network (reason : String)
  | tradingApi (reason : String)
  deriving DecidableEq, Repr

namespace VenueError

/-- The text of the error. -/
def message : VenueError → String
  | network reason => "network error: " ++ reason
  | tradingApi reason => "trading API error: " ++ reason

/-- Only a broken connection is worth another try. -/
def isRetryable : VenueError → Bool
  | network _ => true
  | tradingApi _ => false

end VenueError

/-- The calls of a venue. -/
inductive VenueMethod where
  | ticker
  | openOrders
  | createOrder
  | cancelOrder
  | availableBalance
  | minimumOrderVolume
  | buyFee
  | sellFee
  deriving DecidableEq, Repr

namespace VenueMethod

/-- The name of a call. -/
def name : VenueMethod → String
  | ticker => "ticker"
  | openOrders => "open_orders"
  | createOrder => "create_order"
  | cancelOrder => "cancel_order"
  | availableBalance => "available_balance"
  | minimumOrderVolume => "minimum_order_volume"
  | buyFee => "buy_fee_percentage"
  | sellFee => "sell_fee_percentage"

/-- Every call. -/
def all : List VenueMethod :=
  [ticker, openOrders, createOrder, cancelOrder, availableBalance, minimumOrderVolume, buyFee,
    sellFee]

/-- The call of a name. -/
def ofName? (name : String) : Option VenueMethod :=
  all.find? fun method => method.name == name

/-- Every method is found by its name. -/
theorem ofName?_name (method : VenueMethod) : ofName? method.name = some method := by
  cases method <;> rfl

end VenueMethod

/-- A call of a venue that keeps a state `σ`; the state changes even when the call fails. -/
abbrev VenueM (σ : Type) := ExceptT VenueError (StateM σ)

/--
The calls of a venue. Fees are fractions of the amount traded. A cancel answers
`false` when it is refused; the order may then have been filled already.
-/
structure Venue (σ : Type) where
  ticker : Market → VenueM σ Ticker
  openOrders : Market → VenueM σ (List OpenOrder)
  createOrder : Market → OrderKind → (quantity price : Float) → VenueM σ OrderId
  cancelOrder : Market → OrderId → VenueM σ Bool
  availableBalance : (currency : String) → VenueM σ Float
  minimumOrderVolume : Market → VenueM σ Float
  buyFee : Market → VenueM σ Float
  sellFee : Market → VenueM σ Float

end SwingTrader
