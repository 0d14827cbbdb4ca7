import SwingTrader.Venue.Basic

/-!
# SwingTrader — the journal of a venue

Any venue can be watched: the watched venue answers as the venue itself does,
and writes down every call with its answer.

* `VenueCall` — a call and its answer, with `VenueCall.line` as its line in a journal;
* `Venue.journaled` — the watched venue.
-/

namespace SwingTrader

/-- What a venue answered. -/
abbrev Answer (α : Type) := Except VenueError α

/-- A call of a venue and its answer. -/
inductive VenueCall where
  | ticker (market : Market) (answer : Answer Ticker)
  | openOrders (market : Market) (answer : Answer (List OpenOrder))
  | createOrder (market : Market) (kind : OrderKind) (quantity price : Float)
      (answer : Answer OrderId)
  | cancelOrder (market : Market) (id : OrderId) (answer : Answer Bool)
  | availableBalance (currency : String) (answer : Answer Float)
  | minimumOrderVolume (market : Market) (answer : Answer Float)
  | buyFee (market : Market) (answer : Answer Float)
  | sellFee (market : Market) (answer : Answer Float)

namespace VenueCall

/-- Which call was made. -/
def method : VenueCall → VenueMethod
  | ticker .. => .ticker
  | openOrders .. => .openOrders
  | createOrder .. => .createOrder
  | cancelOrder .. => .cancelOrder
  | availableBalance .. => .availableBalance
  | minimumOrderVolume .. => .minimumOrderVolume
  | buyFee .. => .buyFee
  | sellFee .. => .sellFee

/-- What the call was made for, where that is more than the market. -/
def subject? : VenueCall → Option String
  | createOrder _ kind .. => some kind.label
  | cancelOrder _ id _ => some id.text
  | availableBalance currency _ => some currency
  | _ => none

/-- The line of a call in a journal. -/
def line (call : VenueCall) : String :=
  match call.subject? with
  | some subject => call.method.name ++ " " ++ subject
  | none => call.method.name

end VenueCall

/-- A venue and the calls it has had, newest first. -/
structure Journaled (σ : Type) where
  venue : σ
  calls : List VenueCall := []

namespace Venue

variable {σ α : Type}

/-- Makes a call and writes it down. -/
def journal (describe : Answer α → VenueCall) (call : VenueM σ α) : VenueM (Journaled σ) α :=
  fun state =>
    let (answer, venue) := call.run state.venue
    (answer, { venue, calls := describe answer :: state.calls })

/-- A venue that writes down every call. -/
def journaled (venue : Venue σ) : Venue (Journaled σ) where
  ticker market := journal (.ticker market) (venue.ticker market)
  openOrders market := journal (.openOrders market) (venue.openOrders market)
  createOrder market kind quantity price :=
    journal (.createOrder market kind quantity price) (venue.createOrder market kind quantity price)
  cancelOrder market id := journal (.cancelOrder market id) (venue.cancelOrder market id)
  availableBalance currency :=
    journal (.availableBalance currency) (venue.availableBalance currency)
  minimumOrderVolume market :=
    journal (.minimumOrderVolume market) (venue.minimumOrderVolume market)
  buyFee market := journal (.buyFee market) (venue.buyFee market)
  sellFee market := journal (.sellFee market) (venue.sellFee market)

end Venue

end SwingTrader
