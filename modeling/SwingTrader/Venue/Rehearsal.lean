import SwingTrader.Venue.Basic

/-!
# SwingTrader — rehearsing failures

A rehearsed venue fails calls by a script: the first line of the script that
names a call is struck out and its error is the answer, and the venue behind it
never hears of that call. A rehearsal may also ask for other fees than the venue
charges.

* `Rehearsal` — a venue with a script;
* `Venue.rehearsed` — the venue that follows the script.
-/

namespace SwingTrader

/-- A venue, the failures to come, and the fees to answer instead of the venue's own. -/
structure Rehearsal (σ : Type) where
  venue : σ
  failures : List (VenueMethod × VenueError) := []
  buyFee : Option Float := none
  sellFee : Option Float := none

namespace Venue

variable {σ α : Type}

/-- Fails a call that the script names, and otherwise makes it. -/
def rehearse (method : VenueMethod) (call : VenueM σ α) : VenueM (Rehearsal σ) α := fun state =>
  match state.failures.find? fun failure => failure.1 = method with
  | some (_, error) =>
    (.error error,
      { state with failures := state.failures.eraseP fun failure => failure.1 = method })
  | none =>
    let (answer, venue) := call.run state.venue
    (answer, { state with venue })

/-- A fee, or the one that the rehearsal asks for. -/
def rehearseFee (method : VenueMethod) (replacement : Rehearsal σ → Option Float)
    (call : VenueM σ Float) : VenueM (Rehearsal σ) Float := do
  let fee ← rehearse method call
  return (replacement (← get)).getD fee

/-- A venue that follows a script. -/
def rehearsed (venue : Venue σ) : Venue (Rehearsal σ) where
  ticker market := rehearse .ticker (venue.ticker market)
  openOrders market := rehearse .openOrders (venue.openOrders market)
  createOrder market kind quantity price :=
    rehearse .createOrder (venue.createOrder market kind quantity price)
  cancelOrder market id := rehearse .cancelOrder (venue.cancelOrder market id)
  availableBalance currency := rehearse .availableBalance (venue.availableBalance currency)
  minimumOrderVolume market := rehearse .minimumOrderVolume (venue.minimumOrderVolume market)
  buyFee market := rehearseFee .buyFee (·.buyFee) (venue.buyFee market)
  sellFee market := rehearseFee .sellFee (·.sellFee) (venue.sellFee market)

end Venue

end SwingTrader
