import SwingTrader.Order

/-!
# SwingTrader — fees, break-even and gain

A venue takes a fraction of what is bought and of what is sold. A long buys
first and sells later, a short the other way round, so the same two fees meet a
position in either order.

* `breakEvenPrice` — the exit price at which a position neither gains nor loses;
* `realizedGain` — what a round trip brings in counter currency.
-/

namespace SwingTrader

/-- The fees of a venue, as fractions of the amount traded. -/
structure Fees (α : Type := Float) where
  buy : α
  sell : α

namespace Fees

variable {α : Type}

/-- The fee on opening a position. -/
def enter (fees : Fees α) : Side → α
  | .long => fees.buy
  | .short => fees.sell

/-- The fee on closing a position. -/
def exit (fees : Fees α) : Side → α
  | .long => fees.sell
  | .short => fees.buy

end Fees

variable {α : Type} [Arithmetic α]

/-- The exit price at which both fees are paid back. -/
def breakEvenPrice (entry : α) (side : Side) (enterFee exitFee : α) : α :=
  match side with
  | .long => entry * (1 + enterFee) / (1 - exitFee)
  | .short => entry / (1 + enterFee) * (1 - exitFee)

/-- What comes in from the sale, less what goes out for the purchase. -/
def realizedGain (side : Side) (quantity entry exit : α) (fees : Fees α) : α :=
  match side with
  | .long => quantity * exit * (1 - fees.sell) - quantity * entry * (1 + fees.buy)
  | .short => quantity * entry * (1 - fees.sell) - quantity * exit * (1 + fees.buy)

end SwingTrader
