import SwingTrader.Arithmetic

/-!
# SwingTrader — the size of an entry

An entry spends a share of the counter balance, is raised to the least volume
the venue takes, and is left out when too little would remain.

* `entryAmount` — the share, in base currency;
* `permittedAmount` — the amount to order, if any.
-/

namespace SwingTrader

/-- The base currency that a percentage of the counter balance buys. -/
def entryAmount (counterBalance percentage price : Float) : Float :=
  counterBalance * percentage / 100.0 / price

/--
An amount raised to the minimum volume. None is permitted when it is not finite,
or when less than the emergency stop would remain of the counter balance once
the order and its fee are paid.
-/
def permittedAmount (amount minimum price fee counterBalance emergencyStop : Float) :
    Option Float :=
  let amount := if amount < minimum then minimum else amount
  let remaining := counterBalance - amount * price * (1.0 + fee)
  if !amount.isFinite || remaining < emergencyStop then none else some amount

end SwingTrader
