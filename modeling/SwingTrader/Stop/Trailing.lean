import SwingTrader.Order

/-!
# SwingTrader — the trailing stop

A stop trails the best close of a position at a distance. Far above break-even
it stays close behind, and as long as break-even is out of reach it follows the
last close instead. For a short, above and below change places.

* `StopDistances` — the three distances, as fractions of a price;
* `trailingStopPrice` — the stop of one moment. It may be below the one of the
  moment before; that it never moves back is up to `Ratchet`.
-/

namespace SwingTrader

/--
How far the stop stays away: from the last close while break-even is out of
reach, from the best close afterwards, and at the least from break-even.
-/
structure StopDistances where
  below : Float
  above : Float
  minimum : Float

/--
The stop price of a position. `extreme` is the highest close since the entry of
a long, and the lowest since the entry of a short. The stop locks in break-even
once it can be put there at the minimum distance from both.
-/
def trailingStopPrice (side : Side) (breakEven extreme lastClose : Float)
    (distances : StopDistances) : Float :=
  match side with
  | .long =>
    let floor :=
      minNumber (breakEven / (1.0 - distances.minimum)) (extreme * (1.0 - distances.minimum))
    if breakEven ≤ floor then maxNumber floor (extreme * (1.0 - distances.above))
    else lastClose * (1.0 - distances.below)
  | .short =>
    let ceiling :=
      maxNumber (breakEven / (1.0 + distances.minimum)) (extreme * (1.0 + distances.minimum))
    if ceiling ≤ breakEven then minNumber ceiling (extreme * (1.0 + distances.above))
    else lastClose * (1.0 + distances.below)

end SwingTrader
