import SwingTrader.Bar
import SwingTrader.Market

/-!
# SwingTrader — the price feed of a market

A feed turns each ticker of its market into a bar: the last price is where the
bar opens and closes, the ask is its high and the bid its low, and it lasts from
the end of the bar before it to the time of the ticker.

* `Ticker` — the top of an order book;
* `PriceFeed.record` — takes in a ticker, or refuses it and stays as it was.
-/

namespace SwingTrader

/-- The last trade and the best offers of an order book. -/
structure Ticker (α : Type := Float) where
  last : α
  ask : α
  bid : α
  time : Instant

/-- The bars of one market and the ticker that the newest of them was made from. -/
structure PriceFeed where
  market : Market
  bars : BarSeries := .empty
  ticker : Option Ticker := none

namespace PriceFeed

/--
The bar of a ticker. It starts where the newest bar ends; a ticker from before
that end would make a bar of no length, which the series refuses.
-/
def barOf (feed : PriceFeed) (ticker : Ticker) : Bar where
  start := match feed.bars.last? with
    | some last => if last.stop ≤ ticker.time then last.stop else ticker.time
    | none => ticker.time
  stop := ticker.time
  opening := ticker.last
  high := ticker.ask
  low := ticker.bid
  close := ticker.last

/-- Appends the bar of a ticker and keeps the ticker. -/
def record (feed : PriceFeed) (ticker : Ticker) : Except BarError PriceFeed := do
  let bars ← feed.bars.push (feed.barOf ticker)
  return { feed with bars, ticker := some ticker }

/-- The place of the newest bar. -/
def lastIndex? (feed : PriceFeed) : Option Nat :=
  feed.bars.lastIndex?

/-- The last price of the newest ticker. -/
def lastPrice? (feed : PriceFeed) : Option Float :=
  feed.ticker.map (·.last)

end PriceFeed

end SwingTrader
