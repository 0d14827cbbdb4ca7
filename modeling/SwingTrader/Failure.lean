import SwingTrader.Bar
import SwingTrader.Ledger
import SwingTrader.Pivot.Detector
import SwingTrader.Tracker.Phase
import SwingTrader.Venue.Basic

/-!
# SwingTrader — how a tick fails

A tick fails because the venue did, or because the trader's own rules were
broken. A balance that is too small is no failure.

* `StrategyError` — the broken rules, those of parts included;
* `TradingError` — everything a tick can fail with.
-/

namespace SwingTrader

/-- A rule of the trader that was broken. -/
inductive StrategyError where
  | wrongState (operation : String) (expected actual : Phase)
  | orderAlreadyHeld
  | noOrderHeld
  | ambiguousResume (openOrders : Nat)
  | ledger (error : LedgerError)
  | reversal (error : PivotError)
  | bar (error : BarError)
  | noMarketData
  deriving DecidableEq, Repr

/-- The text of the error. -/
def StrategyError.message : StrategyError → String
  | wrongState operation expected actual =>
    s!"{operation} requires state {expected.label}, tracker is in {actual.label}"
  | orderAlreadyHeld => "an order is already held for this phase"
  | noOrderHeld => "no order is held for this phase"
  | ambiguousResume openOrders => s!"cannot resume with {openOrders} open orders on the market"
  | ledger error => "ledger error: " ++ error.message
  | reversal error => "pivot detection error: " ++ error.message
  | bar error => "bar error: " ++ error.message
  | noMarketData => "no market data received yet"

/-- Everything a tick can fail with. -/
inductive TradingError where
  | venue (error : VenueError)
  | strategy (error : StrategyError)
  deriving DecidableEq, Repr

namespace TradingError

/-- The text of the error. -/
def message : TradingError → String
  | venue error => error.message
  | strategy error => "strategy error: " ++ error.message

/-- Only a broken connection is worth another try on the next tick. -/
def isRetryable : TradingError → Bool
  | venue error => error.isRetryable
  | strategy _ => false

/-- A refused ledger event fails the tick. -/
def ofLedger (error : LedgerError) : TradingError :=
  strategy (.ledger error)

/-- A refused bar fails the tick. -/
def ofBar (error : BarError) : TradingError :=
  strategy (.bar error)

end TradingError

end SwingTrader
