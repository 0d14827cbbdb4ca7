import SwingTrader.Strategy.Basic
import SwingTrader.Tracker.Exit

/-!
# SwingTrader — trading sessions

A session trades one market by one strategy. On every tick it takes in a ticker
as a bar and has the strategy executed once.

* `Session.start` — the session that has had no tick;
* `Session.onTick` — one tick. When the ticker cannot be had, the session stays
  as it was; whatever fails later, the bar has been taken in.
-/

namespace SwingTrader

/-- The desk of one market, and the trades closed so far, oldest first. -/
structure Session (σ κ : Type) (τ : Type := Option Stage) where
  desk : Desk σ κ τ
  closedTrades : List ClosedTrade := []

namespace Session

variable {σ κ τ : Type}

/-- The phase of the session, once its tracker has looked at the venue. -/
def phase? (session : Session σ κ) : Option Phase :=
  session.desk.tracker.stage.map Stage.phase

/-- The number of ticks so far. -/
def ticks (session : Session σ κ τ) : Nat :=
  session.desk.tick

variable [TrackerForm τ]

/-- The ledger of a session's tracker. -/
def ledger : LedgerId := ⟨0⟩

/-- The session of a market that has had no tick. -/
def start (market : Market) (config : StrategyConfig) (venue : σ) (rules : κ) :
    Session σ κ τ where
  desk :=
    .open
      { market
        ledger
        balancePercentage := config.balancePercentage
        emergencyStop := config.emergencyStop
        limits := config.limits }
      venue rules

/-- Takes in a ticker and executes the strategy. -/
def tick (venue : Venue σ) (strategy : Strategy κ) : TradeM σ κ τ (Option ClosedTrade) := do
  let _ ← Desk.update venue
  modify fun desk => { desk with tick := desk.tick + 1 }
  strategy.execute venue

/-- One tick of a session; answers the trade it closed, if any. -/
def onTick (venue : Venue σ) (strategy : Strategy κ) (session : Session σ κ τ) :
    Except TradingError (Option ClosedTrade) × Session σ κ τ :=
  let (answer, desk) := (tick venue strategy).run session.desk
  let closed := match answer with
    | .ok (some trade) => [trade]
    | _ => []
  (answer, { desk, closedTrades := session.closedTrades ++ closed })

end Session

end SwingTrader
