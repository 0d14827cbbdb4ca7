import SwingTrader.Config.Reader
import SwingTrader.Session
import SwingTrader.Strategy.Rebound
import SwingTrader.Venue.Paper

/-!
# SwingTrader — replays

A replay trades by the rebound strategy at a paper venue, at which the rows of a
file are published as tickers, one for each tick of the session.

* `ReplayTerms` — what a replay is run with;
* `Replay.tick` — one row;
* `Replay.run` — all rows, up to the first that is bad or fails for good.
-/

namespace SwingTrader

/-- What a replay is run with: a valid configuration, and the terms of the paper venue. -/
structure ReplayTerms where
  market : Market
  config : StrategyConfig
  valid : config.validate = .ok ()
  balance : Float
  fee : Float
  minimumVolume : Float

namespace ReplayTerms

/-- The strategy, which reckons with the fee of the venue on both sides. -/
def rule (terms : ReplayTerms) : Rebound :=
  .ofConfig terms.config (StrategyConfig.lookback_pos_of_validate terms.valid)
    ⟨terms.fee, terms.fee⟩ Session.ledger

/-- The paper venue, at which nothing but the counter balance is held. -/
def venue (terms : ReplayTerms) : Paper :=
  (Paper.new terms.market terms.fee terms.minimumVolume Paper.usualTolerance).setBalance
    terms.market.counter terms.balance

end ReplayTerms

/-- A replay under way. -/
abbrev Replay (terms : ReplayTerms) := Session Paper terms.rule.Memory

/-- Why a replay ended early. Rows are counted as lines of the file, the header being the first. -/
inductive ReplayError where
  | badRow (row : Nat)
  | fatal (row : Nat) (error : TradingError)

/-- A replay that has ended, and the tickers that were published in it. -/
structure Replayed (terms : ReplayTerms) where
  session : Replay terms
  tickers : List Ticker
  failure : Option ReplayError := none

namespace Replay

variable {terms : ReplayTerms}

/-- The replay before its first row. -/
def start (terms : ReplayTerms) : Replay terms :=
  Session.start terms.market terms.config terms.venue {}

/-- Publishes a ticker at the venue. -/
def publish (replay : Replay terms) (ticker : Ticker) : Replay terms :=
  { replay with desk := { replay.desk with venue := replay.desk.venue.setTicker ticker } }

/-- Publishes a ticker and runs the session for one tick. -/
def tick (replay : Replay terms) (ticker : Ticker) :
    Except TradingError (Option ClosedTrade) × Replay terms :=
  Session.onTick Paper.venue terms.rule.strategy (replay.publish ticker)

/--
Goes through the rows from a given one on. A failure that is worth another try is passed
over.
-/
def runFrom (replay : Replay terms) (row : Nat) : List (Option Ticker) → Replayed terms
  | [] => { session := replay, tickers := [] }
  | none :: _ => { session := replay, tickers := [], failure := some (.badRow row) }
  | some ticker :: rest =>
    let (answer, next) := replay.tick ticker
    let goOn : Replayed terms :=
      let ended := runFrom next (row + 1) rest
      { ended with tickers := ticker :: ended.tickers }
    match answer with
    | .ok _ => goOn
    | .error error =>
      if error.isRetryable then goOn
      else { session := next, tickers := [ticker], failure := some (.fatal row error) }

/-- The row below the header. -/
def firstRow : Nat := 2

/-- Replays the rows of a file. -/
def run (terms : ReplayTerms) (rows : List (Option Ticker)) : Replayed terms :=
  runFrom (start terms) firstRow rows

end Replay

end SwingTrader
