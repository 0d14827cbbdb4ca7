import SwingTrader.CommandLine.Arguments
import SwingTrader.CommandLine.Files
import SwingTrader.Report
import SwingTrader.TickerFile

/-!
# SwingTrader — the program

The program checks a configuration, or replays a file of tickers. What it prints
is gathered in its outcome; the files it is given decide what effects reading and
writing have.

* `Failure` — why the program fails, in one or two lines;
* `Program.run` — the program for a list of arguments.
-/

namespace SwingTrader.CommandLine

/-- Why the program fails, and what that comes from, where it can be said in its own words. -/
structure Failure where
  reason : String
  cause : Option String := none

/-- What the program prints, and whether it fails; `refused` when its arguments are at fault. -/
inductive Outcome where
  | done (output : String)
  | failed (output : String) (failure : Failure)
  | refused

/-- The exit code. -/
def Outcome.exitCode : Outcome → Nat
  | done _ => 0
  | failed .. => 1
  | refused => 2

/-- What is printed. -/
def Outcome.output : Outcome → String
  | done output | failed output _ => output
  | refused => ""

namespace Failure

/-- A file that cannot be used in some way. -/
def ofFile (action path : String) (error : FileError) : Failure where
  reason := action ++ " " ++ path
  cause := some error.message

/-- A configuration that cannot be read. -/
def unreadableConfig (path : String) (error : FileError) : Failure where
  reason := "invalid config " ++ path
  cause := some ("failed to read " ++ path ++ ": " ++ error.message)

/-- A configuration that is none. -/
def invalidConfig (path : String) (error : ConfigFileError) : Failure where
  reason := "invalid config " ++ path
  cause := match error with
    | .malformed => none
    | .invalid error => some error.message

/-- A replay that ended early. -/
def ofReplay : ReplayError → Failure
  | .badRow row => { reason := s!"bad ticker row {row}" }
  | .fatal row error => { reason := s!"fatal error at row {row}", cause := some error.message }

end Failure

namespace Program

variable {m : Type → Type} [Monad m]

/-- A step of the program, which may end it. -/
abbrev Step (m : Type → Type) := ExceptT Failure m

/-- Reads a file, or fails in a given way. -/
def readFile (files : Files m) (path : String) (failure : FileError → Failure) :
    Step m String := do
  match ← (files.read path : m _) with
  | .ok text => return text
  | .error error => throw (failure error)

/-- Writes a file, or fails in a given way. -/
def writeFile (files : Files m) (path text : String) (failure : FileError → Failure) :
    Step m Unit := do
  match ← (files.write path text : m _) with
  | .ok () => return ()
  | .error error => throw (failure error)

/-- Reads a valid configuration. -/
def loadConfig (files : Files m) (path : String) :
    Step m { config : StrategyConfig // config.validate = .ok () } := do
  match StrategyConfig.readValid (← readFile files path (.unreadableConfig path)) with
  | .ok config => return config
  | .error error => throw (.invalidConfig path error)

/-- The lines about a configuration that is valid. -/
def configSummary (path : String) (config : StrategyConfig) : String :=
  String.join
    ["Config OK: ", path, "\n",
      "  balance to use:        ", Decimal.message config.balancePercentage, "%\n",
      "  emergency stop:        ", Decimal.message config.emergencyStop, "\n",
      "  stop below/above/min:  ", Decimal.message config.stopBelow, "% / ",
      Decimal.message config.stopAbove, "% / ", Decimal.message config.stopMinimum, "%\n",
      "  lookback / times above: ", toString config.lookback, " / ",
        toString config.timesAbove, "\n",
      "  persist ticker data:   ", toString config.persistTickers, "\n"]

/-- Checks a configuration. -/
def checkConfig (files : Files m) (path : String) : Step m String := do
  return configSummary path (← loadConfig files path)

/-- Reads the market that is named. -/
def loadMarket (name : String) : Step m Market :=
  match Market.parse name with
  | .ok market => return market
  | .error error => throw { reason := error.message }

/-- The rows of a file of tickers. A folder can be opened too, and has no rows. -/
def loadRows (files : Files m) (path : String) : Step m (List (Option Ticker)) := do
  match ← (files.read path : m _) with
  | .ok text => return TickerFile.rows text
  | .error .isADirectory => return []
  | .error error => throw (.ofFile "cannot open" path error)

/--
Replays a file of tickers up to its end or the first failure. The log of tickers
is emptied before the first row is read, and written whatever happens to the rows.
-/
def replayRows (files : Files m) (options : ReplayOptions) : Step m (Sigma Replayed) := do
  let ⟨config, valid⟩ ← loadConfig files options.config
  let market ← loadMarket options.market
  let { bars, balance, fee, minimumVolume, tickerLog, .. } := options
  let log (tickers : List Ticker) : Step m Unit := do
    if config.persistTickers then
      writeFile files tickerLog (TickerFile.text tickers) (.ofFile "cannot create" tickerLog)
  -- A file that cannot be opened is noticed before the log is touched.
  let _ ← loadRows files bars
  log []
  -- The log may be the very file that is replayed, which is then empty.
  let rows ← loadRows files bars
  let replayed := Replay.run { market, config, valid, balance, fee, minimumVolume } rows
  log replayed.tickers
  return ⟨_, replayed⟩

/-- Writes the report of a replay and answers the lines about it. -/
def saveReport (files : Files m) (options : ReplayOptions) (report : Report) : Step m String := do
  match options.output with
  | none => return ""
  | some path =>
    writeFile files path report.document (.ofFile "cannot write" path)
    return "Report saved to: " ++ path ++ "\n"

/-- Replays a file of tickers. The trades closed are printed even when the replay fails. -/
def replay (files : Files m) (options : ReplayOptions) : m Outcome := do
  match ← (replayRows files options).run with
  | .error failure => return .failed "" failure
  | .ok ⟨_, replayed⟩ =>
    let report := Report.ofReplay replayed.session
    let trades := String.join (report.trades.map ClosedTrade.line)
    match replayed.failure with
    | some error => return .failed trades (.ofReplay error)
    | none =>
      let output := trades ++ report.summary
      match ← (saveReport files options report).run with
      | .ok saved => return .done (output ++ saved)
      | .error failure => return .failed output failure

/-- The program for a list of arguments. -/
def run (files : Files m) (arguments : List String) : m Outcome := do
  match Invocation.parse arguments with
  | .refused => return .refused
  | .help topic => return .done topic.text
  | .run (.checkConfig path) =>
    match ← (checkConfig files path).run with
    | .ok output => return .done output
    | .error failure => return .failed "" failure
  | .run (.replay options) => replay files options

end Program

end SwingTrader.CommandLine
