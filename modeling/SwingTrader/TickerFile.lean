import SwingTrader.Csv
import SwingTrader.Decimal.Layout
import SwingTrader.Decimal.Reader
import SwingTrader.Instant.Reader
import SwingTrader.PriceFeed

/-!
# SwingTrader — files of tickers

Tickers are kept as comma-separated values, one to a row, under a header that
names the columns. The columns may stand in any order and among others; every
row must have as many fields as the header.

* `TickerFile.rows` — the tickers of a file, with a gap for each bad row;
* `TickerFile.text` — the file of a list of tickers.
-/

namespace SwingTrader.TickerFile

/-- The columns of a ticker. -/
def columns : List String :=
  ["timestamp", "last", "ask", "bid"]

/-- What a row has under the one column of a name. -/
def field? (header row : List String) (name : String) : Option String :=
  match (header.zip row).filter fun cell => cell.1 = name with
  | [cell] => some cell.2
  | _ => none

/-- The ticker of a row. -/
def ticker? (header row : List String) : Option Ticker := do
  if header.length ≠ row.length then none
  let number (name : String) := (field? header row name).bind Decimal.read?
  return {
    time := ← (field? header row "timestamp").bind Instant.parse?
    last := ← number "last"
    ask := ← number "ask"
    bid := ← number "bid" }

/-- The rows below the header, with nothing in place of those that hold no ticker. -/
def rows (text : String) : List (Option Ticker) :=
  match Csv.records text with
  | [] => []
  | header :: rows => rows.map (ticker? header)

/-- The row of a ticker. -/
def row (ticker : Ticker) : String :=
  Csv.line
    [ticker.time.internetText, Decimal.file ticker.last, Decimal.file ticker.ask,
      Decimal.file ticker.bid]

/-- The file of a list of tickers. One without tickers has no header either. -/
def text (tickers : List Ticker) : String :=
  if tickers.isEmpty then "" else Csv.line columns ++ String.join (tickers.map row)

end SwingTrader.TickerFile
