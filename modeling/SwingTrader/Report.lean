import SwingTrader.JsonText
import SwingTrader.Replay

/-!
# SwingTrader — the report of a replay

* `Report` — what a replay came to;
* `Report.summary` — the report as lines for people;
* `Report.document` — the report as a JSON document.
-/

namespace SwingTrader

/-- The line of a closed trade. -/
def ClosedTrade.line (trade : ClosedTrade) : String :=
  let column (places : Nat) (x : Float) := Decimal.rightAligned 12 (Decimal.fixed places x)
  let gain := Decimal.rightAligned 12 (Decimal.fixed 4 trade.gain .always)
  Decimal.leftAligned 6 trade.side.label ++ " entry " ++ column 4 trade.entryPrice
    ++ " exit " ++ column 4 trade.exitPrice ++ " qty " ++ column 6 trade.quantity
    ++ " gain " ++ gain ++ "\n"

/-- What a replay came to. -/
structure Report where
  market : Market
  ticks : Nat
  trades : List ClosedTrade
  counterBalance : Float
  baseBalance : Float
  phase : Option Phase

namespace Report

/-- The report of a session at a paper venue. -/
def ofReplay {terms : ReplayTerms} (session : Replay terms) : Report where
  market := terms.market
  ticks := session.ticks
  trades := session.closedTrades
  counterBalance := session.desk.venue.balance terms.market.counter
  baseBalance := session.desk.venue.balance terms.market.base
  phase := session.phase?

/-- The gain of all trades. Negative zero is the sum of none. -/
def totalGain (report : Report) : Float :=
  report.trades.foldl (fun sum trade => sum + trade.gain) (-0.0)

/-- The report in lines, after an empty one. -/
def summary (report : Report) : String :=
  String.join
    ["\n",
      "Market:          ", report.market.id, "\n",
      "Ticks:           ", toString report.ticks, "\n",
      "Closed trades:   ", toString report.trades.length, "\n",
      "Total gain:      ", Decimal.fixed 4 report.totalGain .always, "\n",
      "Counter balance: ", Decimal.fixed 4 report.counterBalance, "\n",
      "Base balance:    ", Decimal.fixed 8 report.baseBalance, "\n",
      "Final state:     ", (report.phase.map Phase.label).getD "(not resumed)", "\n"]

/-- A trade in a document. -/
def tradeValue (trade : ClosedTrade) : JsonValue :=
  .object
    [("enter_type", .text trade.side.name),
      ("entry_price", .number trade.entryPrice),
      ("exit_price", .number trade.exitPrice),
      ("quantity", .number trade.quantity),
      ("gain", .number trade.gain)]

/-- The report as a document. -/
def document (report : Report) : String :=
  JsonValue.pretty <|
    .object
      [("market", .text report.market.id),
        ("ticks", .count report.ticks),
        ("trades", .list (report.trades.map tradeValue)),
        ("total_gain", .number report.totalGain),
        ("counter_balance", .number report.counterBalance),
        ("base_balance", .number report.baseBalance)]

end Report

end SwingTrader
