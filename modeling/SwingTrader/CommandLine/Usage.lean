/-!
# SwingTrader — what the command line says of itself

* `HelpTopic` — what help can be asked for;
* `HelpTopic.text` — the help.
-/

namespace SwingTrader.CommandLine

/-- What help can be asked for. -/
inductive HelpTopic where
  | program
  | checkConfig
  | replay
  | help
  deriving DecidableEq, Repr

namespace HelpTopic

/-- The commands by name. -/
def ofName? : String → Option HelpTopic
  | "check-config" => some checkConfig
  | "replay" => some replay
  | "help" => some help
  | _ => none

/-- The lines of a topic. -/
def lines : HelpTopic → List String
  | program =>
    ["Pivotrail: pivot entries and trailing-stop exits for one market",
      "",
      "Usage: pivotrail <COMMAND>",
      "",
      "Commands:",
      "  check-config  Parse and validate a strategy config file",
      "  replay        Replay tickers from CSV (timestamp,last,ask,bid) against a paper exchange",
      "  help          Print this message or the help of the given subcommand(s)",
      "",
      "Options:",
      "  -h, --help  Print help"]
  | checkConfig =>
    ["Parse and validate a strategy config file",
      "",
      "Usage: pivotrail check-config --config <CONFIG>",
      "",
      "Options:",
      "      --config <CONFIG>  Path to the strategy TOML file",
      "  -h, --help             Print help"]
  | replay =>
    ["Replay tickers from CSV (timestamp,last,ask,bid) against a paper exchange",
      "",
      "Usage: pivotrail replay [OPTIONS] --config <CONFIG> --bars <BARS> --market <MARKET>",
      "",
      "Options:",
      "      --config <CONFIG>          Path to the strategy TOML file",
      "      --bars <BARS>              CSV file with one ticker per row",
      "      --market <MARKET>          Market as BASE-COUNTER, e.g. BTC-EUR",
      "      --balance <BALANCE>        Starting counter-currency balance [default: 1000]",
      "      --fee <FEE>                Fee per side as a fraction (0.001 = 0.1 %) [default: 0.001]",
      "      --min-volume <MIN_VOLUME>  Minimum order volume in base currency [default: 0.0001]",
      "      --ticker-log <TICKER_LOG>  "
        ++ "Where replayed tickers go when persist-ticker-data is set [default: ticker-data.csv]",
      "      --output <OUTPUT>          Optional JSON report of closed trades and final balances",
      "  -h, --help                     Print help"]
  | help =>
    ["Print this message or the help of the given subcommand(s)",
      "",
      "Usage: pivotrail help [COMMAND]...",
      "",
      "Arguments:",
      "  [COMMAND]...  Print help for the subcommand(s)"]

/-- The text of a topic. -/
def text (topic : HelpTopic) : String :=
  String.join (topic.lines.map (· ++ "\n"))

end HelpTopic

end SwingTrader.CommandLine
