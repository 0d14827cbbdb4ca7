import SwingTrader.CommandLine.Usage
import SwingTrader.Decimal.Reader

/-!
# SwingTrader — command-line arguments

A command is named first and followed by options, `--name value` or
`--name=value`, each at most once and in any order. A value that begins with a
hyphen must be joined to its option by the equals sign. The arguments are gone
through in order: the first fault refuses them, and a request for help before
any fault is answered.

* `Command` — what the program is to do;
* `Invocation.parse` — the arguments as a whole.
-/

namespace SwingTrader.CommandLine

/-- The options of a replay. -/
structure ReplayOptions where
  config : String
  bars : String
  market : String
  balance : Float
  fee : Float
  minimumVolume : Float
  tickerLog : String
  output : Option String

/-- What the program is to do. -/
inductive Command where
  | checkConfig (config : String)
  | replay (options : ReplayOptions)

/-- What the arguments ask for; nothing, when they are refused. -/
inductive Invocation where
  | run (command : Command)
  | help (topic : HelpTopic)
  | refused

/-! ## Options -/

/-- What may be given as the value of an option. -/
inductive ValueKind where
  /-- Anything but an empty text. -/
  | path
  | text
  | number
  deriving DecidableEq, Repr

/-- Whether a text may be a value. -/
def ValueKind.accepts : ValueKind → String → Bool
  | path, value => !value.isEmpty
  | text, _ => true
  | number, value => (Decimal.read? value).isSome

/-- The options of a command, by name. -/
abbrev OptionTable := List (String × ValueKind)

/-- The options of a configuration check. -/
def checkOptions : OptionTable :=
  [("--config", .path)]

/-- The options of a replay. -/
def replayOptions : OptionTable :=
  [("--config", .path), ("--bars", .path), ("--market", .text), ("--balance", .number),
    ("--fee", .number), ("--min-volume", .number), ("--ticker-log", .path), ("--output", .path)]

/-- The options given, and their values. -/
abbrev Given := List (String × String)

/-- How the options of a command end: all is well, help was asked for, or something is wrong. -/
inductive Scan where
  | done (given : Given)
  | help
  | refused

/-- An argument that begins with a hyphen and more is never taken for a value. -/
def looksLikeOption (argument : String) : Bool :=
  match argument.toList with
  | '-' :: _ :: _ => true
  | _ => false

/-- The name of an option, and its value where an equals sign joins the two. -/
def splitOption (argument : String) : String × Option String :=
  match argument.toList.span (· != '=') with
  | (name, _ :: value) => (String.ofList name, some (String.ofList value))
  | (name, []) => (String.ofList name, none)

/-- Notes an option and its value, if it is known, new, and of its kind. -/
def note? (table : OptionTable) (given : Given) (name value : String) : Option Given := do
  let kind ← table.lookup name
  if (given.lookup name).isSome || !kind.accepts value then none
  else some ((name, value) :: given)

/-- Goes through the options of a command. -/
def scan (table : OptionTable) (given : Given) : List String → Scan
  | [] => .done given
  | argument :: rest =>
    if argument == "--" then if rest.isEmpty then .done given else .refused
    else if argument == "--help" then .help
    else if !looksLikeOption argument then .refused
    else if !argument.startsWith "--" then
      if argument.startsWith "-h" then .help else .refused
    else
      match splitOption argument, rest with
      | (name, some value), rest =>
        match note? table given name value with
        | some given => scan table given rest
        | none => .refused
      | (name, none), value :: rest =>
        if looksLikeOption value then .refused
        else
          match note? table given name value with
          | some given => scan table given rest
          | none => .refused
      | (_, none), [] => .refused

/-! ## Commands -/

/-- The number an option gives, or the one it usually has. -/
def numberOr (given : Given) (name : String) (usual : Float) : Float :=
  ((given.lookup name).bind Decimal.read?).getD usual

/-- A configuration check, if its option is given. -/
def checkCommand? (given : Given) : Option Command :=
  (given.lookup "--config").map .checkConfig

/-- A replay, if the options it cannot do without are given. -/
def replayCommand? (given : Given) : Option Command := do
  return .replay {
    config := ← given.lookup "--config"
    bars := ← given.lookup "--bars"
    market := ← given.lookup "--market"
    balance := numberOr given "--balance" 1000.0
    fee := numberOr given "--fee" 0.001
    minimumVolume := numberOr given "--min-volume" 0.0001
    tickerLog := (given.lookup "--ticker-log").getD "ticker-data.csv"
    output := given.lookup "--output" }

namespace Invocation

/-- The invocation of a command with options. -/
def ofScan (topic : HelpTopic) (command? : Given → Option Command) : Scan → Invocation
  | .done given => (command? given).elim refused run
  | .help => help topic
  | .refused => refused

/-- What a list of arguments asks for. -/
def parse : List String → Invocation
  | "check-config" :: rest => ofScan .checkConfig checkCommand? (scan checkOptions [] rest)
  | "replay" :: rest => ofScan .replay replayCommand? (scan replayOptions [] rest)
  | ["help"] => help .program
  | ["help", name] => (HelpTopic.ofName? name).elim refused help
  | argument :: _ =>
    if argument == "--help" || argument.startsWith "-h" then help .program else refused
  | [] => refused

end Invocation

end SwingTrader.CommandLine
