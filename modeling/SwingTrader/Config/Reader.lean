import SwingTrader.Config
import SwingTrader.Toml.Document

/-!
# SwingTrader — configuration files

A configuration file is a TOML document with one key for each setting. The
percentages and the two counts are required; a key that is not known is refused.
The retry limits are a table, or a list in the order of the table's keys; each of
them may be left out.

* `StrategyConfig.ofToml?` — the settings of a table, whatever their values;
* `StrategyConfig.read` — a valid configuration, or why there is none.
-/

namespace SwingTrader

/-- Why a file is no configuration. -/
inductive ConfigFileError where
  | malformed
  | invalid (error : ConfigError)

namespace Toml

/-- A double; an integer stands for the double nearest to it. -/
def asDouble? : Toml → Option Float
  | number x => some x
  | integer n => some (Decimal.withSign (n < 0) (Decimal.nearest n.natAbs 0))
  | _ => none

/-- An integer from zero up to a bound, which is not reached. -/
def asCount? (bound : Nat) : Toml → Option Nat
  | integer n => if 0 ≤ n ∧ n < bound then some n.toNat else none
  | _ => none

/-- True or false. -/
def asFlag? : Toml → Option Bool
  | flag b => some b
  | _ => none

/-- The value of a setting that may be left out. -/
def Entries.orElse {α : Type} (entries : Entries) (key : String) (read? : Toml → Option α)
    (default : α) : Option α :=
  match entries.lookup key with
  | some value => read? value
  | none => some default

end Toml

namespace RetryLimits

/-- The names of the limits in a configuration file. -/
def keys : List String :=
  ["enter-not-executed", "enter-partially-executed", "exit-crossed"]

/-- The limits that are written, and the usual ones in place of the others. -/
def ofEntries? (entries : Toml.Entries) : Option RetryLimits := do
  let usual : RetryLimits := {}
  let limit (key : String) (default : Nat) :=
    entries.orElse key (Toml.asCount? UInt32.size) default
  return {
    enterNotExecuted := ← limit "enter-not-executed" usual.enterNotExecuted
    enterPartiallyExecuted := ← limit "enter-partially-executed" usual.enterPartiallyExecuted
    exitCrossed := ← limit "exit-crossed" usual.exitCrossed }

/-- The limits of a table, or of a list, of which only the first three items count. -/
def ofToml? : Toml → Option RetryLimits
  | .table _ entries => if entries.all (keys.contains ·.1) then ofEntries? entries else none
  | .array items => ofEntries? (keys.zip items)
  | _ => none

end RetryLimits

namespace StrategyConfig

/-- The keys of a configuration file. -/
def keys : List String :=
  rangedKeys.map RangedKey.name
    ++ ["lowest-price-lookback-count", "times-above-lowest-price-needed", "persist-ticker-data",
      "retry-limits"]

/-- The settings of a table. -/
def ofToml? (entries : Toml.Entries) : Option StrategyConfig := do
  if !entries.all (keys.contains ·.1) then none
  let percentage (key : RangedKey) := (entries.lookup key.name).bind Toml.asDouble?
  let count (key : String) := (entries.lookup key).bind (Toml.asCount? UInt64.size)
  return {
    balancePercentage := ← percentage .balancePercentage
    emergencyStop := ← percentage .emergencyStop
    stopBelow := ← percentage .stopBelow
    stopAbove := ← percentage .stopAbove
    stopMinimum := ← percentage .stopMinimum
    lookback := ← count "lowest-price-lookback-count"
    timesAbove := ← count "times-above-lowest-price-needed"
    persistTickers := ← entries.orElse "persist-ticker-data" Toml.asFlag? false
    limits := ← entries.orElse "retry-limits" RetryLimits.ofToml? {} }

/-- The configuration that a document writes, with the proof that it is valid. -/
def readValid (document : String) :
    Except ConfigFileError { config : StrategyConfig // config.validate = .ok () } :=
  match (Toml.parse? document).bind ofToml? with
  | none => .error .malformed
  | some config =>
    match valid : config.validate with
    | .ok () => .ok ⟨config, valid⟩
    | .error error => .error (.invalid error)

/-- The configuration that a document writes, if it is valid. -/
def read (document : String) : Except ConfigFileError StrategyConfig :=
  Subtype.val <$> readValid document

/-- A valid configuration looks back on at least one bar. -/
theorem lookback_pos_of_validate {config : StrategyConfig} (valid : config.validate = .ok ()) :
    0 < config.lookback := by
  unfold validate at valid
  split at valid
  · contradiction
  · split at valid
    · contradiction
    · omega

end StrategyConfig

end SwingTrader
