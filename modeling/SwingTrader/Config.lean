import SwingTrader.Decimal.Layout
import SwingTrader.Stop.Trailing

/-!
# SwingTrader — the configuration of a strategy

Percentages are written as such, `2.5` for 2.5 %. A configuration may be built
from anything and is then checked.

* `StrategyConfig.validate` — the first rule that a configuration breaks;
* `StrategyConfig.stopDistances` — the stop distances, as fractions.
-/

namespace SwingTrader

/-- For how many ticks an order may misbehave; it is given up on the next one. -/
structure RetryLimits where
  /-- An entry fully open while the market moved away from it. -/
  enterNotExecuted : Nat := 3
  /-- An entry partially filled. -/
  enterPartiallyExecuted : Nat := 10
  /-- An exit open while the market is past its price. -/
  exitCrossed : Nat := 3
  deriving DecidableEq, Repr

/-- The settings of a strategy; the defaults are moderate and valid. -/
structure StrategyConfig where
  /-- The percentage of the counter balance that an entry spends. -/
  balancePercentage : Float := 50.0
  /-- The counter balance that no entry may go below. -/
  emergencyStop : Float := 5.0
  /-- The distance of the stop from the last close, while break-even is out of reach. -/
  stopBelow : Float := 5.0
  /-- The distance of the stop from the best close. -/
  stopAbove : Float := 2.0
  /-- The least distance of the stop from break-even. -/
  stopMinimum : Float := 1.0
  /-- The number of bars among which the lowest close is looked for. -/
  lookback : Nat := 20
  /-- The number of closes that must be above the lowest one. -/
  timesAbove : Nat := 3
  /-- Whether a replay writes its tickers to a file. -/
  persistTickers : Bool := false
  limits : RetryLimits := {}

/-- The settings that must lie in a range. -/
inductive RangedKey where
  | balancePercentage
  | emergencyStop
  | stopBelow
  | stopAbove
  | stopMinimum
  deriving DecidableEq, Repr

namespace RangedKey

/-- The name of a setting in a configuration file. -/
def name : RangedKey → String
  | balancePercentage => "percentage-of-counter-currency-balance-to-use"
  | emergencyStop => "configured-emergency-stop-balance"
  | stopBelow => "sell-stop-limit-percentage-below-break-even"
  | stopAbove => "sell-stop-limit-percentage-above-break-even"
  | stopMinimum => "sell-stop-limit-percentage-minimum-above-break-even"

/-- The range of a setting, as messages write it. -/
def range : RangedKey → String
  | balancePercentage => "(0, 100]"
  | emergencyStop => "[0, inf)"
  | stopBelow | stopAbove | stopMinimum => "[0, 100)"

/-- Whether a value lies in the range of a setting; NaN lies in none. -/
def contains (key : RangedKey) (value : Float) : Bool :=
  match key with
  | balancePercentage => 0.0 < value && value ≤ 100.0
  | emergencyStop => 0.0 ≤ value
  | stopBelow | stopAbove | stopMinimum => 0.0 ≤ value && value < 100.0

end RangedKey

/-- The rule that a configuration breaks. -/
inductive ConfigError where
  | outOfRange (key : RangedKey) (value : Float)
  | zeroLookback
  | timesAboveExceedsLookback (needed lookback : Nat)

/-- The text of the error. -/
def ConfigError.message : ConfigError → String
  | outOfRange key value => s!"{key.name} = {Decimal.message value} is outside {key.range}"
  | zeroLookback => "lowest-price-lookback-count must be at least 1"
  | timesAboveExceedsLookback needed lookback =>
    s!"times-above-lowest-price-needed ({needed}) exceeds lowest-price-lookback-count ({lookback})"

namespace StrategyConfig

/-- The value of a setting that must lie in a range. -/
def value (config : StrategyConfig) : RangedKey → Float
  | .balancePercentage => config.balancePercentage
  | .emergencyStop => config.emergencyStop
  | .stopBelow => config.stopBelow
  | .stopAbove => config.stopAbove
  | .stopMinimum => config.stopMinimum

/-- The settings with a range, in the order in which they are checked. -/
def rangedKeys : List RangedKey :=
  [.balancePercentage, .emergencyStop, .stopBelow, .stopAbove, .stopMinimum]

/-- The first rule broken: the ranges in order, then the two counts. -/
def validate (config : StrategyConfig) : Except ConfigError Unit :=
  match rangedKeys.find? fun key => !key.contains (config.value key) with
  | some key => .error (.outOfRange key (config.value key))
  | none =>
    if config.lookback = 0 then .error .zeroLookback
    else if config.lookback < config.timesAbove then
      .error (.timesAboveExceedsLookback config.timesAbove config.lookback)
    else .ok ()

/-- The stop distances as fractions. -/
def stopDistances (config : StrategyConfig) : StopDistances where
  below := config.stopBelow / 100.0
  above := config.stopAbove / 100.0
  minimum := config.stopMinimum / 100.0

end StrategyConfig

end SwingTrader
