import SwingTrader.Fees
import SwingTrader.Ledger
import SwingTrader.Pivot.Scan
import SwingTrader.Stop.Trailing

/-!
# SwingTrader — indicators

An indicator gives every bar of a series a value, a number or a flag. Some look
at bars only; others also look at a ledger, and have a value while a position is
open. Indicators are built from one another: one may read another as its source,
and any may be wrapped in a memo.

An indicator is a description. What it remembers between two readings, be it a
memo, a pivot scan or a ledger of its own, is its `Indicator.State`, a type that
follows the shape of the description.

* `Indicator` — the descriptions, by the type of their values;
* `Indicator.State`, `Indicator.start` — what a description remembers, and the
  memory that nothing has been read into;
* `Indicator.name` — the name of an indicator.
-/

namespace SwingTrader

/-! ## Values -/

/-- The type of an indicator's values. -/
inductive Output where
  | number
  | flag
  deriving DecidableEq, Repr

namespace Output

/-- The values of a type. -/
abbrev Value : Output → Type
  | number => Float
  | flag => Bool

/-- The value of an indicator where it does not apply. -/
def notApplicable : (output : Output) → output.Value
  | number => notANumber
  | flag => false

end Output

/-- What indicators look at: the bars of a market and the ledgers of its trader. -/
structure MarketView where
  bars : BarSeries
  ledgers : LedgerBook

/-- The place of the newest bar. -/
def MarketView.lastIndex? (view : MarketView) : Option Nat :=
  view.bars.lastIndex?

/-! ## Parts -/

/-- The number of bars that a window covers, at least one. -/
structure Lookback where
  count : Nat
  pos : 0 < count

namespace Lookback

/-- A window of a number of bars, if that is not zero. -/
def ofNat? (count : Nat) : Option Lookback :=
  if pos : 0 < count then some ⟨count, pos⟩ else none

/-- What is said of a window without bars. -/
def zeroMessage : String := "lookback count must be >= 1"

end Lookback

/-- Which end of a range of values is looked for. -/
inductive Extremum where
  | highest
  | lowest
  deriving DecidableEq, Repr

/-- Where an indicator reads its events: in a ledger of its own, or in one of the book. -/
inductive LedgerSource where
  | owned
  | shared (id : LedgerId)
  deriving DecidableEq, Repr

namespace LedgerSource

/-- What an indicator keeps of its events: the ledger, if it is its own. -/
abbrev State : LedgerSource → Type
  | owned => TradeLedger
  | shared _ => Unit

/-- An indicator's own ledger begins empty. -/
def start : (source : LedgerSource) → source.State
  | owned => .empty
  | shared _ => ()

/-- The ledger to read. A number that the book does not have reads as an empty ledger. -/
def resolve : (source : LedgerSource) → source.State → LedgerBook → TradeLedger
  | owned, ledger, _ => ledger
  | shared id, _, book => book.read id

/-- Adds an event to an indicator's own ledger; the ledgers of the book are not its to write. -/
def record : (source : LedgerSource) → source.State →
    (TradeLedger → Except LedgerError TradeLedger) → Except LedgerError (Bool × source.State)
  | owned, ledger, change => do
    let ledger ← change ledger
    return (true, ledger)
  | shared _, _, _ => return (false, ())

end LedgerSource

/-! ## Descriptions -/

/-- An indicator, by the type of its values. -/
inductive Indicator : Output → Type where
  /-- A price of the bar. -/
  | price (field : PriceField) : Indicator .number
  /-- The lowest value of a source over a window that ends at the bar. -/
  | lowest (source : Indicator .number) (lookback : Lookback) : Indicator .number
  /-- The break-even price of the open position, from the source's value at its entry. -/
  | breakEven (source : Indicator .number) (fees : Fees) (ledger : LedgerSource) :
      Indicator .number
  /-- The extreme of a source since the entry of the open position. -/
  | sinceEntry (source : Indicator .number) (extremum : Extremum) (ledger : LedgerSource) :
      Indicator .number
  /-- The trailing stop of the open position. -/
  | trailingStop (fees : Fees) (distances : StopDistances) (ledger : LedgerSource) :
      Indicator .number
  /-- Whether a position is open. -/
  | inMarket (ledger : LedgerSource) : Indicator .flag
  /-- The price of the latest pivot of a direction. -/
  | pivot (kind : PivotKind) (direction : ScanDirection) : Indicator .number
  /-- The value of a source at the latest pivot of a direction. -/
  | pivotOf (kind : PivotKind) (direction : ScanDirection) (source : Indicator .number) :
      Indicator .number
  /-- An indicator whose values are remembered once they are settled. -/
  | memo {output : Output} (inner : Indicator output) : Indicator output

namespace Indicator

/-- What an indicator remembers. -/
def State : {output : Output} → Indicator output → Type
  | _, price _ => Unit
  | _, lowest source _ => source.State
  | _, breakEven source _ ledger => source.State × ledger.State
  | _, sinceEntry source _ ledger => source.State × ledger.State
  | _, trailingStop _ _ ledger => ledger.State
  | _, inMarket ledger => ledger.State
  | _, pivot _ _ => PivotScan
  | _, pivotOf _ _ source => PivotScan × source.State
  | output, memo inner => inner.State × List (Nat × output.Value)

/-- The memory of an indicator that has not been read. -/
def start : {output : Output} → (indicator : Indicator output) → indicator.State
  | _, price _ => ()
  | _, lowest source _ => source.start
  | _, breakEven source _ ledger => (source.start, ledger.start)
  | _, sinceEntry source _ ledger => (source.start, ledger.start)
  | _, trailingStop _ _ ledger => ledger.start
  | _, inMarket ledger => ledger.start
  | _, pivot _ direction => { direction }
  | _, pivotOf _ direction source => ({ direction }, source.start)
  | _, memo inner => (inner.start, [])

/-- The name of a price. -/
def priceName : PriceField → String
  | .close => "close"
  | .high => "high"
  | .low => "low"

/-- The name of a pivot's direction. -/
def pivotName : PivotKind → String
  | .high => "reversal_high"
  | .low => "reversal_low"

/-- The name of an indicator; a memo has the name of what it remembers. -/
def name : {output : Output} → Indicator output → String
  | _, price field => priceName field
  | _, lowest source lookback => s!"lowest_{source.name}_{lookback.count}"
  | _, breakEven .. => "break_even"
  | _, sinceEntry source extremum _ =>
    let which := match extremum with
      | .highest => "highest"
      | .lowest => "lowest"
    s!"{which}_{source.name}_since_entry"
  | _, trailingStop .. => "trailing_stop"
  | _, inMarket _ => "in_market"
  | _, pivot kind _ => pivotName kind
  | _, pivotOf kind _ source => s!"{pivotName kind}_{source.name}"
  | _, memo inner => inner.name

/-- The number of values a memo holds; an indicator without a memo of its own holds none. -/
def settledCount : {output : Output} → (indicator : Indicator output) → indicator.State → Option Nat
  | _, memo _, state => some state.2.length
  | _, _, _ => none

/-! ## Events -/

/--
Adds an event to the ledger of an indicator, where that is its own. Answers
whether it was: an indicator that reads a ledger of the book, or none, is left
as it was.
-/
def record : {output : Output} → (indicator : Indicator output) → indicator.State →
    (TradeLedger → Except LedgerError TradeLedger) → Except LedgerError (Bool × indicator.State)
  | _, breakEven _ _ ledger, state, change => do
    let (recorded, events) ← ledger.record state.2 change
    return (recorded, (state.1, events))
  | _, sinceEntry _ _ ledger, state, change => do
    let (recorded, events) ← ledger.record state.2 change
    return (recorded, (state.1, events))
  | _, trailingStop _ _ ledger, state, change => ledger.record state change
  | _, inMarket ledger, state, change => ledger.record state change
  | _, memo inner, state, change => do
    let (recorded, events) ← inner.record state.1 change
    return (recorded, (events, state.2))
  | _, price _, state, _ => return (false, state)
  | _, lowest _ _, state, _ => return (false, state)
  | _, pivot _ _, state, _ => return (false, state)
  | _, pivotOf _ _ _, state, _ => return (false, state)

end Indicator

end SwingTrader
