import SwingTrader.Indicator.Basic

/-!
# SwingTrader — indicators without memos

A memo is there to save work and must not show in any value. What it is compared
with is the same indicator with every memo taken out, at whatever depth it
stands, and the same memory with only the remembered values left out: ledgers
and pivot scans stay as they are.

* `Indicator.unmemoized` — the indicator;
* `Indicator.unmemoizedState` — what it remembers.
-/

namespace SwingTrader.Indicator

/-- The indicator with every memo taken out. -/
def unmemoized : {output : Output} → Indicator output → Indicator output
  | _, price field => price field
  | _, lowest source lookback => lowest source.unmemoized lookback
  | _, breakEven source fees ledger => breakEven source.unmemoized fees ledger
  | _, sinceEntry source extremum ledger => sinceEntry source.unmemoized extremum ledger
  | _, trailingStop fees distances ledger => trailingStop fees distances ledger
  | _, inMarket ledger => inMarket ledger
  | _, pivot kind direction => pivot kind direction
  | _, pivotOf kind direction source => pivotOf kind direction source.unmemoized
  | _, memo inner => inner.unmemoized

/-- What is remembered apart from the values in memos. -/
def unmemoizedState : {output : Output} → (indicator : Indicator output) → indicator.State →
    indicator.unmemoized.State
  | _, price _, state => state
  | _, lowest source _, state => source.unmemoizedState state
  | _, breakEven source _ _, state => (source.unmemoizedState state.1, state.2)
  | _, sinceEntry source _ _, state => (source.unmemoizedState state.1, state.2)
  | _, trailingStop _ _ _, state => state
  | _, inMarket _, state => state
  | _, pivot _ _, state => state
  | _, pivotOf _ _ source, state => (state.1, source.unmemoizedState state.2)
  | _, memo inner, state => inner.unmemoizedState state.1

end SwingTrader.Indicator
