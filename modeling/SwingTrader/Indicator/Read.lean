import SwingTrader.Indicator.Basic

/-!
# SwingTrader — reading indicators

Reading an indicator at a bar gives its value there and may change what it
remembers. Past the newest bar no indicator applies.

A memo keeps a value once the series has grown past its bar. Until then a
position may still be opened or closed at that bar, so the newest bar is read
anew every time.

* `Indicator.read` — the value of an indicator at a bar;
* `lowestOf`, `extremeOf` — the least of a run of values, with and without
  regard to missing ones.
-/

namespace SwingTrader

/-! ## Runs of values -/

section Runs

variable {σ : Type}

/-- The lesser of a value and all those read in turn; NaN as soon as one is missing. -/
def lowestOf (read : Nat → StateM σ Float) (lowest : Float) : List Nat → StateM σ Float
  | [] => return lowest
  | index :: rest => do
    let value ← read index
    if value.isNaN then return notANumber
    lowestOf read (minNumber lowest value) rest

/-- The more extreme of two values. -/
def Extremum.choose (extremum : Extremum) (x y : Float) : Float :=
  match extremum with
  | .highest => maxNumber x y
  | .lowest => minNumber x y

/-- The most extreme of a value and all those read in turn, where missing ones count for nothing. -/
def extremeOf (extremum : Extremum) (read : Nat → StateM σ Float) (best : Float) :
    List Nat → StateM σ Float
  | [] => return best
  | index :: rest => do
    let value ← read index
    let best :=
      if value.isNaN then best else if best.isNaN then value else extremum.choose best value
    extremeOf extremum read best rest

end Runs

/-- The bars from one to another, both included. -/
def barRange (first last : Nat) : List Nat :=
  List.range' first (last + 1 - first)

/-! ## Positions -/

/--
The value of an indicator that applies while a position is open: `onEntry` is
given the bar and the direction of the entry.
-/
def whileOpen {σ : Type} (output : Output) (view : MarketView) (ledger : TradeLedger)
    (index : Nat) (onEntry : Nat → Side → StateM σ output.Value) : StateM σ output.Value :=
  if index < view.bars.size then
    match ledger.lastEventAt index with
    | some (.entry entered side) => onEntry entered side
    | _ => return output.notApplicable
  else return output.notApplicable

/-- The trailing stop at a bar of a position, which looks at closes only. -/
def trailingStopAt (fees : Fees) (distances : StopDistances) (bars : BarSeries)
    (entered : Nat) (side : Side) (index : Nat) : Float :=
  let breakEven := breakEvenPrice (bars.close entered) side (fees.enter side) (fees.exit side)
  let extremum := match side with
    | .long => Extremum.highest
    | .short => Extremum.lowest
  let closes : StateM Unit Float :=
    extremeOf extremum (fun i => return bars.close i) notANumber (barRange entered index)
  trailingStopPrice side breakEven (closes.run ()).1 (bars.close index) distances

/-! ## Pivots -/

/-- The latest pivot of a direction as of a bar, after the scan is brought up to date. -/
def PivotScan.pivotAt (kind : PivotKind) (bars : BarSeries) (index : Nat) :
    StateM PivotScan (Option Pivot) := fun scan =>
  if index < bars.size then
    match scan.sync bars with
    | (.ok (), scan) => (scan.detector.pivotAtOrBefore kind index, scan)
    | (.error _, scan) => (none, scan)
  else (none, scan)

/-! ## Reading -/

namespace Indicator

/-- Runs on the first of two states. -/
def onFirst {σ τ α : Type} (action : StateM σ α) : StateM (σ × τ) α := fun (first, second) =>
  let (value, first) := action.run first
  (value, (first, second))

/-- The value of an indicator at a bar. -/
def read : {output : Output} → (indicator : Indicator output) → MarketView → Nat →
    StateM indicator.State output.Value
  | _, price field, view, index => return view.bars.price field index
  | _, lowest source lookback, view, index =>
    if index + 1 < lookback.count || view.bars.size ≤ index then return notANumber
    else
      lowestOf (fun i => source.read view i) (1.0 / 0.0)
        (barRange (index + 1 - lookback.count) index)
  | _, breakEven source fees ledger, view, index => fun state =>
    (whileOpen .number view (ledger.resolve state.2 view.ledgers) index fun entered side =>
      onFirst do
        let entry ← source.read view entered
        return breakEvenPrice entry side (fees.enter side) (fees.exit side)).run state
  | _, sinceEntry source extremum ledger, view, index => fun state =>
    (whileOpen .number view (ledger.resolve state.2 view.ledgers) index fun entered _ =>
      onFirst (extremeOf extremum (fun i => source.read view i) notANumber
        (barRange entered index))).run state
  | _, trailingStop fees distances ledger, view, index => fun state =>
    (whileOpen .number view (ledger.resolve state view.ledgers) index fun entered side =>
      return trailingStopAt fees distances view.bars entered side index).run state
  | _, inMarket ledger, view, index => fun state =>
    (whileOpen .flag view (ledger.resolve state view.ledgers) index
      fun _ _ => return true).run state
  | _, pivot kind _, view, index => do
    match ← PivotScan.pivotAt kind view.bars index with
    | some found => return found.value
    | none => return notANumber
  | _, pivotOf kind _ source, view, index => fun (scan, state) =>
    match PivotScan.pivotAt kind view.bars index scan with
    | (some found, scan) =>
      let (value, state) := source.read view found.index state
      (value, (scan, state))
    | (none, scan) => (notANumber, (scan, state))
  | _, memo inner, view, index => fun (state, settled) =>
    match settled.lookup index with
    | some value => (value, (state, settled))
    | none =>
      let (value, state) := inner.read view index state
      if index + 1 < view.bars.size then (value, (state, (index, value) :: settled))
      else (value, (state, settled))

end Indicator

end SwingTrader
