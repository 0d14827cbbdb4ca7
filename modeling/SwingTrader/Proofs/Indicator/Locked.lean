import SwingTrader.Proofs.Double.Monotone
import SwingTrader.Proofs.Indicator.Hindsight
import SwingTrader.Proofs.Side

/-!
# SwingTrader — locked-in profit

A trailing stop follows the last close as long as break-even is out of reach, and such
a stop may fall back from one bar to the next. Once break-even is within its bound it
is locked in: the bound and the stop depend on the best close since the entry alone,
which only gets better, and neither of them gets worse with it.

* `StopDistances.bound` — the floor of a long and the ceiling of a short;
* `Trail` — a trailing stop with all it is read from, and `Trail.stop_eq`, what it is
  worked out from at a bar;
* `Trail.LocksIn` — break-even is locked in at a bar;
* `Trail.stays_locked` — it stays so until the exit, and the stop never loosens.
-/

namespace SwingTrader

/-! ## Extremes of two doubles -/

section Extremes

variable {x x' y y' : Float}

/-- Of a number and anything else, the greater is the other only where it is above the number. -/
theorem maxNumber_of_number (hx : x.isNaN = false) (y : Float) :
    maxNumber x y = if x < y then y else x := by
  simp only [maxNumber, hx, Bool.false_eq_true, if_false]

/-- Of a number and anything else, the lesser is the other only where it is below the number. -/
theorem minNumber_of_number (hx : x.isNaN = false) (y : Float) :
    minNumber x y = if y < x then y else x := by
  simp only [minNumber, hx, Bool.false_eq_true, if_false]

theorem le_maxNumber (hx : x.isNaN = false) (y : Float) : x ≤ maxNumber x y := by
  rw [maxNumber_of_number hx]
  split_ifs with h
  · exact Double.le_of_lt h
  · exact Double.le_refl hx

theorem minNumber_le (hx : x.isNaN = false) (y : Float) : minNumber x y ≤ x := by
  rw [minNumber_of_number hx]
  split_ifs with h
  · exact Double.le_of_lt h
  · exact Double.le_refl hx

/-- The lesser of two numbers is one of them, and above neither. -/
theorem minNumber_le_other (hx : x.isNaN = false) (hy : y.isNaN = false) : minNumber x y ≤ y := by
  rw [minNumber_of_number hx]
  split_ifs with h
  · exact Double.le_refl hy
  · exact Double.le_of_not_lt hx hy h

theorem minNumber_eq_or (hx : x.isNaN = false) (y : Float) :
    minNumber x y = x ∨ minNumber x y = y := by
  rw [minNumber_of_number hx]
  split_ifs
  · exact .inr rfl
  · exact .inl rfl

theorem maxNumber_le_maxNumber (hx : x ≤ x') (hy : y ≤ y') :
    maxNumber x y ≤ maxNumber x' y' := by
  obtain ⟨hnumber, hnumber', -⟩ := Double.le_iff_rank.mp hx
  rw [maxNumber_of_number hnumber, maxNumber_of_number hnumber']
  split_ifs with h h' h'
  · exact hy
  · exact Double.le_trans hy (Double.le_of_not_lt (Double.isNaN_of_le hy) hnumber' h')
  · exact Double.le_trans hx (Double.le_of_lt h')
  · exact hx

theorem minNumber_le_minNumber (hx : x ≤ x') (hy : y ≤ y') :
    minNumber x y ≤ minNumber x' y' := by
  obtain ⟨hnumber, hnumber', -⟩ := Double.le_iff_rank.mp hx
  obtain ⟨hy', -⟩ := Double.le_iff_rank.mp hy
  rw [minNumber_of_number hnumber, minNumber_of_number hnumber']
  split_ifs with h h' h'
  · exact hy
  · exact Double.le_trans (Double.le_of_lt h) hx
  · exact Double.le_trans (Double.le_of_not_lt hnumber hy' h) hy
  · exact hx

/-- A bound that is no number is stepped over, and any other stays where it is. -/
theorem maxNumber_le_right (x : Float) (hy : y ≤ y') : maxNumber x y ≤ maxNumber x y' := by
  cases hx : x.isNaN with
  | false => exact maxNumber_le_maxNumber (Double.le_refl hx) hy
  | true =>
    have hnot (y : Float) : ¬x < y := fun h => by cases hx.symm.trans (Double.lt_iff_rank.mp h).1
    simpa only [maxNumber, hx, if_neg (hnot _), if_true] using hy

theorem minNumber_le_right (x : Float) (hy : y ≤ y') : minNumber x y ≤ minNumber x y' := by
  cases hx : x.isNaN with
  | false => exact minNumber_le_minNumber (Double.le_refl hx) hy
  | true =>
    have hnot (y : Float) : ¬y < x := fun h => by
      cases hx.symm.trans (Double.lt_iff_rank.mp h).2.1
    simpa only [minNumber, hx, if_neg (hnot _), if_true] using hy

end Extremes

/-! ## Prices to close at -/

/-- The end of a range of closes that is best for a position. -/
def Side.extremum : Side → Extremum
  | .long => .highest
  | .short => .lowest

namespace Side

variable {first : Float}

/-- The better of two prices. -/
theorem noWorse_choose (side : Side) (h : first.isNaN = false) (second : Float) :
    side.NoWorse (side.extremum.choose first second) first := by
  cases side
  · exact le_maxNumber h second
  · exact minNumber_le h second

end Side

/-! ## The stop -/

namespace StopDistances

variable {distances : StopDistances} {side : Side} {breakEven extreme extreme' : Float}

/-- The floor of a long and the ceiling of a short, from break-even and the best close. -/
def bound (distances : StopDistances) (side : Side) (breakEven extreme : Float) : Float :=
  match side with
  | .long => minNumber (breakEven / (1.0 - distances.minimum)) (extreme * (1.0 - distances.minimum))
  | .short =>
    maxNumber (breakEven / (1.0 + distances.minimum)) (extreme * (1.0 + distances.minimum))

/-- The stop once break-even is locked in. -/
def lockedStop (distances : StopDistances) (side : Side) (breakEven extreme : Float) : Float :=
  match side with
  | .long => maxNumber (distances.bound .long breakEven extreme) (extreme * (1.0 - distances.above))
  | .short =>
    minNumber (distances.bound .short breakEven extreme) (extreme * (1.0 + distances.above))

/--
Where the bound is no worse than break-even, the stop is the locked one, whatever the
last close.
-/
theorem trailingStopPrice_of_locked (lastClose : Float)
    (h : side.NoWorse (distances.bound side breakEven extreme) breakEven) :
    trailingStopPrice side breakEven extreme lastClose distances =
      distances.lockedStop side breakEven extreme := by
  cases side
  · exact if_pos h
  · exact if_pos h

/-- A better close gives a better bound. -/
theorem bound_noWorse (hminimum : Double.Fraction distances.minimum)
    (h : side.NoWorse extreme' extreme) :
    side.NoWorse (distances.bound side breakEven extreme')
      (distances.bound side breakEven extreme) := by
  cases side with
  | long =>
    obtain ⟨hpos, hfinite⟩ := hminimum.one_sub
    exact minNumber_le_right _ (Double.mul_le_mul_of_pos h hpos hfinite)
  | short =>
    obtain ⟨hpos, hfinite⟩ := hminimum.one_add
    exact maxNumber_le_right _ (Double.mul_le_mul_of_pos h hpos hfinite)

/-- And a better stop, once break-even is locked in. -/
theorem lockedStop_noWorse (hminimum : Double.Fraction distances.minimum)
    (habove : Double.Fraction distances.above) (h : side.NoWorse extreme' extreme) :
    side.NoWorse (distances.lockedStop side breakEven extreme')
      (distances.lockedStop side breakEven extreme) := by
  have hbound : side.NoWorse (distances.bound side breakEven extreme')
      (distances.bound side breakEven extreme) := bound_noWorse hminimum h
  cases side with
  | long =>
    obtain ⟨hpos, hfinite⟩ := habove.one_sub
    exact maxNumber_le_maxNumber hbound (Double.mul_le_mul_of_pos h hpos hfinite)
  | short =>
    obtain ⟨hpos, hfinite⟩ := habove.one_add
    exact minNumber_le_minNumber hbound (Double.mul_le_mul_of_pos h hpos hfinite)

/-- A locked stop is no worse than the bound. -/
theorem lockedStop_noWorse_bound
    (h : (distances.bound side breakEven extreme).isNaN = false) :
    side.NoWorse (distances.lockedStop side breakEven extreme)
      (distances.bound side breakEven extreme) := by
  cases side
  · exact le_maxNumber h _
  · exact minNumber_le h _

end StopDistances

/-! ## The best close -/

section Closes

variable {side : Side} {bars : BarSeries} {best : Float} {entered earlier later : Nat}

/-- The closes from one bar to another are all known. -/
def BarSeries.Closes (bars : BarSeries) (first last : Nat) : Prop :=
  ∀ bar, first ≤ bar → bar ≤ last → (bars.close bar).isNaN = false

/-- Past the end of a series no close is known. -/
theorem lt_size_of_close {bar : Nat} (h : (bars.close bar).isNaN = false) : bar < bars.size := by
  rw [BarSeries.lt_size_iff]
  cases hbar : bars.get? bar with
  | some => rfl
  | none =>
    rw [BarSeries.close, BarSeries.price, hbar] at h
    cases h

/-- The best of a price and the closes of some bars. -/
def bestClose (bars : BarSeries) (side : Side) (best : Float) (indices : List Nat) : Float :=
  (extremeOf side.extremum (fun bar => return bars.price .close bar : Nat → StateM Unit Float) best
    indices ()).1

/-- The best close goes bar by bar, past closes that are not known. -/
theorem bestClose_cons (bar : Nat) (indices : List Nat) :
    bestClose bars side best (bar :: indices) =
      bestClose bars side
        (if (bars.close bar).isNaN then best
          else if best.isNaN then bars.close bar else side.extremum.choose best (bars.close bar))
        indices :=
  rfl

/-- The best close of some bars and then others is found in two parts. -/
theorem bestClose_append (indices indices' : List Nat) :
    bestClose bars side best (indices ++ indices') =
      bestClose bars side (bestClose bars side best indices) indices' := by
  induction indices generalizing best with
  | nil => rfl
  | cons bar rest ih => exact ih

/-- More closes make the best one no worse. -/
theorem bestClose_noWorse (hbest : best.isNaN = false) (indices : List Nat) :
    side.NoWorse (bestClose bars side best indices) best := by
  induction indices generalizing best with
  | nil => exact .refl side hbest
  | cons bar rest ih =>
    rw [bestClose_cons]
    cases hclose : (bars.close bar).isNaN with
    | true => exact ih hbest
    | false =>
      rw [hbest]
      have hbetter := side.noWorse_choose hbest (bars.close bar)
      exact hbetter.trans (ih hbetter.isNaN_eq)

/-- The best close since an entry only gets better while the closes are known. -/
theorem bestClose_later (hentered : entered ≤ earlier) (hlater : earlier ≤ later)
    (hcloses : bars.Closes entered later) :
    side.NoWorse (bestClose bars side notANumber (barRange entered later))
      (bestClose bars side notANumber (barRange entered earlier)) := by
  have hsplit : barRange entered later =
      barRange entered earlier ++ List.range' (earlier + 1) (later - earlier) := by
    rw [barRange, barRange, show later + 1 - entered = earlier + 1 - entered +
      (later - earlier) by omega,
      ← List.range'_append_1, show entered + (earlier + 1 - entered) = earlier + 1 by omega]
  have hfirst :
      barRange entered earlier = entered :: List.range' (entered + 1) (earlier - entered) := by
    rw [barRange, show earlier + 1 - entered = earlier - entered + 1 by omega, List.range'_succ]
  -- the close of the entry is known, and so is the best one from there on
  have hclose := hcloses entered (Nat.le_refl _) (hentered.trans hlater)
  have hbest : bestClose bars side notANumber (barRange entered earlier) =
      bestClose bars side (bars.close entered) (List.range' (entered + 1) (earlier - entered)) := by
    rw [hfirst, bestClose_cons, hclose]
    rfl
  rw [hsplit, bestClose_append]
  exact bestClose_noWorse (hbest ▸ (bestClose_noWorse hclose _).isNaN_eq) _

end Closes

/-! ## A trail -/

/-- A trailing stop, with the market and the ledger that it is read from. -/
structure Trail where
  fees : Fees
  distances : StopDistances
  source : LedgerSource
  state : source.State
  view : MarketView

namespace Trail

open Indicator

variable {trail : Trail} {side : Side} {log : List TradeEvent} {entered earlier later index : Nat}

/-- The ledger of the position. -/
def ledger (trail : Trail) : TradeLedger :=
  trail.source.resolve trail.state trail.view.ledgers

/-- The stop at a bar. -/
def stop (trail : Trail) (index : Nat) : Float :=
  ((trailingStop trail.fees trail.distances trail.source).read trail.view index trail.state).1

/-- The break-even of the position at a bar. -/
def breakEven (trail : Trail) (index : Nat) : Float :=
  ((Indicator.breakEven (price .close) trail.fees trail.source).read trail.view index
    ((), trail.state)).1

/-- The best close since the entry of the position, at a bar. -/
def extreme (trail : Trail) (side : Side) (index : Nat) : Float :=
  ((sinceEntry (price .close) side.extremum trail.source).read trail.view index ((), trail.state)).1

/-- Break-even is locked in at a bar: the bound of the stop is no worse. -/
def LocksIn (trail : Trail) (side : Side) (index : Nat) : Prop :=
  side.NoWorse (trail.distances.bound side (trail.breakEven index) (trail.extreme side index))
    (trail.breakEven index)

/-- What applies to an open position applies to the one that is open at a bar. -/
theorem whileOpen_of_open {σ : Type} (output : Output) {view : MarketView} {ledger : TradeLedger}
    (hindex : index < view.bars.size)
    (hopen : ledger.lastEventAt index = some (.entry entered side))
    (onEntry : Nat → Side → StateM σ output.Value) :
    whileOpen output view ledger index onEntry = onEntry entered side := by
  rw [whileOpen, if_pos hindex, hopen]

/-- In a position, break-even is that of the close it was entered at. -/
theorem breakEven_eq (hindex : index < trail.view.bars.size)
    (hopen : trail.ledger.lastEventAt index = some (.entry entered side)) :
    trail.breakEven index = breakEvenPrice (trail.view.bars.close entered) side
      (trail.fees.enter side) (trail.fees.exit side) :=
  congrArg (fun reading : StateM (Unit × trail.source.State) Float => (reading ((), trail.state)).1)
    (whileOpen_of_open .number hindex hopen _)

/-- In a position, the extreme is the best close since it was entered. -/
theorem extreme_eq (hindex : index < trail.view.bars.size)
    (hopen : trail.ledger.lastEventAt index = some (.entry entered side)) :
    trail.extreme side index = bestClose trail.view.bars side notANumber (barRange entered index) :=
  congrArg (fun reading : StateM (Unit × trail.source.State) Float => (reading ((), trail.state)).1)
    (whileOpen_of_open .number hindex hopen _)

/-- In a position, the stop is made of its break-even, its best close and the last close. -/
theorem stop_eq (hindex : index < trail.view.bars.size)
    (hopen : trail.ledger.lastEventAt index = some (.entry entered side)) :
    trail.stop index = trailingStopPrice side (trail.breakEven index) (trail.extreme side index)
      (trail.view.bars.close index) trail.distances := by
  rw [breakEven_eq hindex hopen, extreme_eq hindex hopen]
  show ((whileOpen .number trail.view trail.ledger index _).run _).1 = _
  rw [whileOpen_of_open _ hindex hopen]
  cases side <;> rfl

/-- A position that is still open was open at every bar since its entry. -/
theorem open_of_later (hbuilt : trail.ledger.Logged log)
    (hopen : trail.ledger.lastEventAt later = some (.entry entered side))
    (hentered : entered ≤ earlier) (hlater : earlier ≤ later) :
    trail.ledger.lastEventAt earlier = some (.entry entered side) := by
  rw [hbuilt.lastEventAt_eq] at hopen ⊢
  obtain ⟨before, hlog⟩ := List.getLast?_eq_some_iff.mp hopen
  have hfilter : (log.filter fun event => decide (event.index ≤ earlier)) =
      (log.filter fun event => decide (event.index ≤ later)).filter
        fun event => decide (event.index ≤ earlier) := by
    rw [List.filter_filter]
    refine List.filter_congr fun event _ => ?_
    simp only [← Bool.decide_and, decide_eq_decide]
    omega
  have hentry : (TradeEvent.entry entered side).index ≤ earlier := hentered
  rw [hfilter, hlog, List.filter_append, List.getLast?_eq_some_iff]
  exact ⟨_, congrArg _ (List.filter_cons_of_pos (decide_eq_true hentry))⟩

/--
**Locked-in profit stays locked.** Once break-even is locked in, it is so at every bar
until the exit. The break-even stays the same, the stop is no worse than it, and from
one bar to any later one the stop never loosens.
-/
theorem stays_locked (hbuilt : trail.ledger.Logged log)
    (hminimum : Double.Fraction trail.distances.minimum)
    (habove : Double.Fraction trail.distances.above)
    (hopen : trail.ledger.lastEventAt later = some (.entry entered side))
    (hentered : entered ≤ earlier) (hlater : earlier ≤ later)
    (hcloses : trail.view.bars.Closes entered later) (hlocked : trail.LocksIn side earlier) :
    trail.LocksIn side later ∧ trail.breakEven later = trail.breakEven earlier ∧
      side.NoWorse (trail.stop later) (trail.stop earlier) ∧
      side.NoWorse (trail.stop earlier) (trail.breakEven earlier) := by
  have hearlier := open_of_later hbuilt hopen hentered hlater
  have hsize : later < trail.view.bars.size :=
    lt_size_of_close (hcloses later (hentered.trans hlater) (Nat.le_refl _))
  have hsize' := hlater.trans_lt hsize
  have heven : trail.breakEven later = trail.breakEven earlier :=
    (breakEven_eq hsize hopen).trans (breakEven_eq hsize' hearlier).symm
  -- the best close can only improve, and the stop moves with it: the rest is monotone in it
  have hextreme : side.NoWorse (trail.extreme side later) (trail.extreme side earlier) := by
    rw [extreme_eq hsize hopen, extreme_eq hsize' hearlier]
    exact bestClose_later hentered hlater hcloses
  have hlocked' : trail.LocksIn side later := by
    rw [LocksIn, heven]
    exact hlocked.trans (StopDistances.bound_noWorse hminimum hextreme)
  refine ⟨hlocked', heven, ?_, ?_⟩
  · rw [stop_eq hsize hopen, stop_eq hsize' hearlier,
      StopDistances.trailingStopPrice_of_locked _ hlocked',
      StopDistances.trailingStopPrice_of_locked _ hlocked, heven]
    exact StopDistances.lockedStop_noWorse hminimum habove hextreme
  · rw [stop_eq hsize' hearlier, StopDistances.trailingStopPrice_of_locked _ hlocked]
    exact hlocked.trans (StopDistances.lockedStop_noWorse_bound hlocked.isNaN_eq)

/-- A long that is entered at 100, slips to 99 and then rises to 130, with a setback on the way. -/
def rising : Trail where
  fees := ⟨0.001, 0.001⟩
  distances := { below := 0.1, above := 0.05, minimum := 0.01 }
  source := .owned
  state := (TradeLedger.Recording.ofCalls [.entry 0 .long]).ledger
  view := ⟨⟨#[flatBar 0 100, flatBar 1 99, flatBar 2 120, flatBar 3 110, flatBar 4 130]⟩, .empty⟩

/-- Its break-even is locked in at 120, and from there the stop is worth keeping to. -/
theorem rising_stays_locked :
    rising.LocksIn .long 4 ∧ rising.breakEven 4 = rising.breakEven 2 ∧
      rising.stop 2 ≤ rising.stop 4 ∧ rising.breakEven 2 ≤ rising.stop 2 := by
  have hcloses : rising.view.bars.Closes 0 4 := by
    intro bar _ hbar
    have hknown : ∀ bar : Fin 5, (rising.view.bars.close bar).isNaN = false := by decide +kernel
    exact hknown ⟨bar, by omega⟩
  have hlocked : rising.LocksIn .long 2 := by
    show rising.breakEven 2 ≤
      rising.distances.bound .long (rising.breakEven 2) (rising.extreme .long 2)
    decide +kernel
  have hsince : rising.ledger.lastEventAt 4 = some (.entry 0 .long) := by decide +kernel
  exact stays_locked (TradeLedger.Recording.logged [.entry 0 .long])
    ⟨by decide +kernel, by decide +kernel⟩ ⟨by decide +kernel, by decide +kernel⟩
    hsince (by decide) (by decide) hcloses hlocked

/-- Until then the stop may loosen. -/
example : rising.stop 1 < rising.stop 0 := by decide +kernel

end Trail

end SwingTrader
