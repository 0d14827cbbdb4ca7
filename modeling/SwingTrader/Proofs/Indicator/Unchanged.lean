import SwingTrader.Indicator.Unmemoized
import SwingTrader.Proofs.Indicator.Simulation

/-!
# SwingTrader — what later bars and events leave alone

A bar is appended after all others, and an event is taken at the newest bar or
after it. An indicator that looks back on no pivots reads nothing past the bar it
is read at, so its value at any earlier bar stays what it was.

* `LedgerSource.Unchanged`, `Indicator.Unchanged` — ledgers that say the same of all
  bars before a given one;
* `Indicator.offer`, `Indicator.unchanged_offer` — an event that is taken, or refused;
* `Indicator.ReadsNoPivots` — indicators that look back on no pivots;
* `Indicator.read_unmemoized_congr` — the value at an earlier bar stays;
* `Indicator.read_unmemoized_snd` — without memos, reading leaves nothing behind.
-/

namespace SwingTrader

/-! ## Bars -/

namespace BarSeries

theorem lt_size_iff (series : BarSeries) (index : Nat) :
    index < series.size ↔ (series.get? index).isSome := by
  simp [get?, size]

theorem price_congr {series series' : BarSeries} {index : Nat}
    (h : series.get? index = series'.get? index) (field : PriceField) :
    series.price field index = series'.price field index := by
  rw [price, price, h]

end BarSeries

/-- A trailing stop looks at closes up to its bar. -/
theorem trailingStopAt_congr {bars bars' : BarSeries} {index entered : Nat}
    (h : ∀ earlier ≤ index, bars.get? earlier = bars'.get? earlier) (hle : entered ≤ index)
    (fees : Fees) (distances : StopDistances) (side : Side) :
    trailingStopAt fees distances bars entered side index =
      trailingStopAt fees distances bars' entered side index := by
  have hclose : ∀ earlier ≤ index, bars.close earlier = bars'.close earlier :=
    fun earlier hearlier => BarSeries.price_congr (h earlier hearlier) .close
  have hrun (extremum : Extremum) : Simulates (fun (_ _ : Unit) => True)
      (extremeOf extremum (fun i => return bars.close i) notANumber (barRange entered index))
      (extremeOf extremum (fun i => return bars'.close i) notANumber (barRange entered index)) := by
    refine Simulates.extremeOf extremum (fun i hi => ?_) notANumber
    rw [hclose i (mem_barRange.mp hi).2]
    exact .pure _
  have hextreme (extremum : Extremum) := (hrun extremum () () trivial).1
  simp only [trailingStopAt, StateT.run, hextreme, hclose entered hle, hclose index (Nat.le_refl _)]

/-! ## Ledgers -/

/-- The memory after an event was offered: one that refuses the event stays as it was. -/
def memoryAfter {σ : Type} (state : σ) : Except LedgerError (Bool × σ) → σ
  | .ok (_, state') => state'
  | .error _ => state

namespace LedgerSource

/-- Of every bar before a given one, the ledger says what it said. -/
def Unchanged (bound : Nat) (book book' : LedgerBook) (source : LedgerSource)
    (state state' : source.State) : Prop :=
  ∀ index < bound,
    (source.resolve state book).lastEventAt index = (source.resolve state' book').lastEventAt index

/-- The ledger after an event was offered; a ledger of the book is not the indicator's to write. -/
def offer (event : TradeEvent) (source : LedgerSource) (state : source.State) : source.State :=
  memoryAfter state (source.record state event.record)

/-- An event changes nothing before its bar. -/
theorem unchanged_offer {event : TradeEvent} {bound : Nat} (hbound : bound ≤ event.index)
    (book : LedgerBook) (source : LedgerSource) (state : source.State) :
    source.Unchanged bound book book state (source.offer event state) := by
  intro index hindex
  cases source with
  | shared id => rfl
  | owned =>
    cases hrecord : event.record state with
    | error error => simp [offer, memoryAfter, record, hrecord, bind, Except.bind]
    | ok ledger =>
      simp only [offer, memoryAfter, record, hrecord, bind, Except.bind, pure, Except.pure, resolve]
      exact (TradeEvent.lastEventAt_of_record hrecord (Nat.lt_of_lt_of_le hindex hbound)).symm

end LedgerSource

namespace Indicator

variable {output : Output}

/-! ## Memories -/

/-- In two memories, ledgers say the same of every bar before a given one, and all else is equal. -/
def Unchanged (bound : Nat) (book book' : LedgerBook) :
    {output : Output} → (indicator : Indicator output) → indicator.State → indicator.State → Prop
  | _, price _, _, _ => True
  | _, lowest source _, state, state' => source.Unchanged bound book book' state state'
  | _, breakEven source _ ledger, state, state' =>
    source.Unchanged bound book book' state.1 state'.1 ∧
      ledger.Unchanged bound book book' state.2 state'.2
  | _, sinceEntry source _ ledger, state, state' =>
    source.Unchanged bound book book' state.1 state'.1 ∧
      ledger.Unchanged bound book book' state.2 state'.2
  | _, trailingStop _ _ ledger, state, state' => ledger.Unchanged bound book book' state state'
  | _, inMarket ledger, state, state' => ledger.Unchanged bound book book' state state'
  | _, pivot _ _, state, state' => state = state'
  | _, pivotOf _ _ source, state, state' =>
    state.1 = state'.1 ∧ source.Unchanged bound book book' state.2 state'.2
  | _, memo inner, state, state' =>
    inner.Unchanged bound book book' state.1 state'.1 ∧ state.2 = state'.2

variable {bound : Nat} {book book' : LedgerBook}

/-- A memory that stays as it was reads ledgers of a book that may have changed. -/
theorem unchanged_of_book
    (hbook : ∀ id, ∀ index < bound,
      (book.read id).lastEventAt index = (book'.read id).lastEventAt index)
    (indicator : Indicator output) (state : indicator.State) :
    indicator.Unchanged bound book book' state state := by
  have hledger (source : LedgerSource) (events : source.State) :
      source.Unchanged bound book book' events events := by
    cases source with
    | owned => exact fun _ _ => rfl
    | shared id => exact hbook id
  induction indicator with
  | price => trivial
  | lowest _ _ ih => exact ih state
  | breakEven _ _ _ ih => exact ⟨ih state.1, hledger _ _⟩
  | sinceEntry _ _ _ ih => exact ⟨ih state.1, hledger _ _⟩
  | trailingStop => exact hledger _ state
  | inMarket => exact hledger _ state
  | pivot => rfl
  | pivotOf _ _ _ ih => exact ⟨rfl, ih state.2⟩
  | memo _ ih => exact ⟨ih state.1, rfl⟩

theorem unchanged_refl (indicator : Indicator output) (state : indicator.State) :
    indicator.Unchanged bound book book state state :=
  unchanged_of_book (fun _ _ _ => rfl) indicator state

/-- Taking the memos out changes nothing that ledgers say. -/
theorem Unchanged.unmemoizedState {indicator : Indicator output} {state state' : indicator.State}
    (h : indicator.Unchanged bound book book' state state') :
    indicator.unmemoized.Unchanged bound book book' (indicator.unmemoizedState state)
      (indicator.unmemoizedState state') := by
  induction indicator with
  | lowest _ _ ih => exact ih h
  | breakEven _ _ _ ih => exact ⟨ih h.1, h.2⟩
  | sinceEntry _ _ _ ih => exact ⟨ih h.1, h.2⟩
  | pivotOf _ _ _ ih => exact ⟨h.1, ih h.2⟩
  | memo _ ih => exact ih h.1
  | _ => exact h

/-- What an indicator remembers after an event was offered to it. -/
def offer (event : TradeEvent) (indicator : Indicator output) (state : indicator.State) :
    indicator.State :=
  memoryAfter state (indicator.record state event.record)

section Offer

variable (event : TradeEvent)

/-- A break-even offers an event to its ledger, and its source remembers nothing of it. -/
theorem offer_breakEven (source : Indicator .number) (fees : Fees) (ledger : LedgerSource)
    (state : (breakEven source fees ledger).State) :
    (breakEven source fees ledger).offer event state = (state.1, ledger.offer event state.2) := by
  simp only [offer, LedgerSource.offer, record]
  cases ledger.record state.2 event.record <;> rfl

/--
An extreme since entry offers an event to its ledger, and its source remembers nothing
of it.
-/
theorem offer_sinceEntry (source : Indicator .number) (extremum : Extremum) (ledger : LedgerSource)
    (state : (sinceEntry source extremum ledger).State) :
    (sinceEntry source extremum ledger).offer event state =
      (state.1, ledger.offer event state.2) := by
  simp only [offer, LedgerSource.offer, record]
  cases ledger.record state.2 event.record <;> rfl

/-- A memo passes an event on, and keeps its values. -/
theorem offer_memo (inner : Indicator output) (state : (memo inner).State) :
    (memo inner).offer event state = (inner.offer event state.1, state.2) := by
  simp only [offer, record]
  cases inner.record state.1 event.record <;> rfl

/-- The copy without memos takes the events that the indicator takes. -/
theorem unmemoizedState_offer (indicator : Indicator output) (state : indicator.State) :
    indicator.unmemoizedState (indicator.offer event state) =
      indicator.unmemoized.offer event (indicator.unmemoizedState state) := by
  induction indicator with
  | breakEven source fees ledger =>
    rw [offer_breakEven]
    exact (offer_breakEven event source.unmemoized fees ledger
      (source.unmemoizedState state.1, state.2)).symm
  | sinceEntry source extremum ledger =>
    rw [offer_sinceEntry]
    exact (offer_sinceEntry event source.unmemoized extremum ledger
      (source.unmemoizedState state.1, state.2)).symm
  | memo _ ih =>
    rw [offer_memo]
    exact ih state.1
  | _ => rfl

/-- An event that is offered changes nothing that an indicator knows of the bars before it. -/
theorem unchanged_offer (hbound : bound ≤ event.index) (book : LedgerBook)
    (indicator : Indicator output) (state : indicator.State) :
    indicator.Unchanged bound book book state (indicator.offer event state) := by
  induction indicator with
  | breakEven source _ ledger =>
    rw [offer_breakEven]
    exact ⟨unchanged_refl source _, ledger.unchanged_offer hbound book state.2⟩
  | sinceEntry source _ ledger =>
    rw [offer_sinceEntry]
    exact ⟨unchanged_refl source _, ledger.unchanged_offer hbound book state.2⟩
  | trailingStop _ _ ledger => exact ledger.unchanged_offer hbound book state
  | inMarket ledger => exact ledger.unchanged_offer hbound book state
  | memo inner ih =>
    rw [offer_memo]
    exact ⟨ih state.1, rfl⟩
  | _ => exact unchanged_refl _ state

end Offer

/-! ## Readings -/

/-- An indicator that looks back on no pivots, at whatever depth. -/
def ReadsNoPivots : {output : Output} → Indicator output → Prop
  | _, price _ => True
  | _, lowest source _ => source.ReadsNoPivots
  | _, breakEven source _ _ => source.ReadsNoPivots
  | _, sinceEntry source _ _ => source.ReadsNoPivots
  | _, trailingStop .. => True
  | _, inMarket _ => True
  | _, pivot .. => False
  | _, pivotOf .. => False
  | _, memo inner => inner.ReadsNoPivots

section Readings

variable {view view' : MarketView}

/--
Without memos and pivots, a reading leaves its memory as it was, and answers alike
in two markets that agree on all bars up to its own. The induction is on what the
indicator is built from: a source is read at the same bar or before it.
-/
theorem simulates_unmemoized {indicator : Indicator output} (hpivots : indicator.ReadsNoPivots)
    (hbars : ∀ index < bound, view.bars.get? index = view'.bars.get? index) {index : Nat}
    (hindex : index < bound) : ∀ {state state' : indicator.unmemoized.State},
    indicator.unmemoized.Unchanged bound view.ledgers view'.ledgers state state' →
      Simulates (Exactly state state')
        (indicator.unmemoized.read view index) (indicator.unmemoized.read view' index) := by
  have hsize : ∀ {index}, index < bound → (index < view.bars.size ↔ index < view'.bars.size) := by
    intro index hindex
    rw [BarSeries.lt_size_iff, BarSeries.lt_size_iff, hbars index hindex]
  -- the induction is on how the indicator is built; sources are read at bars up to this one,
  -- so the bar is generalized
  induction indicator generalizing index with
  | price field =>
    intro state state' h
    simp only [unmemoized, read, BarSeries.price_congr (hbars index hindex)]
    exact .pure _
  | lowest source lookback ih =>
    intro state state' h
    simp only [unmemoized, read]
    -- both sides have a full window, or neither has
    refine Simulates.ite ?_ (.pure notANumber) (Simulates.lowestOf (fun i hi => ?_) _)
    · have hiff := hsize hindex
      simp only [Bool.or_eq_true, decide_eq_true_eq]
      omega
    · have hle := (mem_barRange.mp hi).2
      exact ih hpivots (by omega) h
  | breakEven source fees ledger ih =>
    rintro state state' h _ _ ⟨rfl, rfl⟩
    -- the ledgers agree on the entry of the position, and the source is read there
    refine Simulates.whileOpen (R := Exactly _ _) (hsize hindex) (h.2 index hindex)
      (fun entered hle side => ?_) _ _ ⟨rfl, rfl⟩
    have hentry := ih hpivots (Nat.lt_of_le_of_lt hle hindex) h.1
    exact (hentry.bind fun _ => .pure _).onFirst fun _ _ => exactly_prod_iff
  | sinceEntry source extremum ledger ih =>
    rintro state state' h _ _ ⟨rfl, rfl⟩
    refine Simulates.whileOpen (R := Exactly _ _) (hsize hindex) (h.2 index hindex)
      (fun entered hle side => ?_) _ _ ⟨rfl, rfl⟩
    refine (Simulates.extremeOf extremum (fun i hi => ?_) _).onFirst fun _ _ => exactly_prod_iff
    exact ih hpivots (Nat.lt_of_le_of_lt (mem_barRange.mp hi).2 hindex) h.1
  | trailingStop fees distances ledger =>
    rintro state state' h _ _ ⟨rfl, rfl⟩
    refine Simulates.whileOpen (R := Exactly _ _) (hsize hindex) (h index hindex)
      (fun entered hle side => ?_) _ _ ⟨rfl, rfl⟩
    rw [trailingStopAt_congr (fun i hi => hbars i (Nat.lt_of_le_of_lt hi hindex)) hle]
    exact .pure _
  | inMarket ledger =>
    rintro state state' h _ _ ⟨rfl, rfl⟩
    exact Simulates.whileOpen (R := Exactly _ _) (hsize hindex) (h index hindex)
      (fun _ _ _ => .pure _) _ _ ⟨rfl, rfl⟩
  -- pivots look back on a memory of their own
  | pivot => cases hpivots
  | pivotOf => cases hpivots
  | memo inner ih =>
    intro state state' h
    exact ih hpivots hindex h

/-- Reading an indicator without memos and pivots changes nothing that it remembers. -/
theorem read_unmemoized_snd {indicator : Indicator output} (hpivots : indicator.ReadsNoPivots)
    (view : MarketView) (index : Nat) (state : indicator.unmemoized.State) :
    (indicator.unmemoized.read view index state).2 = state :=
  (simulates_unmemoized hpivots (fun _ _ => rfl) (Nat.lt_succ_self index) (unchanged_refl _ state)
    state state ⟨rfl, rfl⟩).2.1

/-- What comes after a bar does not change its value. -/
theorem read_unmemoized_congr {indicator : Indicator output} (hpivots : indicator.ReadsNoPivots)
    (hbars : ∀ index < bound, view.bars.get? index = view'.bars.get? index)
    {state state' : indicator.unmemoized.State}
    (h : indicator.unmemoized.Unchanged bound view.ledgers view'.ledgers state state') {index : Nat}
    (hindex : index < bound) :
    (indicator.unmemoized.read view index state).1 =
      (indicator.unmemoized.read view' index state').1 :=
  (simulates_unmemoized hpivots hbars hindex h _ _ ⟨rfl, rfl⟩).1

end Readings

end Indicator

end SwingTrader
