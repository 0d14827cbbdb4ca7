import SwingTrader.Proofs.Indicator.Unchanged
import SwingTrader.Proofs.Ledger.Log

/-!
# SwingTrader — no hindsight

What an indicator says of a bar depends on the bars up to it and on the events up to
it. Two markets that have these in common may go on as differently as they like.

* `TradeLedger.SameUpTo` — two ledgers that hold the same events up to a bar;
* `TradeLedger.SameUpTo.lastEventAt_eq` — they say the same of every bar up to it;
* `Indicator.Plain` — indicators built of prices, windows, positions and stops;
* `Indicator.SameUpTo` — the ledgers that an indicator reads hold the same events;
* `Indicator.read_of_sameUpTo` — the value of such an indicator is the same.
-/

namespace SwingTrader

/-! ## Ledgers -/

namespace TradeLedger

variable {bar : Nat} {ledger ledger' : TradeLedger} {log log' : List TradeEvent}

/-- Two ledgers were each built event by event, and they hold the same events up to a bar. -/
structure SameUpTo (bar : Nat) (ledger ledger' : TradeLedger) : Prop where
  built : ∃ log, Logged ledger log
  built' : ∃ log, Logged ledger' log
  holds_iff : ∀ event : TradeEvent, event.index ≤ bar → (ledger.Holds event ↔ ledger'.Holds event)

/-- The order of events is that of their bars, so logs with the same events are equal. -/
theorem Logged.filter_eq (h : Logged ledger log) (h' : Logged ledger' log')
    (hholds : ∀ event : TradeEvent, event.index ≤ bar →
      (ledger.Holds event ↔ ledger'.Holds event)) :
    (log.filter fun event => decide (event.index ≤ bar)) =
      log'.filter fun event => decide (event.index ≤ bar) := by
  have hsorted := h.increasing.filter fun event => decide (event.index ≤ bar)
  have hsorted' := h'.increasing.filter fun event => decide (event.index ≤ bar)
  refine List.Perm.eq_of_pairwise (fun _ _ _ _ hlt hgt => absurd hgt (Nat.lt_asymm hlt))
    hsorted hsorted' ?_
  have hne {event later : TradeEvent} (hlt : event.index < later.index) : event ≠ later :=
    fun heq => Nat.lt_irrefl _ (heq ▸ hlt)
  rw [List.perm_ext_iff_of_nodup (hsorted.imp hne) (hsorted'.imp hne)]
  intro event
  simp only [List.mem_filter, decide_eq_true_eq, h.mem_iff, h'.mem_iff]
  exact and_congr_left (hholds event)

/-- Ledgers that hold the same events up to a bar say the same of every bar up to it. -/
theorem SameUpTo.lastEventAt_eq (h : SameUpTo bar ledger ledger') {index : Nat}
    (hindex : index ≤ bar) : ledger.lastEventAt index = ledger'.lastEventAt index := by
  obtain ⟨log, hlog⟩ := h.built
  obtain ⟨log', hlog'⟩ := h.built'
  rw [hlog.lastEventAt_eq, hlog'.lastEventAt_eq]
  refine congrArg List.getLast? (hlog.filter_eq hlog' fun event hevent => ?_)
  exact h.holds_iff event (Nat.le_trans hevent hindex)

end TradeLedger

/--
The ledger that is read, of the indicator's own or of the book, holds the same events up
to a bar.
-/
def LedgerSource.SameUpTo (bar : Nat) (book book' : LedgerBook) (source : LedgerSource)
    (state state' : source.State) : Prop :=
  (source.resolve state book).SameUpTo bar (source.resolve state' book')

/-- Ledgers that hold the same events up to a bar say the same of every bar up to it. -/
theorem LedgerSource.SameUpTo.unchanged {bar : Nat} {book book' : LedgerBook}
    {source : LedgerSource} {state state' : source.State}
    (h : source.SameUpTo bar book book' state state') :
    source.Unchanged (bar + 1) book book' state state' :=
  fun _ hindex => h.lastEventAt_eq (Nat.le_of_lt_succ hindex)

/-! ## Indicators -/

namespace Indicator

variable {output : Output} {indicator : Indicator output} {bar : Nat} {view view' : MarketView}

/-- Prices, windows, positions and trailing stops, built from one another to any depth. -/
def Plain : {output : Output} → Indicator output → Prop
  | _, price _ => True
  | _, lowest source _ => source.Plain
  | _, breakEven source _ _ => source.Plain
  | _, sinceEntry source _ _ => source.Plain
  | _, trailingStop .. => True
  | _, inMarket _ => True
  | _, pivot .. => False
  | _, pivotOf .. => False
  | _, memo _ => False

/-- What is built of prices, windows, positions and stops reads no pivots. -/
theorem Plain.readsNoPivots (h : indicator.Plain) : indicator.ReadsNoPivots := by
  induction indicator with
  | lowest _ _ ih => exact ih h
  | breakEven _ _ _ ih => exact ih h
  | sinceEntry _ _ _ ih => exact ih h
  | pivot => cases h
  | pivotOf => cases h
  | memo => cases h
  | _ => trivial

theorem Plain.unmemoized_eq (h : indicator.Plain) : indicator.unmemoized = indicator := by
  induction indicator with
  | lowest _ _ ih => rw [unmemoized, ih h]
  | breakEven _ _ _ ih => rw [unmemoized, ih h]
  | sinceEntry _ _ _ ih => rw [unmemoized, ih h]
  | memo => cases h
  | pivotOf => cases h
  | _ => rfl

/--
Every ledger that an indicator reads, its sources included, holds the same events up to
a bar.
-/
def SameUpTo (bar : Nat) (book book' : LedgerBook) :
    {output : Output} → (indicator : Indicator output) → indicator.State → indicator.State → Prop
  | _, lowest source _, state, state' => source.SameUpTo bar book book' state state'
  | _, breakEven source _ ledger, state, state' =>
    source.SameUpTo bar book book' state.1 state'.1 ∧
      ledger.SameUpTo bar book book' state.2 state'.2
  | _, sinceEntry source _ ledger, state, state' =>
    source.SameUpTo bar book book' state.1 state'.1 ∧
      ledger.SameUpTo bar book book' state.2 state'.2
  | _, trailingStop _ _ ledger, state, state' => ledger.SameUpTo bar book book' state state'
  | _, inMarket ledger, state, state' => ledger.SameUpTo bar book book' state state'
  | _, price _, _, _ => True
  | _, pivot .., _, _ => True
  | _, pivotOf _ _ source, state, state' => source.SameUpTo bar book book' state.2 state'.2
  | _, memo inner, state, state' => inner.SameUpTo bar book book' state.1 state'.1

/-- Ledgers with the same events up to a bar are not seen to differ before the next one. -/
theorem SameUpTo.unchanged {book book' : LedgerBook} (hplain : indicator.Plain)
    {state state' : indicator.State} (h : indicator.SameUpTo bar book book' state state') :
    indicator.Unchanged (bar + 1) book book' state state' := by
  induction indicator with
  | price => trivial
  | lowest _ _ ih => exact ih hplain h
  | breakEven _ _ _ ih => exact ⟨ih hplain h.1, h.2.unchanged⟩
  | sinceEntry _ _ _ ih => exact ⟨ih hplain h.1, h.2.unchanged⟩
  | trailingStop => exact LedgerSource.SameUpTo.unchanged h
  | inMarket => exact LedgerSource.SameUpTo.unchanged h
  | pivot => cases hplain
  | pivotOf => cases hplain
  | memo => cases hplain

/--
**No hindsight.** In two markets that agree on the bars up to one, with ledgers that
hold the same events up to it, an indicator says the same of that bar. What comes
later, bars and events, may differ and may be missing.
-/
theorem read_of_sameUpTo (hplain : indicator.Plain)
    (hbars : ∀ index ≤ bar, view.bars.get? index = view'.bars.get? index)
    {state state' : indicator.State}
    (hledgers : indicator.SameUpTo bar view.ledgers view'.ledgers state state') :
    (indicator.read view bar state).1 = (indicator.read view' bar state').1 := by
  have hbars' : ∀ index < bar + 1, view.bars.get? index = view'.bars.get? index :=
    fun index hindex => hbars index (Nat.le_of_lt_succ hindex)
  -- A plain indicator is its own copy without memos, and of such a copy the value is known to stay.
  have hcopy (copy : Indicator output) (heq : indicator.unmemoized = copy) :
      ∀ {state state' : copy.State},
        copy.Unchanged (bar + 1) view.ledgers view'.ledgers state state' →
          (copy.read view bar state).1 = (copy.read view' bar state').1 := by
    subst heq
    exact fun h => read_unmemoized_congr hplain.readsNoPivots hbars' h (Nat.lt_succ_self bar)
  exact hcopy indicator hplain.unmemoized_eq (hledgers.unchanged hplain)

/-- A bar of one instant, at one price. -/
def flatBar (second : Nat) (price : Float) : Bar :=
  ⟨⟨second, 0⟩, ⟨second, 0⟩, price, price, price, price⟩

/-- The highest low since an entry. -/
def highestLow : Indicator .number :=
  sinceEntry (lowest (price .low) ⟨1, Nat.one_pos⟩) .highest .owned

/-- The indicator after a position was opened at the first bar. -/
def afterEntry : highestLow.State :=
  highestLow.offer (.entry 0 .long) highestLow.start

/-- Of a position that is open at the second bar, a third bar and the exit there do not show. -/
theorem read_before_exit :
    (highestLow.read ⟨⟨#[flatBar 0 3, flatBar 1 5]⟩, .empty⟩ 1 afterEntry).1 =
      (highestLow.read ⟨⟨#[flatBar 0 3, flatBar 1 5, flatBar 2 7]⟩, .empty⟩ 1
        (highestLow.offer (.exit 2) afterEntry)).1 := by
  have hplain : highestLow.Plain := trivial
  have hbars : ∀ index ≤ 1, (⟨#[flatBar 0 3, flatBar 1 5]⟩ : BarSeries).get? index =
      (⟨#[flatBar 0 3, flatBar 1 5, flatBar 2 7]⟩ : BarSeries).get? index
    | 0, _ => rfl
    | 1, _ => rfl
  have hsame : TradeLedger.SameUpTo 1 ⟨[(0, .long)], []⟩ ⟨[(0, .long)], [2]⟩ := by
    refine ⟨⟨_, TradeLedger.Recording.logged [.entry 0 .long]⟩,
      ⟨_, TradeLedger.Recording.logged [.entry 0 .long, .exit 2]⟩, fun event hevent => ?_⟩
    cases event with
    | entry => rfl
    | exit index =>
      have hne : index ≠ 2 := Nat.ne_of_lt (Nat.lt_succ_of_le hevent)
      simp [TradeLedger.Holds, hne]
  exact read_of_sameUpTo hplain hbars ⟨trivial, hsame⟩

end Indicator

end SwingTrader
