import SwingTrader.Proofs.Indicator.Unchanged
import Mathlib.Logic.Relation

/-!
# SwingTrader — memos do not show

A memo keeps a value as soon as its bar is not the newest one, while events are
still taken. What carries over from step to step is that every value in a memo, at
whatever depth, is what its bar has without memos: a reading adds such values only,
and bars and events come too late to change one.

* `Indicator.Settled`, `Indicator.Faithful` — the values that memos hold;
* `Indicator.simulates_read` — a reading answers as one without memos does;
* `Indicator.Use`, `Indicator.Step` — what may happen to an indicator and to its copy
  without memos;
* `Indicator.read_of_steps` — the two answer alike, at any time.
-/

namespace SwingTrader

namespace Indicator

variable {output : Output}

/-! ## Memos -/

/-- Values of bars before the newest one, each what the indicator has there without memos. -/
def Settled (view : MarketView) (inner : Indicator output) (plain : inner.unmemoized.State)
    (values : List (Nat × output.Value)) : Prop :=
  ∀ settled ∈ values, settled.1 + 1 < view.bars.size ∧
    (inner.unmemoized.read view settled.1 plain).1 = settled.2

/-- Every memo holds settled values. -/
def Faithful (view : MarketView) :
    {output : Output} → (indicator : Indicator output) → indicator.State → Prop
  | _, price _, _ => True
  | _, lowest source _, state => source.Faithful view state
  | _, breakEven source _ _, state => source.Faithful view state.1
  | _, sinceEntry source _ _, state => source.Faithful view state.1
  | _, trailingStop _ _ _, _ => True
  | _, inMarket _, _ => True
  | _, pivot _ _, _ => True
  | _, pivotOf _ _ source, state => source.Faithful view state.2
  | _, memo inner, state => inner.Faithful view state.1 ∧
    inner.Settled view (inner.unmemoizedState state.1) state.2

/-- No memo holds a value. -/
def Unread : {output : Output} → (indicator : Indicator output) → indicator.State → Prop
  | _, price _, _ => True
  | _, lowest source _, state => source.Unread state
  | _, breakEven source _ _, state => source.Unread state.1
  | _, sinceEntry source _ _, state => source.Unread state.1
  | _, trailingStop _ _ _, _ => True
  | _, inMarket _, _ => True
  | _, pivot _ _, _ => True
  | _, pivotOf _ _ source, state => source.Unread state.2
  | _, memo inner, state => inner.Unread state.1 ∧ state.2 = []

theorem unread_start (indicator : Indicator output) : indicator.Unread indicator.start := by
  induction indicator with
  | lowest _ _ ih => exact ih
  | breakEven _ _ _ ih => exact ih
  | sinceEntry _ _ _ ih => exact ih
  | pivotOf _ _ _ ih => exact ih
  | memo _ ih => exact ⟨ih, rfl⟩
  | _ => trivial

/-- Memos that hold nothing hold nothing false. -/
theorem Unread.faithful {indicator : Indicator output} {state : indicator.State}
    (h : indicator.Unread state) (view : MarketView) : indicator.Faithful view state := by
  induction indicator with
  | lowest _ _ ih => exact ih h
  | breakEven _ _ _ ih => exact ih h
  | sinceEntry _ _ _ ih => exact ih h
  | pivotOf _ _ _ ih => exact ih h
  | memo _ ih => exact ⟨ih h.1, by simp [Settled, h.2]⟩
  | _ => trivial

section Memos

variable {view view' : MarketView}

/-- Settled values stay settled while bars and events come after them. -/
theorem Settled.of_unchanged {inner : Indicator output} (hpivots : inner.ReadsNoPivots)
    (hsize : view.bars.size ≤ view'.bars.size)
    (hbars : ∀ index < view.bars.size - 1, view.bars.get? index = view'.bars.get? index)
    {plain plain' : inner.unmemoized.State} {values : List (Nat × output.Value)}
    (h : inner.Settled view plain values)
    (hunchanged : inner.unmemoized.Unchanged (view.bars.size - 1) view.ledgers view'.ledgers plain
      plain') :
    inner.Settled view' plain' values := by
  intro settled hsettled
  obtain ⟨hlt, hvalue⟩ := h settled hsettled
  refine ⟨Nat.lt_of_lt_of_le hlt hsize, ?_⟩
  rw [← read_unmemoized_congr hpivots hbars hunchanged (Nat.lt_sub_of_add_lt hlt)]
  exact hvalue

/--
Settled values stay right while bars are added and the ledgers say of every bar but
the newest what they said.
-/
theorem Faithful.of_unchanged {indicator : Indicator output} (hpivots : indicator.ReadsNoPivots)
    (hsize : view.bars.size ≤ view'.bars.size)
    (hbars : ∀ index < view.bars.size - 1, view.bars.get? index = view'.bars.get? index)
    {state state' : indicator.State} (h : indicator.Faithful view state)
    (hunchanged : indicator.Unchanged (view.bars.size - 1) view.ledgers view'.ledgers state
      state') :
    indicator.Faithful view' state' := by
  induction indicator with
  | price => trivial
  | lowest _ _ ih => exact ih hpivots h hunchanged
  | breakEven _ _ _ ih => exact ih hpivots h hunchanged.1
  | sinceEntry _ _ _ ih => exact ih hpivots h hunchanged.1
  | trailingStop => trivial
  | inMarket => trivial
  | pivot => cases hpivots
  | pivotOf => cases hpivots
  | memo inner ih =>
    refine ⟨ih hpivots h.1 hunchanged.1, ?_⟩
    rw [← hunchanged.2]
    exact h.2.of_unchanged hpivots hsize hbars hunchanged.1.unmemoizedState

/-- A memory with faithful memos, and what is left of it without them. -/
def Mirrors (view : MarketView) (indicator : Indicator output) (state : indicator.State)
    (plain : indicator.unmemoized.State) : Prop :=
  indicator.Faithful view state ∧ indicator.unmemoizedState state = plain

theorem mirrors_prod_iff {ρ : Type} (source : Indicator .number) (state : source.State × ρ)
    (plain : source.unmemoized.State × ρ) :
    (source.Faithful view state.1 ∧ (source.unmemoizedState state.1, state.2) = plain) ↔
      Mirrors view source state.1 plain.1 ∧ state.2 = plain.2 :=
  (and_congr_right' Prod.ext_iff).trans and_assoc.symm

/--
A value that a memo does not hold is looked for inside, and kept unless its bar is the
newest one.
-/
theorem read_memo_of_lookup (inner : Indicator output) (view : MarketView) (state : inner.State)
    {index : Nat} {settled : List (Nat × output.Value)} (h : settled.lookup index = none) :
    (memo inner).read view index (state, settled) =
      ((inner.read view index state).1, (inner.read view index state).2,
        if index + 1 < view.bars.size then (index, (inner.read view index state).1) :: settled
        else settled) := by
  cases hread : inner.read view index state
  simp only [read, h, hread]
  split <;> rfl

/-- Faithful memos do not show in what is read, and reading leaves them faithful. -/
theorem simulates_read {indicator : Indicator output} (hpivots : indicator.ReadsNoPivots)
    (view : MarketView) (index : Nat) :
    Simulates (Mirrors view indicator) (indicator.read view index)
      (indicator.unmemoized.read view index) := by
  induction indicator generalizing index with
  | price => exact .pure _
  | lowest source lookback ih =>
    simp only [unmemoized, read]
    exact Simulates.ite Iff.rfl (.pure notANumber) (Simulates.lowestOf (fun i _ => ih hpivots i) _)
  | breakEven source fees ledger ih =>
    rintro state _ ⟨h, rfl⟩
    refine Simulates.whileOpen (R := Mirrors view (breakEven source fees ledger)) Iff.rfl rfl
      (fun entered _ side => ?_) _ _ ⟨h, rfl⟩
    exact ((ih hpivots entered).bind fun _ => .pure _).onFirst (S := Eq) (mirrors_prod_iff source)
  | sinceEntry source extremum ledger ih =>
    rintro state _ ⟨h, rfl⟩
    refine Simulates.whileOpen (R := Mirrors view (sinceEntry source extremum ledger)) Iff.rfl rfl
      (fun entered _ side => ?_) _ _ ⟨h, rfl⟩
    exact (Simulates.extremeOf extremum (fun i _ => ih hpivots i) _).onFirst (S := Eq)
      (mirrors_prod_iff source)
  | trailingStop fees distances ledger =>
    rintro state _ ⟨h, rfl⟩
    exact Simulates.whileOpen (R := Mirrors view (trailingStop fees distances ledger)) Iff.rfl rfl
      (fun _ _ _ => .pure _) _ _ ⟨h, rfl⟩
  | inMarket ledger =>
    rintro state _ ⟨h, rfl⟩
    exact Simulates.whileOpen (R := Mirrors view (inMarket ledger)) Iff.rfl rfl
      (fun _ _ _ => .pure _) _ _ ⟨h, rfl⟩
  | pivot => cases hpivots
  | pivotOf => cases hpivots
  | memo inner ih =>
    rintro ⟨state, settled⟩ _ ⟨⟨h, hsettled⟩, rfl⟩
    have hplain : (inner.unmemoized.read view index (inner.unmemoizedState state)).2 =
        inner.unmemoizedState state := read_unmemoized_snd hpivots view index _
    obtain ⟨hvalue, hfaithful, hstate⟩ := ih hpivots index state _ ⟨h, rfl⟩
    cases hlookup : settled.lookup index with
    | some value =>
      -- the memo answers, with a settled value
      have hmem : (index, value) ∈ settled := by
        obtain ⟨before, after, rfl, -⟩ := List.lookup_eq_some_iff.mp hlookup
        simp
      simp only [read, hlookup]
      exact ⟨(hsettled _ hmem).2.symm, ⟨h, hsettled⟩, hplain.symm⟩
    | none =>
      -- what is inside answers, and leaves the copy as it was: what was settled still is
      rw [read_memo_of_lookup inner view state hlookup]
      refine ⟨hvalue, ⟨hfaithful, ?_⟩, hstate⟩
      dsimp only
      rw [hstate, hplain]
      split
      · next hlt => exact List.forall_mem_cons.mpr ⟨⟨hlt, hvalue.symm⟩, hsettled⟩
      · exact hsettled

/-! ## Steps -/

/--
An indicator, or a part of it at whatever depth, is read at a bar, or is offered an
event of the newest bar or a later one for its own ledger. Its copy without memos
is offered the same events, and is not read.
-/
inductive Use (view : MarketView) : {output : Output} → (indicator : Indicator output) →
    indicator.State → indicator.unmemoized.State → indicator.State → indicator.unmemoized.State →
    Prop where
  | read {output : Output} {indicator : Indicator output} {state : indicator.State}
      {plain : indicator.unmemoized.State} (index : Nat) :
      Use view indicator state plain (indicator.read view index state).2 plain
  | event {output : Output} {indicator : Indicator output} {state : indicator.State}
      {plain : indicator.unmemoized.State} {event : TradeEvent} :
      view.bars.size ≤ event.index + 1 →
        Use view indicator state plain (indicator.offer event state)
          (indicator.unmemoized.offer event plain)
  | lowest {source : Indicator .number} {lookback : Lookback} {state state' : source.State}
      {plain plain' : source.unmemoized.State} :
      Use view source state plain state' plain' →
        Use view (lowest source lookback) state plain state' plain'
  | breakEven {source : Indicator .number} {fees : Fees} {ledger : LedgerSource}
      {state state' : source.State} {plain plain' : source.unmemoized.State}
      {events events' : ledger.State} :
      Use view source state plain state' plain' →
        Use view (breakEven source fees ledger) (state, events) (plain, events') (state', events)
          (plain', events')
  | sinceEntry {source : Indicator .number} {extremum : Extremum} {ledger : LedgerSource}
      {state state' : source.State} {plain plain' : source.unmemoized.State}
      {events events' : ledger.State} :
      Use view source state plain state' plain' →
        Use view (sinceEntry source extremum ledger) (state, events) (plain, events')
          (state', events) (plain', events')
  | memo {output : Output} {inner : Indicator output} {state state' : inner.State}
      {plain plain' : inner.unmemoized.State} {settled : List (Nat × output.Value)} :
      Use view inner state plain state' plain' →
        Use view (memo inner) (state, settled) plain (state', settled) plain'

/-- An indicator and its copy without memos in one market. -/
structure Twins (indicator : Indicator output) where
  view : MarketView
  state : indicator.State
  plain : indicator.unmemoized.State

/--
What may happen to an indicator and its copy: a bar is appended, a ledger of the book
takes an event of the newest bar or a later one, or the indicator is used.
-/
inductive Step (indicator : Indicator output) : Twins indicator → Twins indicator → Prop where
  | append {view : MarketView} {state : indicator.State} {plain : indicator.unmemoized.State}
      {bar : Bar} {bars : BarSeries} :
      view.bars.push bar = .ok bars →
        Step indicator ⟨view, state, plain⟩ ⟨{ view with bars }, state, plain⟩
  | event {view : MarketView} {state : indicator.State} {plain : indicator.unmemoized.State}
      {id : LedgerId} {event : TradeEvent} {ledgers : LedgerBook} :
      view.bars.size ≤ event.index + 1 → view.ledgers.update id event.record = .ok ledgers →
        Step indicator ⟨view, state, plain⟩ ⟨{ view with ledgers }, state, plain⟩
  | use {view : MarketView} {state state' : indicator.State}
      {plain plain' : indicator.unmemoized.State} :
      Use view indicator state plain state' plain' →
        Step indicator ⟨view, state, plain⟩ ⟨view, state', plain'⟩

/--
A use keeps memos faithful. For the copy nothing changes before the newest bar, so
that a memo around the part that was used stays faithful as well.
-/
theorem Use.mirrors {indicator : Indicator output} (hpivots : indicator.ReadsNoPivots)
    {state state' : indicator.State} {plain plain' : indicator.unmemoized.State}
    (huse : Use view indicator state plain state' plain') (h : Mirrors view indicator state plain) :
    Mirrors view indicator state' plain' ∧
      indicator.unmemoized.Unchanged (view.bars.size - 1) view.ledgers view.ledgers plain
        plain' := by
  induction huse with
  | read index =>
    have hread := (simulates_read hpivots view index _ _ h).2
    rw [read_unmemoized_snd hpivots] at hread
    exact ⟨hread, unchanged_refl _ _⟩
  | @event _ indicator state _ event hbound =>
    obtain ⟨hfaithful, rfl⟩ := h
    -- an event at the newest bar or later cannot change what the memo keeps for bars before it
    replace hbound : view.bars.size - 1 ≤ event.index := Nat.sub_le_of_le_add hbound
    have hunchanged := unchanged_offer event hbound view.ledgers indicator state
    refine ⟨⟨?_, unmemoizedState_offer event indicator state⟩,
      unchanged_offer event hbound _ _ _⟩
    exact hfaithful.of_unchanged hpivots (Nat.le_refl _) (fun _ _ => rfl) hunchanged
  | lowest _ ih => exact ih hpivots h
  | breakEven _ ih =>
    obtain ⟨hsource, hevents⟩ := (mirrors_prod_iff _ _ _).mp h
    obtain ⟨hmirrors, hunchanged⟩ := ih hpivots hsource
    exact ⟨(mirrors_prod_iff _ _ _).mpr ⟨hmirrors, hevents⟩, hunchanged, fun _ _ => rfl⟩
  | sinceEntry _ ih =>
    obtain ⟨hsource, hevents⟩ := (mirrors_prod_iff _ _ _).mp h
    obtain ⟨hmirrors, hunchanged⟩ := ih hpivots hsource
    exact ⟨(mirrors_prod_iff _ _ _).mpr ⟨hmirrors, hevents⟩, hunchanged, fun _ _ => rfl⟩
  -- what the source reads before the newest bar has not changed, so the memo may keep it
  | memo _ ih =>
    obtain ⟨⟨hfaithful, hsettled⟩, rfl⟩ := h
    obtain ⟨⟨hfaithful', rfl⟩, hunchanged⟩ := ih hpivots ⟨hfaithful, rfl⟩
    exact ⟨⟨⟨hfaithful', hsettled.of_unchanged hpivots (Nat.le_refl _) (fun _ _ => rfl) hunchanged⟩,
      rfl⟩, hunchanged⟩

/-- Whatever happens to an indicator and its copy, the one goes on mirroring the other. -/
theorem Step.mirrors {indicator : Indicator output} (hpivots : indicator.ReadsNoPivots)
    {before after : Twins indicator} (hstep : Step indicator before after)
    (h : Mirrors before.view indicator before.state before.plain) :
    Mirrors after.view indicator after.state after.plain := by
  obtain ⟨hfaithful, hplain⟩ := h
  cases hstep with
  | @append view _ _ bar bars hpush =>
    refine ⟨hfaithful.of_unchanged hpivots ?_ ?_ (unchanged_refl _ _), hplain⟩
    · rw [BarSeries.size_push hpush]
      exact Nat.le_succ _
    · intro index hindex
      replace hindex : index < view.bars.size - 1 := hindex
      rw [BarSeries.getElem?_push hpush, if_neg (by omega)]
  | event hbound hupdate =>
    refine ⟨hfaithful.of_unchanged hpivots ?_ ?_ (unchanged_of_book ?_ _ _), hplain⟩
    · exact Nat.le_refl _
    · exact fun _ _ => rfl
    · intro other index hindex
      have hbefore := Nat.lt_of_lt_of_le hindex (Nat.sub_le_of_le_add hbound)
      exact (LedgerBook.lastEventAt_of_update hupdate other hbefore).symm
  | use huse => exact (huse.mirrors hpivots ⟨hfaithful, hplain⟩).1

/--
**Memos do not show.** Whatever bars were appended, events taken and values read
before, an indicator without pivots answers at every bar what its copy without
memos answers, which has taken the same events and was never read.
-/
theorem read_of_steps {indicator : Indicator output} (hpivots : indicator.ReadsNoPivots)
    {view : MarketView} {state : indicator.State} (hunread : indicator.Unread state)
    {twins : Twins indicator}
    (h : Relation.ReflTransGen (Step indicator) ⟨view, state, indicator.unmemoizedState state⟩
      twins) :
    indicator.unmemoizedState twins.state = twins.plain ∧
      ∀ index, (indicator.read twins.view index twins.state).1 =
        (indicator.unmemoized.read twins.view index twins.plain).1 := by
  have hmirrors : Mirrors twins.view indicator twins.state twins.plain := by
    induction h with
    | refl => exact ⟨hunread.faithful view, rfl⟩
    | tail _ hstep ih => exact hstep.mirrors hpivots ih
  exact ⟨hmirrors.2, fun index => (simulates_read hpivots twins.view index _ _ hmirrors).1⟩

/-- The highest close since an entry, with a memo around it and one around the closes. -/
def highestClose : Indicator .number :=
  memo (sinceEntry (memo (price .close)) .highest .owned)

/-- Bars of one instant each, at given prices. -/
def flatBars (prices : Array Float) : BarSeries :=
  ⟨prices.mapIdx fun second price => ⟨⟨second, 0⟩, ⟨second, 0⟩, price, price, price, price⟩⟩

/-- A position opened at the first bar and closed at the second, read at the first in between. -/
def closedAfter : Twins highestClose where
  view := ⟨flatBars #[3, 5], .empty⟩
  state := highestClose.offer (.exit 1)
    (highestClose.read ⟨flatBars #[3, 5], .empty⟩ 0
      (highestClose.offer (.entry 0 .long) highestClose.start)).2
  plain := highestClose.unmemoized.offer (.exit 1)
    (highestClose.unmemoized.offer (.entry 0 .long) highestClose.unmemoized.start)

/-- What the memo holds of the first bar, and the newest bar anew. -/
theorem read_of_closedAfter :
    highestClose.settledCount closedAfter.state = some 1 ∧
      (highestClose.read closedAfter.view 0 closedAfter.state).1 =
        (highestClose.unmemoized.read closedAfter.view 0 closedAfter.plain).1 ∧
      (highestClose.read closedAfter.view 1 closedAfter.state).1 =
        (highestClose.unmemoized.read closedAfter.view 1 closedAfter.plain).1 := by
  have hpivots : highestClose.ReadsNoPivots := trivial
  have hpush : (flatBars #[3]).push ⟨⟨1, 0⟩, ⟨1, 0⟩, 5, 5, 5, 5⟩ = .ok (flatBars #[3, 5]) := rfl
  have hentry : Relation.ReflTransGen (Step highestClose)
      ⟨⟨flatBars #[3], .empty⟩, highestClose.start,
        highestClose.unmemoizedState highestClose.start⟩
      ⟨⟨flatBars #[3], .empty⟩, highestClose.offer (.entry 0 .long) highestClose.start,
        highestClose.unmemoized.offer (.entry 0 .long) highestClose.unmemoized.start⟩ :=
    .single (.use (.event (by decide)))
  have hsteps : Relation.ReflTransGen (Step highestClose) _ closedAfter :=
    ((hentry.tail (.append hpush)).tail (.use (.read 0))).tail (.use (.event (by decide)))
  have hread := (read_of_steps hpivots (unread_start highestClose) hsteps).2
  exact ⟨by decide +kernel, hread 0, hread 1⟩

end Memos

end Indicator

end SwingTrader
