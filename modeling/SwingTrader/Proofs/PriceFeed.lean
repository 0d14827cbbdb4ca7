import Mathlib.Data.List.Chain
import Mathlib.Data.List.Forall2
import SwingTrader.Proofs.Desk
import SwingTrader.Tracker.Exit

/-!
# SwingTrader — bars and tickers in step

A feed keeps what it has seen twice: as the bars of its series, and as the newest
ticker. A tracker reads prices from the one and compares them with the other. The two
never come apart. A ticker is refused when it is from before the newest one, and for no
other reason; then nothing changes. Any other ticker makes one more bar, which lasts from
the end of the bar before it.

* `Ticker.inOrder` — the tickers of a list that a feed takes, told without any bar;
* `PriceFeed.InStep` — what the bars and the ticker have to do with these;
* `PriceFeed.record_of_inStep` — one more ticker;
* `PriceFeed.Quotes` — the market prices that a tracker works with;
* `PriceFeed.inStep_of_offers` — any number of tickers.
-/

namespace SwingTrader

open Desk Tracker

/-! ## Tickers in order -/

namespace Ticker

/-- A ticker is not from before the newest of those accepted. -/
def Follows (ticker : Ticker) (accepted : List Ticker) : Prop :=
  ∀ newest ∈ accepted.getLast?, newest.time ≤ ticker.time

instance (ticker : Ticker) (accepted : List Ticker) : Decidable (ticker.Follows accepted) :=
  match h : accepted.getLast? with
  | none => isTrue (by simp [Follows, h])
  | some newest => decidable_of_iff (newest.time ≤ ticker.time) (by simp [Follows, h])

/-- Tickers are accepted one after the other, oldest first, and left out when they are late. -/
def accept (accepted : List Ticker) (ticker : Ticker) : List Ticker :=
  if ticker.Follows accepted then accepted ++ [ticker] else accepted

/-- The tickers of a list that are not from before the one that was last accepted. -/
def inOrder (tickers : List Ticker) : List Ticker :=
  tickers.foldl accept []

/-- What the market asks for a position that is opened at once: a long is bought at the ask. -/
def enterQuote (ticker : Ticker) : Side → Float
  | .long => ticker.ask
  | .short => ticker.bid

/-- What the market pays for a position that is closed at once: a long is sold at the bid. -/
def exitQuote (ticker : Ticker) : Side → Float
  | .long => ticker.bid
  | .short => ticker.ask

end Ticker

/-! ## One ticker -/

namespace PriceFeed

variable {feed prices : PriceFeed} {ticker : Ticker}

/-- The newest bar ends at an instant or before it. -/
def EndsBy (feed : PriceFeed) (time : Instant) : Prop :=
  ∀ last, feed.bars.last? = some last → last.stop ≤ time

/-- A ticker that is not from before the end of the newest bar is taken. -/
theorem EndsBy.record (h : feed.EndsBy ticker.time) :
    ∃ prices, feed.record ticker = .ok prices := by
  have hpush : ∃ bars, feed.bars.push (feed.barOf ticker) = .ok bars := by
    unfold BarSeries.push
    cases hlast : feed.bars.last? with
    | none =>
      have hspan : ¬(feed.barOf ticker).stop < (feed.barOf ticker).start := by
        rw [barOf, hlast]
        exact fun hlt => Instant.not_le.mpr hlt (Instant.le_refl _)
      exact ⟨_, if_neg hspan⟩
    | some last =>
      have hby := h last hlast
      -- a bar starts at the end of the last one, unless that is still to come
      have hspan : ¬(feed.barOf ticker).stop < (feed.barOf ticker).start := by
        rw [barOf, hlast]
        dsimp only
        rw [if_pos hby]
        exact fun hlt => Instant.not_le.mpr hlt hby
      have horder : ¬(feed.barOf ticker).stop < last.stop := fun hlt => Instant.not_le.mpr hlt hby
      rw [if_neg hspan]
      exact ⟨_, if_neg horder⟩
  obtain ⟨bars, hbars⟩ := hpush
  refine ⟨{ feed with bars, ticker := some ticker }, ?_⟩
  rw [PriceFeed.record, hbars]
  rfl

/-- The bar of a ticker ends with it. -/
theorem endsBy_of_record (h : feed.record ticker = .ok prices) {time : Instant}
    (htime : ticker.time ≤ time) : prices.EndsBy time := by
  obtain ⟨bars, hpush, rfl⟩ := prices_of_record h
  intro last hlast
  rw [BarSeries.last?, BarSeries.bars_push hpush, Array.back?_push] at hlast
  obtain rfl := Option.some.inj hlast
  exact htime

/-- The bar that a late ticker would make has no length, so what is wrong with it is its place. -/
theorem record_of_late {last : Bar} (hlast : feed.bars.last? = some last)
    (hlate : ticker.time < last.stop) :
    feed.record ticker = .error (.outOfOrder ticker.time last.stop) := by
  have hnot : ¬last.stop ≤ ticker.time := fun hle => Instant.not_le.mpr hlate hle
  have hspan : ¬(feed.barOf ticker).stop < (feed.barOf ticker).start := by
    rw [barOf, hlast]
    dsimp only
    rw [if_neg hnot]
    exact fun hlt => Instant.not_le.mpr hlt (Instant.le_refl _)
  have hpush : feed.bars.push (feed.barOf ticker) = .error (.outOfOrder ticker.time last.stop) := by
    rw [BarSeries.push, if_neg hspan, hlast]
    exact if_pos hlate
  rw [PriceFeed.record, hpush]
  rfl

/-- The feed after a ticker is offered to it. One that is refused leaves it as it was. -/
def offer (feed : PriceFeed) (ticker : Ticker) : PriceFeed :=
  (feed.record ticker).toOption.getD feed

/-- The feed after some tickers, the first of them first. -/
def offerAll (feed : PriceFeed) (tickers : List Ticker) : PriceFeed :=
  tickers.foldl offer feed

end PriceFeed

/-- A desk offers the ticker that its venue answers to its feed, and whether that takes it or not
changes nothing else. -/
theorem Desk.ends_update_offer {σ κ : Type} {venue : Venue σ} {desk : Desk σ κ} {ticker : Ticker}
    {state : σ}
    (hreply : Replies (venue.ticker desk.prices.market) desk.venue (.ok ticker) state) :
    Ends (update venue) desk
      (match desk.prices.record ticker with
        | .ok _ => .ok desk.prices.bars.size
        | .error error => .error (.ofBar error))
      { desk with venue := state, prices := desk.prices.offer ticker } := by
  rw [update, ends_get_bind]
  refine ends_bind.mpr (.inr ⟨ticker, { desk with venue := state },
    ends_call_ok.mpr ⟨state, hreply, rfl⟩, ?_⟩)
  rw [ends_get_bind, PriceFeed.offer]
  cases hrecord : desk.prices.record ticker with
  | error error =>
    simp only [ends_bind]
    exact .inl ⟨_, ends_throw.mpr ⟨rfl, rfl⟩, rfl⟩
  | ok prices =>
    simp only [ends_set_bind, ends_newestBar, lastIndex?_of_record hrecord]
    exact ⟨trivial, rfl⟩

/-! ## Bars and tickers -/

/-- A bar is made from a ticker; where it starts is another matter. -/
structure Bar.Shows (bar : Bar) (ticker : Ticker) : Prop where
  opening_eq : bar.opening = ticker.last
  close_eq : bar.close = ticker.last
  high_eq : bar.high = ticker.ask
  low_eq : bar.low = ticker.bid
  stop_eq : bar.stop = ticker.time

namespace PriceFeed

variable {feed next : PriceFeed} {ticker : Ticker} {accepted : List Ticker}

/--
The bars of a feed are made from the tickers it has accepted, one from each, and without
a gap.
-/
structure InStep (feed : PriceFeed) (accepted : List Ticker) : Prop where
  ticker_eq : feed.ticker = accepted.getLast?
  shows : List.Forall₂ Bar.Shows feed.bars.bars.toList accepted
  start_first : ∀ first ∈ feed.bars.bars.toList.head?, first.start = first.stop
  joined : feed.bars.bars.toList.IsChain fun before bar => bar.start = before.stop

theorem inStep_fresh (market : Market) : InStep { market } [] where
  ticker_eq := rfl
  shows := .nil
  start_first := by rintro first ⟨⟩
  joined := .nil

/-- The newest bar, if there is one, is made from the newest ticker. -/
theorem InStep.newest (h : feed.InStep accepted) :
    Option.Rel Bar.Shows feed.bars.last? accepted.getLast? := by
  have hreverse := List.forall₂_reverse_iff.mpr h.shows
  rw [BarSeries.last?, ← Array.getLast?_toList, List.getLast?_eq_head?_reverse,
    List.getLast?_eq_head?_reverse]
  generalize feed.bars.bars.toList.reverse = bars at hreverse
  generalize accepted.reverse = tickers at hreverse
  cases hreverse with
  | nil => exact .none
  | cons hshows _ => exact .some hshows

/--
The newest bar ends by a ticker just when the ticker is not from before the last one
accepted.
-/
theorem InStep.endsBy_iff (h : feed.InStep accepted) :
    feed.EndsBy ticker.time ↔ ticker.Follows accepted := by
  have hnewest := h.newest
  rw [EndsBy, Ticker.Follows]
  generalize feed.bars.last? = last? at hnewest
  generalize accepted.getLast? = newest? at hnewest
  cases hnewest with
  | none => simp
  | some hshows => simp [hshows.stop_eq]

/-- Of a ticker that is not late the bar starts where the newest one ends. -/
theorem start_barOf (hends : feed.EndsBy ticker.time) :
    (∀ last, feed.bars.last? = some last → (feed.barOf ticker).start = last.stop) ∧
      (feed.bars.last? = none → (feed.barOf ticker).start = ticker.time) := by
  refine ⟨fun last hlast => ?_, fun hnone => ?_⟩
  · simp only [barOf, hlast, if_pos (hends last hlast)]
  · simp only [barOf, hnone]

/-- A ticker that is taken makes one more bar, behind the others. -/
theorem InStep.append (h : feed.InStep accepted) (hfollows : ticker.Follows accepted)
    (hrecord : feed.record ticker = .ok next) : next.InStep (accepted ++ [ticker]) := by
  obtain ⟨bars, hpush, rfl⟩ := prices_of_record hrecord
  obtain ⟨hjoined, hfirst⟩ := start_barOf (h.endsBy_iff.mpr hfollows)
  have hbars : bars.bars.toList = feed.bars.bars.toList ++ [feed.barOf ticker] := by
    rw [BarSeries.bars_push hpush, Array.toList_push]
  have hlast : feed.bars.bars.toList.getLast? = feed.bars.last? := Array.getLast?_toList _
  refine ⟨by simp, ?_, ?_, ?_⟩ <;> dsimp only <;> rw [hbars]
  · exact List.rel_append h.shows (.cons ⟨rfl, rfl, rfl, rfl, rfl⟩ .nil)
  · intro first hmem
    -- the bar is the first one only where there was none before it
    cases hlist : feed.bars.bars.toList with
    | nil =>
      rw [hlist] at hmem hlast
      cases hmem
      exact hfirst hlast.symm
    | cons oldest rest =>
      rw [hlist] at hmem
      exact h.start_first first (hlist ▸ hmem)
  · refine .append h.joined (.singleton _) fun before hbefore bar hbar => ?_
    cases hbar
    exact hjoined before (hlast ▸ hbefore)

/--
**One ticker.** If it is not late it joins those accepted, else it is refused as out of
order.
-/
theorem InStep.record (h : feed.InStep accepted) (ticker : Ticker) :
    (ticker.Follows accepted ∧ ∃ next, feed.record ticker = .ok next ∧
      next.InStep (accepted ++ [ticker])) ∨
    ¬ticker.Follows accepted ∧ ∃ newest, accepted.getLast? = some newest ∧
      feed.record ticker = .error (.outOfOrder ticker.time newest.time) := by
  by_cases hfollows : ticker.Follows accepted
  · obtain ⟨next, hnext⟩ := (h.endsBy_iff.mpr hfollows).record
    exact .inl ⟨hfollows, next, hnext, h.append hfollows hnext⟩
  · have hends : ¬feed.EndsBy ticker.time := mt h.endsBy_iff.mp hfollows
    simp only [EndsBy, not_forall] at hends
    obtain ⟨last, hlast, hlate⟩ := hends
    have hnewest := h.newest
    rw [hlast] at hnewest
    generalize accepted.getLast? = newest? at hnewest
    cases hnewest with
    | some hshows =>
      have hlate' := record_of_late hlast (Instant.not_le.mp hlate)
      exact .inr ⟨hfollows, _, rfl, hshows.stop_eq ▸ hlate'⟩

/-- A ticker is accepted with its bar, or refused without one. -/
theorem InStep.offer (h : feed.InStep accepted) (ticker : Ticker) :
    (feed.offer ticker).InStep (Ticker.accept accepted ticker) := by
  rw [PriceFeed.offer, Ticker.accept]
  obtain ⟨hfollows, next, hnext, hinStep⟩ | ⟨hlate, newest, -, herror⟩ := h.record ticker
  · rwa [if_pos hfollows, hnext]
  · rwa [if_neg hlate, herror]

theorem InStep.offerAll (tickers : List Ticker) :
    ∀ {feed : PriceFeed} {accepted : List Ticker}, feed.InStep accepted →
      (feed.offerAll tickers).InStep (tickers.foldl Ticker.accept accepted) := by
  induction tickers with
  | nil => exact id
  | cons ticker rest ih => exact fun h => ih (h.offer ticker)

end PriceFeed

/-! ## Market prices -/

/--
A tracker at a desk is told a ticker, and the market prices that it reads off the newest
bar are the quotes of that ticker: the market is past an exit when the exit is better than
what a market exit gets.
-/
structure Desk.Quoted {σ κ : Type} (desk : Desk σ κ) (ticker : Ticker) : Prop where
  told : Ends newestTicker desk (.ok ticker) desk
  enter_eq : ∀ side, (PriceRule.marketEnter : PriceRule κ) desk.view side =
    pure (ticker.enterQuote side)
  exit_eq : ∀ side, (PriceRule.marketExit : PriceRule κ) desk.view side =
    pure (ticker.exitQuote side)
  crossed_eq : ∀ side price, isCrossed side ticker price =
    side.isBetterExit price (PriceRule.ofNewestBar (PriceRule.exitField side) desk.view)

theorem PriceFeed.InStep.quoted {σ κ : Type} {desk : Desk σ κ} {accepted : List Ticker}
    {ticker : Ticker} (h : desk.prices.InStep accepted)
    (hticker : desk.prices.ticker = some ticker) :
    desk.Quoted ticker := by
  have hnewest := h.newest
  rw [← h.ticker_eq, hticker] at hnewest
  generalize hlast : desk.prices.bars.last? = last? at hnewest
  cases hnewest with
  | @some last _ hshows =>
    -- each rule reads one field of the newest bar, which shows one field of the ticker
    have hread : ∀ field, PriceRule.ofNewestBar field desk.view = last.price field := by
      intro field
      rw [PriceRule.ofNewestBar, view, hlast]
    refine ⟨ends_newestTicker.mpr ⟨by rw [hticker], rfl⟩, fun side => ?_, fun side => ?_,
      fun side price => ?_⟩
    · rw [PriceRule.marketEnter, hread]
      cases side with
      | long => exact congrArg pure hshows.high_eq
      | short => exact congrArg pure hshows.low_eq
    · rw [PriceRule.marketExit, hread]
      cases side with
      | long => exact congrArg pure hshows.low_eq
      | short => exact congrArg pure hshows.high_eq
    · rw [hread]
      cases side with
      | long => exact congrArg (fun bid => decide (bid < price)) hshows.low_eq.symm
      | short => exact congrArg (fun ask => decide (price < ask)) hshows.high_eq.symm

namespace PriceFeed

/-- What can be relied on of a feed, given the tickers that it has accepted. -/
structure Reliable (feed : PriceFeed) (accepted : List Ticker) : Prop extends
    InStep feed accepted where
  accepts_iff : ∀ ticker, (∃ next, feed.record ticker = .ok next) ↔ ticker.Follows accepted
  refuses : ∀ ticker error, feed.record ticker = .error error →
    (∃ newest, accepted.getLast? = some newest ∧
      error = .outOfOrder ticker.time newest.time) ∧ feed.offer ticker = feed
  updates : ∀ {σ κ : Type} (venue : Venue σ) (desk : Desk σ κ) (ticker : Ticker) (state : σ),
    desk.prices = feed → Replies (venue.ticker feed.market) desk.venue (.ok ticker) state →
      ∃ answer, Ends (update venue) desk answer
        { desk with venue := state, prices := feed.offer ticker }
  quoted : ∀ {σ κ : Type} (desk : Desk σ κ) (ticker : Ticker), desk.prices = feed →
    feed.ticker = some ticker → desk.Quoted ticker

/--
**Bars and tickers stay in step.** Whatever tickers a new feed is offered, it accepts those
that are not from before the one accepted last, and refuses every other as out of order,
which changes nothing. The bars are made from the accepted tickers, one from each, and a
tracker reads the same prices off the newest bar as off the newest ticker.
-/
theorem inStep_of_offers (market : Market) (tickers : List Ticker) :
    (PriceFeed.offerAll { market } tickers).Reliable (Ticker.inOrder tickers) := by
  have hinStep := (inStep_fresh market).offerAll tickers
  refine ⟨hinStep, fun ticker => ?_, fun ticker error herror => ?_, ?_, ?_⟩
  · obtain ⟨hfollows, next, hnext, -⟩ | ⟨hlate, newest, -, herror⟩ := hinStep.record ticker
    · exact iff_of_true ⟨next, hnext⟩ hfollows
    · exact iff_of_false (fun ⟨_, hnext⟩ => by cases herror.symm.trans hnext) hlate
  · refine ⟨?_, by rw [offer, herror]; rfl⟩
    obtain ⟨-, next, hnext, -⟩ | ⟨-, newest, hnewest, herror'⟩ := hinStep.record ticker
    · cases hnext.symm.trans herror
    · exact ⟨newest, hnewest, Except.error.inj (herror.symm.trans herror')⟩
  · rintro σ κ venue desk ticker state hprices hreply
    rw [← hprices] at hreply ⊢
    exact ⟨_, ends_update_offer hreply⟩
  · rintro σ κ desk ticker hprices hticker
    rw [← hprices] at hinStep hticker
    exact hinStep.quoted hticker

/-- A ticker that is late by a second is left out, and one of the same second is not. -/
example :
    let tick (second : Int) : Ticker := { last := 100, ask := 101, bid := 99, time := ⟨second, 0⟩ }
    (Ticker.inOrder [tick 5, tick 9, tick 8, tick 9]).map (·.time.seconds) = [5, 9, 9] := by
  decide +kernel

end PriceFeed

end SwingTrader
