import SwingTrader.Proofs.PriceFeed
import SwingTrader.Proofs.Rebound
import SwingTrader.Proofs.Session.PaperBook
import SwingTrader.Proofs.Session.Sales
import SwingTrader.Proofs.Session.Unfailing
import SwingTrader.Proofs.Session.Unwatched
import SwingTrader.Replay

/-!
# SwingTrader — replays that go through

A replay of tickers that are in order, with prices that are finite and positive, is
cut short by nothing but a reversal. Every row is taken in as a tick and a bar, and
every call on the way is answered, so no order is ever refused.

* `Replay.calls` — the calls that a row leads to;
* `Replay.Trades` — what is true of a replay before every row;
* `Replay.GoesThrough` — what is true of a row;
* `Replay.Completes`, `Replay.completes_run` — what a replay comes to.
-/

namespace SwingTrader

open Desk Tracker

/-! ## The rule and its configuration -/

/-- The rebound strategy only goes long, and only fails where pivots are confirmed together. -/
theorem Rebound.longOnly (rule : Rebound) : rule.strategy.LongOnly where
  side_eq _ := rfl
  raises := by
    rintro reason ⟨view, memory, hraises | hraises⟩
    · obtain hempty | hpos := Nat.eq_zero_or_pos view.bars.size
      · rw [Rebound.run_shouldEnter_of_empty memory hempty] at hraises
        cases hraises
      · rw [Rebound.run_shouldEnter memory hpos] at hraises
        cases hsync : (memory.scan.sync view.bars).1 with
        | ok =>
          rw [hsync] at hraises
          cases hraises
        | error error =>
          rw [hsync] at hraises
          cases hraises
          trivial
    · cases hraises

/-- The reserve of a valid configuration is not negative. -/
theorem StrategyConfig.reserve_of_validate {config : StrategyConfig}
    (valid : config.validate = .ok ()) :
    0.0 ≤ config.emergencyStop := by
  unfold validate at valid
  split at valid
  · contradiction
  next hnone =>
    have hkey := List.find?_eq_none.mp hnone .emergencyStop (by decide)
    rw [Bool.not_eq_true, Bool.not_eq_false'] at hkey
    exact of_decide_eq_true hkey

/-! ## Published tickers -/

namespace Paper

theorem executeAll_ticker (ticker : Ticker) (orders : List OpenOrder) :
    ∀ paper : Paper, (executeAll ticker orders paper).2.ticker = paper.ticker := by
  induction orders with
  | nil => exact fun _ => rfl
  | cons order rest ih =>
    intro paper
    rw [executeAll]
    split
    · obtain ⟨_, _, _, hsettle⟩ := settle_eq paper order (paper.fillQuantity order)
      refine (ih (paper.settle order (paper.fillQuantity order))).trans ?_
      rw [hsettle]
    · exact ih paper

/-- The ticker that is published is the one that is answered from then on. -/
theorem setTicker_ticker (paper : Paper) (ticker : Ticker) :
    (paper.setTicker ticker).ticker = some ticker :=
  executeAll_ticker ticker paper.orders _

end Paper

/-- Every price of such a ticker can be used. -/
theorem Ticker.Priced.usable {ticker : Ticker} (h : ticker.Priced) {price : Float}
    (hprice : price ∈ [ticker.last, ticker.ask, ticker.bid]) :
    PriceRule.isUsable price = true := by
  obtain ⟨hfinite, hpositive⟩ := h price hprice
  exact PriceRule.isUsable_iff.mpr ⟨hfinite, Double.not_le_of_lt hpositive⟩

theorem TradingError.IsReversal.exists_eq {error : TradingError} (h : error.IsReversal) :
    ∃ reason, error = .strategy (.reversal reason) := by
  cases error with
  | venue => exact h.elim
  | strategy reason =>
    cases reason with
    | reversal reason => exact ⟨reason, rfl⟩
    | _ => exact h.elim

/-! ## Rows -/

namespace Replay

variable {terms : ReplayTerms} {replay : Replay terms} {ticker : Ticker}

/--
The calls that a row leads to, newest first, with their answers. They are those of a
session that is watched, which goes through the same tick (`Session.onTick_watched`).
-/
def calls (replay : Replay terms) (ticker : Ticker) : List VenueCall :=
  ((replay.publish ticker).watched.onTick Paper.venue.journaled
    terms.rule.strategy).2.desk.venue.calls

/-- Rows are taken one after the other, whatever their ticks answer. -/
def along (replay : Replay terms) (tickers : List Ticker) : Replay terms :=
  tickers.foldl (fun replay ticker => (replay.tick ticker).2) replay

/--
A row is taken in as a tick and a bar. Every call that it leads to is answered, and a
tick that fails does so by a reversal.
-/
structure GoesThrough (replay : Replay terms) (ticker : Ticker) : Prop where
  answered : ∀ call ∈ replay.calls ticker, call.Answered
  reversal : ∀ error, (replay.tick ticker).1 = .error error → error.IsReversal
  ticks_eq : (replay.tick ticker).2.ticks = replay.ticks + 1
  bars_eq : (replay.tick ticker).2.desk.prices.bars.size = replay.desk.prices.bars.size + 1

/-- What is true of a replay before every row. -/
structure Trades (replay : Replay terms) : Prop where
  reachable : Session.Reachable Paper.venue replay
  sustained : replay.desk.Sustained
  upTo : replay.desk.openOrders.UpTo replay.desk.tick
  fed : Fed replay.desk.prices
  market_eq : replay.desk.prices.market = replay.desk.market

namespace Trades

/-- Nothing fails, and nothing is owed, before the first row. -/
theorem start (hfee : 0.0 ≤ terms.fee) (hless : terms.fee < 1.0)
    (hpositive : 0.0 < terms.minimumVolume)
    (hbalance : 0.0 ≤ terms.balance) : (Replay.start terms).Trades where
  reachable := .start _ _ _ _
  upTo := nofun
  fed := .fresh _
  market_eq := rfl
  sustained := by
    have hafloat : terms.venue.Afloat := {
      connected := ⟨rfl, rfl⟩
      cancels_eq := rfl
      whole := rfl
      fee := fun hlt => Double.not_le_of_lt hlt hfee
      share := fun hlt => Double.lt_irrefl (Double.lt_trans hlt (Double.zero_lt_sub hless))
      positive := hpositive
      balance := by
        intro currency
        show ¬(Balances.set {} terms.market.counter terms.balance).get currency < 0.0
        rw [Balances.get_set]
        -- there is nothing but the counter balance
        split
        · exact fun hlt => Double.not_le_of_lt hlt hbalance
        · exact Double.lt_irrefl
      orders := nofun }
    exact ⟨⟨rfl, StrategyConfig.reserve_of_validate terms.valid, hafloat⟩, rfl⟩

/-- A ticker is published. -/
theorem publish (h : replay.Trades) (ticker : Ticker) : (replay.publish ticker).Trades where
  reachable := .meanwhile h.reachable _ _
  upTo := h.upTo
  fed := h.fed
  market_eq := h.market_eq
  sustained := by
    obtain ⟨hafloat, hsustains⟩ := h.sustained.sustains.setTicker h.sustained.afloat ticker
    refine ⟨⟨?_, h.sustained.reserve, hafloat⟩, hsustains⟩
    show replay.desk.market = (replay.desk.venue.setTicker ticker).terms.market
    rw [Paper.setTicker_terms]
    exact h.sustained.market_eq

/-- The market of the prices is the one that is traded. -/
theorem id_eq (h : replay.Trades) :
    replay.desk.prices.market.id = replay.desk.venue.terms.market.id := by
  rw [h.market_eq, h.sustained.market_eq]

/-- The bar of a row is taken, whatever comes of its tick. -/
theorem same (h : replay.Trades) {prices : PriceFeed}
    (hrecord : replay.desk.prices.record ticker = .ok prices) :
    (replay.tick ticker).2.desk.tracker.settings = replay.desk.tracker.settings ∧
      (replay.tick ticker).2.desk.prices = prices ∧ (replay.tick ticker).2.desk.Fresh := by
  have hpublished := h.publish ticker
  have hcourse := Session.course_of_record
    (hpublished.sustained.afloat.connected.replies_ticker hpublished.id_eq
      (Paper.setTicker_ticker _ ticker)) hrecord terms.rule.strategy
  -- a new tick has no list yet
  have hnone := h.upTo.at?_of_lt (Nat.lt_succ_self _)
  refine hcourse.same ⟨h.upTo.mono (Nat.le_succ _), fun orders hlisted => ?_⟩
  cases hnone.symm.trans hlisted

/-- Each row counts as a tick, and comes with a bar. -/
theorem counts (h : replay.Trades) {prices : PriceFeed}
    (hrecord : replay.desk.prices.record ticker = .ok prices) :
    (replay.tick ticker).2.ticks = replay.ticks + 1 ∧
      (replay.tick ticker).2.desk.prices.bars.size = replay.desk.prices.bars.size + 1 := by
  have hbars : (replay.tick ticker).2.desk.prices.bars.size = replay.desk.prices.bars.size + 1 := by
    rw [(h.same hrecord).2.1, size_of_record hrecord]
  have hbefore := (Session.InOrder.of_reachable h.reachable).ticks_eq
  have hafter := (Session.InOrder.of_reachable (.tick (h.publish ticker).reachable
    terms.rule.strategy)).ticks_eq
  exact ⟨hafter.trans (hbars.trans (congrArg (· + 1) hbefore.symm)), hbars⟩

/-- Every call is answered, and a row ends in a reversal or leaves the venue afloat. -/
theorem achieves (h : replay.Trades) {prices : PriceFeed}
    (hrecord : replay.desk.prices.record ticker = .ok prices) (hfed : Fed prices) :
    (∀ call ∈ replay.calls ticker, call.Answered) ∧
      (∀ error, (replay.tick ticker).1 = .error error → error.IsReversal) ∧
        ∀ closed?, (replay.tick ticker).1 = .ok closed? →
          (replay.tick ticker).2.desk.Sustained := by
  have hpublished := h.publish ticker
  have hbegun := (Session.Abreast.of_reachable hpublished.reachable).begun hrecord
  obtain ⟨answer, after, htick, ⟨calls, hcalls, hanswered⟩, hanswer⟩ :=
    Session.achieves_tick terms.rule.longOnly hpublished.sustained hpublished.id_eq
      (Paper.setTicker_ticker _ ticker) hrecord hbegun hfed hpublished.upTo
      (replay.publish ticker).watched.desk rfl
  -- the row is the one that is watched, without its journal
  obtain ⟨rfl, rfl⟩ := Prod.mk.inj (htick.symm.trans (Session.ends_onTick _ _ _))
  rw [Replay.tick, Session.onTick_watched]
  refine ⟨?_, fun error herror => ?_, fun closed? hclosed => ?_⟩
  · rw [Replay.calls, hcalls]
    exact List.forall_mem_append.mpr ⟨hanswered, nofun⟩
  · rw [show (Session.onTick _ _ _).1 = .error error from herror] at hanswer
    exact hanswer
  · rw [show (Session.onTick _ _ _).1 = .ok closed? from hclosed] at hanswer
    exact hanswer

/-- A row goes through, and unless it ends in a reversal so may the next. -/
theorem tick (h : replay.Trades) (hpriced : ticker.Priced)
    (hends : replay.desk.prices.EndsBy ticker.time) :
    replay.GoesThrough ticker ∧
      (∀ time, ticker.time ≤ time → (replay.tick ticker).2.desk.prices.EndsBy time) ∧
        ∀ closed?, (replay.tick ticker).1 = .ok closed? → (replay.tick ticker).2.Trades := by
  obtain ⟨prices, hrecord⟩ := hends.record
  have hfed : Fed prices :=
    h.fed.record (hpriced.usable (by simp)) (hpriced.usable (by simp)) hrecord
  obtain ⟨hsettings, hprices, hfresh⟩ := h.same hrecord
  obtain ⟨hticks, hbars⟩ := h.counts hrecord
  obtain ⟨hanswered, hreversal, hsustained⟩ := h.achieves hrecord hfed
  obtain ⟨bars, -, hrecorded⟩ := prices_of_record hrecord
  -- the bar ends with its ticker even where the tick fails; the rest is kept by an answer only
  refine ⟨⟨hanswered, hreversal, hticks, hbars⟩, fun time htime => ?_,
    fun closed? hclosed => ?_⟩
  · rw [hprices]
    exact PriceFeed.endsBy_of_record hrecord htime
  · refine ⟨.tick (h.publish ticker).reachable _, hsustained closed? hclosed, hfresh.upTo, ?_, ?_⟩
    · rw [hprices]
      exact hfed
    · rw [hprices, hrecorded, Desk.market, hsettings]
      exact h.market_eq

end Trades

/-! ## Runs -/

/--
What a replay of tickers comes to: each of them goes through, up to the last, or up to one
at which the strategy could not decide.
-/
structure Completes (replay : Replay terms) (row : Nat) (tickers : List Ticker)
    (ended : Replayed terms) : Prop where
  session_eq : ended.session = replay.along ended.tickers
  rows : ∀ before ticker, before ++ [ticker] <+: ended.tickers →
    (replay.along before).GoesThrough ticker
  ends : ended.tickers = tickers ∧ ended.failure = none ∨
    ∃ before ticker error, before ++ [ticker] <+: tickers ∧ ended.tickers = before ++ [ticker] ∧
      ((replay.along before).tick ticker).1 = .error (.strategy (.reversal error)) ∧
        ended.failure = some (.fatal (row + before.length) (.strategy (.reversal error)))

/-- A row whose tick goes well is counted, and the replay goes on behind it. -/
theorem runFrom_cons_of_ok {closed? : Option ClosedTrade} (h : (replay.tick ticker).1 = .ok closed?)
    (row : Nat) (rest : List (Option Ticker)) :
    runFrom replay row (some ticker :: rest) =
      { runFrom (replay.tick ticker).2 (row + 1) rest with
        tickers := ticker :: (runFrom (replay.tick ticker).2 (row + 1) rest).tickers } := by
  rw [runFrom]
  simp only [h]

/-- A failure that is not worth another try ends the replay. -/
theorem runFrom_cons_of_fatal {error : TradingError} (h : (replay.tick ticker).1 = .error error)
    (hfatal : error.isRetryable = false) (row : Nat) (rest : List (Option Ticker)) :
    runFrom replay row (some ticker :: rest) =
      { session := (replay.tick ticker).2
        tickers := [ticker]
        failure := some (.fatal row error) } := by
  rw [runFrom]
  simp only [h, hfatal, Bool.false_eq_true, if_false]

/-- Where the first row goes through and the rest does after it, all rows do. -/
theorem GoesThrough.cons {tickers : List Ticker} (h : replay.GoesThrough ticker)
    (hrows : ∀ before later, before ++ [later] <+: tickers →
      ((replay.tick ticker).2.along before).GoesThrough later) :
    ∀ before later, before ++ [later] <+: ticker :: tickers →
      (replay.along before).GoesThrough later := by
  intro before later hbefore
  cases before with
  | nil =>
    obtain ⟨rfl, -⟩ := List.cons_prefix_cons.mp hbefore
    exact h
  | cons first before =>
    obtain ⟨rfl, hlater⟩ := List.cons_prefix_cons.mp hbefore
    exact hrows before later hlater

/-- A row that goes through and ends with an answer comes before the others. -/
theorem Completes.cons {row : Nat} {tickers : List Ticker} {ended : Replayed terms}
    (hrow : replay.GoesThrough ticker)
    (h : (replay.tick ticker).2.Completes (row + 1) tickers ended) :
    replay.Completes row (ticker :: tickers) { ended with tickers := ticker :: ended.tickers } where
  session_eq := h.session_eq
  rows := hrow.cons h.rows
  ends := by
    obtain ⟨htickers, hfailure⟩ | ⟨before, last, error, hbefore, htickers, hanswer,
      hfailure⟩ := h.ends
    · exact .inl ⟨congrArg (ticker :: ·) htickers, hfailure⟩
    · refine .inr ⟨ticker :: before, last, error, List.cons_prefix_cons.mpr ⟨rfl, hbefore⟩,
        congrArg (ticker :: ·) htickers, hanswer, ?_⟩
      rw [List.length_cons, Nat.add_comm before.length, ← Nat.add_assoc]
      exact hfailure

/-- Rows in order are gone through one after the other. -/
theorem Trades.completes {tickers : List Ticker} (h : replay.Trades) (row : Nat)
    (hpriced : ∀ ticker ∈ tickers, ticker.Priced)
    (horder : tickers.Pairwise fun ticker later => ticker.time ≤ later.time)
    (hends : ∀ ticker ∈ tickers, replay.desk.prices.EndsBy ticker.time) :
    replay.Completes row tickers (runFrom replay row (tickers.map some)) := by
  -- on the rows: what the tick of one row keeps is what the next row needs
  induction tickers generalizing replay row with
  | nil =>
    refine ⟨rfl, fun before ticker hbefore => ?_, .inl ⟨rfl, rfl⟩⟩
    have hnil := List.prefix_nil.mp hbefore
    simp at hnil
  | cons ticker tickers ih =>
    obtain ⟨hfirst, hpriced⟩ := List.forall_mem_cons.mp hpriced
    obtain ⟨hlater, horder⟩ := List.pairwise_cons.mp horder
    obtain ⟨hrow, hbars, hgoesOn⟩ := h.tick hfirst (hends ticker (List.mem_cons_self))
    rw [List.map_cons]
    cases hanswer : (replay.tick ticker).1 with
    | ok closed? =>
      rw [runFrom_cons_of_ok hanswer]
      refine .cons hrow (ih (hgoesOn closed? hanswer) (row + 1) hpriced horder ?_)
      exact fun later hmem => hbars later.time (hlater later hmem)
    | error error =>
      -- a reversal is not worth another try, so the replay ends with this row
      obtain ⟨reason, rfl⟩ := (hrow.reversal error hanswer).exists_eq
      rw [runFrom_cons_of_fatal hanswer rfl]
      refine ⟨rfl, hrow.cons fun before later hbefore => ?_, ?_⟩
      · have hnil := List.prefix_nil.mp hbefore
        simp at hnil
      · exact .inr ⟨[], ticker, reason, ⟨tickers, rfl⟩, rfl, hanswer, rfl⟩

/-- Rows that go through are as many ticks, and as many bars. -/
theorem counts_along {tickers : List Ticker}
    (h : ∀ before ticker, before ++ [ticker] <+: tickers →
    (replay.along before).GoesThrough ticker) :
    (replay.along tickers).ticks = replay.ticks + tickers.length ∧
      (replay.along tickers).desk.prices.bars.size =
        replay.desk.prices.bars.size + tickers.length := by
  induction tickers generalizing replay with
  | nil => exact ⟨rfl, rfl⟩
  | cons ticker tickers ih =>
    have hrow : replay.GoesThrough ticker := h [] ticker ⟨tickers, rfl⟩
    obtain ⟨hticks, hbars⟩ := ih fun before later hbefore =>
      h (ticker :: before) later (List.cons_prefix_cons.mpr ⟨rfl, hbefore⟩)
    rw [hrow.ticks_eq] at hticks
    rw [hrow.bars_eq] at hbars
    rw [List.length_cons, Nat.add_comm tickers.length, ← Nat.add_assoc, ← Nat.add_assoc]
    exact ⟨hticks, hbars⟩

/--
**A replay of tickers that are in order and well priced is cut short by nothing but a
reversal**, at any valid configuration, where the fee is a fraction, the least volume is
positive and the balance is not negative. Every row up to there is one tick and one bar,
and no call that it leads to fails, so no order is refused for its price, its volume or
its funds.
-/
theorem completes_run (terms : ReplayTerms) (tickers : List Ticker) (hfee : 0.0 ≤ terms.fee)
    (hless : terms.fee < 1.0) (hpositive : 0.0 < terms.minimumVolume)
    (hbalance : 0.0 ≤ terms.balance) (hpriced : ∀ ticker ∈ tickers, ticker.Priced)
    (horder : tickers.Pairwise fun ticker later => ticker.time ≤ later.time) :
    let ended := run terms (tickers.map some)
    (start terms).Completes firstRow tickers ended ∧ ended.session.ticks = ended.tickers.length ∧
      ended.session.desk.prices.bars.size = ended.tickers.length := by
  -- before the first row there is no bar for a ticker to come before
  have hcompletes := (Trades.start hfee hless hpositive hbalance).completes firstRow hpriced horder
    fun _ _ => nofun
  obtain ⟨hticks, hbars⟩ := counts_along hcompletes.rows
  rw [← hcompletes.session_eq] at hticks hbars
  rw [run]
  exact ⟨hcompletes, hticks.trans (Nat.zero_add _), hbars.trans (Nat.zero_add _)⟩

/-- A thousand to trade with at no fee, and a rebound that is seen at once. -/
def reboundTerms : ReplayTerms where
  market := .ofCurrencies "BTC" "EUR"
  config := { lookback := 3, timesAbove := 1 }
  valid := StrategyConfig.valid_of_isOk (by decide +kernel)
  balance := 1000.0
  fee := 0.0
  minimumVolume := 0.5

/-- The price falls to 80 and rebounds to 100, from where it falls again. -/
def rebounding : List Ticker :=
  [100.0, 90.0, 80.0, 90.0, 100.0, 100.0, 100.0, 95.0, 95.0].zipIdx.map fun (price, second) =>
    { last := price, ask := price, bid := price, time := ⟨second, 0⟩ }

/-- After the rebound five coins are bought at 100, and they are sold at the stop at 95. -/
theorem completes_rebounding :
    let ended := run reboundTerms (rebounding.map some)
    (start reboundTerms).Completes firstRow rebounding ended ∧ ended.session.ticks = 9 ∧
      ended.failure.isNone ∧
        ended.session.desk.venue.fills.map (fun fill => (fill.quantity, fill.price)) =
          [(5.0, 100.0), (5.0, 95.0)] := by
  have hcompletes := completes_run reboundTerms rebounding (by decide +kernel)
    (by decide +kernel) (by decide +kernel) (by decide +kernel) (by decide +kernel)
      (by decide +kernel)
  refine ⟨hcompletes.1, ?_⟩
  decide +kernel

/-- A first row with a wider spread than those below it is a high and a low at once. -/
example :
    let straddling : List Ticker := [10.0, 1.0, 1.0, 1.0].map fun spread =>
      { last := 100.0, ask := 100.0 + spread, bid := 100.0 - spread, time := ⟨0, 0⟩ }
    let ended := run reboundTerms (straddling.map some)
    ended.failure.isSome ∧ ended.tickers.length = 3 := by decide +kernel

end Replay

end SwingTrader
