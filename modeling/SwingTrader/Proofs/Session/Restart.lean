import SwingTrader.Proofs.Session.Telling

/-!
# SwingTrader — restarting beside a paper venue

A session that is lost is made up for by a new tracker, which knows nothing but
what the venue tells. After any tick that went well the new tracker finds its way
to the phase that the session was in, and to the order that it waited for.

* `Desk.Ready.ends_resume` — a new tracker that has all it needs finds a stage;
* `Tracker.Refinds` — what it finds beside the stage of a session;
* `Session.FlatRun` — the sessions that begin without a position;
* `Session.restart_of_flatRun` — what a new tracker finds after every tick.
-/

namespace SwingTrader

variable {κ : Type}

open Desk Tracker

/-! ## A new tracker -/

/-- A new tracker with an empty ledger and the prices so far, at a venue where no call fails. -/
def Session.restarted (session : Session Paper κ) : Desk Paper κ :=
  let settings := { session.desk.tracker.settings with ledger := Session.ledger }
  { Desk.open settings (session.desk.venue.failing 0 0 0) session.desk.rules with
    prices := session.desk.prices }

/-- A tracker that has all it needs to find its stage: a venue that answers, prices and a ledger. -/
structure Desk.Ready (desk : Desk Paper κ) : Prop where
  unresumed : desk.tracker.stage = none
  connected : ¬0 < desk.venue.failingCalls
  market_eq : desk.market = desk.venue.terms.market
  priced : ∃ price, desk.prices.lastPrice? = some price
  takes : ∀ side, ∃ ledgers, desk.TakesEntry side ledgers

namespace Tracker

/-- What a venue with at most one order on its book tells a new tracker. -/
inductive Tells (paper : Paper) : Stage → Prop where
  | flat (empty : paper.orders = []) (not_above : paper.held ≤ paper.terms.minimumVolume) :
      Tells paper .needEnter
  | held {entry : PlacedOrder} (empty : paper.orders = [])
      (above : ¬paper.held ≤ paper.terms.minimumVolume) (side_eq : entry.side = .long) :
      Tells paper (.needExit entry none)
  | enter {order : OpenOrder} (alone : paper.orders = [order])
      (enters : order.kind.isEnter = true) :
      Tells paper (.waitForEnter (adopt order))
  | leave {order : OpenOrder} {entry : PlacedOrder} {ratchet : Ratchet}
      (alone : paper.orders = [order]) (leaves : order.kind.isEnter = false) :
      Tells paper (.waitForExit entry (adopt order) ratchet)

end Tracker

namespace Desk

section Ready

variable {desk : Desk Paper κ}

/-- A ready tracker learns what is held. -/
theorem Ready.ends_balance (h : desk.Ready) :
    Ends (call (Paper.venue.availableBalance desk.market.base)) desk (.ok desk.venue.held)
      desk := by
  refine ends_call_ok.mpr ⟨desk.venue, ?_, rfl⟩
  rw [h.market_eq]
  exact Paper.replies_balance_of_connected h.connected _

/-- A ready tracker learns the least volume of an order. -/
theorem Ready.ends_minimum (h : desk.Ready) :
    Ends (call (Paper.venue.minimumOrderVolume desk.market)) desk
      (.ok desk.venue.terms.minimumVolume) desk :=
  ends_call_ok.mpr
    ⟨desk.venue, Paper.replies_of_connected h.connected (congrArg Market.id h.market_eq) rfl, rfl⟩

theorem Ready.ends_lastPrice (h : desk.Ready) :
    ∃ price, Ends lastPrice desk (.ok price) desk := by
  obtain ⟨price, hprice⟩ := h.priced
  exact ⟨price, by simp [lastPrice, hprice]⟩

theorem Ready.ends_recordEntry (h : desk.Ready) (side : Side) :
    ∃ after, Ends (recordEntry side) desk (.ok ()) after := by
  obtain ⟨ledgers, htakes⟩ := h.takes side
  exact ⟨_, ends_recordEntry_ok.mpr ⟨ledgers, htakes, rfl⟩⟩

/-- With nothing on the book, a ready tracker finds its stage by what is held. -/
theorem Ready.ends_stageFromHoldings (h : desk.Ready) (hempty : desk.venue.orders = []) :
    ∃ stage after, Ends (stageFromHoldings Paper.venue) desk (.ok stage) after ∧
      Tells desk.venue stage := by
  simp only [stageFromHoldings, ends_settings_bind]
  by_cases hflat : desk.venue.held ≤ desk.venue.terms.minimumVolume
  · refine ⟨.needEnter, desk, ?_, .flat hempty hflat⟩
    -- the balance is told to be no more than the least volume
    refine ends_bind.mpr (.inr ⟨_, _, h.ends_balance, ?_⟩)
    refine ends_bind.mpr (.inr ⟨_, _, h.ends_minimum, ?_⟩)
    rw [if_pos hflat]
    exact ends_pure.mpr ⟨rfl, rfl⟩
  · obtain ⟨price, hprice⟩ := h.ends_lastPrice
    obtain ⟨after, hrecord⟩ := h.ends_recordEntry .long
    -- what is held is taken for a purchase at the last price
    let entry : PlacedOrder :=
      { id := .synthetic, kind := .buy, quantity := desk.venue.held, price }
    have htells : Tells desk.venue (.needExit entry none) := .held hempty hflat rfl
    refine ⟨_, after, ?_, htells⟩
    refine ends_bind.mpr (.inr ⟨_, _, h.ends_balance, ?_⟩)
    refine ends_bind.mpr (.inr ⟨_, _, h.ends_minimum, ?_⟩)
    rw [if_neg hflat]
    refine ends_bind.mpr (.inr ⟨_, _, hprice, ?_⟩)
    refine ends_bind.mpr (.inr ⟨_, _, hrecord, ?_⟩)
    exact ends_pure.mpr ⟨rfl, rfl⟩

/-- With an exit on the book, a ready tracker finds the position that it closes. -/
theorem Ready.ends_stageFromExit (h : desk.Ready) {order : OpenOrder}
    (halone : desk.venue.orders = [order]) (hleaves : order.kind.isEnter = false) :
    ∃ stage after, Ends (stageFromExit order) desk (.ok stage) after ∧ Tells desk.venue stage := by
  obtain ⟨price, hprice⟩ := h.ends_lastPrice
  obtain ⟨after, hrecord⟩ := h.ends_recordEntry order.kind.side
  let entry : PlacedOrder :=
    { id := .synthetic
      kind := order.kind.side.enterKind
      quantity := order.ordered
      price := maxNumber price order.price }
  let ratchet : Ratchet := { side := order.kind.side, level := some order.price }
  have htells : Tells desk.venue (.waitForExit entry (adopt order) ratchet) := .leave halone hleaves
  refine ⟨_, after, ?_, htells⟩
  refine ends_bind.mpr (.inr ⟨_, _, hprice, ?_⟩)
  refine ends_bind.mpr (.inr ⟨_, _, hrecord, ?_⟩)
  exact ends_pure.mpr ⟨rfl, rfl⟩

/-- With at most one order on the book, a ready tracker finds its stage. -/
theorem Ready.ends_stageFromOrders (h : desk.Ready)
    (hbook : desk.venue.orders = [] ∨ ∃ order, desk.venue.orders = [order]) :
    ∃ stage after, Ends (stageFromOrders Paper.venue desk.venue.orders) desk (.ok stage) after ∧
      Tells desk.venue stage := by
  obtain hempty | ⟨order, halone⟩ := hbook
  · rw [hempty]
    exact h.ends_stageFromHoldings hempty
  · rw [halone]
    by_cases henters : order.kind.isEnter = true
    · refine ⟨_, desk, ?_, .enter halone henters⟩
      rw [stageFromOrders, if_pos henters]
      exact ends_pure.mpr ⟨rfl, rfl⟩
    · rw [stageFromOrders, if_neg henters]
      exact h.ends_stageFromExit halone (Bool.not_eq_true _ ▸ henters)

/-- A new tracker finds the stage that the venue tells of. -/
theorem Ready.ends_resume (h : desk.Ready) (hnone : desk.listed? = none)
    (hbook : desk.venue.orders = [] ∨ ∃ order, desk.venue.orders = [order]) :
    ∃ stage after, Ends (resume Paper.venue) desk (.ok stage) after ∧ Tells desk.venue stage := by
  let listed := { desk with openOrders := desk.openOrders.store desk.tick desk.venue.orders }
  have hlist : Ends (listOrders Paper.venue) desk (.ok desk.venue.orders) listed :=
    ends_listOrders_ok.mpr (.inr ⟨hnone, desk.venue,
      Paper.replies_of_connected h.connected (congrArg Market.id h.market_eq) rfl, rfl⟩)
  -- listing the orders changes nothing but the list that is kept
  have hready : listed.Ready := ⟨h.unresumed, h.connected, h.market_eq, h.priced, h.takes⟩
  obtain ⟨stage, found, hstage, htells⟩ := hready.ends_stageFromOrders hbook
  refine ⟨stage, found.withStage stage, ?_, htells⟩
  simp only [resume, ends_get_bind, h.unresumed]
  refine ends_bind.mpr (.inr ⟨_, _, hlist, ?_⟩)
  refine ends_bind.mpr (.inr ⟨_, _, hstage, ?_⟩)
  exact ends_setStage_bind.mpr (ends_pure.mpr ⟨rfl, rfl⟩)

end Ready

end Desk

/-- A new tracker has all it needs, once there is a ticker. -/
theorem Session.ready_restarted {session : Session Paper κ} {feed : PriceFeed} {ticker : Ticker}
    (hmarket : session.desk.market = session.desk.venue.terms.market)
    (hrecord : feed.record ticker = .ok session.desk.prices) : session.restarted.Ready where
  unresumed := rfl
  connected := Nat.lt_irrefl 0
  market_eq := hmarket
  priced := by
    obtain ⟨bars, -, hprices⟩ := prices_of_record hrecord
    have hprice : session.restarted.prices.lastPrice? = some ticker.last := by
      show session.desk.prices.lastPrice? = _
      rw [hprices]
      rfl
    exact ⟨_, hprice⟩
  takes := fun _ => ⟨_, _, lastIndex?_of_record hrecord, rfl⟩

/-! ## What a new tracker finds -/

/-- An order that was placed is known by its id, its kind and its price. -/
structure PlacedOrder.IsAlso (order other : PlacedOrder) : Prop where
  id_eq : order.id = other.id
  kind_eq : order.kind = other.kind
  price_eq : order.price = other.price

namespace Tracker

/--
What a new tracker finds beside a stage: the same phase and the same order. A
position without an order is found by what is held of it, which must be above the
least volume of an order; what is below that is forgotten.
-/
def Refinds (paper : Paper) (found : Stage) : Stage → Prop
  | .needEnter => found = .needEnter
  | .waitForEnter entry => ∃ entry', found = .waitForEnter entry' ∧ entry'.IsAlso entry
  | .needExit _ _ =>
    (paper.terms.minimumVolume < paper.held →
      ∃ entry, found = .needExit entry none ∧ entry.side = .long) ∧
      (paper.held < paper.terms.minimumVolume → found = .needEnter)
  | .waitForExit _ exit _ =>
    ∃ entry exit' ratchet, found = .waitForExit entry exit' ratchet ∧ exit'.IsAlso exit

section Refinds

variable {market : Market} {paper : Paper} {found : Stage}

theorem isAlso_adopt {order : OpenOrder} {placed : PlacedOrder} (h : order.IsOf placed) :
    (adopt order).IsAlso placed :=
  ⟨h.id_eq, h.kind_eq, h.price_eq⟩

/-- A venue that tells the stage of a session tells it to a new tracker. -/
theorem Telling.refinds {stage : Stage} (h : Telling market paper (some stage))
    (hsettled : Settled market paper (some stage)) (hfinite : paper.held.isFinite)
    (htells : Tells paper found) : Refinds paper found stage := by
  cases stage with
  | needEnter =>
    have hempty : paper.orders = [] := h.inStep
    cases htells with
    | flat => rfl
    -- a long would have had to be sold before an entry is needed
    | held _ above => exact absurd (h.accords hfinite) above
    | enter alone | leave alone => cases hempty.symm.trans alone
  | waitForEnter entry =>
    -- the book is not empty, so it holds the very order that is awaited
    obtain ⟨order, hbook, horder⟩ := h.inStep.resolve_left (hsettled.listed entry rfl)
    cases htells with
    | flat empty | held empty => cases empty.symm.trans hbook
    | enter alone =>
      cases alone.symm.trans hbook
      exact ⟨_, rfl, isAlso_adopt horder⟩
    | leave alone leaves =>
      cases alone.symm.trans hbook
      rw [horder.kind_eq, h.accords.1] at leaves
      -- an entry is not taken for an exit
      cases leaves
  | needExit entry ratchet? =>
    have hempty : paper.orders = [] := h.inStep
    -- here the book tells nothing, and what is held decides
    cases htells with
    | flat _ not_above =>
      exact ⟨fun habove => absurd not_above (Double.not_le_of_lt habove), fun _ => rfl⟩
    | held _ above side_eq =>
      exact ⟨fun _ => ⟨_, rfl, side_eq⟩, fun hbelow => absurd (Double.le_of_lt hbelow) above⟩
    | enter alone | leave alone => cases hempty.symm.trans alone
  | waitForExit entry exit ratchet =>
    obtain ⟨hbook, hkind, -⟩ := h.inStep
    obtain ⟨order, hbook, horder⟩ := hbook.resolve_left (hsettled.listed exit rfl)
    cases htells with
    | flat empty | held empty => cases empty.symm.trans hbook
    | enter alone enters =>
      cases alone.symm.trans hbook
      rw [horder.kind_eq, hkind, Side.isEnter_exitKind] at enters
      -- nor an exit for an entry
      cases enters
    | leave alone =>
      cases alone.symm.trans hbook
      exact ⟨_, _, _, rfl, isAlso_adopt horder⟩

end Refinds

end Tracker

/-! ## Sessions that begin without a position -/

namespace Session

/--
The sessions that begin at a paper venue for their market, with nothing on its
book and no position held. Between two ticks the venue changes as it may.
-/
inductive FlatRun (changes : Paper → Paper → Prop) : Session Paper κ → Prop where
  | start (config : StrategyConfig) {paper : Paper} (empty : paper.orders = [])
      (not_above : paper.held ≤ paper.terms.minimumVolume)
      (positive : 0.0 < paper.terms.minimumVolume) (rules : κ) :
      FlatRun changes (start paper.terms.market config paper rules)
  | meanwhile {session : Session Paper κ} (run : FlatRun changes session) {paper : Paper}
      (change : changes session.desk.venue paper) :
      FlatRun changes { session with desk := { session.desk with venue := paper } }
  | tick {session : Session Paper κ} (run : FlatRun changes session) (strategy : Strategy κ) :
      FlatRun changes (session.onTick Paper.venue strategy).2

variable {session : Session Paper κ} {changes : Paper → Paper → Prop}

/-- A run that begins flat is a run at a paper venue. -/
theorem FlatRun.onPaper (hchanges : ∀ {paper after : Paper}, changes paper after →
      paper.Meanwhile after)
    (run : FlatRun changes session) : OnPaper session := by
  induction run with
  | start config empty _ _ rules => exact .start _ config empty rules
  | meanwhile _ change ih => exact .meanwhile ih (hchanges change)
  | tick _ strategy ih => exact .tick ih strategy

/--
A run that begins flat, with venues that hide nothing, has venues that tell a new
tracker all.
-/
theorem FlatRun.telling (run : FlatRun Paper.Openly session)
    (hdiffer : session.desk.market.base ≠ session.desk.market.counter) :
    session.Steady Telling := by
  induction run with
  | start config empty not_above positive rules =>
    exact ⟨nofun, empty, rfl, hdiffer, positive, fun _ => not_above⟩
  | meanwhile _ change ih =>
    obtain ⟨hupTo, htelling⟩ := ih hdiffer
    exact ⟨hupTo, htelling.openly change⟩
  | @tick session run strategy ih =>
    -- the market is the same before the tick and after it
    have hsettings := ((run.onPaper Paper.Openly.meanwhile).steady.onTick inStep_kept strategy).2
    rw [market, hsettings] at hdiffer
    exact ((ih hdiffer).onTick telling_kept strategy).1

/-- After a tick that went well there is a new bar, and the stage is settled. -/
theorem Steady.settled {P : Market → Paper → Option Stage → Prop} (h : session.Steady P)
    (strategy : Strategy κ) {closed? : Option ClosedTrade}
    (hanswer : (session.onTick Paper.venue strategy).1 = .ok closed?) :
    (∃ ticker, session.desk.prices.record ticker =
        .ok (session.onTick Paper.venue strategy).2.desk.prices) ∧
      (session.onTick Paper.venue strategy).2.Steady Settled := by
  have hends := ends_onTick Paper.venue strategy session
  rw [hanswer] at hends
  obtain ⟨⟨_, herror⟩, -⟩ | ⟨begun, hfresh, -, hrecord, -, hcourse⟩ :=
    tick_course hends h.upTo
  · cases herror
  obtain ⟨-, hprices, hafter⟩ := hcourse.same hfresh
  rw [hprices]
  exact ⟨hrecord, hafter.upTo, hcourse.settled hfresh⟩

/--
**A new tracker finds its way to the phase of the session and to its order, after
every tick that went well**, where no fill of a purchase goes unseen, the two
currencies of the market differ and what is held is finite.
-/
theorem restart_of_flatRun (run : FlatRun Paper.Openly session)
    (hdiffer : session.desk.market.base ≠ session.desk.market.counter) (strategy : Strategy κ)
    {closed? : Option ClosedTrade}
    (hanswer : (session.onTick Paper.venue strategy).1 = .ok closed?)
    (hfinite : (session.onTick Paper.venue strategy).2.desk.venue.held.isFinite) :
    ∃ stage found after, (session.onTick Paper.venue strategy).2.desk.tracker.stage = some stage ∧
      Ends (resume Paper.venue) (session.onTick Paper.venue strategy).2.restarted
        (.ok found) after ∧
        Refinds (session.onTick Paper.venue strategy).2.desk.venue found stage := by
  have hsteady := run.telling hdiffer
  have htelling := (hsteady.onTick telling_kept strategy).1.holds
  obtain ⟨⟨ticker, hrecord⟩, -, hsettled⟩ := hsteady.settled strategy hanswer
  have hready := ready_restarted htelling.market_eq hrecord
  obtain ⟨stage, hstage⟩ := Option.isSome_iff_exists.mp hsettled.found
  rw [hstage] at htelling hsettled
  obtain ⟨found, after, hresume, htells⟩ :=
    hready.ends_resume rfl (htelling.inStep.keepsBook.imp_right fun ⟨order, _, hbook, _⟩ =>
      ⟨order, hbook⟩)
  -- the venues of the two trackers differ in the calls that are still to fail
  have hspares : (session.onTick Paper.venue strategy).2.desk.venue.Spares
      (session.onTick Paper.venue strategy).2.restarted.venue := ⟨_, _, _, rfl⟩
  have hrefinds := (telling_kept.turn (.spare hspares) htelling).refinds
    (settled_keptByTurns (.spare hspares) hsettled) hfinite htells
  exact ⟨stage, found, after, hstage, hresume, hrefinds⟩

/-! ### A long that is found again -/

/-- A session that has had no tick, at a venue for its market. -/
def atPaper (config : StrategyConfig) (paper : Paper) : Session Paper Unit :=
  start paper.terms.market config paper ()

/-- The venue of a session publishes a ticker. -/
def shown (session : Session Paper κ) (ticker : Ticker) : Session Paper κ :=
  { session with desk := { session.desk with venue := session.desk.venue.setTicker ticker } }

/-- A run that begins flat goes on after a ticker, if that may be. -/
theorem FlatRun.shown {ticker : Ticker} (run : FlatRun changes session)
    (change : changes session.desk.venue (session.desk.venue.setTicker ticker)) :
    FlatRun changes (session.shown ticker) :=
  .meanwhile run change

/-- A tick after one more ticker, of a session that is always for trading. -/
def eagerly (session : Session Paper Unit) (ticker : Ticker) : Session Paper Unit :=
  ((session.shown ticker).onTick Paper.venue .eager).2

/-- A session that has ordered almost five coins, and has its order filled. -/
def bought : Session Paper Unit :=
  ((atPaper {} (.holding (.ofCurrencies "BTC" "EUR") [("EUR", 1000.0)])).eagerly
    Paper.narrow).shown Paper.narrow

theorem ok_of_isSome {answer : Except TradingError (Option ClosedTrade)}
    (h : answer.toOption.isSome) : ∃ closed?, answer = .ok closed? := by
  cases answer with
  | error _ => cases h
  | ok closed? => exact ⟨closed?, rfl⟩

/-- The next tick finds the coins, and so does a new tracker after it. -/
theorem restart_of_bought :
    ∃ entry after, entry.side = .long ∧
      Ends (resume Paper.venue) (bought.onTick Paper.venue .eager).2.restarted
        (.ok (.needExit entry none)) after := by
  have run : FlatRun Paper.Openly bought := by
    refine .shown (.tick (.shown (.start {} rfl ?_ ?_ ()) (.ticker Paper.narrow ?_)) .eager)
      (.ticker Paper.narrow ?_)
    · decide +kernel
    · decide +kernel
    · decide +kernel
    · decide +kernel
  -- the order of the first tick is filled, so this one sees the position
  obtain ⟨closed?, hanswer⟩ := ok_of_isSome
    (show (bought.onTick Paper.venue .eager).1.toOption.isSome by decide +kernel)
  obtain ⟨stage, found, after, hstage, hresume, hrefinds⟩ :=
    restart_of_flatRun run (by decide +kernel) .eager hanswer (by decide +kernel)
  have hphase : (bought.onTick Paper.venue .eager).2.phase? = some .needExit := by decide +kernel
  rw [phase?, hstage] at hphase
  cases stage with
  | needExit =>
    obtain ⟨entry, rfl, hlong⟩ := hrefinds.1 (by decide +kernel)
    exact ⟨entry, after, hlong, hresume⟩
  | _ => cases hphase

/-! ### What a new tracker misses -/

/-- A ticker without a spread. -/
def level (price : Float) : Ticker :=
  { last := price, ask := price, bid := price, time := ⟨0, 0⟩ }

/-- A run that begins flat goes on after any tickers, with a tick after each. -/
theorem FlatRun.eagerly {session : Session Paper Unit} (run : FlatRun Paper.Meanwhile session)
    (tickers : List Ticker) : FlatRun Paper.Meanwhile (tickers.foldl Session.eagerly session) := by
  induction tickers generalizing session with
  | nil => exact run
  | cons ticker tickers ih => exact ih (.tick (.shown run (.ticker ticker)) .eager)

/-- The phase that a new tracker finds. -/
def phaseAnew? (session : Session Paper κ) : Option Phase :=
  (outcome (resume Paper.venue) session.restarted).1.toOption.map Stage.phase

/-- A tick that goes well after one more ticker, and a new tracker that finds another phase. -/
structure Strays (session : Session Paper Unit) (ticker : Ticker)
    (running found : Phase) : Prop where
  run : FlatRun Paper.Meanwhile (session.shown ticker)
  answers : ((session.shown ticker).onTick Paper.venue .eager).1.toOption.isSome
  phase_eq : (session.eagerly ticker).phase? = some running
  found_eq : (session.eagerly ticker).phaseAnew? = some found

/-- A session strays that ends, after some tickers, in another phase than a new tracker finds. -/
theorem strays_of_eagerly {config : StrategyConfig} {paper : Paper} {tickers : List Ticker}
    {ticker : Ticker} {running found : Phase} (hempty : paper.orders = [])
    (hflat : paper.held ≤ paper.terms.minimumVolume ∧ 0.0 < paper.terms.minimumVolume)
    (hends : let session := tickers.foldl eagerly (atPaper config paper)
      ((session.shown ticker).onTick Paper.venue .eager).1.toOption.isSome ∧
        (session.eagerly ticker).phase? = some running ∧
          (session.eagerly ticker).phaseAnew? = some found) :
    (tickers.foldl eagerly (atPaper config paper)).Strays ticker running found where
  run := .shown (.eagerly (.start config hempty hflat.1 hflat.2 ()) tickers) (.ticker ticker)
  answers := hends.1
  phase_eq := hends.2.1
  found_eq := hends.2.2

/--
A new tracker forgets a position of just the least volume. It takes a session
that needs an entry for one that holds a position where a purchase was filled by
too little to show in what is left of it, where more is held than a double can
say, and where a currency is traded for itself.
-/
theorem strays_of_flatRun :
    let market := Market.ofCurrencies "BTC" "EUR"
    let raised := [level 100.0].foldl eagerly (atPaper {} (.holding market [("EUR", 150.0)]))
    let unseen := [level 100.0, level 100.0].foldl eagerly
      (atPaper { limits := { enterNotExecuted := 0 } }
        { Paper.new market 0.0 1e-18 0.005 with
          balances := ⟨[("EUR", 1000.0)]⟩
          partialFill := some 1e-17 })
    let vast := [level 1e-300, level 1e-300, level 1e-300].foldl eagerly
      (atPaper {}
        { Paper.new market 0.0 1e308 0.005 with
          balances := ⟨[("EUR", 2e8), ("BTC", 1e308)]⟩ })
    let same := [level 0.5, level 0.5, level 100.0].foldl eagerly
      (atPaper { emergencyStop := 0.0 } (.holding (.ofCurrencies "BTC" "BTC") [("BTC", 1.0)]))
    (raised.Strays (level 100.0) .needExit .needEnter ∧
      (raised.eagerly (level 100.0)).desk.venue.held = 1.0) ∧
      unseen.Strays (level 101.0) .needEnter .needExit ∧
        vast.Strays (level 1e-300) .needEnter .needExit ∧
          same.Strays (level 100.0) .needEnter .needExit := by
  -- each run is short and on small numbers, so that the kernel can be asked for its last stage
  refine ⟨⟨strays_of_eagerly rfl ?_ ?_, ?_⟩, strays_of_eagerly rfl ?_ ?_,
    strays_of_eagerly rfl ?_ ?_, strays_of_eagerly rfl ?_ ?_⟩
  · decide +kernel
  · decide +kernel
  · decide +kernel
  · decide +kernel
  · decide +kernel
  · decide +kernel
  · decide +kernel
  · decide +kernel
  · decide +kernel

end Session

end SwingTrader
