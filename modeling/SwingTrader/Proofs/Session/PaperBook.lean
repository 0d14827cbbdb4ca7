import SwingTrader.Proofs.Double
import SwingTrader.Proofs.Session.Books
import SwingTrader.Proofs.Tracker.Turn

/-!
# SwingTrader — the book of a paper venue that a session trades at

A session and its venue keep their own accounts of what is going on, and calls
between them are refused and broken off. They stay in step all the same: the book
is empty or holds the one order that the session waits for, and a position that
is closed leaves nothing behind.

* `Tracker.InStep` — the venue and the stage are in step; every turn keeps it;
* `Session.OnPaper` — the sessions that trade at one paper venue;
* `Session.book_of_onPaper` — what is on the book after every tick, and what a
  closed trade leaves.
-/

namespace SwingTrader

variable {κ : Type}

/-! ## In step -/

/-- An open order is the one that was placed. -/
structure OpenOrder.IsOf (order : OpenOrder) (placed : PlacedOrder) : Prop where
  id_eq : order.id = placed.id
  kind_eq : order.kind = placed.kind
  price_eq : order.price = placed.price

namespace Paper

/-- There is nothing on the book but what is left of the order that was placed. -/
def KeepsOnly (paper : Paper) (placed : PlacedOrder) : Prop :=
  paper.orders = [] ∨ ∃ order, paper.orders = [order] ∧ order.IsOf placed

/--
What the exit of a position leaves at the venue: all that was held of a long is in
the order, and a short whose order is filled has no debt.
-/
def LeftBy (paper : Paper) (market : Market) : Side → Prop
  | .long => market = paper.terms.market → market.base ≠ market.counter →
      paper.held.isFinite → paper.held = 0.0
  | .short => paper.orders = [] → paper.shortDebt = 0.0

section KeepsOnly

variable {paper after : Paper} {placed placed' : PlacedOrder}

theorem KeepsOnly.atMostOne (h : paper.KeepsOnly placed) :
    paper.orders = [] ∨ ∃ listed, paper.orders = [listed] := by
  obtain h | ⟨order, hbook, -⟩ := h
  · exact .inl h
  · exact .inr ⟨order, hbook⟩

/-- Counting a tick does not change which order is on the book. -/
theorem KeepsOnly.counted (h : paper.KeepsOnly placed) (hcounted : Tracker.Counted placed placed') :
    paper.KeepsOnly placed' := by
  obtain h | ⟨order, hbook, horder⟩ := h
  · exact .inl h
  · obtain rfl | rfl := hcounted
    · exact .inr ⟨order, hbook, horder.id_eq, horder.kind_eq, horder.price_eq⟩
    · exact .inr ⟨order, hbook, horder.id_eq, horder.kind_eq, horder.price_eq⟩

/-- The order on the book is the one that was placed. -/
theorem KeepsOnly.isOf {order : OpenOrder} (h : paper.KeepsOnly placed)
    (hbook : paper.orders = [order]) : order.IsOf placed := by
  obtain hempty | ⟨listed, hlisted, horder⟩ := h
  · cases hempty.symm.trans hbook
  · cases hlisted.symm.trans hbook
    exact horder

/-- An order that is missing from the book has left it empty. -/
theorem KeepsOnly.orders_eq_nil (h : paper.KeepsOnly placed)
    (hmissing : paper.orders.find? (fun order => order.id = placed.id) = none) :
    paper.orders = [] := by
  obtain h | ⟨order, hbook, horder⟩ := h
  · exact h
  · rw [hbook] at hmissing
    simp [horder.id_eq] at hmissing

theorem Places.keepsOnly (h : paper.Places placed after) (hempty : paper.orders = []) :
    after.KeepsOnly placed := by
  have horders := h.orders_eq
  rw [hempty] at horders
  exact .inr ⟨_, horders, rfl, rfl, rfl⟩

end KeepsOnly

end Paper

namespace Tracker

/-- The book is in step with the stage. -/
def InStep (market : Market) (paper : Paper) : Option Stage → Prop
  | none | some .needEnter | some (.needExit _ _) => paper.orders = []
  | some (.waitForEnter entry) => paper.KeepsOnly entry
  | some (.waitForExit entry exit _) =>
    paper.KeepsOnly exit ∧ exit.kind = entry.side.exitKind ∧ paper.LeftBy market entry.side

variable {market : Market} {paper after : Paper} {stage? : Option Stage}

theorem InStep.spares (h : InStep market paper stage?) (hspares : paper.Spares after) :
    InStep market after stage? := by
  obtain ⟨_, _, _, rfl⟩ := hspares
  rcases stage? with _ | _ | _ | _ | _ <;> exact h

/-- The exit of a position takes all that is held into its order. -/
theorem leftBy_of_places {side : Side} {order : PlacedOrder} (h : paper.Places order after)
    (hkind : order.kind = side.exitKind)
    (hwhole : side = .long → order.quantity = paper.balance market.base) :
    after.LeftBy market side := by
  cases side with
  | long =>
    intro hmarket hdiffer hfinite
    rw [h.terms_eq] at hmarket
    subst hmarket
    -- the whole balance is in the order, and a double less itself is zero
    have hheld : after.held = paper.held + -paper.held := by
      rw [h.held_eq hdiffer, hkind, hwhole rfl]
      rfl
    rw [hheld] at hfinite ⊢
    exact Double.add_neg_self hfinite
  | short =>
    intro hempty
    rw [h.orders_eq] at hempty
    simp at hempty

/-- A book that is in step holds nothing but the order that the stage waits for. -/
theorem InStep.keepsBook (h : InStep market paper stage?) :
    paper.orders = [] ∨
      ∃ order placed, paper.orders = [order] ∧ stage?.bind awaited = some placed ∧
        order.IsOf placed := by
  have hwaiting : ∀ {placed : PlacedOrder}, paper.KeepsOnly placed →
      paper.orders = [] ∨ ∃ order placed', paper.orders = [order] ∧
        some placed = some placed' ∧ order.IsOf placed' := by
    rintro placed (hempty | ⟨order, hbook, horder⟩)
    · exact .inl hempty
    · exact .inr ⟨order, placed, hbook, rfl, horder⟩
  rcases stage? with _ | _ | entry | _ | ⟨_, exit, _⟩
  · exact .inl h
  · exact .inl h
  · exact hwaiting h
  · exact .inl h
  · exact hwaiting h.1

/-- Every turn keeps the book in step with the stage. -/
theorem inStep_keptByTurns : KeptByTurns InStep := by
  intro market paper after stage? stage?' hturn h
  cases hturn with
  -- an order is placed on an empty book, and let go once the book is empty again
  | spare spares => exact h.spares spares
  | enter enters places => exact places.keepsOnly h
  | leave leaves whole places =>
    exact ⟨places.keepsOnly h, leaves, leftBy_of_places places leaves whole⟩
  | waitEnter counted => exact Paper.KeepsOnly.counted h counted
  | waitExit counted => exact ⟨h.1.counted counted, counted.kind_eq.trans h.2.1, h.2.2⟩
  | fill missing spares => exact spares.orders_eq.trans (h.orders_eq_nil missing)
  | giveUp id_eq whole takesOff => exact (takesOff.orders_eq h.atMostOne).2
  | takePart _ _ _ _ _ takesOff => exact (takesOff.orders_eq h.atMostOne).2
  | withdraw id_eq takesOff => exact (takesOff.orders_eq h.1.atMostOne).2
  | flat empty not_above spares => exact spares.orders_eq.trans empty
  | held empty above side_eq spares => exact spares.orders_eq.trans empty
  -- there is nothing to adopt before the first order
  | adoptEntry alone enters spares => cases h.symm.trans alone
  | adoptExit alone leaves spares => cases h.symm.trans alone

/-- Being in step is kept by whatever a tracker does at the venue. -/
theorem inStep_kept : Kept InStep where
  turn := inStep_keptByTurns
  cutOff := fun _ _ htakes h => .inl (htakes.orders_eq (Paper.KeepsOnly.atMostOne h)).2
  close := fun hmissing hspares h => hspares.orders_eq.trans (h.1.orders_eq_nil hmissing)

end Tracker

/-! ## Between two ticks -/

namespace Paper

/-- What happens at a paper venue between two ticks of a session. -/
inductive Meanwhile (paper : Paper) : Paper → Prop where
  | ticker (ticker : Ticker) : Meanwhile paper (paper.setTicker ticker)
  | partialFill (fraction : Option Float) :
      Meanwhile paper { paper with partialFill := fraction }
  | failing (cancels calls afterCancel : Nat) :
      Meanwhile paper (paper.failing cancels calls afterCancel)

section Tickers

variable {paper : Paper} {placed : PlacedOrder} {ticker : Ticker}

theorem KeepsOnly.setTicker (h : paper.KeepsOnly placed) :
    (paper.setTicker ticker).KeepsOnly placed := by
  obtain hbook | ⟨order, hbook, horder⟩ := h
  · rw [setTicker_of_nil hbook]
    exact .inl hbook
  · rw [setTicker_of_singleton hbook]
    split
    -- a fill leaves nothing, or the same order with less of it
    · obtain hrest | hrest := remainder_cases order (paper.fillQuantity order)
      · exact .inl hrest
      · exact .inr ⟨_, hrest, horder.id_eq, horder.kind_eq, horder.price_eq⟩
    · exact .inr ⟨order, hbook, horder⟩

/-- Only the fill of a purchase adds to what is held. -/
theorem held_setTicker (h : paper.KeepsOnly placed) (hkind : placed.kind ≠ .buy)
    (hdiffer : paper.terms.market.base ≠ paper.terms.market.counter) :
    (paper.setTicker ticker).held = paper.held := by
  obtain hbook | ⟨order, hbook, horder⟩ := h
  · rw [setTicker_of_nil hbook]
    rfl
  · rw [setTicker_of_singleton hbook]
    split
    -- the fill of anything but a purchase is paid in the counter currency
    · rw [← horder.kind_eq] at hkind
      have hsettle : Paper.held (({ paper with ticker := some ticker }).settle order
          (paper.fillQuantity order)) = _ := held_settle hdiffer
      exact hsettle.trans (if_neg hkind)
    · rfl

/-- A ticker that fills the exit of a position takes nothing but the debt of a short. -/
theorem LeftBy.setTicker {market : Market} {side : Side} (h : paper.LeftBy market side)
    (hbook : paper.KeepsOnly placed) (hkind : placed.kind = side.exitKind) :
    (paper.setTicker ticker).LeftBy market side := by
  cases side with
  | long =>
    intro hmarket hdiffer
    rw [setTicker_terms] at hmarket
    rw [held_setTicker hbook (by simp [hkind, Side.exitKind]) (hmarket ▸ hdiffer)]
    exact h hmarket hdiffer
  | short =>
    obtain hbook | ⟨order, hbook, horder⟩ := hbook
    · rw [setTicker_of_nil hbook]
      exact h
    · rw [setTicker_of_singleton hbook]
      split
      · exact fun _ => shortDebt_settle (horder.kind_eq.trans hkind)
      · exact h

end Tickers

end Paper

namespace Tracker

variable {market : Market} {paper after : Paper} {stage? : Option Stage}

theorem InStep.setTicker {ticker : Ticker} (h : InStep market paper stage?) :
    InStep market (paper.setTicker ticker) stage? := by
  have hnil : paper.orders = [] → (paper.setTicker ticker).orders = [] := by
    intro hempty
    rw [Paper.setTicker_of_nil hempty]
    exact hempty
  rcases stage? with _ | _ | _ | _ | _
  · exact hnil h
  · exact hnil h
  · exact Paper.KeepsOnly.setTicker h
  · exact hnil h
  · exact ⟨h.1.setTicker, h.2.1, h.2.2.setTicker h.1 h.2.1⟩

/-- What happens between two ticks leaves the book in step with the stage. -/
theorem InStep.meanwhile (h : InStep market paper stage?) (hchange : paper.Meanwhile after) :
    InStep market after stage? := by
  cases hchange with
  | ticker => exact h.setTicker
  | partialFill => rcases stage? with _ | _ | _ | _ | _ <;> exact h
  | failing => exact h.spares ⟨_, _, _, rfl⟩

end Tracker

/-! ## A tick at a paper venue -/

section Ticks

variable {desk after : Desk Paper κ} {answer : Except TradingError (Option ClosedTrade)}

open Desk Tracker

/-- A course takes turns, and may close a position after them and answer its trade. -/
theorem Course.goes (h : Course Paper.venue desk answer after) (hfresh : desk.Fresh) :
    ((∀ trade, answer ≠ .ok (some trade)) ∧ Goes desk after) ∨
      ∃ mid entry exit trade, answer = .ok (some trade) ∧ Relation.ReflTransGen Turns desk mid ∧
        Closed mid entry exit trade after := by
  cases h with
  | unfound _ moves => exact .inl ⟨nofun, .turns (moves.turns hfresh)⟩
  | goesOn found proceeds no_trade _ =>
    have hfound := found.turns hfresh
    exact .inl ⟨no_trade, .head hfound (proceeds.goes (fresh_of_turns hfound hfresh))⟩
  | closes found closing =>
    -- finding the stage may be a turn of its own
    have hfound := found.turns hfresh
    obtain ⟨entry, exit, hclosed⟩ := closing.closed (fresh_of_turns hfound hfresh)
    refine .inr ⟨_, entry, exit, _, rfl, hfound, hclosed.awaits, hclosed.missing, hclosed.spares,
      hclosed.settings_eq, hclosed.prices_eq, ⟨?_, ?_⟩, hclosed.stage_eq, hclosed.trade_eq⟩
    · exact hclosed.fresh.upTo
    · exact hclosed.fresh.listed

/-- No course changes the settings or the prices, or keeps a list that is not the book. -/
theorem Course.same (h : Course Paper.venue desk answer after) (hfresh : desk.Fresh) :
    after.tracker.settings = desk.tracker.settings ∧ after.prices = desk.prices ∧ after.Fresh := by
  obtain ⟨-, hgoes⟩ | ⟨mid, entry, exit, trade, -, hturns, hclosed⟩ := h.goes hfresh
  · exact ⟨hgoes.same.1, hgoes.same.2, hgoes.fresh hfresh⟩
  · obtain ⟨hsettings, hprices⟩ := same_of_turns hturns
    exact ⟨hclosed.settings_eq.trans hsettings, hclosed.prices_eq.trans hprices, hclosed.fresh⟩

/--
A tick fails before its course begins, or takes it with a new bar and nothing kept for
it yet.
-/
theorem tick_course {strategy : Strategy κ}
    (h : Ends (Session.tick Paper.venue strategy) desk answer after)
    (hupTo : desk.openOrders.UpTo desk.tick) :
    ((∃ error, answer = .error error) ∧
        ∃ state, desk.venue.Spares state ∧ after = { desk with venue := state }) ∨
      ∃ begun : Desk Paper κ, begun.Fresh ∧ begun.tracker = desk.tracker ∧
        (∃ ticker, desk.prices.record ticker = .ok begun.prices) ∧
          desk.venue.Spares begun.venue ∧ Course Paper.venue begun answer after := by
  obtain ⟨reply, state, hreply, ⟨herror, hafter⟩ | ⟨ticker, prices, -, hrecord, hcourse⟩⟩ :=
    Session.tick_inv h
  · exact .inl ⟨herror, state, Paper.replies_ticker hreply, hafter⟩
  · refine .inr ⟨{ desk with venue := state, prices, tick := desk.tick + 1 }, ?_, rfl,
      ⟨ticker, hrecord⟩, Paper.replies_ticker hreply, hcourse⟩
    refine ⟨hupTo.mono (Nat.le_succ _), fun orders hlisted => ?_⟩
    -- a new tick has no list yet
    rw [listed?, hupTo.at?_of_lt (Nat.lt_succ_self _)] at hlisted
    cases hlisted

end Ticks

/-! ## Sessions -/

namespace Session

open Desk Tracker

/-- A property of the venue and the stage that holds of a session between two ticks. -/
structure Steady (P : Market → Paper → Option Stage → Prop) (session : Session Paper κ) : Prop where
  upTo : session.desk.openOrders.UpTo session.desk.tick
  holds : P session.desk.market session.desk.venue session.desk.tracker.stage

/--
What a tick carries on: it holds after the tick, or it held until a position was
closed, whose trade the tick answers.
-/
inductive Carries (P : Market → Paper → Option Stage → Prop)
    (answer : Except TradingError (Option ClosedTrade)) (next : Session Paper κ) : Prop where
  | on (no_trade : ∀ trade, answer ≠ .ok (some trade))
      (holds : P next.desk.market next.desk.venue next.desk.tracker.stage) : Carries P answer next
  | closes {mid : Desk Paper κ} {entry exit : PlacedOrder} {trade : ClosedTrade}
      (answer_eq : answer = .ok (some trade)) (closed : Closed mid entry exit trade next.desk)
      (holds : P mid.market mid.venue mid.tracker.stage) : Carries P answer next

/-- A tick carries on what every turn does. -/
theorem Steady.carries {P : Market → Paper → Option Stage → Prop} {session : Session Paper κ}
    (hP : Carried P) (h : session.Steady P) (strategy : Strategy κ) :
    (session.onTick Paper.venue strategy).2.desk.tracker.settings = session.desk.tracker.settings ∧
      (session.onTick Paper.venue strategy).2.desk.openOrders.UpTo
        (session.onTick Paper.venue strategy).2.desk.tick ∧
        Carries P (session.onTick Paper.venue strategy).1
          (session.onTick Paper.venue strategy).2 := by
  obtain ⟨⟨_, herror⟩, state, hspares, hafter⟩ | ⟨begun, hfresh, htracker, -, hspares, hcourse⟩ :=
    tick_course (ends_onTick Paper.venue strategy session) h.upTo
  · refine ⟨?_, ?_, .on (by simp [herror]) ?_⟩
    · rw [hafter]
    · rw [hafter]
      exact h.upTo
    · rw [hafter]
      exact hP.turn (.spare hspares) h.holds
  · have hbegun : P begun.market begun.venue begun.tracker.stage := by
      rw [market, htracker]
      exact hP.turn (.spare hspares) h.holds
    -- the tracker is as it was when the course begins, and the venue has only been
    -- asked for a ticker
    obtain ⟨hsettings, -, hafter⟩ := hcourse.same hfresh
    refine ⟨by rw [hsettings, htracker], hafter.upTo, ?_⟩
    obtain ⟨hnone, hgoes⟩ | ⟨mid, entry, exit, trade, hanswer, hturns, hclosed⟩ :=
      hcourse.goes hfresh
    · exact .on hnone (hP.of_goes hgoes hbegun)
    · exact .closes hanswer hclosed (hP.turn.of_turns hturns hbegun)

/-- What every turn keeps, and closing a position as well, every tick keeps. -/
theorem Steady.onTick {P : Market → Paper → Option Stage → Prop} {session : Session Paper κ}
    (hP : Kept P) (h : session.Steady P) (strategy : Strategy κ) :
    (session.onTick Paper.venue strategy).2.Steady P ∧
      (session.onTick Paper.venue strategy).2.desk.tracker.settings =
        session.desk.tracker.settings := by
  obtain ⟨hsettings, hupTo, hcarries⟩ := h.carries hP.toCarried strategy
  refine ⟨⟨hupTo, ?_⟩, hsettings⟩
  cases hcarries with
  | on _ holds => exact holds
  | closes _ closed holds => exact hP.of_closed closed holds

/-! ### Runs -/

/--
The sessions that trade at one paper venue, on whose book there was nothing when
they began. Between two ticks the venue publishes tickers, fills orders in parts
and is set to fail.
-/
inductive OnPaper : Session Paper κ → Prop where
  | start (market : Market) (config : StrategyConfig) {paper : Paper} (empty : paper.orders = [])
      (rules : κ) : OnPaper (start market config paper rules)
  | meanwhile {session : Session Paper κ} (run : OnPaper session) {paper : Paper}
      (change : session.desk.venue.Meanwhile paper) :
      OnPaper { session with desk := { session.desk with venue := paper } }
  | tick {session : Session Paper κ} (run : OnPaper session) (strategy : Strategy κ) :
      OnPaper (session.onTick Paper.venue strategy).2

/-- A session at a paper venue is in step between any two ticks. -/
theorem OnPaper.steady {session : Session Paper κ} (run : OnPaper session) :
    session.Steady InStep := by
  induction run with
  | start market config empty rules => exact ⟨nofun, empty⟩
  | meanwhile _ change ih => exact ⟨ih.upTo, ih.holds.meanwhile change⟩
  | tick _ strategy ih => exact (ih.onTick inStep_kept strategy).1

/-- There is nothing on the book but the order that the stage waits for. -/
def KeepsBook (session : Session Paper κ) : Prop :=
  session.desk.venue.orders = [] ∨
    ∃ order placed, session.desk.venue.orders = [order] ∧
      session.desk.tracker.stage.bind awaited = some placed ∧ order.IsOf placed

/-- What a trade that was closed leaves at the venue. -/
structure LeavesNothing (session : Session Paper κ) (trade : ClosedTrade) : Prop where
  no_order : session.desk.venue.orders = []
  nothing_held : trade.side = .long → session.desk.market = session.desk.venue.terms.market →
    session.desk.market.base ≠ session.desk.market.counter →
      session.desk.venue.held.isFinite → session.desk.venue.held = 0.0
  no_debt : trade.side = .short → session.desk.venue.shortDebt = 0.0

/-- A tick that closes a trade leaves nothing of it at the venue. -/
theorem Steady.leavesNothing {session : Session Paper κ} (h : session.Steady InStep)
    (strategy : Strategy κ) {trade : ClosedTrade}
    (hanswer : (session.onTick Paper.venue strategy).1 = .ok (some trade)) :
    (session.onTick Paper.venue strategy).2.LeavesNothing trade := by
  obtain ⟨-, -, hcarries⟩ := h.carries inStep_kept.toCarried strategy
  cases hcarries with
  | on no_trade => exact absurd hanswer (no_trade trade)
  | @closes mid entry _ _ answer_eq closed hmid =>
    cases answer_eq.symm.trans hanswer
    obtain ⟨ratchet, hstage⟩ := closed.awaits
    obtain rfl := closed.trade_eq
    -- at the end of the wait the exit is missing, so the book is empty
    rw [hstage] at hmid
    obtain ⟨hbook, -, hafter⟩ := hmid
    have hempty := hbook.orders_eq_nil closed.missing
    have hmarket : (session.onTick Paper.venue strategy).2.desk.market = mid.market := by
      rw [market, market, closed.settings_eq]
    -- what was left at the end of the wait is left after the tick
    obtain ⟨cancels, calls, afterCancel, hleft⟩ := closed.spares
    refine ⟨?_, ?_, ?_⟩
    · rw [hleft]
      exact hempty
    · intro hlong
      rw [hmarket, hleft]
      rw [show entry.side = .long from hlong] at hafter
      exact hafter
    · intro hshort
      rw [hleft]
      rw [show entry.side = .short from hshort] at hafter
      exact hafter hempty

/--
**The book of a paper venue holds nothing but the order that the session waits
for, after every tick, whatever fails.** A trade that is closed leaves no order,
no debt of a short, and nothing held of a long, where it is the venue's own market
and its two currencies differ.
-/
theorem book_of_onPaper {session : Session Paper κ} (run : OnPaper session)
    (strategy : Strategy κ) :
    (session.onTick Paper.venue strategy).2.KeepsBook ∧
      ∀ trade, (session.onTick Paper.venue strategy).1 = .ok (some trade) →
        (session.onTick Paper.venue strategy).2.LeavesNothing trade :=
  ⟨(run.steady.onTick inStep_kept strategy).1.holds.keepsBook,
    fun _ hanswer => run.steady.leavesNothing strategy hanswer⟩

/-! ### A long that is closed -/

/-- A session that finds a long and places its exit, which the next ticker fills. -/
def exiting (market : Market) (paper : Paper) : Session Paper Unit :=
  let session := ((start market {} paper ()).onTick Paper.venue .eager).2
  { session with desk := { session.desk with venue := session.desk.venue.setTicker Paper.narrow } }

theorem onPaper_exiting (market : Market) {paper : Paper} (h : paper.orders = []) :
    OnPaper (exiting market paper) :=
  .meanwhile (.tick (.start market {} h ()) .eager) (.ticker Paper.narrow)

/-- What shows the side of a trade answered the trade. -/
theorem closes_of_side {answer : Except TradingError (Option ClosedTrade)} {side : Side}
    (h : answer.toOption.join.map ClosedTrade.side = some side) :
    ∃ trade, answer = .ok (some trade) ∧ trade.side = side := by
  rcases answer with _ | _ | trade
  · cases h
  · cases h
  · exact ⟨trade, rfl, Option.some.inj h⟩

/-- A session that is about to close a trade of two coins. -/
def exitingTwo : Session Paper Unit :=
  exiting (.ofCurrencies "BTC" "EUR") Paper.holdingTwo

/-- The next tick closes the trade of two coins, and nothing is left of them. -/
theorem leavesNothing_of_two :
    (exitingTwo.onTick Paper.venue .eager).2.KeepsBook ∧
      ∃ trade, (exitingTwo.onTick Paper.venue .eager).1 = .ok (some trade) ∧ trade.side = .long ∧
        (exitingTwo.onTick Paper.venue .eager).2.LeavesNothing trade ∧
          (exitingTwo.onTick Paper.venue .eager).2.desk.venue.held = 0.0 := by
  have run : OnPaper exitingTwo := onPaper_exiting _ rfl
  obtain ⟨trade, hanswer, hlong⟩ := closes_of_side
    (show (exitingTwo.onTick Paper.venue .eager).1.toOption.join.map ClosedTrade.side =
      some .long by decide +kernel)
  obtain ⟨hkeeps, hleaves⟩ := book_of_onPaper run .eager
  refine ⟨hkeeps, trade, hanswer, hlong, hleaves trade hanswer, ?_⟩
  refine (hleaves trade hanswer).nothing_held hlong ?_ ?_ ?_
  · decide +kernel
  · decide +kernel
  · decide +kernel

/--
Something is held after a long is closed where a currency is traded for itself, or
where the venue knows another market by the same id.
-/
theorem held_of_long :
    let same := exiting (.ofCurrencies "BTC" "BTC")
      (.holding (.ofCurrencies "BTC" "BTC") [("BTC", 2.0)])
    let other := exiting (.ofCurrencies "A-B" "C")
      (.holding (.ofCurrencies "A" "B-C") [("A-B", 2.0), ("A", 5.0)])
    (OnPaper same ∧
      (same.onTick Paper.venue .eager).1.toOption.join.map ClosedTrade.side = some .long ∧
        (same.onTick Paper.venue .eager).2.desk.venue.held = 198.0) ∧
      OnPaper other ∧
        (other.onTick Paper.venue .eager).1.toOption.join.map ClosedTrade.side = some .long ∧
          (other.onTick Paper.venue .eager).2.desk.venue.held = 3.0 ∧
            (other.onTick Paper.venue .eager).2.desk.venue.balance "A-B" = 2.0 := by
  refine ⟨⟨onPaper_exiting _ rfl, ?_, ?_⟩, onPaper_exiting _ rfl, ?_, ?_, ?_⟩
  · decide +kernel
  · decide +kernel
  · decide +kernel
  · decide +kernel
  · decide +kernel

end Session

end SwingTrader
