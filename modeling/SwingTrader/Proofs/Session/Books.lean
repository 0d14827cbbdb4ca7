import SwingTrader.Proofs.Ledger
import SwingTrader.Proofs.Paper
import SwingTrader.Proofs.Session.Tick

/-!
# SwingTrader — the books of a session

A session keeps its trades, its ledger, its tracker and its count of ticks in
different places, and a call may fail between any two of them. The books are in
order all the same, after every tick.

* `Session.Reachable` — the sessions that ticks lead to at a venue that answers
  whatever it likes;
* `Session.Books` — what is in order about a session;
* `Session.Adds` — what one tick adds to the books;
* `Session.books_of_reachable` — the books are in order after every tick, and each
  tick adds an event at its own bar, or none.
-/

namespace SwingTrader

variable {σ κ α : Type} {venue : Venue σ} {desk after : Desk σ κ}

open Desk Tracker

/-- The ledger of the tracker. -/
def Desk.ledger (desk : Desk σ κ) : TradeLedger :=
  desk.ledgers.read desk.tracker.settings.ledger

namespace Desk

/-! ## Ledger and tracker -/

/-- The tracker has a ledger, and its open entry is that of the position. -/
structure Booked (desk : Desk σ κ) : Prop where
  kept : desk.ledgers.get? desk.tracker.settings.ledger = some desk.ledger
  ordered : desk.ledger.Ordered
  position : desk.ledger.openEntry.map Prod.snd = desk.tracker.held.map PlacedOrder.side

/-- The ledger is as it was, or it has taken one entry at the newest bar. -/
def Enters (desk after : Desk σ κ) : Prop :=
  after.ledger = desk.ledger ∨
    ∃ index side, desk.prices.lastIndex? = some index ∧
      desk.ledger.recordEntry index side = .ok after.ledger

/-- The ledger has taken an exit at the newest bar. -/
def Leaves (desk after : Desk σ κ) : Prop :=
  ∃ index, desk.prices.lastIndex? = some index ∧ desk.ledger.recordExit index = .ok after.ledger

/-- What no operation changes: the settings, the prices, the tick, and how long lists are kept. -/
structure Framed (desk after : Desk σ κ) : Prop where
  settings_eq : after.tracker.settings = desk.tracker.settings
  prices_eq : after.prices = desk.prices
  tick_eq : after.tick = desk.tick
  window_eq : after.openOrders.window = desk.openOrders.window

theorem Framed.trans {mid : Desk σ κ} (h : desk.Framed mid) (h' : mid.Framed after) :
    desk.Framed after :=
  ⟨h'.settings_eq.trans h.settings_eq, h'.prices_eq.trans h.prices_eq, h'.tick_eq.trans h.tick_eq,
    h'.window_eq.trans h.window_eq⟩

/-- The books are in order, and nothing has been added to them but an entry. -/
structure Advances (desk after : Desk σ κ) : Prop extends Framed desk after where
  enters : desk.Enters after
  booked : after.Booked

namespace Advances

theorem refl (hbooked : desk.Booked) : desk.Advances desk :=
  ⟨⟨rfl, rfl, rfl, rfl⟩, .inl rfl, hbooked⟩

/-- A second entry at one bar would be refused, so two advances add one entry at most. -/
theorem trans {mid : Desk σ κ} (h : desk.Advances mid) (h' : mid.Advances after) :
    desk.Advances after where
  toFramed := h.toFramed.trans h'.toFramed
  booked := h'.booked
  enters := by
    obtain hsame | ⟨index, side, hindex, hrecord⟩ := h.enters
    · obtain hsame' | ⟨index, side, hindex, hrecord⟩ := h'.enters
      · exact .inl (hsame'.trans hsame)
      · rw [h.prices_eq] at hindex
        rw [hsame] at hrecord
        exact .inr ⟨index, side, hindex, hrecord⟩
    · obtain hsame' | ⟨index', side', hindex', hrecord'⟩ := h'.enters
      · rw [← hsame'] at hrecord
        exact .inr ⟨index, side, hindex, hrecord⟩
      · rw [h.prices_eq, hindex] at hindex'
        cases hindex'
        -- the second entry would have to come after itself
        have hnew := (TradeLedger.recordEntry_ok.mp hrecord').1
        exact absurd (hnew index (TradeLedger.lastIndex?_of_recordEntry hrecord))
          (Nat.lt_irrefl index)

/-- No position is closed at the bar at which it was opened. -/
theorem leaves {mid : Desk σ κ} (h : desk.Advances mid) (h' : mid.Leaves after) :
    desk.Leaves after := by
  obtain ⟨index', hindex', hexit⟩ := h'
  rw [h.prices_eq] at hindex'
  obtain hsame | ⟨index, side, hindex, hrecord⟩ := h.enters
  · rw [hsame] at hexit
    exact ⟨index', hindex', hexit⟩
  · obtain rfl : index = index' := Option.some.inj (hindex.symm.trans hindex')
    -- the exit would have to come after an entry at its own bar
    have hnew := (TradeLedger.recordExit_ok.mp hexit).1
    exact absurd (hnew index (TradeLedger.lastIndex?_of_recordEntry hrecord)) (Nat.lt_irrefl index)

end Advances

/-- The books stay in order when neither the ledgers nor the position change. -/
theorem Booked.stays (hbooked : desk.Booked) (hframed : desk.Framed after)
    (hledgers : after.ledgers = desk.ledgers)
    (hheld : after.tracker.held.map PlacedOrder.side = desk.tracker.held.map PlacedOrder.side) :
    desk.Advances after := by
  have hledger : after.ledger = desk.ledger := by rw [ledger, hledgers, hframed.settings_eq, ledger]
  refine ⟨hframed, .inl hledger, ?_, ?_, ?_⟩
  · rw [hledgers, hframed.settings_eq, hledger, hbooked.kept]
  · rw [hledger]
    exact hbooked.ordered
  · rw [hledger, hheld, hbooked.position]

theorem Undisturbed.framed (h : Undisturbed desk after) : desk.Framed after :=
  ⟨by rw [h.tracker_eq], h.prices_eq, h.tick_eq, h.window_eq⟩

theorem Undisturbed.advances (h : Undisturbed desk after) (hbooked : desk.Booked) :
    desk.Advances after :=
  hbooked.stays h.framed h.ledgers_eq (by rw [h.tracker_eq])

/-- A stage with a position of the same side needs no entry in the books. -/
theorem Booked.setStage {stage : Stage} (hbooked : desk.Booked)
    (hheld : stage.held.map PlacedOrder.side = desk.tracker.held.map PlacedOrder.side) :
    desk.Advances (desk.withStage stage) :=
  hbooked.stays ⟨rfl, rfl, rfl, rfl⟩ rfl hheld

/-- Where a book rewrites the ledger of the tracker, the ledger is what it was rewritten to. -/
theorem Booked.ledger_of_update {change : TradeLedger → Except LedgerError TradeLedger}
    {ledgers : LedgerBook} (hbooked : desk.Booked) (after : Desk σ κ)
    (h : desk.ledgers.update desk.tracker.settings.ledger change = .ok ledgers)
    (hafter : after.ledgers = ledgers)
    (hsettings : after.tracker.settings = desk.tracker.settings) :
    change desk.ledger = .ok after.ledger ∧
      after.ledgers.get? after.tracker.settings.ledger = some after.ledger := by
  obtain ⟨old, new, hget, hchange, hnew⟩ := LedgerBook.update_ok h
  have hold : old = desk.ledger := Option.some.inj (hget.symm.trans hbooked.kept)
  have hledger : after.ledger = new := by
    rw [ledger, hafter, hsettings, LedgerBook.read, hnew, Option.getD_some]
  rw [hledger, hafter, hsettings, ← hold]
  exact ⟨hchange, hnew⟩

/-- An entry is taken together with the stage of its position. -/
theorem Booked.enter {side : Side} {ledgers : LedgerBook} {stage : Stage} {entry : PlacedOrder}
    (hbooked : desk.Booked) (htakes : desk.TakesEntry side ledgers)
    (hheld : stage.held = some entry) (hside : entry.side = side) :
    desk.Advances ({ desk with ledgers }.withStage stage) := by
  obtain ⟨index, hindex, hupdate⟩ := htakes
  have ⟨hrecord, hkept⟩ :=
    hbooked.ledger_of_update ({ desk with ledgers }.withStage stage) hupdate rfl rfl
  refine ⟨⟨rfl, rfl, rfl, rfl⟩, .inr ⟨index, side, hindex, hrecord⟩, hkept, ?_, ?_⟩
  · exact hbooked.ordered.recordEntry hrecord
  · rw [TradeLedger.openEntry_of_recordEntry hrecord]
    show some side = (stage.held).map PlacedOrder.side
    rw [hheld, Option.map_some, hside]

/-- An exit is taken together with the end of the position. -/
theorem Booked.leave {ledgers : LedgerBook} (hbooked : desk.Booked)
    (htakes : desk.TakesExit ledgers) :
    desk.Leaves ({ desk with ledgers }.withStage .needEnter) ∧
      ({ desk with ledgers }.withStage .needEnter).Booked := by
  obtain ⟨index, hindex, hupdate⟩ := htakes
  have ⟨hrecord, hkept⟩ :=
    hbooked.ledger_of_update ({ desk with ledgers }.withStage .needEnter) hupdate rfl rfl
  refine ⟨⟨index, hindex, hrecord⟩, hkept, ?_, ?_⟩
  · exact hbooked.ordered.recordExit hrecord
  · rw [TradeLedger.openEntry_of_recordExit hrecord]
    rfl

end Desk

namespace Tracker

/-! ## Moves -/

theorem held_of_stage {stage : Stage} (h : desk.tracker.stage = some stage) :
    desk.tracker.held = stage.held := by
  rw [held, h, Option.bind_some]

/-- A move leaves the books in order. -/
theorem Move.advances (h : Move venue desk after) (hbooked : desk.Booked) :
    desk.Advances after := by
  -- the ledger only changes together with the stage
  cases h with
  | remember => exact hbooked.stays ⟨rfl, rfl, rfl, rfl⟩ rfl rfl
  | ask asks =>
    cases asks
    exact hbooked.stays ⟨rfl, rfl, rfl, rfl⟩ rfl rfl
  | list lists => exact (Undisturbed.listOrders lists).advances hbooked
  | refuseEntry _ _ _ => exact hbooked.stays ⟨rfl, rfl, rfl, rfl⟩ rfl rfl
  | refuseExit _ holds _ =>
    have hholds := holds.undisturbed.advances hbooked
    exact hholds.trans (hholds.booked.stays ⟨rfl, rfl, rfl, rfl⟩ rfl rfl)
  | enter stage_eq submits =>
    have hsubmit := (Undisturbed.submit submits).advances hbooked
    -- an entry that is placed opens no position yet
    refine hsubmit.trans (hsubmit.booked.setStage ?_)
    rw [(Undisturbed.submit submits).tracker_eq, held_of_stage stage_eq]
    rfl
  | leave stage_eq _ holds submits =>
    have hsame := holds.undisturbed.trans (.submit submits)
    -- an exit that is placed closes none
    have hsubmit := hsame.advances hbooked
    refine hsubmit.trans (hsubmit.booked.setStage ?_)
    rw [hsame.tracker_eq, held_of_stage stage_eq]
    rfl
  | waitEnter stage_eq _ =>
    refine hbooked.setStage ?_
    rw [held_of_stage stage_eq]
    rfl
  | waitExit stage_eq _ =>
    refine hbooked.setStage ?_
    rw [held_of_stage stage_eq]
    rfl
  | keep _ _ cancels => exact (Undisturbed.cancel cancels).advances hbooked
  | fill _ finds takes =>
    have hfind := (Undisturbed.findOrder finds).advances hbooked
    exact hfind.trans (hfind.booked.enter takes rfl rfl)
  | giveUp stage_eq finds _ cancels =>
    have hsame := Undisturbed.cancelFound finds cancels
    have hcancel := hsame.advances hbooked
    refine hcancel.trans (hcancel.booked.setStage ?_)
    rw [hsame.tracker_eq, held_of_stage stage_eq]
    rfl
  | takePart stage_eq counted finds _ holds cancels takes =>
    have hcancel := (undisturbed_of_part finds holds cancels).advances hbooked
    exact hcancel.trans (hcancel.booked.enter takes rfl counted.side_eq)
  | withdraw stage_eq _ finds cancels =>
    have hsame := Undisturbed.cancelFound finds cancels
    have hcancel := hsame.advances hbooked
    refine hcancel.trans (hcancel.booked.setStage ?_)
    rw [hsame.tracker_eq, held_of_stage stage_eq]
    rfl

/-- However far a tracker moves, its books get at most an entry, the one of its position. -/
theorem Moves.advances (h : Moves venue desk after) (hbooked : desk.Booked) :
    desk.Advances after := by
  induction h with
  | refl => exact .refl hbooked
  | tail _ hmove ih => exact ih.trans (hmove.advances ih.booked)

/-- An operation that proceeds adds at most an entry to the books. -/
theorem Proceeds.advances {answer : Except TradingError α} (h : Proceeds venue desk answer after)
    (hbooked : desk.Booked) : desk.Advances after := by
  cases h with
  | moves moves => exact moves.advances hbooked
  | cutOff _ finds _ holds cancels =>
    exact (undisturbed_of_part finds holds cancels).advances hbooked

/-- So does finding a stage. -/
theorem Finding.advances (h : Finding venue desk after) (hbooked : desk.Booked) :
    desk.Advances after := by
  cases h with
  | flat stage_eq lists holds least _ =>
    have hsame := Undisturbed.callListed lists holds least
    have hasked := hsame.advances hbooked
    refine hasked.trans (hasked.booked.setStage ?_)
    rw [hsame.tracker_eq, Tracker.held, stage_eq]
    rfl
  | held _ lists holds least _ takes =>
    have hsame := Undisturbed.callListed lists holds least
    have hasked := hsame.advances hbooked
    exact hasked.trans (hasked.booked.enter takes rfl rfl)
  | enter stage_eq lists _ =>
    have hsame := Undisturbed.listOrders lists
    have hlist := hsame.advances hbooked
    refine hlist.trans (hlist.booked.setStage ?_)
    rw [hsame.tracker_eq, Tracker.held, stage_eq]
    rfl
  | leave _ lists _ takes =>
    have hlist := (Undisturbed.listOrders lists).advances hbooked
    exact hlist.trans (hlist.booked.enter takes rfl (Side.side_enterKind _))

/-- A tracker that finds its stage writes down the entry of a position it finds. -/
theorem Found.advances (h : Found venue desk after) (hbooked : desk.Booked) :
    desk.Advances after := by
  cases h with
  | known _ => exact .refl hbooked
  | finds finding => exact finding.advances hbooked

/-- A trade that is closed adds its exit to the books and leaves no position. -/
theorem Closing.leaves {trade : ClosedTrade} (h : Closing venue desk trade after)
    (hbooked : desk.Booked) :
    desk.Leaves after ∧ desk.Framed after ∧ after.Booked := by
  obtain ⟨-, finds, values, takes⟩ := h
  have hsame := (Undisturbed.findOrder finds).trans (undisturbed_of_closedTrade values)
  have hvalued := hsame.advances hbooked
  obtain ⟨hleaves, hafter⟩ := hvalued.booked.leave takes
  obtain ⟨hsettings, hprices, htick, hwindow⟩ := hvalued.toFramed
  exact ⟨hvalued.leaves hleaves, ⟨hsettings, hprices, htick, hwindow⟩, hafter⟩

end Tracker

/-- A course adds an entry or nothing, unless it answers a trade, and then it adds its exit. -/
theorem Course.adds {answer : Except TradingError (Option ClosedTrade)}
    (h : Course venue desk answer after) (hbooked : desk.Booked) :
    desk.Framed after ∧ after.Booked ∧
      ((desk.Enters after ∧ ∀ trade, answer ≠ .ok (some trade)) ∨
        ∃ trade, answer = .ok (some trade) ∧ desk.Leaves after) := by
  cases h with
  | unfound _ moves =>
    have hmoves := moves.advances hbooked
    exact ⟨hmoves.toFramed, hmoves.booked, .inl ⟨hmoves.enters, by simp⟩⟩
  | goesOn found proceeds no_trade _ =>
    have hfound := found.advances hbooked
    have hmoves := hfound.trans (proceeds.advances hfound.booked)
    exact ⟨hmoves.toFramed, hmoves.booked, .inl ⟨hmoves.enters, no_trade⟩⟩
  | closes found closing =>
    have hfound := found.advances hbooked
    -- a position that was found at this very tick is not closed at it
    obtain ⟨hleaves, hframed, hafter⟩ := closing.leaves hfound.booked
    obtain ⟨hsettings, hprices, htick, hwindow⟩ := hfound.toFramed.trans hframed
    exact ⟨⟨hsettings, hprices, htick, hwindow⟩,
      ⟨hafter.kept, hafter.ordered, hafter.position⟩,
        .inr ⟨_, rfl, hfound.leaves hleaves⟩⟩

/-! ## Sessions -/

namespace Session

/--
The sessions that ticks lead to. Between two ticks the venue may come to remember
anything, and so may the rules of the strategy.
-/
inductive Reachable {τ : Type} [TrackerForm τ] (venue : Venue σ) :
    Session σ κ τ → Prop where
  | start (market : Market) (config : StrategyConfig) (state : σ) (rules : κ) :
      Reachable venue (start market config state rules)
  | meanwhile {session : Session σ κ τ} (reachable : Reachable venue session) (state : σ)
      (rules : κ) :
      Reachable venue { session with desk := { session.desk with venue := state, rules } }
  | tick {session : Session σ κ τ} (reachable : Reachable venue session) (strategy : Strategy κ) :
      Reachable venue (session.onTick venue strategy).2

/-- The books of a session in order. -/
structure Books (session : Session σ κ) : Prop where
  kept : session.desk.ledgers.get? session.desk.tracker.settings.ledger = some session.desk.ledger
  ticks_eq : session.ticks = session.desk.prices.bars.size
  trades_eq : session.closedTrades.length = session.desk.ledger.exits.length
  open_iff : session.desk.ledger.openEntry.isSome ↔
    session.phase? = some .needExit ∨ session.phase? = some .waitForExit
  side_eq : ∀ index side, session.desk.ledger.openEntry = some (index, side) →
    session.desk.tracker.enterOrder.map PlacedOrder.side = some side
  events_apart : session.desk.ledger.indices.Nodup

/-- What a tick that ends with an answer adds to the ledger and to the trades. -/
inductive Adds (session : Session σ κ) (answer : Except TradingError (Option ClosedTrade))
    (after : Session σ κ) : Prop where
  | nothing (no_trade : ∀ trade, answer ≠ .ok (some trade))
      (ledger_eq : after.desk.ledger = session.desk.ledger)
      (trades_eq : after.closedTrades = session.closedTrades)
  | entry {index : Nat} {side : Side} (no_trade : ∀ trade, answer ≠ .ok (some trade))
      (newest : after.desk.prices.lastIndex? = some index)
      (ledger_eq : after.desk.ledger =
        { session.desk.ledger with entries := (index, side) :: session.desk.ledger.entries })
      (trades_eq : after.closedTrades = session.closedTrades)
  | exit {index : Nat} {trade : ClosedTrade} (answer_eq : answer = .ok (some trade))
      (newest : after.desk.prices.lastIndex? = some index)
      (ledger_eq : after.desk.ledger =
        { session.desk.ledger with exits := index :: session.desk.ledger.exits })
      (trades_eq : after.closedTrades = session.closedTrades ++ [trade])

/-- What is shown of every session: the books of its desk, and the counts beside it. -/
structure InOrder (session : Session σ κ) : Prop where
  booked : session.desk.Booked
  ticks_eq : session.ticks = session.desk.prices.bars.size
  trades_eq : session.closedTrades.length = session.desk.ledger.exits.length

/-- Where all is in order the books are. -/
theorem InOrder.books {session : Session σ κ} (h : session.InOrder) : session.Books where
  kept := h.booked.kept
  ticks_eq := h.ticks_eq
  trades_eq := h.trades_eq
  events_apart := h.booked.ordered.nodup
  open_iff := by
    have hposition := congrArg Option.isSome h.booked.position
    rw [Option.isSome_map, Option.isSome_map] at hposition
    rw [hposition, Tracker.held, phase?]
    rcases session.desk.tracker.stage with _ | _ | _ | _ | _ <;> simp [Stage.held, Stage.phase]
  side_eq := by
    intro index side hopen
    have hposition := h.booked.position
    rw [hopen, Tracker.held] at hposition
    rw [Tracker.enterOrder]
    rcases hstage : session.desk.tracker.stage with _ | _ | _ | _ | _ <;>
      simp_all [Stage.held, Stage.enterOrder]

/-- The answer of a tick, and the session it leaves, are those of the operation. -/
theorem ends_onTick (venue : Venue σ) (strategy : Strategy κ) (session : Session σ κ) :
    Ends (Session.tick venue strategy) session.desk (session.onTick venue strategy).1
      (session.onTick venue strategy).2.desk :=
  rfl

/-- The trades of a session are joined by the one that the tick answers. -/
theorem closedTrades_onTick (venue : Venue σ) (strategy : Strategy κ) (session : Session σ κ) :
    (session.onTick venue strategy).2.closedTrades =
      session.closedTrades ++ match (session.onTick venue strategy).1 with
        | .ok (some trade) => [trade]
        | _ => [] :=
  rfl

/-- A tick that answers a trade adds it to the trades. -/
theorem closedTrades_of_trade {strategy : Strategy κ} {session : Session σ κ} (trade : ClosedTrade)
    (h : (session.onTick venue strategy).1 = .ok (some trade)) :
    (session.onTick venue strategy).2.closedTrades = session.closedTrades ++ [trade] := by
  rw [closedTrades_onTick, h]

/-- A tick that answers no trade adds none to the trades. -/
theorem closedTrades_of_no_trade {strategy : Strategy κ} {session : Session σ κ}
    (h : ∀ trade, (session.onTick venue strategy).1 ≠ .ok (some trade)) :
    (session.onTick venue strategy).2.closedTrades = session.closedTrades := by
  rw [closedTrades_onTick]
  split
  next trade hanswer => exact absurd hanswer (h trade)
  next => rw [List.append_nil]

/--
What a course adds to the ledger, a session that closes the trades answered adds to its
books.
-/
theorem adds_of_course {session next : Session σ κ} {desk : Desk σ κ}
    {answer : Except TradingError (Option ClosedTrade)}
    (h : (desk.Enters next.desk ∧ ∀ trade, answer ≠ .ok (some trade)) ∨
      ∃ trade, answer = .ok (some trade) ∧ desk.Leaves next.desk)
    (hledger : desk.ledger = session.desk.ledger) (hprices : next.desk.prices = desk.prices)
    (htrade : ∀ trade, answer = .ok (some trade) →
      next.closedTrades = session.closedTrades ++ [trade])
    (hnone : (∀ trade, answer ≠ .ok (some trade)) → next.closedTrades = session.closedTrades) :
    session.Adds answer next := by
  obtain ⟨hsame | ⟨index, side, hindex, hrecord⟩, hno⟩ |
    ⟨trade, hanswer, index, hindex, hrecord⟩ := h
  · exact .nothing hno (hsame.trans hledger) (hnone hno)
  · rw [hledger] at hrecord
    exact .entry hno (hprices ▸ hindex) (TradeLedger.recordEntry_ok.mp hrecord).2.2 (hnone hno)
  · rw [hledger] at hrecord
    exact .exit hanswer (hprices ▸ hindex) (TradeLedger.recordExit_ok.mp hrecord).2.2
      (htrade trade hanswer)

/-- Trades and exits are added together. -/
theorem Adds.trades_eq {session next : Session σ κ}
    {answer : Except TradingError (Option ClosedTrade)} (h : session.Adds answer next)
    (htrades : session.closedTrades.length = session.desk.ledger.exits.length) :
    next.closedTrades.length = next.desk.ledger.exits.length := by
  cases h with
  | nothing _ ledger_eq trades_eq => rw [trades_eq, ledger_eq, htrades]
  | entry _ _ ledger_eq trades_eq => rw [trades_eq, ledger_eq, htrades]
  | exit _ _ ledger_eq trades_eq =>
    rw [trades_eq, ledger_eq, List.length_append, List.length_singleton, List.length_cons, htrades]

/-- A tick adds to the books what it answers, and leaves them in order. -/
theorem InOrder.adds {session next : Session σ κ} {strategy : Strategy κ}
    {answer : Except TradingError (Option ClosedTrade)} (h : session.InOrder)
    (hends : Ends (Session.tick venue strategy) session.desk answer next.desk)
    (htrade : ∀ trade, answer = .ok (some trade) →
      next.closedTrades = session.closedTrades ++ [trade])
    (hnone : (∀ trade, answer ≠ .ok (some trade)) → next.closedTrades = session.closedTrades) :
    session.Adds answer next ∧ next.InOrder := by
  obtain ⟨reply, state, -, ⟨⟨error, herror⟩, hdesk⟩ | ⟨ticker, prices, -, hrecord, hcourse⟩⟩ :=
    tick_inv hends
  · have hno : ∀ trade, answer ≠ .ok (some trade) := by simp [herror]
    have hledger : next.desk.ledger = session.desk.ledger := by rw [hdesk]; rfl
    -- no ticker was taken in, so there is nothing to add
    have hadds : session.Adds answer next := .nothing hno hledger (hnone hno)
    refine ⟨hadds, ?_, ?_, hadds.trades_eq h.trades_eq⟩
    · rw [hdesk]
      exact ⟨h.booked.kept, h.booked.ordered, h.booked.position⟩
    · rw [ticks, hdesk]
      exact h.ticks_eq
  · obtain ⟨hframed, hbooked, hadd⟩ :=
      hcourse.adds ⟨h.booked.kept, h.booked.ordered, h.booked.position⟩
    have hadds : session.Adds answer next := adds_of_course hadd rfl hframed.prices_eq htrade hnone
    -- one more tick and one more bar
    refine ⟨hadds, hbooked, ?_, hadds.trades_eq h.trades_eq⟩
    rw [ticks, hframed.tick_eq, hframed.prices_eq, size_of_record hrecord]
    exact congrArg (· + 1) h.ticks_eq

/-- A tick of a session in order adds what it answers, and leaves the session in order. -/
theorem InOrder.onTick {session : Session σ κ} (h : session.InOrder) (strategy : Strategy κ) :
    session.Adds (session.onTick venue strategy).1 (session.onTick venue strategy).2 ∧
      (session.onTick venue strategy).2.InOrder :=
  h.adds (ends_onTick venue strategy session) closedTrades_of_trade closedTrades_of_no_trade

theorem InOrder.start (market : Market) (config : StrategyConfig) (state : σ) (rules : κ) :
    (Session.start market config state rules).InOrder where
  booked := ⟨rfl, TradeLedger.ordered_empty, rfl⟩
  ticks_eq := rfl
  trades_eq := rfl

theorem InOrder.of_reachable {session : Session σ κ} (h : Reachable venue session) :
    session.InOrder := by
  induction h with
  | start market config state rules => exact .start market config state rules
  | meanwhile _ state rules ih =>
    -- the books lie with neither the venue nor the rules
    exact ⟨⟨ih.booked.kept, ih.booked.ordered, ih.booked.position⟩, ih.ticks_eq, ih.trades_eq⟩
  | tick _ strategy ih => exact (ih.onTick strategy).2

/--
**The books of a session are in order after every tick, whatever fails.** What
a tick answers is what it adds to the books: a trade with its exit at the newest
bar, or no trade, and then at most an entry there.
-/
theorem books_of_reachable {session : Session σ κ} (h : Reachable venue session)
    (strategy : Strategy κ) :
    session.Books ∧
      session.Adds (session.onTick venue strategy).1 (session.onTick venue strategy).2 :=
  ⟨(InOrder.of_reachable h).books, ((InOrder.of_reachable h).onTick strategy).1⟩

end Session

/-! ## A session at a paper venue -/

/-- A strategy that is always for opening a long and for closing it again, at once. -/
def Strategy.eager : Strategy Unit where
  name := "eager"
  side _ := .long
  shouldEnter _ := return true
  shouldExit _ := return true
  enterPrice := .marketEnter
  exitPrice := .marketExit

/-- The first tick finds the position of two coins and enters it into the ledger. -/
theorem Session.books_of_found_position :
    let session := ((Session.start (.ofCurrencies "BTC" "EUR") {} Paper.holdingTwo ()).onTick
      Paper.venue .eager).2
    session.desk.ledger.openEntry = some (0, .long) ∧ session.Books ∧
      session.Adds (session.onTick Paper.venue .eager).1 (session.onTick Paper.venue .eager).2 :=
  ⟨by decide +kernel, books_of_reachable (.tick (.start _ _ _ _) _) _⟩

end SwingTrader
