import SwingTrader.Proofs.Session.Books
import SwingTrader.Proofs.Tracker.Failure

/-!
# SwingTrader — what a tick of a session can fail by

A ledger refuses events that come out of order, a tracker refuses operations of
another phase, and prices are missing before the first ticker. None of this ever
happens in a session. A tick begins with a bar that the ledger has no event at; it
takes at most one event there, since a position that is found by its exit at this
very tick has that exit on the list that was just kept; and the strategy only asks
for the operation of the phase that the tracker is in.

* `StrategyError.IsBreach` — the errors that are never to be seen;
* `Strategy.TickFails` — the errors that a tick can end with;
* `Desk.Sound` — the ledger takes what the position comes to at this tick;
* `Session.Abreast` — a session in order, which it stays;
* `Session.Abreast.tickFails` — how a tick of such a session fails, at any venue.
-/

namespace SwingTrader

variable {σ κ α : Type} {venue : Venue σ} {desk after : Desk σ κ} {strategy : Strategy κ}
  {error : TradingError}

open Desk Tracker

/-! ## Errors -/

/--
A rule that the trader itself has broken, in what it asks of its tracker, its ledger or
its prices.
-/
def StrategyError.IsBreach : StrategyError → Prop
  | wrongState _ _ _ | orderAlreadyHeld | noOrderHeld | ledger _ | noMarketData => True
  | ambiguousResume _ | reversal _ | bar _ => False

namespace Strategy

/-- The strategy fails to decide by an error, on something there is to see. -/
def Raises (strategy : Strategy κ) (error : StrategyError) : Prop :=
  ∃ view rules, ((strategy.shouldEnter view).run rules).1 = .error error ∨
    ((strategy.shouldExit view).run rules).1 = .error error

/--
The errors that a tick of a strategy can end with: those of the venue, a refused bar,
too many orders to resume from, and what the strategy itself fails to decide by.
-/
inductive TickFails (strategy : Strategy κ) : TradingError → Prop where
  | venue (reason : VenueError) : TickFails strategy (.venue reason)
  | bar (reason : BarError) : TickFails strategy (.ofBar reason)
  | ambiguous (openOrders : Nat) : TickFails strategy (.strategy (.ambiguousResume openOrders))
  | own {reason : StrategyError} (raises : strategy.Raises reason) :
      TickFails strategy (.strategy reason)

/-- Where a strategy breaks no rule of its own, no tick ends with a broken rule. -/
theorem TickFails.ne_breach (h : strategy.TickFails error)
    (hown : ∀ reason, strategy.Raises reason → ¬reason.IsBreach) {breach : StrategyError}
    (hbreach : breach.IsBreach) : error ≠ .strategy breach := by
  rintro rfl
  cases h with
  | bar => exact hbreach
  | ambiguous => exact hbreach
  | own raises => exact hown breach raises hbreach

end Strategy

/-! ## What the ledger takes -/

namespace Desk

/-- The newest bar comes after every event of the ledger. -/
def Unwritten (desk : Desk σ κ) : Prop :=
  ∃ index, desk.prices.lastIndex? = some index ∧ ∀ event ∈ desk.ledger.indices, event < index

/--
The ledger has room for an entry at a bar that nothing is written at, while no
position is held.
-/
theorem Booked.takesEntry (hbooked : desk.Booked) (hunwritten : desk.Unwritten)
    (hheld : desk.tracker.held = none) (side : Side) :
    ∃ ledgers, desk.TakesEntry side ledgers := by
  obtain ⟨index, hindex, hlt⟩ := hunwritten
  have hopen : desk.ledger.openEntry = none := by
    simpa [hheld] using hbooked.position
  have hrecord : desk.ledger.recordEntry index side =
      .ok { desk.ledger with entries := (index, side) :: desk.ledger.entries } :=
    TradeLedger.recordEntry_ok.mpr ⟨TradeLedger.isNew_of_lt hlt, hopen, rfl⟩
  exact ⟨_, index, hindex, LedgerBook.update_eq_ok.mpr ⟨_, _, hbooked.kept, hrecord, rfl⟩⟩

theorem Booked.takesExit (hbooked : desk.Booked) (hunwritten : desk.Unwritten)
    (hheld : desk.tracker.held.isSome) : ∃ ledgers, desk.TakesExit ledgers := by
  obtain ⟨index, hindex, hlt⟩ := hunwritten
  have hopen : desk.ledger.openEntry.isSome := by
    have hposition := congrArg Option.isSome hbooked.position
    rwa [Option.isSome_map, Option.isSome_map, hheld] at hposition
  have hrecord : desk.ledger.recordExit index =
      .ok { desk.ledger with exits := index :: desk.ledger.exits } :=
    TradeLedger.recordExit_ok.mpr ⟨TradeLedger.isNew_of_lt hlt, hopen, rfl⟩
  exact ⟨_, index, hindex, LedgerBook.update_eq_ok.mpr ⟨_, _, hbooked.kept, hrecord, rfl⟩⟩

/-- A tick has begun: it has a ticker and a bar, and keeps a list once one was answered. -/
structure Begun (desk : Desk σ κ) : Prop where
  booked : desk.Booked
  quoted : ∃ ticker, desk.prices.ticker = some ticker
  unwritten : desk.Unwritten
  window_pos : 0 < desk.openOrders.window

/--
The ledger has no event at the newest bar, or it has the entry of a position there, whose
exit is not found missing at this tick.
-/
structure Sound (venue : Venue σ) (desk : Desk σ κ) : Prop where
  booked : desk.Booked
  quoted : ∃ ticker, desk.prices.ticker = some ticker
  writable : desk.Unwritten ∨ desk.tracker.held.isSome ∧
    ∀ order seen, desk.tracker.stage.bind awaited = some order →
      ¬Ends (findOrder venue order.id) desk (.ok none) seen

theorem Begun.sound (h : desk.Begun) : desk.Sound venue :=
  ⟨h.booked, h.quoted, .inl h.unwritten⟩

/-- The order on a list that is kept is found. -/
theorem found_of_listed {order : OpenOrder} {seen : Desk σ κ} (h : desk.listed? = some [order]) :
    ¬Ends (findOrder venue order.id) desk (.ok none) seen := by
  intro hfind
  obtain ⟨orders, hlist, hfound⟩ := ends_findOrder_ok.mp hfind
  obtain ⟨hlisted, -⟩ | ⟨hnone, -⟩ := ends_listOrders_ok.mp hlist
  · obtain rfl := Option.some.inj (h.symm.trans hlisted)
    simp at hfound
  · cases h.symm.trans hnone

/-- A list that is answered is kept for the rest of the tick. -/
theorem listed?_of_window_pos {orders : List OpenOrder}
    (h : Ends (listOrders venue) desk (.ok orders) after) (hwindow : 0 < desk.openOrders.window) :
    after.listed? = some orders := by
  obtain ⟨hlisted, rfl⟩ | ⟨-, _, -, rfl⟩ := ends_listOrders_ok.mp h
  · exact hlisted
  · rw [listed?, OpenOrderCache.at?_store, if_pos hwindow]

/-- Where the ledger is untouched the newest bar is as unwritten as it was. -/
theorem Unwritten.congr (h : desk.Unwritten) (hledger : after.ledger = desk.ledger)
    (hprices : after.prices = desk.prices) : after.Unwritten := by
  rw [Unwritten, hledger, hprices]
  exact h

/-- The stage of a tracker is found without a second event at the newest bar to come. -/
theorem Begun.sound_of_found (hbegun : desk.Begun) (h : Found venue desk after) :
    after.Sound venue := by
  have hadvances := h.advances hbegun.booked
  have hquoted : ∃ ticker, after.prices.ticker = some ticker := by
    rw [hadvances.prices_eq]
    exact hbegun.quoted
  refine ⟨hadvances.booked, hquoted, ?_⟩
  have hunwritten (hledger : after.ledger = desk.ledger) : after.Unwritten :=
    hbegun.unwritten.congr hledger hadvances.prices_eq
  cases h with
  | known _ => exact .inl hbegun.unwritten
  | finds finding =>
    cases finding with
    | flat _ lists holds least _ =>
      have hsame := Undisturbed.callListed lists holds least
      exact .inl (hunwritten (by rw [ledger, ledger, ← hsame.ledgers_eq, ← hsame.tracker_eq]; rfl))
    | enter _ lists _ =>
      have hsame := Undisturbed.listOrders lists
      exact .inl (hunwritten (by rw [ledger, ledger, ← hsame.ledgers_eq, ← hsame.tracker_eq]; rfl))
    -- a position that is found has its entry at this bar
    | held => exact .inr ⟨rfl, fun _ _ hawaited => by cases hawaited⟩
    | leave _ lists _ _ =>
      refine .inr ⟨rfl, ?_⟩
      rintro _ seen ⟨⟩
      have hlisted := listed?_of_window_pos lists hbegun.window_pos
      exact found_of_listed hlisted

/-- What an operation can fail by in its own phase, at a sound desk, a tick can fail by. -/
theorem Sound.tickFails (h : desk.Sound venue) (hcause : Cause venue desk error) :
    strategy.TickFails error := by
  cases hcause with
  | venue reason => exact .venue reason
  | ambiguous openOrders => exact .ambiguous openOrders
  | unpriced ticker_eq =>
    obtain ⟨ticker, hticker⟩ := h.quoted
    cases ticker_eq.symm.trans hticker
  | @entry side _ unheld refuses =>
    obtain hunwritten | ⟨hheld, -⟩ := h.writable
    · obtain ⟨ledgers, htakes⟩ := h.booked.takesEntry hunwritten unheld side
      exact (refuses ledgers htakes).elim
    · rw [unheld] at hheld
      cases hheld
  | @exit order seen _ held awaits finds refuses =>
    obtain hunwritten | ⟨-, hlisted⟩ := h.writable
    · obtain ⟨ledgers, htakes⟩ := h.booked.takesExit hunwritten held
      exact (refuses ledgers htakes).elim
    · exact (hlisted order seen awaits finds).elim

end Desk

/-! ## Ticks -/

namespace Strategy

/-- A decision fails only as the strategy fails to decide. -/
theorem raises_of_decide {decision : Decision κ}
    (h : Ends (decide decision) desk (.error error) after) :
    ∃ reason, error = .strategy reason ∧
      ((decision desk.view).run desk.rules).1 = .error reason := by
  obtain ⟨hanswer, -⟩ := ends_decide.mp h
  cases hdecision : ((decision desk.view).run desk.rules).1 with
  | ok decided =>
    rw [hdecision] at hanswer
    cases hanswer
  | error reason =>
    rw [hdecision] at hanswer
    cases hanswer
    exact ⟨reason, rfl, rfl⟩

theorem enter_tickFails (hstage : desk.tracker.stage = some .needEnter)
    (h : Ends (strategy.enter venue) desk (.error error) after) : strategy.TickFails error := by
  obtain ⟨_, hdecide, ⟨⟩⟩ | ⟨decided, mid, hdecide, h⟩ := ends_bind.mp h
  · obtain ⟨reason, rfl, hraises⟩ := raises_of_decide hdecide
    exact .own ⟨_, _, .inl hraises⟩
  obtain ⟨-, rfl⟩ := ends_decide.mp hdecide
  split at h
  · rw [ends_get_bind] at h
    obtain ⟨-, reason, rfl⟩ := placeEnter_error (by exact hstage) h
    exact .venue reason
  · cases (ends_pure.mp h).1

/-- With a position to leave, a tick fails by the venue or by the strategy. -/
theorem leave_tickFails {entry : PlacedOrder} {ratchet? : Option Ratchet}
    (hstage : desk.tracker.stage = some (.needExit entry ratchet?))
    (h : Ends (strategy.leave venue) desk (.error error) after) : strategy.TickFails error := by
  obtain ⟨_, hdecide, ⟨⟩⟩ | ⟨decided, mid, hdecide, h⟩ := ends_bind.mp h
  · obtain ⟨reason, rfl, hraises⟩ := raises_of_decide hdecide
    exact .own ⟨_, _, .inr hraises⟩
  obtain ⟨-, rfl⟩ := ends_decide.mp hdecide
  split at h
  · obtain ⟨-, reason, rfl⟩ := placeExit_error (by exact hstage) h
    exact .venue reason
  · cases (ends_pure.mp h).1

/--
With an exit to watch, a tick fails by the venue or by the strategy, and never by the
ledger.
-/
theorem watchExit_tickFails {entry exit : PlacedOrder} {ratchet : Ratchet}
    (hsound : desk.Sound venue)
    (hstage : desk.tracker.stage = some (.waitForExit entry exit ratchet))
    (h : Ends (strategy.watchExit venue) desk (.error error) after) : strategy.TickFails error := by
  obtain ⟨_, htrack, ⟨⟩⟩ | ⟨closed, tracked, -, h⟩ := ends_bind.mp h
  · obtain ⟨-, hcause⟩ | ⟨-, reason, rfl⟩ := trackExit_error hstage htrack
    · exact hsound.tickFails hcause
    · exact .venue reason
  -- the rules are told of a trade, and that does not fail
  · cases closed <;> simp at h

/-- In whatever phase the tracker is, a tick fails in one of the ways that are left. -/
theorem execute_tickFails (hbegun : desk.Begun)
    (h : Ends (strategy.execute venue) desk (.error error) after) : strategy.TickFails error := by
  rw [execute, currentState_bind] at h
  obtain ⟨_, hresume, ⟨⟩⟩ | ⟨stage, mid, hresume, h⟩ := ends_bind.mp h
  · exact hbegun.sound.tickFails (seeks_of_resume_error hresume).2.2
  obtain ⟨hfound, hstage⟩ := found_of_resume hresume
  have hsound := hbegun.sound_of_found hfound
  -- the phase decides which operation is asked for, so it is always one of the phase
  cases stage with
  | needEnter =>
    obtain ⟨_, ⟨⟩, h⟩ | ⟨hok, -⟩ := noTrade_inv h
    · exact enter_tickFails hstage h
    · cases hok
  | waitForEnter entry =>
    obtain ⟨_, ⟨⟩, h⟩ | ⟨hok, -⟩ := noTrade_inv h
    · exact hsound.tickFails (trackEnter_error hstage h).2
    · cases hok
  | needExit entry ratchet? =>
    obtain ⟨_, ⟨⟩, h⟩ | ⟨hok, -⟩ := noTrade_inv h
    · exact leave_tickFails hstage h
    · cases hok
  | waitForExit entry exit ratchet => exact watchExit_tickFails hsound hstage h

end Strategy

/-- A ticker that cannot be had, or whose bar is refused. -/
theorem Desk.update_error (h : Ends (update venue) desk (.error error) after) :
    (∃ reason, error = .venue reason) ∨ ∃ reason, error = .ofBar reason := by
  simp only [update, ends_get_bind] at h
  obtain ⟨reason | ticker, state, -, h⟩ := call_inv h
  · cases h.1
    exact .inl ⟨reason, rfl⟩
  dsimp only at h
  rw [ends_get_bind] at h
  cases hrecord : desk.prices.record ticker with
  | error reason =>
    simp only [hrecord] at h
    obtain ⟨_, hthrow, ⟨⟩⟩ | ⟨_, _, hthrow, -⟩ := ends_bind.mp h
    · cases (ends_throw.mp hthrow).1
      exact .inr ⟨reason, rfl⟩
    · cases (ends_throw.mp hthrow).1
  | ok prices =>
    simp [hrecord, ends_newestBar, lastIndex?_of_record hrecord] at h

namespace Session

/--
The books are in order, no event is later than the newest bar, and lists are kept for a
while.
-/
structure Abreast (session : Session σ κ) : Prop extends InOrder session where
  behind : ∀ event ∈ session.desk.ledger.indices, event < session.desk.prices.bars.size
  window_pos : 0 < session.desk.openOrders.window

theorem Abreast.start (market : Market) (config : StrategyConfig) (state : σ) (rules : κ) :
    (Session.start market config state rules).Abreast :=
  ⟨.start market config state rules, fun _ hevent => (List.not_mem_nil hevent).elim,
    Nat.zero_lt_two⟩

/-- What a tick adds to the ledger it adds at its own bar, and lists are kept as long as before. -/
theorem Abreast.onTick {session : Session σ κ} (h : session.Abreast) (strategy : Strategy κ) :
    (session.onTick venue strategy).2.Abreast := by
  have hinOrder : (session.onTick venue strategy).2.InOrder := (h.toInOrder.onTick strategy).2
  obtain ⟨reply, state, -, ⟨-, hafter⟩ | ⟨ticker, prices, -, hrecord, hcourse⟩⟩ :=
    tick_inv (ends_onTick venue strategy session)
  -- a ticker out of order changes nothing that is looked at here
  · refine ⟨hinOrder, ?_, ?_⟩
    · rw [hafter]
      exact h.behind
    · rw [hafter]
      exact h.window_pos
  obtain ⟨hframed, -, hadds⟩ :=
    hcourse.adds ⟨h.booked.kept, h.booked.ordered, h.booked.position⟩
  have hlast : prices.lastIndex? = some session.desk.prices.bars.size :=
    lastIndex?_of_record hrecord
  refine ⟨hinOrder, ?_, hframed.window_eq ▸ h.window_pos⟩
  -- the bar of this tick and every earlier event lie before the next bar
  have hnewest : ∀ event, event = session.desk.prices.bars.size ∨
      event ∈ session.desk.ledger.indices → event < session.desk.prices.bars.size + 1 := by
    rintro event (rfl | hold)
    · exact Nat.lt_succ_self _
    · exact Nat.lt_succ_of_lt (h.behind event hold)
  intro event hevent
  rw [hframed.prices_eq, size_of_record hrecord]
  obtain ⟨hsame | ⟨index, side, hindex, hentry⟩, -⟩ | ⟨_, -, index, hindex, hexit⟩ := hadds
  · rw [hsame] at hevent
    exact hnewest event (.inr hevent)
  · obtain rfl := Option.some.inj (hlast.symm.trans hindex)
    rw [TradeLedger.indices_of_recordEntry hentry] at hevent
    exact hnewest event (List.mem_cons.mp hevent)
  · obtain rfl := Option.some.inj (hlast.symm.trans hindex)
    have hperm := TradeLedger.indices_of_recordExit hexit
    exact hnewest event (List.mem_cons.mp (hperm.mem_iff.mp hevent))

/-- Every session that ticks lead to is abreast of its books. -/
theorem Abreast.of_reachable {session : Session σ κ} (h : Reachable venue session) :
    session.Abreast := by
  induction h with
  | start market config state rules => exact .start market config state rules
  | meanwhile reachable state rules ih =>
    exact ⟨.of_reachable (.meanwhile reachable state rules), ih.behind, ih.window_pos⟩
  | tick _ strategy ih => exact ih.onTick strategy

/--
A tick of a session whose ledger is behind the newest bar fails as the venue or the
strategy does.
-/
theorem Abreast.tickFails {session : Session σ κ} (h : session.Abreast)
    (herror : (session.onTick venue strategy).1 = .error error) : strategy.TickFails error := by
  have hends := ends_onTick venue strategy session
  rw [herror] at hends
  obtain ⟨_, hupdate, ⟨⟩⟩ | ⟨_, updated, hupdate, hrest⟩ := ends_bind.mp hends
  · obtain ⟨reason, rfl⟩ | ⟨reason, rfl⟩ := update_error hupdate
    · exact .venue reason
    · exact .bar reason
  obtain ⟨reply, state, -, ⟨⟨_, ⟨⟩⟩, -⟩ | ⟨ticker, prices, -, hrecord, -, rfl⟩⟩ :=
    update_inv hupdate
  simp only [ends_bind, ends_modify, reduceCtorEq, false_and, exists_false, false_or] at hrest
  obtain ⟨_, _, ⟨-, rfl⟩, hexecute⟩ := hrest
  obtain ⟨bars, -, rfl⟩ := prices_of_record hrecord
  -- the new bar comes after every bar that an event is at
  exact Strategy.execute_tickFails (by exact ⟨⟨h.booked.kept, h.booked.ordered, h.booked.position⟩,
    ⟨ticker, rfl⟩, ⟨_, lastIndex?_of_record hrecord, h.behind⟩, h.window_pos⟩) hexecute

end Session

end SwingTrader
