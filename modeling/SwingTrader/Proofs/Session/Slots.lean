import SwingTrader.Proofs.Session.Failure
import SwingTrader.Proofs.Tracker.Slots

/-!
# SwingTrader — sessions whose tracker keeps slots

A session asks its tracker for the operation of the state that the tracker is in, so
the checks of that operation are all there is between the slots and the venue. From
the beginning to the last tick the slots are those of a session whose tracker keeps a
stage, and so every tick of the one is a tick of the other.

* `Session.inSlots` — a session whose tracker keeps its stage in slots;
* `Session.onTick_inSlots` — both have the same ticks;
* `Session.exists_of_reachable`, `Session.fits_of_reachable` — the slots fit after
  every tick, at a venue that answers whatever it likes;
* `Session.tickFails_of_reachable` — how ticks fail, checks of the slots included.
-/

namespace SwingTrader

variable {σ κ : Type} {venue : Venue σ} {strategy : Strategy κ} {error : TradingError}

open Desk Slots

/-! ## Ticks -/

section Ticks

variable {desk : Desk σ κ}

namespace Strategy

/-- To decide for a position and open it goes alike in slots. -/
theorem mirrors_enter : Mirrors (strategy.enter venue) (strategy.enter venue) desk := by
  refine mirrors_blind_bind (blind_decide _) rfl fun decided mid hmid =>
    mirrors_ite ?_ (mirrors_pure ())
  exact mirrors_get_bind mirrors_placeEnter

theorem mirrors_leave : Mirrors (strategy.leave venue) (strategy.leave venue) desk := by
  refine mirrors_blind_bind (blind_decide _) rfl fun decided mid hmid => ?_
  exact mirrors_ite mirrors_placeExit (mirrors_pure ())

/-- To watch an exit, and tell the rules of a trade, goes alike in slots. -/
theorem mirrors_watchExit :
    Mirrors (strategy.watchExit venue) (strategy.watchExit venue) desk := by
  refine mirrors_trackExit.bind fun closed mid hmid => ?_
  cases closed with
  | none => exact mirrors_pure none
  | some trade =>
    exact mirrors_blind_bind (blind_modifyRules (strategy.onTradeClosed trade)) rfl
      fun _ _ _ => mirrors_pure _

theorem mirrors_execute : Mirrors (strategy.execute venue) (strategy.execute venue) desk := by
  refine mirrors_currentState.bind fun phase mid hmid => ?_
  cases phase with
  | needEnter => exact mirrors_enter.bind fun _ _ _ => mirrors_pure _
  | waitForEnter => exact mirrors_trackEnter.bind fun _ _ _ => mirrors_pure _
  | needExit => exact mirrors_leave.bind fun _ _ _ => mirrors_pure _
  | waitForExit => exact mirrors_watchExit

end Strategy

namespace Session

/-- A tick goes alike in slots. -/
theorem mirrors_tick : Mirrors (tick venue strategy) (tick venue strategy) desk := by
  refine mirrors_blind_bind (blind_update venue) rfl fun index mid hmid => ?_
  refine mirrors_blind_bind blind_countTick hmid fun _ mid hmid => ?_
  exact Strategy.mirrors_execute

end Session

end Ticks

namespace Session

/-- The session when its tracker keeps its stage in slots. -/
def inSlots (session : Session σ κ) : Session σ κ Slots where
  desk := session.desk.inSlots
  closedTrades := session.closedTrades

/-- **One tick.** It answers the same in slots, and leaves the same session in slots. -/
theorem onTick_inSlots (session : Session σ κ) :
    session.inSlots.onTick venue strategy =
      ((session.onTick venue strategy).1, (session.onTick venue strategy).2.inSlots) := by
  have htick : (tick venue strategy).run session.inSlots.desk =
      ((session.onTick venue strategy).1, (session.onTick venue strategy).2.desk.inSlots) :=
    mirrors_tick _ _ (ends_onTick venue strategy session)
  simp only [onTick, htick]
  rfl

/-- A session in slots is reached by the ticks of one whose tracker keeps a stage. -/
theorem exists_of_reachable {session : Session σ κ Slots} (h : Reachable venue session) :
    ∃ staged : Session σ κ, Reachable venue staged ∧ staged.inSlots = session := by
  induction h with
  | start market config state rules => exact ⟨_, .start market config state rules, rfl⟩
  | meanwhile _ state rules ih =>
    obtain ⟨staged, hstaged, rfl⟩ := ih
    exact ⟨_, .meanwhile hstaged state rules, rfl⟩
  | tick _ strategy ih =>
    obtain ⟨staged, hstaged, rfl⟩ := ih
    exact ⟨_, .tick hstaged strategy, by rw [onTick_inSlots]⟩

/-- The slots are in accord after every tick. -/
theorem fits_of_reachable {session : Session σ κ Slots} (h : Reachable venue session) :
    session.desk.tracker.stage.Fits := by
  obtain ⟨staged, -, rfl⟩ := exists_of_reachable h
  exact fits_ofStage _

/--
**No tick fails by what the trader asks of its own tracker, ledger or prices.** Whatever
the venue answers, a tick that fails does so by an error of the venue, a refused bar, too
many orders to resume from, or an error of the strategy's own decisions. So no check of a
slot ever fails, and the ledger never refuses a fill.
-/
theorem tickFails_of_reachable {session : Session σ κ Slots} (h : Reachable venue session)
    (herror : (session.onTick venue strategy).1 = .error error) :
    strategy.TickFails error ∧
      ((∀ reason, strategy.Raises reason → ¬reason.IsBreach) →
        ∀ breach : StrategyError, breach.IsBreach → error ≠ .strategy breach) := by
  obtain ⟨staged, hstaged, rfl⟩ := exists_of_reachable h
  rw [onTick_inSlots] at herror
  have hfails := (Abreast.of_reachable hstaged).tickFails herror
  exact ⟨hfails, fun hown _ hbreach => hfails.ne_breach hown hbreach⟩

/-- A strategy that is always for trading fails to decide nothing. -/
theorem not_raises_eager (reason : StrategyError) : ¬Strategy.eager.Raises reason := by
  rintro ⟨view, rules, hraises | hraises⟩
  · change Except.ok true = _ at hraises
    cases hraises
  · change Except.ok true = _ at hraises
    cases hraises

/-- The first tick over a connection that is broken off fails by the venue. -/
theorem tickFails_of_broken_connection :
    let session : Session Paper Unit Slots :=
      .start (.ofCurrencies "BTC" "EUR") {} (Paper.holdingTwo.failing 0 1 0) ()
    ∃ error, (session.onTick Paper.venue .eager).1 = .error error ∧ Strategy.eager.TickFails error ∧
      ∀ breach : StrategyError, breach.IsBreach → error ≠ .strategy breach := by
  intro session
  have hfails : (session.onTick Paper.venue .eager).1.toOption.isNone := by decide +kernel
  cases hanswer : (session.onTick Paper.venue .eager).1 with
  | ok closed? =>
    rw [hanswer] at hfails
    cases hfails
  | error error =>
    obtain ⟨hfails, hbreach⟩ := tickFails_of_reachable (.start _ _ _ _) hanswer
    exact ⟨error, rfl, hfails,
      hbreach fun reason hraises => absurd hraises (not_raises_eager reason)⟩

end Session

end SwingTrader
