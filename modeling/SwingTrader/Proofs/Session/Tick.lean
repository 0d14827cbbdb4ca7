import SwingTrader.Proofs.Tracker.Operation

/-!
# SwingTrader — what a tick can do

A tick takes in a bar and then follows one course: the tracker finds its stage if
it has none, and makes its moves, at the end of which a position may be closed.

* `Course` — what executing a strategy once can do;
* `Session.tick_inv` — a tick leaves the session as it was, apart from what the
  venue remembers, or takes in a bar and follows a course.
-/

namespace SwingTrader

variable {σ κ α : Type} {venue : Venue σ} {desk after : Desk σ κ}

open Desk Tracker

/-! ## Courses -/

/-- What executing a strategy once can do. -/
inductive Course (venue : Venue σ) :
    Desk σ κ → Except TradingError (Option ClosedTrade) → Desk σ κ → Prop where
  | unfound {desk after : Desk σ κ} {error : TradingError} (stage_eq : desk.tracker.stage = none)
      (moves : Moves venue desk after) : Course venue desk (.error error) after
  | goesOn {desk mid after : Desk σ κ} {answer : Except TradingError (Option ClosedTrade)}
      (found : Found venue desk mid) (proceeds : Proceeds venue mid answer after)
      (no_trade : ∀ trade, answer ≠ .ok (some trade))
      (attends : ∀ closed?, answer = .ok closed? → Attends venue mid after) :
      Course venue desk answer after
  | closes {desk mid after : Desk σ κ} {trade : ClosedTrade} {rules : κ}
      (found : Found venue desk mid) (closing : Closing venue mid trade after) :
      Course venue desk (.ok (some trade)) { after with rules }

namespace Strategy

variable {strategy : Strategy κ}

theorem enter_moves {stage : Stage} {answer : Except TradingError Unit}
    (hstage : desk.tracker.stage = some stage)
    (h : Ends (strategy.enter venue) desk answer after) : Moves venue desk after := by
  obtain ⟨_, hdecide, -⟩ | ⟨decided, mid, hdecide, h⟩ := ends_bind.mp h
  · obtain ⟨-, rfl⟩ := ends_decide.mp hdecide
    exact .single (.remember _ _)
  obtain ⟨-, rfl⟩ := ends_decide.mp hdecide
  refine .head (.remember desk ((strategy.shouldEnter desk.view).run desk.rules).2) ?_
  split at h
  · rw [ends_get_bind] at h
    exact placeEnter_moves hstage h
  · obtain ⟨-, rfl⟩ := ends_pure.mp h
    exact .refl

/-- To decide for closing a position and close it is a number of moves. -/
theorem leave_moves {stage : Stage} {answer : Except TradingError Unit}
    (hstage : desk.tracker.stage = some stage)
    (h : Ends (strategy.leave venue) desk answer after) : Moves venue desk after := by
  obtain ⟨_, hdecide, -⟩ | ⟨decided, mid, hdecide, h⟩ := ends_bind.mp h
  · obtain ⟨-, rfl⟩ := ends_decide.mp hdecide
    exact .single (.remember _ _)
  obtain ⟨-, rfl⟩ := ends_decide.mp hdecide
  refine .head (.remember desk ((strategy.shouldExit desk.view).run desk.rules).2) ?_
  split at h
  · exact placeExit_moves hstage h
  · obtain ⟨-, rfl⟩ := ends_pure.mp h
    exact .refl

/-- To watch an exit is a number of moves, or it closes the trade. -/
theorem watchExit_course {stage : Stage} {answer : Except TradingError (Option ClosedTrade)}
    {mid : Desk σ κ} (hfound : Found venue desk mid) (hstage : mid.tracker.stage = some stage)
    (h : Ends (strategy.watchExit venue) mid answer after) : Course venue desk answer after := by
  obtain ⟨error, htrack, herror⟩ | ⟨closed, tracked, htrack, h⟩ := ends_bind.mp h
  · obtain ⟨hmoves, -⟩ | ⟨_, hok, -⟩ := trackExit_moves hstage htrack
    · exact .goesOn hfound (.moves hmoves) (by simp [herror]) (by simp [herror])
    · cases hok
  · obtain ⟨hmoves, hnone⟩ | ⟨trade, hok, hclosing⟩ := trackExit_moves hstage htrack
    · cases closed with
      | some trade => exact absurd rfl (hnone trade)
      | none =>
        obtain ⟨hanswer, rfl⟩ := ends_pure.mp h
        exact .goesOn hfound (.moves hmoves) (by simp [hanswer]) fun _ _ =>
          trackExit_attends hstage htrack
    · cases hok
      -- the rules are told of the trade once the position is closed
      simp only [ends_bind, ends_modify, ends_pure, reduceCtorEq, false_and, exists_false,
        false_or] at h
      obtain ⟨_, _, ⟨-, rfl⟩, rfl, rfl⟩ := h
      exact .closes hfound hclosing

/-- A stage that waits for no order has none to look up. -/
theorem attends_nothing {stage : Stage} (hstage : desk.tracker.stage = some stage)
    (hawaited : awaited stage = none) : Attends venue desk after := by
  intro order horder
  rw [hstage] at horder
  cases hawaited.symm.trans horder

/-- Executing a strategy follows a course. -/
theorem execute_course {answer : Except TradingError (Option ClosedTrade)}
    (h : Ends (strategy.execute venue) desk answer after) : Course venue desk answer after := by
  rw [execute, currentState_bind] at h
  obtain ⟨error, hresume, rfl⟩ | ⟨stage, mid, hresume, h⟩ := ends_bind.mp h
  · obtain ⟨hstage, hmoves⟩ := moves_of_resume_error hresume
    -- without a stage there is nothing to decide
    exact .unfound hstage hmoves
  obtain ⟨hfound, hstage⟩ := found_of_resume hresume
  cases stage with
  | needEnter =>
    obtain ⟨hmoves, hanswer⟩ := noTrade_moves (fun _ => enter_moves hstage) h
    exact .goesOn hfound (.moves hmoves) hanswer fun _ _ => attends_nothing hstage rfl
  | waitForEnter entry =>
    obtain ⟨hproceeds, hanswer⟩ := noTrade_proceeds (fun _ => trackEnter_proceeds hstage) h
    refine .goesOn hfound hproceeds hanswer fun _ hok => ?_
    obtain ⟨_, herror, -⟩ | ⟨-, htrack⟩ := noTrade_inv h
    · cases hok.symm.trans herror
    · exact trackEnter_attends hstage htrack
  | needExit entry ratchet? =>
    obtain ⟨hmoves, hanswer⟩ := noTrade_moves (fun _ => leave_moves hstage) h
    exact .goesOn hfound (.moves hmoves) hanswer fun _ _ => attends_nothing hstage rfl
  | waitForExit entry exit ratchet => exact watchExit_course hfound hstage h

end Strategy

/-! ## Ticks -/

/-- A tick begins by asking for a ticker, which becomes the newest bar unless it is refused. -/
theorem update_inv {answer : Except TradingError Nat} (h : Ends (update venue) desk answer after) :
    ∃ reply state, Replies (venue.ticker desk.prices.market) desk.venue reply state ∧
      (((∃ error, answer = .error error) ∧ after = { desk with venue := state }) ∨
        ∃ ticker prices, reply = .ok ticker ∧ desk.prices.record ticker = .ok prices ∧
          answer = .ok desk.prices.bars.size ∧ after = { desk with venue := state, prices }) := by
  simp only [update, ends_get_bind] at h
  obtain ⟨reply | ticker, state, hreply, h⟩ := call_inv h
  · exact ⟨_, state, hreply, .inl ⟨⟨_, h.1⟩, h.2⟩⟩
  refine ⟨_, state, hreply, ?_⟩
  dsimp only at h
  rw [ends_get_bind] at h
  cases hrecord : desk.prices.record ticker with
  | error error =>
    simp only [hrecord] at h
    obtain ⟨_, hthrow, herror⟩ | ⟨_, _, hthrow, -⟩ := ends_bind.mp h
    · exact .inl ⟨⟨_, herror⟩, (ends_throw.mp hthrow).2⟩
    · cases (ends_throw.mp hthrow).1
  | ok prices =>
    simp only [hrecord, ends_set_bind, ends_newestBar, lastIndex?_of_record hrecord] at h
    exact .inr ⟨ticker, prices, rfl, hrecord, h⟩

namespace Session

variable {strategy : Strategy κ}

/--
A tick whose ticker cannot be had changes what the venue remembers and nothing
else; any other takes in a bar, counts it, and follows a course.
-/
theorem tick_inv {answer : Except TradingError (Option ClosedTrade)}
    (h : Ends (tick venue strategy) desk answer after) :
    ∃ reply state, Replies (venue.ticker desk.prices.market) desk.venue reply state ∧
      (((∃ error, answer = .error error) ∧ after = { desk with venue := state }) ∨
        ∃ ticker prices, reply = .ok ticker ∧ desk.prices.record ticker = .ok prices ∧
          Course venue
            { desk with venue := state, prices, tick := desk.tick + 1 } answer after) := by
  obtain ⟨error, hupdate, herror⟩ | ⟨_, updated, hupdate, h⟩ := ends_bind.mp h
  · obtain ⟨reply, state, hreply, ⟨-, rfl⟩ | ⟨_, _, -, -, hok, -⟩⟩ :=
      update_inv hupdate
    · exact ⟨reply, state, hreply, .inl ⟨⟨error, herror⟩, rfl⟩⟩
    · cases hok
  · obtain ⟨reply, state, hreply, ⟨⟨_, herror⟩, -⟩ | ⟨ticker, prices, hok, hrecord, -, rfl⟩⟩ :=
      update_inv hupdate
    · cases herror
    · refine ⟨reply, state, hreply, .inr ⟨ticker, prices, hok, hrecord, ?_⟩⟩
      simp only [ends_bind, ends_modify, reduceCtorEq, false_and, exists_false, false_or] at h
      obtain ⟨_, _, ⟨-, rfl⟩, h⟩ := h
      exact Strategy.execute_course h

end Session

end SwingTrader
