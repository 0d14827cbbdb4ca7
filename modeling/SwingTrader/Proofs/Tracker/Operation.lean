import SwingTrader.Proofs.Tracker.Move

/-!
# SwingTrader — the operations of a tracker as moves
-/

namespace SwingTrader.Tracker

variable {σ κ α β : Type} {venue : Venue σ} {rule : PriceRule κ} {desk after : Desk σ κ}

open Desk

/-! ## Parts of operations -/

/-- An operation that asks the venue for numbers about a market, and does nothing else. -/
def OnlyAsks (venue : Venue σ) (market : Market) (op : DeskM σ κ α) : Prop :=
  ∀ {desk after : Desk σ κ} {answer : Except TradingError α}, desk.market = market →
    Ends op desk answer after → Asking venue desk after

theorem onlyAsks_pure (market : Market) (a : α) :
    OnlyAsks venue market (pure a : DeskM σ κ α) := by
  intro desk after answer _ h
  obtain ⟨-, rfl⟩ := ends_pure.mp h
  exact .refl

/-- A call that asks for a number only asks. -/
theorem onlyAsks_call {market : Market} {request : VenueM σ Float} (h : Asks venue market request) :
    OnlyAsks venue market (call request : DeskM σ κ Float) := by
  rintro desk after answer rfl hends
  obtain ⟨reply, state, hreply, -, rfl⟩ := ends_call.mp hends
  exact .single (.call h hreply)

theorem onlyAsks_bind {market : Market} {op : DeskM σ κ α} {f : α → DeskM σ κ β}
    (hop : OnlyAsks venue market op) (hf : ∀ a, OnlyAsks venue market (f a)) :
    OnlyAsks venue market (op >>= f) := by
  intro desk after answer hmarket h
  obtain ⟨error, h, -⟩ | ⟨a, mid, ha, h⟩ := ends_bind.mp h
  · exact hop hmarket h
  · have hasking := hop hmarket ha
    -- asking leaves the settings alone, so the rest asks about the same market
    obtain ⟨state, rfl⟩ := hasking.after_eq
    exact hasking.trans (hf a hmarket h)

/-- An operation may read the settings and then ask about their market. -/
theorem onlyAsks_settings_bind {market : Market} {f : TrackerSettings → DeskM σ κ β}
    (hf : ∀ settings : TrackerSettings, settings.market = market →
    OnlyAsks venue market (f settings)) :
    OnlyAsks venue market (Desk.settings >>= f) := by
  intro desk after answer hmarket h
  obtain ⟨error, h, -⟩ | ⟨a, mid, ha, h⟩ := ends_bind.mp h
  · cases (ends_settings.mp h).1
  · obtain ⟨ha, rfl⟩ := ends_settings.mp ha
    cases ha
    exact hf _ hmarket hmarket h

/-- To decide what to open a position with only asks. -/
theorem enterAmount_onlyAsks (market : Market) (side : Side) (price : Float) :
    OnlyAsks venue market (enterAmount venue side price : DeskM σ κ (Option Float)) := by
  refine onlyAsks_settings_bind fun settings hmarket => ?_
  subst hmarket
  refine onlyAsks_bind (onlyAsks_call (.balance _)) fun counter => ?_
  refine onlyAsks_bind (onlyAsks_call .minimum) fun minimum => ?_
  cases side
  · exact onlyAsks_bind (onlyAsks_call .buyFee) fun fee => onlyAsks_pure _ _
  · exact onlyAsks_bind (onlyAsks_call .sellFee) fun fee => onlyAsks_pure _ _

/-- To make up a trade only asks. -/
theorem closedTrade_onlyAsks (market : Market) (entry exit : PlacedOrder) :
    OnlyAsks venue market (closedTrade venue entry exit : DeskM σ κ ClosedTrade) := by
  refine onlyAsks_settings_bind fun settings hmarket => ?_
  subst hmarket
  refine onlyAsks_bind (onlyAsks_call .buyFee) fun buy => ?_
  exact onlyAsks_bind (onlyAsks_call .sellFee) fun sell => onlyAsks_pure _ _

/-- An operation that fails by calls of the venue alone. -/
def FailsByVenue (op : DeskM σ κ α) : Prop :=
  ∀ {desk after : Desk σ κ} {error : TradingError}, Ends op desk (.error error) after →
    ∃ reason, error = .venue reason

theorem failsByVenue_pure (a : α) : FailsByVenue (pure a : DeskM σ κ α) := by
  intro desk after error h
  cases (ends_pure.mp h).1

theorem failsByVenue_settings : FailsByVenue (Desk.settings : DeskM σ κ TrackerSettings) := by
  intro desk after error h
  cases (ends_settings.mp h).1

theorem failsByVenue_call (request : VenueM σ α) :
    FailsByVenue (call request : DeskM σ κ α) := by
  intro desk after error h
  obtain ⟨reason, _, -, herror, -⟩ := ends_call_error.mp h
  exact ⟨reason, herror⟩

theorem failsByVenue_bind {op : DeskM σ κ α} {f : α → DeskM σ κ β} (hop : FailsByVenue op)
    (hf : ∀ a, FailsByVenue (f a)) : FailsByVenue (op >>= f) := by
  intro desk after error h
  obtain ⟨_, h, ⟨⟩⟩ | ⟨a, mid, -, h⟩ := ends_bind.mp h
  · exact hop h
  · exact hf a h

theorem enterAmount_failsByVenue (side : Side) (price : Float) :
    FailsByVenue (enterAmount venue side price : DeskM σ κ (Option Float)) := by
  refine failsByVenue_bind failsByVenue_settings fun settings => ?_
  refine failsByVenue_bind (failsByVenue_call _) fun counter => ?_
  refine failsByVenue_bind (failsByVenue_call _) fun minimum => ?_
  cases side
  · exact failsByVenue_bind (failsByVenue_call _) fun fee => failsByVenue_pure _
  · exact failsByVenue_bind (failsByVenue_call _) fun fee => failsByVenue_pure _

theorem closedTrade_failsByVenue (entry exit : PlacedOrder) :
    FailsByVenue (closedTrade venue entry exit : DeskM σ κ ClosedTrade) := by
  refine failsByVenue_bind failsByVenue_settings fun settings => ?_
  refine failsByVenue_bind (failsByVenue_call _) fun buy => ?_
  exact failsByVenue_bind (failsByVenue_call _) fun sell => failsByVenue_pure _

/-- To make up a trade disturbs nothing. -/
theorem undisturbed_of_closedTrade {entry exit : PlacedOrder}
    {answer : Except TradingError ClosedTrade}
    (h : Ends (closedTrade venue entry exit) desk answer after) : Undisturbed desk after := by
  exact (closedTrade_onlyAsks _ entry exit rfl h).undisturbed

/-- The trade of a position that was opened by one order and closed by another. -/
def tradeOf (entry exit : PlacedOrder) (fees : Fees) : ClosedTrade where
  side := entry.side
  entryPrice := entry.price
  exitPrice := exit.price
  quantity := entry.quantity
  gain := realizedGain entry.side entry.quantity entry.price exit.price fees

/-- A trade is reckoned with the fees that the venue tells. -/
theorem closedTrade_ok {entry exit : PlacedOrder} {trade : ClosedTrade}
    (h : Ends (closedTrade venue entry exit) desk (.ok trade) after) :
    ∃ buy sell mid, Ends (call (venue.buyFee desk.market)) desk (.ok buy) mid ∧
      Ends (call (venue.sellFee desk.market)) mid (.ok sell) after ∧
        trade = tradeOf entry exit { buy, sell } := by
  rw [closedTrade, ends_settings_bind] at h
  obtain ⟨_, -, herror⟩ | ⟨buy, mid, hbuy, h⟩ := ends_bind.mp h
  · cases herror
  obtain ⟨_, -, herror⟩ | ⟨sell, _, hsell, h⟩ := ends_bind.mp h
  · cases herror
  obtain ⟨hanswer, rfl⟩ := ends_pure.mp h
  cases hanswer
  exact ⟨buy, sell, mid, hbuy, hsell, rfl⟩

/-- To look an order up looks for the orders. -/
theorem find_seeks {id : OrderId} {answer : Except TradingError (Option OpenOrder)}
    (h : Ends (findOrder venue id) desk answer after) : Seeks venue desk after := by
  cases answer with
  -- an order is looked up in a list, so a look that fails is a list that fails
  | error error => exact ⟨_, after, ends_findOrder_error.mp h, .refl⟩
  | ok found =>
    obtain ⟨orders, hlist, -⟩ := ends_findOrder_ok.mp h
    exact ⟨_, after, hlist, .refl⟩

theorem Seeks.asking {mid : Desk σ κ} (h : Seeks venue desk mid)
    (hasking : Asking venue mid after) :
    Seeks venue desk after := by
  obtain ⟨answer, seen, hlist, h⟩ := h
  exact ⟨answer, seen, hlist, h.trans hasking⟩

/-- To look an order up is a number of moves. -/
theorem find_moves {id : OrderId} {answer : Except TradingError (Option OpenOrder)}
    (h : Ends (findOrder venue id) desk answer after) : Moves venue desk after :=
  (find_seeks h).moves

theorem failsByVenue_findOrder {id : OrderId} :
    FailsByVenue (findOrder venue id : DeskM σ κ (Option OpenOrder)) := by
  intro desk after error h
  obtain ⟨-, reason, _, -, herror, -⟩ := ends_listOrders_error.mp (ends_findOrder_error.mp h)
  exact ⟨reason, herror⟩

/-- A tracker that has a stage goes on from it. -/
theorem ends_resume_bind {stage : Stage} {f : Stage → DeskM σ κ α} {answer : Except TradingError α}
    (hstage : desk.tracker.stage = some stage) :
    Ends (resume venue >>= f) desk answer after ↔ Ends (f stage) desk answer after := by
  simp [resume, hstage]

/-! ## Entering -/

/-- To open a position is a number of moves. -/
theorem placeEnter_moves {side : Side} {answer : Except TradingError Unit} {stage : Stage}
    (hstage : desk.tracker.stage = some stage)
    (h : Ends (placeEnter venue rule side) desk answer after) : Moves venue desk after := by
  rw [placeEnter, ends_resume_bind hstage] at h
  cases stage with
  | needEnter =>
    rw [ends_askPrice_bind] at h
    refine .head (.remember desk ((rule desk.view side).run desk.rules).2) ?_
    split at h
    · obtain ⟨_, h, -⟩ | ⟨amount?, sized, hamount, h⟩ := ends_bind.mp h
      · exact (enterAmount_onlyAsks _ side _ rfl h).moves
      · have hasking := enterAmount_onlyAsks _ side _ rfl hamount
        obtain ⟨state, rfl⟩ := hasking.after_eq
        refine hasking.moves.trans ?_
        cases amount? with
        | none =>
          obtain ⟨-, rfl⟩ := ends_pure.mp h
          exact .refl
        | some amount =>
          obtain ⟨_, h, -⟩ | ⟨order, placed, hsubmit, h⟩ := ends_bind.mp h
          · obtain ⟨reason, state, hreply, -, rfl⟩ := ends_submit_error.mp h
            -- a refused order leaves the tracker where it was, for the next tick to try again
            exact .single (.refuseEntry hstage (Side.isEnter_enterKind side) hreply)
          · obtain ⟨-, rfl⟩ := ends_setStage.mp h
            exact .single (.enter hstage hsubmit)
    · obtain ⟨-, rfl⟩ := ends_pure.mp h
      exact .refl
  | waitForEnter | needExit | waitForExit =>
    obtain ⟨-, rfl⟩ := ends_throw.mp h
    exact .refl

/-- An entry that is waited for after all has one more tick counted. -/
theorem keepEntry_moves {entry entry' : PlacedOrder} {answer : Except TradingError Unit}
    (hstage : desk.tracker.stage = some (.waitForEnter entry)) (hcounted : Counted entry entry')
    (h : Ends (setStage (.waitForEnter entry')) desk answer after) : Moves venue desk after := by
  obtain ⟨-, rfl⟩ := ends_setStage.mp h
  exact .single (.waitEnter hstage hcounted)

theorem holds_asking {side : Side} {ofShort quantity : Float}
    (h : Holds venue desk side ofShort quantity after) : Asking venue desk after := by
  cases side with
  | long => exact onlyAsks_call (.balance _) rfl h
  | short =>
    obtain ⟨-, rfl⟩ := h
    exact .refl

/-- What is held is counted before an operation goes on, and the count may fail. -/
theorem holds_inv {side : Side} {ofShort : Float} {f : Float → DeskM σ κ α}
    {answer : Except TradingError α}
    (h : Ends (match side with
      | .long => call (venue.availableBalance desk.market.base) >>= f
      | .short => pure ofShort >>= f) desk answer after) :
    (Asking venue desk after ∧ ∃ reason, answer = .error (.venue reason)) ∨
      ∃ quantity asked, Holds venue desk side ofShort quantity asked ∧
        Ends (f quantity) asked answer after := by
  cases side with
  | long =>
    obtain ⟨error, hcall, herror⟩ | ⟨quantity, asked, hcall, h⟩ := ends_bind.mp h
    · obtain ⟨reason, rfl⟩ := failsByVenue_call _ hcall
      exact .inl ⟨onlyAsks_call (.balance _) rfl hcall, reason, herror⟩
    · exact .inr ⟨quantity, asked, hcall, h⟩
  | short =>
    rw [pure_bind] at h
    exact .inr ⟨ofShort, desk, ⟨rfl, rfl⟩, h⟩

/--
A position is entered with an entry in the ledger, or not at all where the ledger
refuses it.
-/
theorem enterPosition_inv {entry : PlacedOrder} {answer : Except TradingError Unit}
    (h : Ends (enterPosition entry) desk answer after) :
    (after = desk ∧ (∃ error, answer = .error error) ∧
        ∀ ledgers, ¬desk.TakesEntry entry.side ledgers) ∨
      ∃ ledgers, desk.TakesEntry entry.side ledgers ∧
        after = { desk with ledgers }.withStage (.needExit entry none) := by
  obtain hrefuses | ⟨ledgers, htakes, h⟩ := recordEntry_inv h
  · exact .inl hrefuses
  · obtain ⟨-, rfl⟩ := ends_setStage.mp h
    exact .inr ⟨ledgers, htakes, rfl⟩

/--
An entry that is filled in part is dealt with by moves, unless that is cut off after
the cancel.
-/
theorem trackPartialEntry_proceeds {entry : PlacedOrder} {order : OpenOrder} {seen : Desk σ κ}
    {answer : Except TradingError Unit}
    (hstage : desk.tracker.stage = some (.waitForEnter entry))
    (hfind : Ends (findOrder venue entry.id) desk (.ok (some order)) seen)
    (hpart : order.isPartiallyFilled = true)
    (h : Ends (trackPartialEntry venue entry order) seen answer after) :
    Proceeds venue desk answer after := by
  have hseen : seen.tracker.stage = some (.waitForEnter entry) := by
    rw [(Undisturbed.findOrder hfind).tracker_eq, hstage]
  have hcounted : Counted entry entry.countPartiallyExecuted := Or.inr rfl
  simp only [trackPartialEntry, ends_settings_bind] at h
  split at h
  · exact .moves ((find_moves hfind).trans (keepEntry_moves hseen hcounted h))
  · obtain ⟨h, -⟩ | ⟨held, asked, hholds, h⟩ := holds_inv h
    -- what is held could not be told, and the order is left alone
    · exact .moves ((find_moves hfind).trans h.moves)
    have hasked : asked.tracker = seen.tracker := hholds.undisturbed.tracker_eq
    obtain ⟨cancelled, mid, hcancel, h⟩ := cancel_inv h
    have hcancel : Ends (cancel venue entry.id) asked (.ok cancelled) mid := hcancel
    have hmid : mid.tracker.stage = some (.waitForEnter entry) := by
      rw [(Undisturbed.cancel hcancel).tracker_eq, hasked, hseen]
    have hmoves := (find_moves hfind).trans (holds_asking hholds).moves
    cases cancelled with
    | false =>
      have hkeep := hmoves.tail (.keep (by rw [hasked, hseen]) rfl hcancel)
      exact .moves (hkeep.trans (keepEntry_moves hmid hcounted h))
    | true =>
      obtain ⟨rfl, ⟨error, rfl⟩, -⟩ | ⟨ledgers, htakes, rfl⟩ := enterPosition_inv h
      -- the order is cancelled, but the ledger takes no entry
      · exact .cutOff hstage hfind hpart hholds hcancel
      · exact .moves (.single (.takePart hstage hcounted hfind hpart hholds hcancel htakes))

/-- An entry that is open is dealt with by moves. -/
theorem trackOpenEntry_moves {entry : PlacedOrder} {order : OpenOrder} {seen : Desk σ κ}
    {answer : Except TradingError Unit}
    (hstage : desk.tracker.stage = some (.waitForEnter entry))
    (hfind : Ends (findOrder venue entry.id) desk (.ok (some order)) seen)
    (hwhole : order.isPartiallyFilled = false)
    (h : Ends (trackOpenEntry venue rule entry) seen answer after) : Moves venue desk after := by
  have hseen : seen.tracker.stage = some (.waitForEnter entry) := by
    rw [(Undisturbed.findOrder hfind).tracker_eq, hstage]
  have hcounted : Counted entry entry.countNotExecuted := Or.inl rfl
  simp only [trackOpenEntry, ends_askPrice_bind] at h
  have hmoves := (find_moves hfind).tail
    (.remember seen ((rule seen.view entry.side).run seen.rules).2)
  split at h
  · rw [ends_settings_bind] at h
    split at h
    · exact hmoves.trans (keepEntry_moves hseen hcounted h)
    · obtain ⟨cancelled, mid, hcancel, h⟩ := cancel_inv h
      have hmid : mid.tracker.stage = some (.waitForEnter entry) := by
        rw [(Undisturbed.cancel hcancel).tracker_eq, hseen]
      cases cancelled with
      | false =>
        exact (hmoves.tail (.keep hseen rfl hcancel)).trans (keepEntry_moves hmid hcounted h)
      | true =>
        obtain ⟨-, rfl⟩ := ends_setStage.mp h
        exact .single (.giveUp hstage hfind hwhole hcancel)
  · obtain ⟨-, rfl⟩ := ends_pure.mp h
    exact hmoves

/-- To watch an entry goes on by moves, unless it is cut off after a cancel. -/
theorem trackEnter_proceeds {answer : Except TradingError Unit} {stage : Stage}
    (hstage : desk.tracker.stage = some stage)
    (h : Ends (trackEnter venue rule) desk answer after) :
    Proceeds venue desk answer after := by
  rw [trackEnter, ends_resume_bind hstage] at h
  cases stage with
  | waitForEnter entry =>
    obtain ⟨_, h, -⟩ | ⟨found, seen, hfind, h⟩ := ends_bind.mp h
    · exact .moves (find_moves h)
    cases found with
    | none =>
      obtain ⟨rfl, -⟩ | ⟨ledgers, htakes, rfl⟩ := enterPosition_inv h
      -- an entry that is not listed any more was filled, and the ledger may refuse it
      · exact .moves (find_moves hfind)
      · exact .moves (.single (.fill hstage hfind htakes))
    | some order =>
      dsimp only at h
      split at h
      case isTrue hpart => exact trackPartialEntry_proceeds hstage hfind hpart h
      case isFalse hpart =>
        exact .moves (trackOpenEntry_moves hstage hfind (Bool.not_eq_true _ ▸ hpart) h)
  | needEnter | needExit | waitForExit =>
    obtain ⟨-, rfl⟩ := ends_throw.mp h
    exact .moves .refl

/-- The order that is awaited was looked up, and if it was missing none is awaited any more. -/
def Attends (venue : Venue σ) (desk after : Desk σ κ) : Prop :=
  ∀ order, desk.tracker.stage.bind awaited = some order →
    ∃ found seen, Ends (findOrder venue order.id) desk (.ok found) seen ∧
      (found = none → after.tracker.stage.bind awaited = none)

/-- To watch an entry looks it up, and does not await it if it is missing. -/
theorem trackEnter_attends {stage : Stage} (hstage : desk.tracker.stage = some stage)
    (h : Ends (trackEnter venue rule) desk (.ok ()) after) : Attends venue desk after := by
  rw [trackEnter, ends_resume_bind hstage] at h
  cases stage with
  | waitForEnter entry =>
    obtain ⟨_, -, herror⟩ | ⟨found, seen, hfind, h⟩ := ends_bind.mp h
    · cases herror
    rintro order horder
    rw [hstage] at horder
    cases horder
    refine ⟨found, seen, hfind, ?_⟩
    rintro rfl
    obtain ⟨-, ⟨_, herror⟩, -⟩ | ⟨ledgers, -, rfl⟩ := enterPosition_inv h
    · cases herror
    · rfl
  | needEnter | needExit | waitForExit => cases (ends_throw.mp h).1

/-! ## Leaving -/

/-- An exit is submitted for all that is held. -/
theorem submitExit_inv {side : Side} {price : Float} {answer : Except TradingError PlacedOrder}
    (h : Ends (submitExit venue side price) desk answer after) :
    (Asking venue desk after ∧ ∃ reason, answer = .error (.venue reason)) ∨
      ∃ quantity asked, Holds venue desk side 0.0 quantity asked ∧
        Ends (submit venue side.exitKind quantity price) asked answer after := by
  refine holds_inv ?_
  cases side <;> simpa only [submitExit, ends_settings_bind, market] using h

/-- An exit is submitted for what is held of the position. -/
theorem submitExit_ok {side : Side} {price : Float} {exit : PlacedOrder}
    (h : Ends (submitExit venue side price) desk (.ok exit) after) :
    ∃ quantity asked, Holds venue desk side 0.0 quantity asked ∧
      Ends (submit venue side.exitKind quantity price) asked (.ok exit) after := by
  obtain ⟨-, error, h⟩ | h := submitExit_inv h
  · cases h
  · exact h

/-- An exit that cannot be submitted leaves a position without one, by moves. -/
theorem submitExit_error_moves {entry : PlacedOrder} {ratchet? : Option Ratchet} {price : Float}
    {error : TradingError} (hstage : desk.tracker.stage = some (.needExit entry ratchet?))
    (h : Ends (submitExit venue entry.side price) desk (.error error) after) :
    Moves venue desk after := by
  obtain ⟨h, -⟩ | ⟨quantity, asked, hholds, h⟩ := submitExit_inv h
  · exact h.moves
  · obtain ⟨reason, state, hreply, -, rfl⟩ := ends_submit_error.mp h
    exact .single (.refuseExit hstage hholds hreply)

/-- To close a position is a number of moves. -/
theorem placeExit_moves {answer : Except TradingError Unit} {stage : Stage}
    (hstage : desk.tracker.stage = some stage)
    (h : Ends (placeExit venue rule) desk answer after) : Moves venue desk after := by
  rw [placeExit, ends_resume_bind hstage] at h
  cases stage with
  | needExit entry ratchet? =>
    simp only [ends_askPrice_bind] at h
    -- the rule is asked for a price whether an exit comes of it or not
    refine .head (.remember desk ((rule desk.view entry.side).run desk.rules).2) ?_
    split at h
    · obtain ⟨_, h, -⟩ | ⟨exit, placed, hexit, h⟩ := ends_bind.mp h
      · exact submitExit_error_moves hstage h
      · obtain ⟨quantity, asked, hholds, hsubmit⟩ := submitExit_ok hexit
        obtain ⟨-, rfl⟩ := ends_setStage.mp h
        exact .single (.leave hstage (by cases ratchet? <;> simp) hholds hsubmit)
    · obtain ⟨-, rfl⟩ := ends_pure.mp h
      exact .refl
  | needEnter | waitForEnter | waitForExit =>
    obtain ⟨-, rfl⟩ := ends_throw.mp h
    exact .refl

/-- The exit that replaces a cancelled one is submitted from the stage that needs one. -/
theorem resubmitExit_moves {entry exit : PlacedOrder} {order : OpenOrder}
    {ratchet ratchet' : Ratchet}
    {price : Float} {rules : κ} {seen asked : Desk σ κ} {answer : Except TradingError Unit}
    (hstage : desk.tracker.stage = some (.waitForExit entry exit ratchet))
    (hfind : Ends (findOrder venue exit.id) desk (.ok (some order)) seen)
    (hcancel : Ends (cancel venue exit.id) { seen with rules } (.ok true) asked)
    (h : Ends (resubmitExit venue entry ratchet' price) asked answer after)
    (haims : ratchet'.side = ratchet.side) :
    Moves venue desk after := by
  -- between the cancel and the new exit the stage needs one
  have hwithdraw : Move venue desk (asked.withStage (.needExit entry (some ratchet'))) :=
    .withdraw hstage haims hfind hcancel
  refine .head hwithdraw ?_
  rw [resubmitExit, ends_setStage_bind] at h
  obtain ⟨_, h, -⟩ | ⟨exit', placed, hexit, h⟩ := ends_bind.mp h
  · exact submitExit_error_moves rfl h
  · obtain ⟨quantity, counted, hholds, hsubmit⟩ := submitExit_ok hexit
    obtain ⟨-, rfl⟩ := ends_setStage.mp h
    exact .single (.leave rfl rfl hholds hsubmit)

/-- To wait for an exit once more is a move. -/
theorem keepExit_moves {entry exit exit' : PlacedOrder} {ratchet : Ratchet}
    {answer : Except TradingError Unit}
    (hstage : desk.tracker.stage = some (.waitForExit entry exit ratchet))
    (hcounted : Counted exit exit')
    (h : Ends (setStage (.waitForExit entry exit' ratchet)) desk answer after) :
    Moves venue desk after := by
  obtain ⟨-, rfl⟩ := ends_setStage.mp h
  exact .single (.waitExit hstage hcounted)

/-- An exit that the market is past is dealt with by moves. -/
theorem trackCrossedExit_moves {entry exit : PlacedOrder} {order : OpenOrder} {ratchet : Ratchet}
    {seen : Desk σ κ} {answer : Except TradingError Unit}
    (hstage : desk.tracker.stage = some (.waitForExit entry exit ratchet))
    (hfind : Ends (findOrder venue exit.id) desk (.ok (some order)) seen)
    (h : Ends (trackCrossedExit venue entry exit ratchet) seen answer after) :
    Moves venue desk after := by
  have hseen : seen.tracker.stage = some (.waitForExit entry exit ratchet) := by
    rw [(Undisturbed.findOrder hfind).tracker_eq, hstage]
  have hcounted : Counted exit exit.countNotExecuted := Or.inl rfl
  simp only [trackCrossedExit, ends_settings_bind] at h
  split at h
  · exact (find_moves hfind).trans (keepExit_moves hseen hcounted h)
  · rw [ends_get_bind] at h
    obtain ⟨cancelled, mid, hcancel, h⟩ := cancel_inv h
    have hcancel : Ends (cancel venue exit.id) seen (.ok cancelled) mid := hcancel
    cases cancelled with
    | false =>
      have hmid : mid.tracker.stage = some (.waitForExit entry exit ratchet) := by
        rw [(Undisturbed.cancel hcancel).tracker_eq, hseen]
      exact ((find_moves hfind).tail (.keep hseen rfl hcancel)).trans
        (keepExit_moves hmid hcounted h)
    | true => exact resubmitExit_moves hstage hfind hcancel h rfl

/-- An exit follows its stop by moves. -/
theorem trackStop_moves {entry exit : PlacedOrder} {order : OpenOrder} {ratchet : Ratchet}
    {seen : Desk σ κ} {answer : Except TradingError Unit}
    (hstage : desk.tracker.stage = some (.waitForExit entry exit ratchet))
    (hfind : Ends (findOrder venue exit.id) desk (.ok (some order)) seen)
    (h : Ends (trackStop venue rule entry exit ratchet) seen answer after) :
    Moves venue desk after := by
  have hseen : seen.tracker.stage = some (.waitForExit entry exit ratchet) := by
    rw [(Undisturbed.findOrder hfind).tracker_eq, hstage]
  rw [trackStop, ends_askPrice_bind] at h
  have hmoves := (find_moves hfind).tail
    (.remember seen ((rule seen.view entry.side).run seen.rules).2)
  split at h
  · obtain ⟨cancelled, mid, hcancel, h⟩ := cancel_inv h
    cases cancelled with
    | false =>
      obtain ⟨-, rfl⟩ := ends_pure.mp h
      exact hmoves.tail (.keep hseen rfl hcancel)
    | true => exact resubmitExit_moves hstage hfind hcancel h (Ratchet.side_apply _ _)
  · obtain ⟨-, rfl⟩ := ends_pure.mp h
    exact hmoves

/-- A position is left by a closing that answers its trade, or by no more than moves. -/
theorem leavePosition_inv {entry exit : PlacedOrder} {ratchet : Ratchet} {seen : Desk σ κ}
    {answer : Except TradingError ClosedTrade}
    (hstage : desk.tracker.stage = some (.waitForExit entry exit ratchet))
    (hfind : Ends (findOrder venue exit.id) desk (.ok none) seen)
    (h : Ends (leavePosition venue entry exit) seen answer after) :
    (∃ error, answer = .error error ∧ Seeks venue desk after ∧ Cause venue desk error) ∨
      ∃ trade, answer = .ok trade ∧ Closing venue desk trade after := by
  obtain ⟨error, hvalue, herror⟩ | ⟨trade, valued, hvalue, h⟩ := ends_bind.mp h
  · have hseeks := (find_seeks hfind).asking (closedTrade_onlyAsks _ entry exit rfl hvalue)
    obtain ⟨reason, rfl⟩ := closedTrade_failsByVenue entry exit hvalue
    exact .inl ⟨_, herror, hseeks, .venue reason⟩
  have hseeks := (find_seeks hfind).asking (closedTrade_onlyAsks _ entry exit rfl hvalue)
  obtain ⟨rfl, ⟨error, herror⟩, hrefuses⟩ | ⟨ledgers, htakes, h⟩ := recordExit_inv h
  · simp only [hseeks.undisturbed.takesExit_iff] at hrefuses
    exact .inl ⟨error, herror, hseeks, .exit (by rw [held, hstage]; rfl) (by rw [hstage]; rfl)
      hfind hrefuses⟩
  rw [ends_setStage_bind] at h
  obtain ⟨hanswer, rfl⟩ := ends_pure.mp h
  exact .inr ⟨trade, hanswer, .close hstage hfind hvalue htakes⟩

/-- An operation after which no trade is answered. -/
theorem noTrade_inv {op : DeskM σ κ Unit} {answer : Except TradingError (Option ClosedTrade)}
    (h : Ends (op >>= fun _ => pure none) desk answer after) :
    (∃ error, answer = .error error ∧ Ends op desk (.error error) after) ∨
      answer = .ok none ∧ Ends op desk (.ok ()) after := by
  obtain ⟨error, hop, herror⟩ | ⟨_, mid, hop, h⟩ := ends_bind.mp h
  · exact .inl ⟨error, herror, hop⟩
  · obtain ⟨hanswer, rfl⟩ := ends_pure.mp h
    exact .inr ⟨hanswer, hop⟩

/-- What answers no trade is a number of moves if the operation before the answer is. -/
theorem noTrade_moves {op : DeskM σ κ Unit} {first : Desk σ κ}
    {answer : Except TradingError (Option ClosedTrade)}
    (hop : ∀ answer', Ends op desk answer' after → Moves venue first after)
    (h : Ends (op >>= fun _ => pure none) desk answer after) :
    Moves venue first after ∧ ∀ trade, answer ≠ .ok (some trade) := by
  obtain ⟨error, rfl, hrun⟩ | ⟨rfl, hrun⟩ := noTrade_inv h
  · exact ⟨hop _ hrun, by simp⟩
  · exact ⟨hop _ hrun, by simp⟩

/-- What answers no trade goes on by moves if the operation before the answer does. -/
theorem noTrade_proceeds {op : DeskM σ κ Unit} {first : Desk σ κ}
    {answer : Except TradingError (Option ClosedTrade)}
    (hop : ∀ answer', Ends op desk answer' after → Proceeds venue first answer' after)
    (h : Ends (op >>= fun _ => pure none) desk answer after) :
    Proceeds venue first answer after ∧ ∀ trade, answer ≠ .ok (some trade) := by
  obtain ⟨error, rfl, hrun⟩ | ⟨rfl, hrun⟩ := noTrade_inv h
  · refine ⟨?_, by simp⟩
    cases hop _ hrun with
    | moves moves => exact .moves moves
    | cutOff stage_eq finds part holds cancels => exact .cutOff stage_eq finds part holds cancels
  · exact ⟨.moves (hop _ hrun).moves_of_ok, by simp⟩

/-- An exit that is still listed is kept, moved or forced; none of this closes the position. -/
theorem trackOpenExit_moves {entry exit : PlacedOrder} {order : OpenOrder} {ratchet : Ratchet}
    {seen : Desk σ κ} {crossed : Bool} {answer : Except TradingError (Option ClosedTrade)}
    (hstage : desk.tracker.stage = some (.waitForExit entry exit ratchet))
    (hfind : Ends (findOrder venue exit.id) desk (.ok (some order)) seen)
    (h : Ends (if crossed then trackCrossedExit venue entry exit ratchet >>= fun _ => pure none
      else trackStop venue rule entry exit ratchet >>= fun _ => pure none) seen answer after) :
    Moves venue desk after ∧ ∀ trade, answer ≠ .ok (some trade) := by
  split at h
  · exact noTrade_moves (fun _ => trackCrossedExit_moves hstage hfind) h
  · exact noTrade_moves (fun _ => trackStop_moves hstage hfind) h

/-- To watch an exit is a number of moves without a trade, or closes the trade. -/
theorem trackExit_moves {answer : Except TradingError (Option ClosedTrade)} {stage : Stage}
    (hstage : desk.tracker.stage = some stage)
    (h : Ends (trackExit venue rule) desk answer after) :
    (Moves venue desk after ∧ ∀ trade, answer ≠ .ok (some trade)) ∨
      ∃ trade, answer = .ok (some trade) ∧ Closing venue desk trade after := by
  rw [trackExit, ends_resume_bind hstage] at h
  cases stage with
  | waitForExit entry exit ratchet =>
    obtain ⟨_, hfind, herror⟩ | ⟨found, seen, hfind, h⟩ := ends_bind.mp h
    · exact .inl ⟨find_moves hfind, by simp [herror]⟩
    cases found with
    | none =>
      obtain ⟨error, hleave, herror⟩ | ⟨trade, closed, hleave, h⟩ := ends_bind.mp h
      -- the exit is not listed any more: the position is closed, unless a fee cannot be had
      · obtain ⟨_, -, hseeks, -⟩ | ⟨_, hok, -⟩ := leavePosition_inv hstage hfind hleave
        · exact .inl ⟨hseeks.moves, by simp [herror]⟩
        · cases hok
      · obtain ⟨hanswer, rfl⟩ := ends_pure.mp h
        obtain ⟨_, herror, -⟩ | ⟨_, hok, hclosing⟩ := leavePosition_inv hstage hfind hleave
        · cases herror
        · cases hok
          exact .inr ⟨trade, hanswer, hclosing⟩
    | some order =>
      left
      -- an exit that is listed closes nothing at this tick
      obtain ⟨error, hticker, herror⟩ | ⟨ticker, quoted, hticker, hopen⟩ := ends_bind.mp h
      · obtain ⟨-, rfl⟩ := ends_newestTicker.mp hticker
        exact ⟨find_moves hfind, by simp [herror]⟩
      obtain ⟨-, rfl⟩ := ends_newestTicker.mp hticker
      exact trackOpenExit_moves hstage hfind hopen
  | needEnter | waitForEnter | needExit =>
    obtain ⟨hanswer, rfl⟩ := ends_throw.mp h
    exact .inl ⟨.refl, by simp [hanswer]⟩

/-- To watch an exit looks it up, and awaits it if no trade is closed. -/
theorem trackExit_attends {stage : Stage} (hstage : desk.tracker.stage = some stage)
    (h : Ends (trackExit venue rule) desk (.ok none) after) : Attends venue desk after := by
  rw [trackExit, ends_resume_bind hstage] at h
  cases stage with
  | waitForExit entry exit ratchet =>
    obtain ⟨_, -, herror⟩ | ⟨found, seen, hfind, h⟩ := ends_bind.mp h
    · cases herror
    rintro order horder
    rw [hstage] at horder
    cases horder
    refine ⟨found, seen, hfind, ?_⟩
    rintro rfl
    obtain ⟨_, -, herror⟩ | ⟨trade, closed, -, h⟩ := ends_bind.mp h
    · cases herror
    · cases (ends_pure.mp h).1
  | needEnter | waitForEnter | needExit => cases (ends_throw.mp h).1

/-! ## Finding a stage -/

/-- The last price is known, or there is no ticker yet. -/
theorem lastPrice_inv {f : Float → DeskM σ κ α} {answer : Except TradingError α}
    (h : Ends (lastPrice >>= f) desk answer after) :
    (after = desk ∧ answer = .error (.strategy .noMarketData) ∧ desk.prices.ticker = none) ∨
      ∃ price, desk.prices.lastPrice? = some price ∧ Ends (f price) desk answer after := by
  cases hprice : desk.prices.lastPrice? with
  | none =>
    have h : after = desk ∧ answer = .error (.strategy .noMarketData) := by
      simpa [lastPrice, hprice] using h
    exact .inl ⟨h.1, h.2, Option.map_eq_none_iff.mp hprice⟩
  | some price =>
    refine .inr ⟨price, rfl, ?_⟩
    simpa [lastPrice, hprice] using h

/-- A tracker that has a stage does not look for one. -/
theorem resume_of_stage {stage : Stage} {answer : Except TradingError Stage}
    (hstage : desk.tracker.stage = some stage) (h : Ends (resume venue) desk answer after) :
    answer = .ok stage ∧ after = desk := by
  simpa [resume, hstage] using h

/-- By what is held a stage is found, or the search fails before there is one. -/
theorem stageFromHoldings_inv {answer : Except TradingError Stage} {seen : Desk σ κ}
    (hstage : desk.tracker.stage = none) (hlist : Ends (listOrders venue) desk (.ok []) seen)
    (h : Ends (stageFromHoldings venue) seen answer after) :
    (∃ error, answer = .error error ∧ Asking venue seen after ∧ Cause venue desk error) ∨
      ∃ stage, answer = .ok stage ∧ Finding venue desk (after.withStage stage) := by
  have hmarket : seen.market = desk.market := (Undisturbed.listOrders hlist).market_eq
  simp only [stageFromHoldings, ends_settings_bind] at h
  obtain ⟨error, hbase, herror⟩ | ⟨base, asked, hbase, h⟩ := ends_bind.mp h
  · obtain ⟨reason, rfl⟩ := failsByVenue_call _ hbase
    exact .inl ⟨_, herror, onlyAsks_call (.balance _) rfl hbase, .venue reason⟩
  have hasking := onlyAsks_call (.balance _) rfl hbase
  obtain ⟨state, rfl⟩ := hasking.after_eq
  obtain ⟨error, hleast, herror⟩ | ⟨minimum, counted, hleast, h⟩ := ends_bind.mp h
  · obtain ⟨reason, rfl⟩ := failsByVenue_call _ hleast
    exact .inl ⟨_, herror, hasking.trans (onlyAsks_call .minimum rfl hleast), .venue reason⟩
  have hasking := hasking.trans (onlyAsks_call .minimum rfl hleast)
  have hsame := (Undisturbed.listOrders hlist).trans (Asking.undisturbed hasking)
  -- the calls are made for the market that the orders were listed for
  change Ends (call (venue.availableBalance seen.market.base)) _ _ _ at hbase
  change Ends (call (venue.minimumOrderVolume seen.market)) _ _ _ at hleast
  rw [hmarket] at hbase hleast
  split at h
  case isTrue hle =>
    obtain ⟨hanswer, rfl⟩ := ends_pure.mp h
    exact .inr ⟨_, hanswer, .flat hstage hlist hbase hleast hle⟩
  case isFalse hle =>
    obtain ⟨rfl, herror, hunpriced⟩ | ⟨price, -, h⟩ := lastPrice_inv h
    · exact .inl ⟨_, herror, hasking, .unpriced (hsame.prices_eq ▸ hunpriced)⟩
    obtain ⟨rfl, ⟨error, herror⟩, hrefuses⟩ | ⟨ledgers, htakes, h⟩ := recordEntry_inv h
    · simp only [hsame.takesEntry_iff] at hrefuses
      exact .inl ⟨error, herror, hasking, .entry (by rw [held, hstage]; rfl) hrefuses⟩
    obtain ⟨hanswer, rfl⟩ := ends_pure.mp h
    exact .inr ⟨_, hanswer, .held hstage hlist hbase hleast hle htakes⟩

/-- From an exit a stage is found, or the search fails before there is one. -/
theorem stageFromExit_inv {order : OpenOrder} {answer : Except TradingError Stage} {seen : Desk σ κ}
    (hstage : desk.tracker.stage = none) (hlist : Ends (listOrders venue) desk (.ok [order]) seen)
    (hleaves : order.kind.isEnter = false) (h : Ends (stageFromExit order) seen answer after) :
    (after = seen ∧ ∃ error, answer = .error error ∧ Cause venue desk error) ∨
      ∃ stage, answer = .ok stage ∧ Finding venue desk (after.withStage stage) := by
  have hsame := Undisturbed.listOrders hlist
  simp only [stageFromExit] at h
  obtain ⟨hafter, herror, hunpriced⟩ | ⟨last, -, h⟩ := lastPrice_inv h
  · exact .inl ⟨hafter, _, herror, .unpriced (hsame.prices_eq ▸ hunpriced)⟩
  obtain ⟨hafter, ⟨error, herror⟩, hrefuses⟩ | ⟨ledgers, htakes, h⟩ := recordEntry_inv h
  · simp only [hsame.takesEntry_iff] at hrefuses
    exact .inl ⟨hafter, error, herror, .entry (by rw [held, hstage]; rfl) hrefuses⟩
  obtain ⟨hanswer, rfl⟩ := ends_pure.mp h
  exact .inr ⟨_, hanswer, .leave hstage hlist hleaves htakes⟩

/-- From the orders that are listed a stage is found, or the search fails before there is one. -/
theorem stageFromOrders_inv {orders : List OpenOrder} {answer : Except TradingError Stage}
    {seen : Desk σ κ} (hstage : desk.tracker.stage = none)
    (hlist : Ends (listOrders venue) desk (.ok orders) seen)
    (h : Ends (stageFromOrders venue orders) seen answer after) :
    (∃ error, answer = .error error ∧ Asking venue seen after ∧ Cause venue desk error) ∨
      ∃ stage, answer = .ok stage ∧ Finding venue desk (after.withStage stage) := by
  match orders with
  | [] => exact stageFromHoldings_inv hstage hlist h
  | [order] =>
    rw [stageFromOrders] at h
    split at h
    case isTrue henters =>
      obtain ⟨hanswer, rfl⟩ := ends_pure.mp h
      exact .inr ⟨_, hanswer, .enter hstage hlist henters⟩
    case isFalse hleaves =>
      obtain ⟨rfl, error, herror, hcause⟩ | h :=
        stageFromExit_inv hstage hlist (Bool.not_eq_true _ ▸ hleaves) h
      · exact .inl ⟨error, herror, .refl, hcause⟩
      · exact .inr h
  | _ :: _ :: _ =>
    obtain ⟨herror, rfl⟩ := ends_throw.mp h
    exact .inl ⟨_, herror, .refl, .ambiguous _⟩

/-- A tracker without a stage fails to find one, and may try again, or finds the one it answers. -/
theorem resume_inv {answer : Except TradingError Stage} (hstage : desk.tracker.stage = none)
    (h : Ends (resume venue) desk answer after) :
    (∃ error, answer = .error error ∧ Seeks venue desk after ∧ Cause venue desk error) ∨
      ∃ stage, answer = .ok stage ∧ after.tracker.stage = some stage ∧
        Finding venue desk after := by
  simp only [resume, ends_get_bind, hstage] at h
  obtain ⟨error, hlist, herror⟩ | ⟨orders, seen, hlist, h⟩ := ends_bind.mp h
  · obtain ⟨-, reason, _, -, rfl, -⟩ := ends_listOrders_error.mp hlist
    exact .inl ⟨_, herror, ⟨_, after, hlist, .refl⟩, .venue reason⟩
  obtain ⟨error, hfind, herror⟩ | ⟨stage, mid, hfind, h⟩ := ends_bind.mp h
  · obtain ⟨_, ⟨⟩, hasking, hcause⟩ | ⟨_, hok, -⟩ :=
      stageFromOrders_inv hstage hlist hfind
    · exact .inl ⟨error, herror, ⟨_, seen, hlist, hasking⟩, hcause⟩
    · cases hok
  · rw [ends_setStage_bind] at h
    obtain ⟨hanswer, rfl⟩ := ends_pure.mp h
    obtain ⟨_, herror, -⟩ | ⟨_, hok, hfinding⟩ := stageFromOrders_inv hstage hlist hfind
    · cases herror
    · cases hok
      exact .inr ⟨stage, hanswer, rfl, hfinding⟩

/-- A desk whose tracker has a stage, the one it had or the one it has just found. -/
inductive Found (venue : Venue σ) : Desk σ κ → Desk σ κ → Prop where
  | known {desk : Desk σ κ} {stage : Stage} (stage_eq : desk.tracker.stage = some stage) :
      Found venue desk desk
  | finds {desk after : Desk σ κ} (finding : Finding venue desk after) : Found venue desk after

/-- A tracker that looked for its stage has found it. -/
theorem found_of_resume {stage : Stage} (h : Ends (resume venue) desk (.ok stage) after) :
    Found venue desk after ∧ after.tracker.stage = some stage := by
  cases hstage : desk.tracker.stage with
  | some known =>
    obtain ⟨hok, rfl⟩ := resume_of_stage hstage h
    cases hok
    exact ⟨.known hstage, hstage⟩
  | none =>
    obtain ⟨_, herror, -⟩ | ⟨_, hok, hafter, hfinding⟩ := resume_inv hstage h
    · cases herror
    · cases hok
      exact ⟨.finds hfinding, hafter⟩

/-- A tracker that fails to find its stage has only looked and asked. -/
theorem seeks_of_resume_error {error : TradingError}
    (h : Ends (resume venue) desk (.error error) after) :
    desk.tracker.stage = none ∧ Seeks venue desk after ∧ Cause venue desk error := by
  cases hstage : desk.tracker.stage with
  | some known => cases (resume_of_stage hstage h).1
  | none =>
    obtain ⟨_, ⟨⟩, hseeks, hcause⟩ | ⟨_, hok, -⟩ := resume_inv hstage h
    · exact ⟨rfl, hseeks, hcause⟩
    · cases hok

/-- A tracker whose search for a stage fails had none, and only looked. -/
theorem moves_of_resume_error {error : TradingError}
    (h : Ends (resume venue) desk (.error error) after) :
    desk.tracker.stage = none ∧ Moves venue desk after := by
  obtain ⟨hstage, hseeks, -⟩ := seeks_of_resume_error h
  exact ⟨hstage, hseeks.moves⟩

end SwingTrader.Tracker
