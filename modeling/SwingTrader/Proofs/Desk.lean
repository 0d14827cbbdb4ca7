import Mathlib.Tactic.Simproc.ExistsAndEq
import SwingTrader.Proofs.OpenOrders
import SwingTrader.Session

/-!
# SwingTrader — how operations on a desk end

An operation on a desk ends with an answer or an error, and leaves a desk behind
either way. `Desk.Ends` says so as a relation, so that an operation is taken
apart at its binds without opening the monads under it.

* `Desk.ends_bind` — an operation in two parts fails in the first, or ends as
  the second does;
* `Desk.ends_call` — a call of the venue changes what the venue remembers, and
  nothing else, whether it fails or not;
* `Desk.ends_submit_ok`, `Desk.ends_cancel`, `Desk.ends_findOrder_ok` — the calls
  that the orders of a tracker go through;
* `Desk.TakesEntry`, `Desk.TakesExit` — what the ledgers take at the newest bar.
-/

namespace SwingTrader

variable {σ κ α β : Type}

/-- A call of a venue answers or fails, and leaves the venue changed either way. -/
def Replies (request : VenueM σ α) (venue : σ) (reply : Except VenueError α) (after : σ) : Prop :=
  (request.run venue : Except VenueError α × σ) = (reply, after)

/-- A call has one reply and leaves one venue behind. -/
theorem replies_iff {request : VenueM σ α} {venue after after' : σ}
    {reply reply' : Except VenueError α}
    (h : (request.run venue : Except VenueError α × σ) = (reply', after')) :
    Replies request venue reply after ↔ reply = reply' ∧ after = after' := by
  rw [Replies, h, Prod.mk.injEq, eq_comm, @eq_comm _ after']

@[simp] theorem replies_pure {a : α} {venue after : σ} {reply : Except VenueError α} :
    Replies (pure a) venue reply after ↔ reply = .ok a ∧ after = venue :=
  replies_iff rfl

/-- Mapping an answer changes the answer and nothing about the call. -/
theorem run_map_venue (f : α → β) (request : VenueM σ α) (venue : σ) :
    ((f <$> request).run venue : Except VenueError β × σ) =
      ((request.run venue).1.map f, (request.run venue).2) := by
  rw [ExceptT.run_map]
  rfl

/-- A mapped request answers the image of what was answered. -/
@[simp] theorem replies_map_ok {f : α → β} {request : VenueM σ α} {venue after : σ} {b : β} :
    Replies (f <$> request) venue (.ok b) after ↔
      ∃ a, Replies request venue (.ok a) after ∧ b = f a := by
  rw [replies_iff (run_map_venue f request venue)]
  rcases h : request.run venue with ⟨_ | _, _⟩ <;>
    simp [replies_iff h, Except.map, and_comm]

/-- A mapped request fails as the request fails. -/
@[simp] theorem replies_map_error {f : α → β} {request : VenueM σ α} {venue after : σ}
    {reason : VenueError} :
    Replies (f <$> request) venue (.error reason) after ↔
      Replies request venue (.error reason) after := by
  rw [replies_iff (run_map_venue f request venue)]
  rcases h : request.run venue with ⟨_ | _, _⟩ <;>
    simp [replies_iff h, Except.map]

namespace Desk

variable {τ : Type}

/-- What an operation answers, and the desk it leaves behind. -/
def outcome (op : TradeM σ κ τ α) (desk : Desk σ κ τ) :
    Except TradingError α × Desk σ κ τ :=
  op.run desk

/-- An operation ends with an answer and leaves a desk behind. -/
def Ends (op : TradeM σ κ τ α) (desk : Desk σ κ τ) (answer : Except TradingError α)
    (after : Desk σ κ τ) : Prop :=
  outcome op desk = (answer, after)

theorem ends_outcome (op : TradeM σ κ τ α) (desk : Desk σ κ τ) :
    Ends op desk (outcome op desk).1 (outcome op desk).2 :=
  rfl

/-! ## The parts of an operation -/

section Parts

variable {op : TradeM σ κ τ α} {desk after : Desk σ κ τ}

/-- An operation has no end but its outcome. -/
theorem ends_iff {answer answer' : Except TradingError α} {after' : Desk σ κ τ}
    (h : outcome op desk = (answer', after')) :
    Ends op desk answer after ↔ answer = answer' ∧ after = after' := by
  rw [Ends, h, Prod.mk.injEq, eq_comm, @eq_comm _ after']

@[simp] theorem ends_pure {a : α} {answer : Except TradingError α} :
    Ends (pure a : TradeM σ κ τ α) desk answer after ↔ answer = .ok a ∧ after = desk :=
  ends_iff rfl

@[simp] theorem ends_throw {error : TradingError} {answer : Except TradingError α} :
    Ends (throw error : TradeM σ κ τ α) desk answer after ↔ answer = .error error ∧ after = desk :=
  ends_iff rfl

/-- Reading the desk changes nothing. -/
@[simp] theorem ends_get {answer : Except TradingError (Desk σ κ τ)} :
    Ends (get : TradeM σ κ τ (Desk σ κ τ)) desk answer after ↔
      answer = .ok desk ∧ after = desk :=
  ends_iff rfl

/-- Setting the desk cannot fail. -/
@[simp] theorem ends_set {next : Desk σ κ τ} {answer : Except TradingError PUnit} :
    Ends (set next : TradeM σ κ τ PUnit) desk answer after ↔
      answer = .ok ⟨⟩ ∧ after = next :=
  ends_iff rfl

/-- A change of the desk cannot fail. -/
@[simp] theorem ends_modify {change : Desk σ κ τ → Desk σ κ τ}
    {answer : Except TradingError PUnit} :
    Ends (modify change : TradeM σ κ τ PUnit) desk answer after ↔
      answer = .ok ⟨⟩ ∧ after = change desk :=
  ends_iff rfl

/--
The second part of an operation runs on the desk that the first left behind, unless
that failed.
-/
theorem outcome_bind (f : α → TradeM σ κ τ β) :
    outcome (op >>= f) desk =
      match outcome op desk with
      | (.ok a, mid) => outcome (f a) mid
      | (.error error, mid) => (.error error, mid) := by
  -- the bind of the transformer is a match on what the first part answers
  show (match op.run desk with
    | (a, mid) => (ExceptT.bindCont f a mid : Except TradingError β × Desk σ κ τ)) = _
  unfold outcome
  rcases op.run desk with ⟨_ | _, _⟩ <;> rfl

/--
An operation in two parts fails in the first, or ends as the second does on the desk
in between.
-/
@[simp] theorem ends_bind {f : α → TradeM σ κ τ β} {answer : Except TradingError β} :
    Ends (op >>= f) desk answer after ↔
      (∃ error, Ends op desk (.error error) after ∧ answer = .error error) ∨
        ∃ a mid, Ends op desk (.ok a) mid ∧ Ends (f a) mid answer after := by
  unfold Ends
  rw [outcome_bind]
  rcases outcome op desk with ⟨error | a, mid⟩
  · simp only [Prod.mk.injEq, Except.error.injEq, reduceCtorEq, false_and, exists_false, or_false]
    constructor
    · rintro ⟨rfl, rfl⟩
      exact ⟨error, ⟨rfl, rfl⟩, rfl⟩
    · rintro ⟨_, ⟨rfl, rfl⟩, rfl⟩
      exact ⟨rfl, rfl⟩
  · simp only [Prod.mk.injEq, reduceCtorEq, false_and, exists_false, false_or, Except.ok.injEq]
    constructor
    · intro h
      exact ⟨a, mid, ⟨rfl, rfl⟩, h⟩
    · rintro ⟨_, _, ⟨rfl, rfl⟩, h⟩
      exact h

/-- A mapped operation fails as the operation fails, or answers the image of its answer. -/
@[simp] theorem ends_map {f : α → β} {answer : Except TradingError β} :
    Ends (f <$> op) desk answer after ↔
      (∃ error, Ends op desk (.error error) after ∧ answer = .error error) ∨
        ∃ a, Ends op desk (.ok a) after ∧ answer = .ok (f a) := by
  rw [map_eq_pure_bind, ends_bind]
  simp [and_comm]

end Parts

/-! ## What the parts do to a desk -/

variable {desk after : Desk σ κ τ}

/-- The desk once its tracker has moved to a stage. -/
def withStage (desk : Desk σ κ) (stage : Stage) : Desk σ κ :=
  { desk with tracker := { desk.tracker with stage := some stage } }

/-- The desk once the open orders of its tick are forgotten. -/
def forgetting (desk : Desk σ κ τ) : Desk σ κ τ :=
  { desk with openOrders := desk.openOrders.invalidate desk.tick }

/-- The market that the tracker trades. -/
def market (desk : Desk σ κ τ) : Market :=
  desk.tracker.settings.market

/-- The list of open orders that is kept for this tick. -/
def listed? (desk : Desk σ κ τ) : Option (List OpenOrder) :=
  desk.openOrders.at? desk.tick

/-- The settings are read off the desk. -/
@[simp] theorem ends_settings {answer : Except TradingError TrackerSettings} :
    Ends settings desk answer after ↔ answer = .ok desk.tracker.settings ∧ after = desk := by
  simp [settings, and_comm]

/-- Setting the stage sets the stage, and cannot fail. -/
@[simp] theorem ends_setStage {desk after : Desk σ κ} {stage : Stage}
    {answer : Except TradingError Unit} :
    Ends (setStage stage) desk answer after ↔
      answer = .ok () ∧ after = desk.withStage stage := by
  simp [setStage, withStage]

/-- Forgetting the open orders drops the list of this tick, and cannot fail. -/
@[simp] theorem ends_forgetOrders {answer : Except TradingError Unit} :
    Ends forgetOrders desk answer after ↔ answer = .ok () ∧ after = desk.forgetting := by
  simp [forgetOrders, forgetting]

/-- A price rule answers some price, and changes only what the rules remember. -/
@[simp] theorem ends_askPrice {rule : PriceRule κ} {side : Side}
    {answer : Except TradingError Float} :
    Ends (askPrice rule side) desk answer after ↔
      answer = .ok ((rule desk.view side).run desk.rules).1 ∧
        after = { desk with rules := ((rule desk.view side).run desk.rules).2 } := by
  simp only [askPrice, ends_bind, ends_get]
  rcases h : (rule desk.view side).run desk.rules with ⟨price, rules⟩
  simp [h, and_comm]

/--
A decision may fail with an error of the strategy, and changes only what the rules
remember either way.
-/
theorem ends_decide {decision : Decision κ} {answer : Except TradingError Bool} :
    Ends (decide decision) desk answer after ↔
      answer = ((decision desk.view).run desk.rules).1.mapError .strategy ∧
        after = { desk with rules := ((decision desk.view).run desk.rules).2 } := by
  rcases h : (decision desk.view).run desk.rules with ⟨reply, rules⟩
  cases reply with
  | error reason =>
    show _ ↔ answer = .error (.strategy reason) ∧ _
    simp [decide, h, and_comm]
  | ok decided =>
    show _ ↔ answer = .ok decided ∧ _
    simp [decide, h, and_comm]

/-- The newest bar is the last of the feed; without bars there is no market data. -/
theorem ends_newestBar {answer : Except TradingError Nat} :
    Ends newestBar desk answer after ↔
      answer = (match desk.prices.lastIndex? with
        | some index => .ok index
        | none => .error (.strategy .noMarketData)) ∧ after = desk := by
  cases h : desk.prices.lastIndex? <;> simp [newestBar, h]

/-- The newest ticker is that of the feed; without one there is no market data. -/
theorem ends_newestTicker {answer : Except TradingError Ticker} :
    Ends newestTicker desk answer after ↔
      answer = (match desk.prices.ticker with
        | some ticker => .ok ticker
        | none => .error (.strategy .noMarketData)) ∧ after = desk := by
  cases h : desk.prices.ticker <;> simp [newestTicker, h]

/-! ## Calls of the venue -/

/-- A call of the venue ends as the venue replies, with the error of the venue wrapped. -/
theorem ends_call {request : VenueM σ α} {answer : Except TradingError α} :
    Ends (call request) desk answer after ↔
      ∃ reply venue, Replies request desk.venue reply venue ∧
        answer = reply.mapError .venue ∧ after = { desk with venue } := by
  rcases h : request.run desk.venue with ⟨reply, venue⟩
  have hends : Ends (call request) desk answer after ↔
      answer = reply.mapError .venue ∧ after = { desk with venue } := by
    cases reply with
    | error reason =>
      show _ ↔ answer = .error (.venue reason) ∧ _
      simp [call, h, and_comm]
    | ok value =>
      show _ ↔ answer = .ok value ∧ _
      simp [call, h, and_comm]
  simp [hends, replies_iff h]

/-- A call answers what the venue answers. -/
@[simp] theorem ends_call_ok {request : VenueM σ α} {value : α} :
    Ends (call request) desk (.ok value) after ↔
      ∃ venue, Replies request desk.venue (.ok value) venue ∧ after = { desk with venue } := by
  rw [ends_call]
  constructor
  · rintro ⟨reply, venue, hreply, hanswer, rfl⟩
    cases reply with
    | error => cases hanswer
    | ok =>
      cases hanswer
      exact ⟨venue, hreply, rfl⟩
  · rintro ⟨venue, hreply, rfl⟩
    exact ⟨_, venue, hreply, rfl, rfl⟩

/-- A call fails only as the venue fails. -/
@[simp] theorem ends_call_error {request : VenueM σ α} {error : TradingError} :
    Ends (call request) desk (.error error) after ↔
      ∃ reason venue, Replies request desk.venue (.error reason) venue ∧
        error = .venue reason ∧ after = { desk with venue } := by
  rw [ends_call]
  constructor
  · rintro ⟨reply, venue, hreply, hanswer, rfl⟩
    cases reply with
    | error reason =>
      cases hanswer
      exact ⟨reason, venue, hreply, rfl, rfl⟩
    | ok => cases hanswer
  · rintro ⟨reason, venue, hreply, rfl, rfl⟩
    exact ⟨_, venue, hreply, rfl, rfl⟩

/-- The orders listed at a tick are those kept for it, or else those that the venue answers. -/
theorem ends_listOrders_ok {venue : Venue σ} {orders : List OpenOrder} :
    Ends (listOrders venue) desk (.ok orders) after ↔
      (desk.listed? = some orders ∧ after = desk) ∨
        desk.listed? = none ∧ ∃ state,
          Replies (venue.openOrders desk.market) desk.venue (.ok orders) state ∧
            after = { desk with
              venue := state
              openOrders := desk.openOrders.store desk.tick orders } := by
  cases h : desk.openOrders.at? desk.tick with
  | some kept =>
    simp [listOrders, OpenOrderCache.fetch, h, listed?, @eq_comm _ kept]
  | none =>
    simp [listOrders, OpenOrderCache.fetch, h, listed?, market]

/--
The open orders cannot be listed only if no list is kept for this tick and the venue
fails to answer one.
-/
theorem ends_listOrders_error {venue : Venue σ} {error : TradingError} :
    Ends (listOrders venue) desk (.error error) after ↔
      desk.listed? = none ∧ ∃ reason state,
        Replies (venue.openOrders desk.market) desk.venue (.error reason) state ∧
          error = .venue reason ∧ after = { desk with venue := state } := by
  cases h : desk.openOrders.at? desk.tick <;>
    simp [listOrders, OpenOrderCache.fetch, h, listed?, market]

/-- The list kept after listing orders, if one is, is the list that was answered. -/
theorem listed?_of_listOrders {venue : Venue σ} {orders kept : List OpenOrder}
    (h : Ends (listOrders venue) desk (.ok orders) after) (hkept : after.listed? = some kept) :
    kept = orders := by
  obtain ⟨hlisted, rfl⟩ | ⟨-, _, -, rfl⟩ := ends_listOrders_ok.mp h
  · exact Option.some.inj (hkept.symm.trans hlisted)
  · rw [listed?, OpenOrderCache.at?_store] at hkept
    split at hkept
    · exact (Option.some.inj hkept).symm
    · cases hkept

/-- An order is looked up among the orders listed at the tick. -/
theorem ends_findOrder_ok {venue : Venue σ} {id : OrderId} {found : Option OpenOrder} :
    Ends (findOrder venue id) desk (.ok found) after ↔
      ∃ orders, Ends (listOrders venue) desk (.ok orders) after ∧
        found = orders.find? fun order => order.id = id := by
  cases h : desk.openOrders.at? desk.tick <;>
    simp [findOrder, listOrders, OpenOrderCache.find, OpenOrderCache.fetch, h]
  constructor
  · rintro ⟨state, orders, hreply, rfl, rfl⟩
    exact ⟨orders, ⟨state, hreply, rfl⟩, rfl⟩
  · rintro ⟨orders, ⟨state, hreply, rfl⟩, rfl⟩
    exact ⟨state, orders, hreply, rfl, rfl⟩

/-- An order cannot be looked up only if the orders cannot be listed. -/
theorem ends_findOrder_error {venue : Venue σ} {id : OrderId} {error : TradingError} :
    Ends (findOrder venue id) desk (.error error) after ↔
      Ends (listOrders venue) desk (.error error) after := by
  cases h : desk.openOrders.at? desk.tick <;>
    simp [findOrder, listOrders, OpenOrderCache.find, OpenOrderCache.fetch, h]

/--
An order that was submitted carries the name the venue gave it, and the list of this
tick is dropped.
-/
@[simp] theorem ends_submit_ok {venue : Venue σ} {kind : OrderKind} {quantity price : Float}
    {order : PlacedOrder} :
    Ends (submit venue kind quantity price) desk (.ok order) after ↔
      ∃ id state,
        Replies (venue.createOrder desk.market kind quantity price) desk.venue (.ok id) state ∧
          order = { id, kind, quantity, price } ∧
            after = { desk with venue := state }.forgetting := by
  simp [submit, market, and_comm]

/-- A submission fails only as the venue fails, and keeps the list of this tick then. -/
@[simp] theorem ends_submit_error {venue : Venue σ} {kind : OrderKind} {quantity price : Float}
    {error : TradingError} :
    Ends (submit venue kind quantity price) desk (.error error) after ↔
      ∃ reason state,
        Replies (venue.createOrder desk.market kind quantity price) desk.venue (.error reason)
          state ∧
          error = .venue reason ∧ after = { desk with venue := state } := by
  simp [submit, market]

/-- A cancel that cannot be made is answered like one that is refused. -/
theorem ends_cancel {venue : Venue σ} {id : OrderId} {answer : Except TradingError Bool} :
    Ends (cancel venue id) desk answer after ↔
      ∃ reply state, Replies (venue.cancelOrder desk.market id) desk.venue reply state ∧
        match reply with
        | .ok cancelled =>
          answer = .ok cancelled ∧ after = { desk with venue := state }.forgetting
        | .error _ => answer = .ok false ∧ after = { desk with venue := state } := by
  unfold market
  rcases h : (venue.cancelOrder desk.tracker.settings.market id).run desk.venue with ⟨_ | _, _⟩ <;>
    simp [cancel, replies_iff h, h, and_comm]

/-! ## The ledger -/

/-- The ledgers of the desk take an entry of a side at the newest bar. -/
def TakesEntry (desk : Desk σ κ τ) (side : Side) (ledgers : LedgerBook) : Prop :=
  ∃ index, desk.prices.lastIndex? = some index ∧
    desk.ledgers.recordEntry desk.tracker.settings.ledger index side = .ok ledgers

/-- The ledgers of the desk take an exit at the newest bar. -/
def TakesExit (desk : Desk σ κ τ) (ledgers : LedgerBook) : Prop :=
  ∃ index, desk.prices.lastIndex? = some index ∧
    desk.ledgers.recordExit desk.tracker.settings.ledger index = .ok ledgers

/-- An entry is refused when there is no bar, or by the ledger, and then nothing changes. -/
theorem ends_recordEntry {side : Side} {answer : Except TradingError Unit} :
    Ends (recordEntry side) desk answer after ↔
      match desk.prices.lastIndex? with
      | none => answer = .error (.strategy .noMarketData) ∧ after = desk
      | some index =>
        match desk.ledgers.recordEntry desk.tracker.settings.ledger index side with
        | .ok ledgers => answer = .ok () ∧ after = { desk with ledgers }
        | .error error => answer = .error (.ofLedger error) ∧ after = desk := by
  cases hindex : desk.prices.lastIndex? with
  | none => simp [recordEntry, ends_newestBar, hindex, and_comm]
  | some index =>
    cases hrecord : desk.ledgers.recordEntry desk.tracker.settings.ledger index side <;>
      simp [recordEntry, ends_newestBar, hindex, hrecord]

/-- An exit is refused when there is no bar, or by the ledger, and then nothing changes. -/
theorem ends_recordExit {answer : Except TradingError Unit} :
    Ends recordExit desk answer after ↔
      match desk.prices.lastIndex? with
      | none => answer = .error (.strategy .noMarketData) ∧ after = desk
      | some index =>
        match desk.ledgers.recordExit desk.tracker.settings.ledger index with
        | .ok ledgers => answer = .ok () ∧ after = { desk with ledgers }
        | .error error => answer = .error (.ofLedger error) ∧ after = desk := by
  cases hindex : desk.prices.lastIndex? with
  | none => simp [recordExit, ends_newestBar, hindex, and_comm]
  | some index =>
    cases hrecord : desk.ledgers.recordExit desk.tracker.settings.ledger index <;>
      simp [recordExit, ends_newestBar, hindex, hrecord]

/-- An entry is recorded if the ledgers take it at the newest bar. -/
@[simp] theorem ends_recordEntry_ok {side : Side} :
    Ends (recordEntry side) desk (.ok ()) after ↔
      ∃ ledgers, desk.TakesEntry side ledgers ∧ after = { desk with ledgers } := by
  rw [ends_recordEntry]
  cases hindex : desk.prices.lastIndex? with
  | none => simp [TakesEntry, hindex]
  | some index =>
    cases h : desk.ledgers.recordEntry desk.tracker.settings.ledger index side <;>
      simp [TakesEntry, hindex, h]

/-- An entry that cannot be recorded changes nothing. -/
theorem after_of_recordEntry_error {side : Side} {error : TradingError}
    (h : Ends (recordEntry side) desk (.error error) after) : after = desk := by
  rw [ends_recordEntry] at h
  split at h
  · exact h.2
  · split at h
    · cases h.1
    · exact h.2

/-- An exit is recorded if the ledgers take it at the newest bar. -/
@[simp] theorem ends_recordExit_ok :
    Ends recordExit desk (.ok ()) after ↔
      ∃ ledgers, desk.TakesExit ledgers ∧ after = { desk with ledgers } := by
  rw [ends_recordExit]
  cases hindex : desk.prices.lastIndex? with
  | none => simp [TakesExit, hindex]
  | some index =>
    cases h : desk.ledgers.recordExit desk.tracker.settings.ledger index <;>
      simp [TakesExit, hindex, h]

theorem after_of_recordExit_error {error : TradingError}
    (h : Ends recordExit desk (.error error) after) : after = desk := by
  rw [ends_recordExit] at h
  split at h
  · exact h.2
  · split at h
    · cases h.1
    · exact h.2

/-! ## What calls of the venue leave alone -/

/--
Whatever else has changed, the position, its prices and its ledgers have not, and
neither has the time for which lists are kept.
-/
structure Undisturbed (desk after : Desk σ κ τ) : Prop where
  tracker_eq : after.tracker = desk.tracker
  prices_eq : after.prices = desk.prices
  tick_eq : after.tick = desk.tick
  ledgers_eq : after.ledgers = desk.ledgers
  window_eq : after.openOrders.window = desk.openOrders.window

namespace Undisturbed

theorem refl (desk : Desk σ κ τ) : Undisturbed desk desk :=
  ⟨rfl, rfl, rfl, rfl, rfl⟩

theorem remember (desk : Desk σ κ τ) (rules : κ) : Undisturbed desk { desk with rules } :=
  ⟨rfl, rfl, rfl, rfl, rfl⟩

theorem trans {desk mid after : Desk σ κ τ} (h : Undisturbed desk mid)
    (h' : Undisturbed mid after) :
    Undisturbed desk after :=
  ⟨h'.tracker_eq.trans h.tracker_eq, h'.prices_eq.trans h.prices_eq, h'.tick_eq.trans h.tick_eq,
    h'.ledgers_eq.trans h.ledgers_eq, h'.window_eq.trans h.window_eq⟩

theorem market_eq {desk after : Desk σ κ τ} (h : Undisturbed desk after) :
    after.market = desk.market := by
  rw [market, h.tracker_eq, market]

/-- The ledgers take the same entries. -/
theorem takesEntry_iff {side : Side} {ledgers : LedgerBook} (h : Undisturbed desk after) :
    after.TakesEntry side ledgers ↔ desk.TakesEntry side ledgers := by
  rw [TakesEntry, h.prices_eq, h.ledgers_eq, h.tracker_eq, TakesEntry]

/-- The ledgers take the same exits. -/
theorem takesExit_iff {ledgers : LedgerBook} (h : Undisturbed desk after) :
    after.TakesExit ledgers ↔ desk.TakesExit ledgers := by
  rw [TakesExit, h.prices_eq, h.ledgers_eq, h.tracker_eq, TakesExit]

/-- A call of the venue disturbs nothing of the desk. -/
theorem call {request : VenueM σ α} {answer : Except TradingError α}
    (h : Ends (call request) desk answer after) : Undisturbed desk after := by
  obtain ⟨_, _, -, -, rfl⟩ := ends_call.mp h
  exact ⟨rfl, rfl, rfl, rfl, rfl⟩

/-- Listing the open orders disturbs nothing but the list that is kept. -/
theorem listOrders {venue : Venue σ} {answer : Except TradingError (List OpenOrder)}
    (h : Ends (listOrders venue) desk answer after) : Undisturbed desk after := by
  cases answer with
  | error error =>
    obtain ⟨-, _, _, -, -, rfl⟩ := ends_listOrders_error.mp h
    exact ⟨rfl, rfl, rfl, rfl, rfl⟩
  | ok orders =>
    obtain ⟨-, rfl⟩ | ⟨-, _, -, rfl⟩ := ends_listOrders_ok.mp h <;> exact ⟨rfl, rfl, rfl, rfl, rfl⟩

/-- Looking an order up disturbs nothing but the list that is kept. -/
theorem findOrder {venue : Venue σ} {id : OrderId} {found : Option OpenOrder}
    (h : Ends (findOrder venue id) desk (.ok found) after) : Undisturbed desk after := by
  obtain ⟨orders, hlist, -⟩ := ends_findOrder_ok.mp h
  exact .listOrders hlist

/-- A submission disturbs nothing but the list that is kept. -/
theorem submit {venue : Venue σ} {kind : OrderKind} {quantity price : Float} {order : PlacedOrder}
    (h : Ends (submit venue kind quantity price) desk (.ok order) after) :
    Undisturbed desk after := by
  obtain ⟨_, _, -, -, rfl⟩ := ends_submit_ok.mp h
  exact ⟨rfl, rfl, rfl, rfl, rfl⟩

/-- A cancel disturbs nothing but the list that is kept. -/
theorem cancel {venue : Venue σ} {id : OrderId} {answer : Except TradingError Bool}
    (h : Ends (cancel venue id) desk answer after) : Undisturbed desk after := by
  obtain ⟨_ | _, _, -, -, rfl⟩ := ends_cancel.mp h <;> exact ⟨rfl, rfl, rfl, rfl, rfl⟩

/-- An order is found and then cancelled. -/
theorem cancelFound {venue : Venue σ} {id : OrderId} {found : Option OpenOrder} {rules : κ}
    {seen : Desk σ κ τ} {answer : Except TradingError Bool}
    (hfind : Ends (Desk.findOrder venue id) desk (.ok found) seen)
    (hcancel : Ends (Desk.cancel venue id) { seen with rules } answer after) :
    Undisturbed desk after :=
  ((findOrder hfind).trans (remember _ _)).trans (cancel hcancel)

/-- The orders are listed, and then two calls are made. -/
theorem callListed {venue : Venue σ} {orders : List OpenOrder} {first second : VenueM σ α}
    {seen asked : Desk σ κ τ} {answer answer' : Except TradingError α}
    (hlist : Ends (Desk.listOrders venue) desk (.ok orders) seen)
    (hfirst : Ends (Desk.call first) seen answer asked)
    (hsecond : Ends (Desk.call second) asked answer' after) : Undisturbed desk after :=
  ((listOrders hlist).trans (call hfirst)).trans (call hsecond)

end Undisturbed

/-! ## Taking in a ticker -/

/-- A ticker that is recorded is the newest, and its bar is the last. -/
theorem prices_of_record {feed feed' : PriceFeed} {ticker : Ticker}
    (h : feed.record ticker = .ok feed') :
    ∃ bars, feed.bars.push (feed.barOf ticker) = .ok bars ∧
      feed' = { feed with bars, ticker := some ticker } := by
  unfold PriceFeed.record at h
  cases hpush : feed.bars.push (feed.barOf ticker) with
  | error error =>
    rw [hpush] at h
    cases h
  | ok bars =>
    rw [hpush] at h
    cases h
    exact ⟨bars, rfl, rfl⟩

/-- A ticker that is recorded adds one bar. -/
theorem size_of_record {feed feed' : PriceFeed} {ticker : Ticker}
    (h : feed.record ticker = .ok feed') : feed'.bars.size = feed.bars.size + 1 := by
  obtain ⟨bars, hpush, rfl⟩ := prices_of_record h
  exact BarSeries.size_push hpush

/-- The newest bar of a feed is the one its last ticker added. -/
theorem lastIndex?_of_record {feed feed' : PriceFeed} {ticker : Ticker}
    (h : feed.record ticker = .ok feed') : feed'.lastIndex? = some feed.bars.size := by
  simp [PriceFeed.lastIndex?, BarSeries.lastIndex?, size_of_record h]

/-! ## Operations by their first part -/

section First

variable {f : α → TradeM σ κ τ β} {answer : Except TradingError β}

theorem ends_get_bind {f : Desk σ κ τ → TradeM σ κ τ β} :
    Ends (get >>= f) desk answer after ↔ Ends (f desk) desk answer after := by
  simp

theorem ends_set_bind {next : Desk σ κ τ} {f : PUnit → TradeM σ κ τ β} :
    Ends (set next >>= f) desk answer after ↔ Ends (f ⟨⟩) next answer after := by
  simp
  exact ⟨fun ⟨_, h⟩ => h, fun h => ⟨_, h⟩⟩

theorem ends_settings_bind {f : TrackerSettings → TradeM σ κ τ β} :
    Ends (settings >>= f) desk answer after ↔
      Ends (f desk.tracker.settings) desk answer after := by
  simp

/-- The phase that is asked for is that of the stage. -/
theorem currentState_bind {venue : Venue σ} {f : Phase → DeskM σ κ β} :
    TrackerForm.currentState venue >>= f = Tracker.resume venue >>= fun stage => f stage.phase := by
  show (Tracker.resume venue >>= fun stage => pure stage.phase) >>= f = _
  rw [bind_assoc]
  simp only [pure_bind]

theorem ends_setStage_bind {desk after : Desk σ κ} {stage : Stage} {f : Unit → DeskM σ κ β} :
    Ends (setStage stage >>= f) desk answer after ↔
      Ends (f ()) (desk.withStage stage) answer after := by
  simp
  exact ⟨fun ⟨_, h⟩ => h, fun h => ⟨_, h⟩⟩

theorem ends_askPrice_bind {rule : PriceRule κ} {side : Side} {f : Float → TradeM σ κ τ β} :
    Ends (askPrice rule side >>= f) desk answer after ↔
      Ends (f ((rule desk.view side).run desk.rules).1)
        { desk with rules := ((rule desk.view side).run desk.rules).2 } answer after := by
  simp

/-- An operation goes on after a call with its answer, or fails with the call. -/
theorem call_inv {request : VenueM σ α} (h : Ends (call request >>= f) desk answer after) :
    ∃ reply state, Replies request desk.venue reply state ∧
      match reply with
      | .ok value => Ends (f value) { desk with venue := state } answer after
      | .error reason =>
        answer = .error (.venue reason) ∧ after = { desk with venue := state } := by
  obtain ⟨error, hcall, herror⟩ | ⟨value, mid, hcall, h⟩ := ends_bind.mp h
  · obtain ⟨reason, state, hreply, rfl, hafter⟩ := ends_call_error.mp hcall
    exact ⟨.error reason, state, hreply, herror, hafter⟩
  · obtain ⟨state, hreply, rfl⟩ := ends_call_ok.mp hcall
    exact ⟨.ok value, state, hreply, h⟩

/-- What a cancel answers decides how the operation goes on; it never fails by itself. -/
theorem cancel_inv {venue : Venue σ} {id : OrderId} {f : Bool → TradeM σ κ τ β}
    (h : Ends (cancel venue id >>= f) desk answer after) :
    ∃ cancelled mid, Ends (cancel venue id) desk (.ok cancelled) mid ∧
      Ends (f cancelled) mid answer after := by
  obtain ⟨_, h, -⟩ | ⟨cancelled, mid, hcancel, h⟩ := ends_bind.mp h
  · obtain ⟨_ | _, _, -, h, -⟩ := ends_cancel.mp h <;> cases h
  · exact ⟨cancelled, mid, hcancel, h⟩

/-- The ledger takes an entry, or refuses every one of its side and the operation fails. -/
theorem recordEntry_inv {side : Side} {f : Unit → TradeM σ κ τ β}
    (h : Ends (recordEntry side >>= f) desk answer after) :
    (after = desk ∧ (∃ error, answer = .error error) ∧ ∀ ledgers, ¬desk.TakesEntry side ledgers) ∨
      ∃ ledgers, desk.TakesEntry side ledgers ∧ Ends (f ()) { desk with ledgers } answer after := by
  obtain ⟨error, hrecord, herror⟩ | ⟨_, mid, hrecord, h⟩ := ends_bind.mp h
  · refine .inl ⟨after_of_recordEntry_error hrecord, ⟨error, herror⟩,
      fun ledgers htakes => ?_⟩
    cases hrecord.symm.trans (ends_recordEntry_ok.mpr ⟨ledgers, htakes, rfl⟩)
  · obtain ⟨ledgers, htakes, rfl⟩ := ends_recordEntry_ok.mp hrecord
    exact .inr ⟨ledgers, htakes, h⟩

/-- The ledger takes an exit, or refuses every one and the operation fails. -/
theorem recordExit_inv {f : Unit → TradeM σ κ τ β}
    (h : Ends (recordExit >>= f) desk answer after) :
    (after = desk ∧ (∃ error, answer = .error error) ∧ ∀ ledgers, ¬desk.TakesExit ledgers) ∨
      ∃ ledgers, desk.TakesExit ledgers ∧ Ends (f ()) { desk with ledgers } answer after := by
  obtain ⟨error, hrecord, herror⟩ | ⟨_, mid, hrecord, h⟩ := ends_bind.mp h
  · refine .inl ⟨after_of_recordExit_error hrecord, ⟨error, herror⟩,
      fun ledgers htakes => ?_⟩
    cases hrecord.symm.trans (ends_recordExit_ok.mpr ⟨ledgers, htakes, rfl⟩)
  · obtain ⟨ledgers, htakes, rfl⟩ := ends_recordExit_ok.mp hrecord
    exact .inr ⟨ledgers, htakes, h⟩

end First

end Desk

end SwingTrader
