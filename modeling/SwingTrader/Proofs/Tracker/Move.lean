import Mathlib.Logic.Relation
import SwingTrader.Proofs.Desk

/-!
# SwingTrader — the moves of a tracker

Whatever a tracker is asked to do, it does by a few kinds of moves, and between
two of them its stage, its ledger and its orders are in step. What holds of every
desk a tracker can be at is therefore shown once for each move, and not once for
each operation.

* `Tracker.Move` — what a tracker that keeps its position can do at its desk;
* `Tracker.Finding` — how a tracker without a stage finds one;
* `Tracker.Closing` — how a position is closed.
-/

namespace SwingTrader

/-- The order that opened the position, once there is one. -/
def Stage.held : Stage → Option PlacedOrder
  | needExit entry _ | waitForExit entry _ _ => some entry
  | needEnter | waitForEnter _ => none

/-- The order that opened the position of a tracker, once there is one. -/
def Tracker.held (tracker : Tracker) : Option PlacedOrder :=
  tracker.stage.bind Stage.held

namespace Tracker

variable {σ κ α : Type}

open Desk

/-! ## Moves -/

/-- The calls that ask for a number and leave the book alone. -/
inductive Asks (venue : Venue σ) (market : Market) : VenueM σ Float → Prop where
  | balance (currency : String) : Asks venue market (venue.availableBalance currency)
  | minimum : Asks venue market (venue.minimumOrderVolume market)
  | buyFee : Asks venue market (venue.buyFee market)
  | sellFee : Asks venue market (venue.sellFee market)

/-- A call that asks for a number. -/
inductive Ask (venue : Venue σ) : Desk σ κ → Desk σ κ → Prop where
  | call {desk : Desk σ κ} {request : VenueM σ Float} {reply : Except VenueError Float} {state : σ}
      (asks : Asks venue desk.market request) (replies : Replies request desk.venue reply state) :
      Ask venue desk { desk with venue := state }

/-- Any number of calls that ask for a number. -/
abbrev Asking (venue : Venue σ) : Desk σ κ → Desk σ κ → Prop :=
  Relation.ReflTransGen (Ask venue)

/-- To ask for numbers changes what the venue remembers, and nothing else. -/
theorem Asking.after_eq {venue : Venue σ} {desk after : Desk σ κ} (h : Asking venue desk after) :
    ∃ state, after = { desk with venue := state } := by
  induction h with
  | refl => exact ⟨desk.venue, rfl⟩
  | tail _ hask ih =>
    obtain ⟨_, rfl⟩ := ih
    cases hask
    exact ⟨_, rfl⟩

/-- To ask for numbers disturbs nothing. -/
theorem Asking.undisturbed {venue : Venue σ} {desk after : Desk σ κ} (h : Asking venue desk after) :
    Undisturbed desk after := by
  obtain ⟨_, rfl⟩ := h.after_eq
  exact ⟨rfl, rfl, rfl, rfl, rfl⟩

/-- The order at the venue that a stage waits for. -/
def awaited : Stage → Option PlacedOrder
  | .waitForEnter entry => some entry
  | .waitForExit _ exit _ => some exit
  | _ => none

/-- One more tick is counted for an order. -/
def Counted (order order' : PlacedOrder) : Prop :=
  order' = order.countNotExecuted ∨ order' = order.countPartiallyExecuted

theorem Counted.side_eq {order order' : PlacedOrder} (h : Counted order order') :
    order'.side = order.side := by
  obtain rfl | rfl := h <;> rfl

/-- Counting a tick leaves the kind of an order. -/
theorem Counted.kind_eq {order order' : PlacedOrder} (h : Counted order order') :
    order'.kind = order.kind := by
  obtain rfl | rfl := h <;> rfl

/-- Counting a tick leaves the price of an order. -/
theorem Counted.price_eq {order order' : PlacedOrder} (h : Counted order order') :
    order'.price = order.price := by
  obtain rfl | rfl := h <;> rfl

theorem Counted.id_eq {order order' : PlacedOrder} (h : Counted order order') :
    order'.id = order.id := by
  obtain rfl | rfl := h <;> rfl

/--
The quantity that a position is counted at: all that is available of a long, and
a given quantity of a short.
-/
def Holds (venue : Venue σ) (desk : Desk σ κ) (side : Side) (ofShort quantity : Float)
    (after : Desk σ κ) : Prop :=
  match side with
  | .long => Ends (call (venue.availableBalance desk.market.base)) desk (.ok quantity) after
  | .short => quantity = ofShort ∧ after = desk

/-- To find out what is held disturbs nothing. -/
theorem Holds.undisturbed {venue : Venue σ} {desk after : Desk σ κ} {side : Side}
    {ofShort quantity : Float} (h : Holds venue desk side ofShort quantity after) :
    Undisturbed desk after := by
  cases side with
  | long => exact .call h
  | short =>
    obtain ⟨-, rfl⟩ := h
    exact .refl _

/-- An order is found and what is held is counted, and then the order is cancelled. -/
theorem undisturbed_of_part {venue : Venue σ} {desk seen asked after : Desk σ κ}
    {entry : PlacedOrder} {order : OpenOrder} {held : Float} {answer : Except TradingError Bool}
    (finds : Ends (findOrder venue entry.id) desk (.ok (some order)) seen)
    (holds : Holds venue seen entry.side order.filledQuantity held asked)
    (cancels : Ends (cancel venue entry.id) asked answer after) : Undisturbed desk after :=
  ((Undisturbed.findOrder finds).trans holds.undisturbed).trans (.cancel cancels)

/-- What a tracker that keeps its position can do at its desk. -/
inductive Move (venue : Venue σ) : Desk σ κ → Desk σ κ → Prop where
  | remember (desk : Desk σ κ) (rules : κ) : Move venue desk { desk with rules }
  | ask {desk after : Desk σ κ} (asks : Ask venue desk after) : Move venue desk after
  | list {desk after : Desk σ κ} {answer : Except TradingError (List OpenOrder)}
      (lists : Ends (listOrders venue) desk answer after) : Move venue desk after
  | refuseEntry {desk : Desk σ κ} {kind : OrderKind} {quantity price : Float}
      {reason : VenueError} {state : σ}
      (stage_eq : desk.tracker.stage = some .needEnter) (enters : kind.isEnter = true)
      (replies : Replies (venue.createOrder desk.market kind quantity price) desk.venue
        (.error reason) state) :
      Move venue desk { desk with venue := state }
  | refuseExit {desk asked : Desk σ κ} {entry : PlacedOrder} {ratchet? : Option Ratchet}
      {quantity price : Float} {reason : VenueError} {state : σ}
      (stage_eq : desk.tracker.stage = some (.needExit entry ratchet?))
      (holds : Holds venue desk entry.side 0.0 quantity asked)
      (replies : Replies (venue.createOrder asked.market entry.side.exitKind quantity price)
        asked.venue (.error reason) state) :
      Move venue desk { asked with venue := state }
  | enter {desk after : Desk σ κ} {side : Side} {quantity price : Float} {order : PlacedOrder}
      (stage_eq : desk.tracker.stage = some .needEnter)
      (submits : Ends (submit venue side.enterKind quantity price) desk (.ok order) after) :
      Move venue desk (after.withStage (.waitForEnter order))
  | leave {desk asked after : Desk σ κ} {entry order : PlacedOrder}
      {ratchet? : Option Ratchet} {ratchet : Ratchet} {quantity price : Float}
      (stage_eq : desk.tracker.stage = some (.needExit entry ratchet?))
      (aims : ratchet.side = (ratchet?.map Ratchet.side).getD entry.side)
      (holds : Holds venue desk entry.side 0.0 quantity asked)
      (submits : Ends (submit venue entry.side.exitKind quantity price) asked (.ok order) after) :
      Move venue desk (after.withStage (.waitForExit entry order ratchet))
  | waitEnter {desk : Desk σ κ} {entry entry' : PlacedOrder}
      (stage_eq : desk.tracker.stage = some (.waitForEnter entry))
      (counted : Counted entry entry') :
      Move venue desk (desk.withStage (.waitForEnter entry'))
  | waitExit {desk : Desk σ κ} {entry exit exit' : PlacedOrder} {ratchet : Ratchet}
      (stage_eq : desk.tracker.stage = some (.waitForExit entry exit ratchet))
      (counted : Counted exit exit') :
      Move venue desk (desk.withStage (.waitForExit entry exit' ratchet))
  | keep {desk after : Desk σ κ} {stage : Stage} {order : PlacedOrder}
      (stage_eq : desk.tracker.stage = some stage) (awaits : awaited stage = some order)
      (cancels : Ends (cancel venue order.id) desk (.ok false) after) : Move venue desk after
  | fill {desk seen : Desk σ κ} {entry : PlacedOrder} {ledgers : LedgerBook}
      (stage_eq : desk.tracker.stage = some (.waitForEnter entry))
      (finds : Ends (findOrder venue entry.id) desk (.ok none) seen)
      (takes : seen.TakesEntry entry.side ledgers) :
      Move venue desk ({ seen with ledgers }.withStage (.needExit entry none))
  | giveUp {desk seen after : Desk σ κ} {entry : PlacedOrder} {order : OpenOrder} {rules : κ}
      (stage_eq : desk.tracker.stage = some (.waitForEnter entry))
      (finds : Ends (findOrder venue entry.id) desk (.ok (some order)) seen)
      (whole : order.isPartiallyFilled = false)
      (cancels : Ends (cancel venue entry.id) { seen with rules } (.ok true) after) :
      Move venue desk (after.withStage .needEnter)
  | takePart {desk seen asked after : Desk σ κ} {entry entry' : PlacedOrder} {order : OpenOrder}
      {held : Float} {ledgers : LedgerBook}
      (stage_eq : desk.tracker.stage = some (.waitForEnter entry)) (counted : Counted entry entry')
      (finds : Ends (findOrder venue entry.id) desk (.ok (some order)) seen)
      (part : order.isPartiallyFilled = true)
      (holds : Holds venue seen entry.side order.filledQuantity held asked)
      (cancels : Ends (cancel venue entry.id) asked (.ok true) after)
      (takes : after.TakesEntry entry.side ledgers) :
      Move venue desk ({ after with ledgers }.withStage (.needExit (entry'.withQuantity held) none))
  | withdraw {desk seen after : Desk σ κ} {entry exit : PlacedOrder} {order : OpenOrder}
      {ratchet ratchet' : Ratchet} {rules : κ}
      (stage_eq : desk.tracker.stage = some (.waitForExit entry exit ratchet))
      (aims : ratchet'.side = ratchet.side)
      (finds : Ends (findOrder venue exit.id) desk (.ok (some order)) seen)
      (cancels : Ends (cancel venue exit.id) { seen with rules } (.ok true) after) :
      Move venue desk (after.withStage (.needExit entry (some ratchet')))

/-- Any number of moves. -/
abbrev Moves (venue : Venue σ) : Desk σ κ → Desk σ κ → Prop :=
  Relation.ReflTransGen (Move venue)

/-- To ask for numbers is a number of moves. -/
theorem Asking.moves {venue : Venue σ} {desk after : Desk σ κ} (h : Asking venue desk after) :
    Moves venue desk after :=
  Relation.ReflTransGen.mono (fun _ _ hask => Move.ask hask) _ _ h

/-- A tracker without a stage may look, and fail to find one. -/
theorem Moves.stage_eq_none {venue : Venue σ} {desk after : Desk σ κ} (h : Moves venue desk after)
    (hstage : desk.tracker.stage = none) : after.tracker.stage = none := by
  induction h with
  | refl => exact hstage
  | tail _ hmove ih =>
    cases hmove with
    | remember => exact ih
    | ask asks =>
      -- asking and listing leave the tracker alone
      cases asks
      exact ih
    | list lists => rw [(Undisturbed.listOrders lists).tracker_eq, ih]
    | refuseEntry stage_eq _ _ | refuseExit stage_eq _ _ | enter stage_eq _ | leave stage_eq _ _ _
    | waitEnter stage_eq _ | waitExit stage_eq _ | keep stage_eq _ _ | fill stage_eq _ _
    | giveUp stage_eq _ _ _ | takePart stage_eq _ _ _ _ _ _ | withdraw stage_eq _ _ _ =>
      cases ih.symm.trans stage_eq

/--
An operation goes on by moves. It may be cut off between the cancel of an entry that is
filled in part and the stage that is to follow, and then it fails.
-/
inductive Proceeds (venue : Venue σ) (desk : Desk σ κ) :
    Except TradingError α → Desk σ κ → Prop where
  | moves {answer : Except TradingError α} {after : Desk σ κ} (moves : Moves venue desk after) :
      Proceeds venue desk answer after
  | cutOff {error : TradingError} {seen asked after : Desk σ κ} {entry : PlacedOrder}
      {order : OpenOrder} {held : Float}
      (stage_eq : desk.tracker.stage = some (.waitForEnter entry))
      (finds : Ends (findOrder venue entry.id) desk (.ok (some order)) seen)
      (part : order.isPartiallyFilled = true)
      (holds : Holds venue seen entry.side order.filledQuantity held asked)
      (cancels : Ends (cancel venue entry.id) asked (.ok true) after) :
      Proceeds venue desk (.error error) after

/-- An operation that ends with an answer was not cut off. -/
theorem Proceeds.moves_of_ok {venue : Venue σ} {desk after : Desk σ κ} {value : α}
    (h : Proceeds venue desk (.ok value : Except TradingError α) after) :
    Moves venue desk after := by
  cases h
  assumption

/-! ## Failing -/

/-- The open orders are looked at, as far as they can be, and then numbers are asked for. -/
def Seeks (venue : Venue σ) (desk after : Desk σ κ) : Prop :=
  ∃ answer seen, Ends (listOrders venue) desk answer seen ∧ Asking venue seen after

/-- What an operation can fail by in the phase that it belongs to. -/
inductive Cause (venue : Venue σ) (desk : Desk σ κ) : TradingError → Prop where
  | venue (reason : VenueError) : Cause venue desk (.venue reason)
  | ambiguous (openOrders : Nat) : Cause venue desk (.strategy (.ambiguousResume openOrders))
  | unpriced (ticker_eq : desk.prices.ticker = none) : Cause venue desk (.strategy .noMarketData)
  | entry {side : Side} {error : TradingError} (unheld : desk.tracker.held = none)
      (refuses : ∀ ledgers, ¬desk.TakesEntry side ledgers) : Cause venue desk error
  | exit {order : PlacedOrder} {seen : Desk σ κ} {error : TradingError}
      (held : desk.tracker.held.isSome) (awaits : desk.tracker.stage.bind awaited = some order)
      (finds : Ends (findOrder venue order.id) desk (.ok none) seen)
      (refuses : ∀ ledgers, ¬desk.TakesExit ledgers) : Cause venue desk error

/-- To look for the orders disturbs nothing. -/
theorem Seeks.undisturbed {venue : Venue σ} {desk after : Desk σ κ} (h : Seeks venue desk after) :
    Undisturbed desk after := by
  obtain ⟨answer, seen, hlist, hasking⟩ := h
  exact (Undisturbed.listOrders hlist).trans hasking.undisturbed

/-- To look for the orders is a number of moves. -/
theorem Seeks.moves {venue : Venue σ} {desk after : Desk σ κ} (h : Seeks venue desk after) :
    Moves venue desk after := by
  obtain ⟨answer, seen, hlist, hasking⟩ := h
  exact .head (.list hlist) hasking.moves

/-! ## Finding and closing -/

/-- How a tracker without a stage finds one. -/
inductive Finding (venue : Venue σ) : Desk σ κ → Desk σ κ → Prop where
  | flat {desk seen asked after : Desk σ κ} {base minimum : Float}
      (stage_eq : desk.tracker.stage = none)
      (lists : Ends (listOrders venue) desk (.ok []) seen)
      (holds : Ends (call (venue.availableBalance desk.market.base)) seen (.ok base) asked)
      (least : Ends (call (venue.minimumOrderVolume desk.market)) asked (.ok minimum) after)
      (not_above : base ≤ minimum) :
      Finding venue desk (after.withStage .needEnter)
  | held {desk seen asked after : Desk σ κ} {base minimum price : Float} {ledgers : LedgerBook}
      (stage_eq : desk.tracker.stage = none)
      (lists : Ends (listOrders venue) desk (.ok []) seen)
      (holds : Ends (call (venue.availableBalance desk.market.base)) seen (.ok base) asked)
      (least : Ends (call (venue.minimumOrderVolume desk.market)) asked (.ok minimum) after)
      (above : ¬ base ≤ minimum) (takes : after.TakesEntry .long ledgers) :
      Finding venue desk ({ after with ledgers }.withStage
        (.needExit { id := .synthetic, kind := .buy, quantity := base, price } none))
  | enter {desk seen : Desk σ κ} {order : OpenOrder}
      (stage_eq : desk.tracker.stage = none)
      (lists : Ends (listOrders venue) desk (.ok [order]) seen)
      (enters : order.kind.isEnter = true) :
      Finding venue desk (seen.withStage (.waitForEnter (adopt order)))
  | leave {desk seen : Desk σ κ} {order : OpenOrder} {quantity price : Float} {ledgers : LedgerBook}
      (stage_eq : desk.tracker.stage = none)
      (lists : Ends (listOrders venue) desk (.ok [order]) seen)
      (leaves : order.kind.isEnter = false) (takes : seen.TakesEntry order.kind.side ledgers) :
      Finding venue desk ({ seen with ledgers }.withStage
        (.waitForExit
          { id := .synthetic, kind := order.kind.side.enterKind, quantity, price }
          (adopt order) { side := order.kind.side, level := some order.price }))

/-- How a position is closed: its exit is not listed any more. -/
inductive Closing (venue : Venue σ) : Desk σ κ → ClosedTrade → Desk σ κ → Prop where
  | close {desk seen valued : Desk σ κ} {entry exit : PlacedOrder} {ratchet : Ratchet}
      {trade : ClosedTrade} {ledgers : LedgerBook}
      (stage_eq : desk.tracker.stage = some (.waitForExit entry exit ratchet))
      (finds : Ends (findOrder venue exit.id) desk (.ok none) seen)
      (values : Ends (closedTrade venue entry exit) seen (.ok trade) valued)
      (takes : valued.TakesExit ledgers) :
      Closing venue desk trade ({ valued with ledgers }.withStage .needEnter)

end Tracker

end SwingTrader
