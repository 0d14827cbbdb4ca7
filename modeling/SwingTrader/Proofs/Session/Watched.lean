import SwingTrader.Proofs.Session.Tick
import SwingTrader.Proofs.Tracker.Setback

/-!
# SwingTrader — a venue that is watched

A venue that is watched answers as the venue itself does. So what is done at a
desk whose venue is watched is done at the desk of the venue itself, once the
journal is left out; and the journal tells what was done on the way.

* `Desk.unwatched` — a desk without the journal of its venue;
* `Tracker.Move.unwatched`, `Tracker.Finding.unwatched`, `Tracker.Closing.unwatched` — what
  is done at the one is done at the other;
* `Tracker.Offers`, `Tracker.Move.offers` — a long is only ever offered for sale in the
  stage that needs an exit, for all that the venue says is available.
-/

namespace SwingTrader

variable {σ κ α : Type} {venue : Venue σ}

/-- A call is replied to as if nobody wrote it down. -/
theorem replies_unwatched {describe : Answer α → VenueCall} {request : VenueM σ α}
    {state after : Journaled σ} {reply : Answer α}
    (h : Replies (Venue.journal describe request) state reply after) :
    Replies request state.venue reply after.venue := by
  cases h
  rfl

/-! ## Without the journal -/

namespace Desk

/-- The desk without the journal of its venue. -/
def unwatched (desk : Desk (Journaled σ) κ) : Desk σ κ where
  venue := desk.venue.venue
  prices := desk.prices
  tick := desk.tick
  openOrders := desk.openOrders
  ledgers := desk.ledgers
  tracker := desk.tracker
  rules := desk.rules

section Unwatched

variable {desk after : Desk (Journaled σ) κ}

theorem unwatched_withStage (desk : Desk (Journaled σ) κ) (stage : Stage) :
    (desk.withStage stage).unwatched = desk.unwatched.withStage stage :=
  rfl

theorem unwatched_withRules (desk : Desk (Journaled σ) κ) (rules : κ) :
    ({ desk with rules }).unwatched = { desk.unwatched with rules } :=
  rfl

/-- The ledgers take the same entries without the journal. -/
theorem takesEntry_unwatched {side : Side} {ledgers : LedgerBook} :
    desk.unwatched.TakesEntry side ledgers ↔ desk.TakesEntry side ledgers :=
  Iff.rfl

/-- The ledgers take the same exits without the journal. -/
theorem takesExit_unwatched {ledgers : LedgerBook} :
    desk.unwatched.TakesExit ledgers ↔ desk.TakesExit ledgers :=
  Iff.rfl

/-- A call ends as it does without the journal. -/
theorem ends_call_unwatched {describe : Answer α → VenueCall} {request : VenueM σ α}
    {answer : Except TradingError α}
    (h : Ends (call (Venue.journal describe request)) desk answer after) :
    Ends (call request) desk.unwatched answer after.unwatched := by
  obtain ⟨reply, state, hreply, hanswer, rfl⟩ := ends_call.mp h
  exact ends_call.mpr ⟨reply, state.venue, replies_unwatched hreply, hanswer, rfl⟩

/-- The orders are listed as they are without the journal. -/
theorem ends_listOrders_unwatched {answer : Except TradingError (List OpenOrder)}
    (h : Ends (listOrders venue.journaled) desk answer after) :
    Ends (listOrders venue) desk.unwatched answer after.unwatched := by
  cases answer with
  | error error =>
    obtain ⟨hnone, reason, state, hreply, herror, rfl⟩ := ends_listOrders_error.mp h
    exact ends_listOrders_error.mpr
      ⟨hnone, reason, state.venue, replies_unwatched hreply, herror, rfl⟩
  | ok orders =>
    obtain ⟨hlisted, rfl⟩ | ⟨hnone, state, hreply, rfl⟩ := ends_listOrders_ok.mp h
    · exact ends_listOrders_ok.mpr (.inl ⟨hlisted, rfl⟩)
    · exact ends_listOrders_ok.mpr (.inr ⟨hnone, state.venue, replies_unwatched hreply, rfl⟩)

/-- An order is looked up as it is without the journal. -/
theorem ends_findOrder_unwatched {id : OrderId} {found : Option OpenOrder}
    (h : Ends (findOrder venue.journaled id) desk (.ok found) after) :
    Ends (findOrder venue id) desk.unwatched (.ok found) after.unwatched := by
  obtain ⟨orders, hlist, hfound⟩ := ends_findOrder_ok.mp h
  exact ends_findOrder_ok.mpr ⟨orders, ends_listOrders_unwatched hlist, hfound⟩

/-- An order is submitted as it is without the journal. -/
theorem ends_submit_unwatched {kind : OrderKind} {quantity price : Float} {order : PlacedOrder}
    (h : Ends (submit venue.journaled kind quantity price) desk (.ok order) after) :
    Ends (submit venue kind quantity price) desk.unwatched (.ok order) after.unwatched := by
  obtain ⟨id, state, hreply, horder, rfl⟩ := ends_submit_ok.mp h
  exact ends_submit_ok.mpr ⟨id, state.venue, replies_unwatched hreply, horder, rfl⟩

/-- An order is cancelled as it is without the journal. -/
theorem ends_cancel_unwatched {id : OrderId} {answer : Except TradingError Bool}
    (h : Ends (cancel venue.journaled id) desk answer after) :
    Ends (cancel venue id) desk.unwatched answer after.unwatched := by
  obtain ⟨reply, state, hreply, hafter⟩ := ends_cancel.mp h
  refine ends_cancel.mpr ⟨reply, state.venue, replies_unwatched hreply, ?_⟩
  cases reply with
  | error =>
    obtain ⟨hanswer, rfl⟩ := hafter
    exact ⟨hanswer, rfl⟩
  | ok =>
    obtain ⟨hanswer, rfl⟩ := hafter
    exact ⟨hanswer, rfl⟩

end Unwatched

end Desk

namespace Tracker

open Desk

variable {desk after : Desk (Journaled σ) κ}

/-- What is asked of a venue that is watched can be asked without the journal. -/
theorem Ask.unwatched (h : Ask venue.journaled desk after) :
    Ask venue desk.unwatched after.unwatched := by
  obtain ⟨asks, replies⟩ := h
  cases asks with
  | balance currency => exact .call (.balance currency) (replies_unwatched replies)
  | minimum => exact .call .minimum (replies_unwatched replies)
  | buyFee => exact .call .buyFee (replies_unwatched replies)
  | sellFee => exact .call .sellFee (replies_unwatched replies)

/-- What is held at a venue that is watched is held without the journal. -/
theorem Holds.unwatched {side : Side} {ofShort quantity : Float}
    (h : Holds venue.journaled desk side ofShort quantity after) :
    Holds venue desk.unwatched side ofShort quantity after.unwatched := by
  cases side with
  | long => exact ends_call_unwatched h
  | short =>
    obtain ⟨hquantity, rfl⟩ := h
    exact ⟨hquantity, rfl⟩

/-- A move at a venue that is watched is one without the journal. -/
theorem Move.unwatched (h : Move venue.journaled desk after) :
    Move venue desk.unwatched after.unwatched := by
  cases h with
  -- each move is made of the same calls; where a stage is set the journal is taken off
  -- the desk in between
  | remember rules => exact .remember desk.unwatched rules
  | ask asks => exact .ask asks.unwatched
  | list lists => exact .list (ends_listOrders_unwatched lists)
  | refuseEntry stage_eq enters replies =>
    have hreplies := replies_unwatched replies
    exact .refuseEntry (by exact stage_eq) enters (by exact hreplies)
  | refuseExit stage_eq holds replies =>
    have hreplies := replies_unwatched replies
    exact .refuseExit (by exact stage_eq) holds.unwatched (by exact hreplies)
  | enter stage_eq submits =>
    rw [unwatched_withStage]
    exact .enter stage_eq (ends_submit_unwatched submits)
  | leave stage_eq aims holds submits =>
    rw [unwatched_withStage]
    exact .leave stage_eq aims holds.unwatched (ends_submit_unwatched submits)
  | waitEnter stage_eq counted =>
    rw [unwatched_withStage]
    exact .waitEnter stage_eq counted
  | waitExit stage_eq counted =>
    rw [unwatched_withStage]
    exact .waitExit stage_eq counted
  | keep stage_eq awaits cancels => exact .keep stage_eq awaits (ends_cancel_unwatched cancels)
  | fill stage_eq finds takes =>
    have hmove := Move.fill (by exact stage_eq) (ends_findOrder_unwatched finds)
      (takesEntry_unwatched.mpr takes)
    exact hmove
  | giveUp stage_eq finds whole cancels =>
    rw [unwatched_withStage]
    have hcancels := ends_cancel_unwatched cancels
    rw [unwatched_withRules] at hcancels
    exact .giveUp stage_eq (ends_findOrder_unwatched finds) whole hcancels
  | takePart stage_eq counted finds part holds cancels takes =>
    have hmove := Move.takePart (by exact stage_eq) counted (ends_findOrder_unwatched finds) part
      holds.unwatched (ends_cancel_unwatched cancels) (takesEntry_unwatched.mpr takes)
    exact hmove
  | withdraw stage_eq aims finds cancels =>
    rw [unwatched_withStage]
    have hcancels := ends_cancel_unwatched cancels
    rw [unwatched_withRules] at hcancels
    exact .withdraw stage_eq aims (ends_findOrder_unwatched finds) hcancels

/-- What is found at a venue that is watched is found without the journal. -/
theorem Finding.unwatched (h : Finding venue.journaled desk after) :
    Finding venue desk.unwatched after.unwatched := by
  cases h with
  | flat stage_eq lists holds least not_above =>
    rw [unwatched_withStage]
    exact .flat stage_eq (ends_listOrders_unwatched lists) (ends_call_unwatched holds)
      (ends_call_unwatched least) not_above
  | @held _ _ _ base minimum price ledgers stage_eq lists holds least above takes =>
    have hfinding := @Finding.held _ _ venue desk.unwatched _ _ _ base minimum price ledgers
      stage_eq (ends_listOrders_unwatched lists) (ends_call_unwatched holds)
      (ends_call_unwatched least) above (takesEntry_unwatched.mpr takes)
    exact hfinding
  | enter stage_eq lists enters =>
    rw [unwatched_withStage]
    exact .enter stage_eq (ends_listOrders_unwatched lists) enters
  | @leave _ order quantity price ledgers stage_eq lists leaves takes =>
    have hfinding := @Finding.leave _ _ venue desk.unwatched _ order quantity price ledgers
      stage_eq (ends_listOrders_unwatched lists) leaves (takesEntry_unwatched.mpr takes)
    exact hfinding

/-- A trade is made up as it is without the journal. -/
theorem ends_closedTrade_unwatched {entry exit : PlacedOrder} {trade : ClosedTrade}
    (h : Ends (closedTrade venue.journaled entry exit) desk (.ok trade) after) :
    Ends (closedTrade venue entry exit) desk.unwatched (.ok trade) after.unwatched := by
  obtain ⟨buy, sell, mid, hbuy, hsell, rfl⟩ := closedTrade_ok h
  rw [closedTrade, ends_settings_bind]
  refine ends_bind.mpr (.inr ⟨buy, mid.unwatched, ends_call_unwatched hbuy, ?_⟩)
  exact ends_bind.mpr
    (.inr ⟨sell, after.unwatched, ends_call_unwatched hsell, ends_pure.mpr ⟨rfl, rfl⟩⟩)

/-- A trade that is closed at a venue that is watched is closed without the journal. -/
theorem Closing.unwatched {trade : ClosedTrade} (h : Closing venue.journaled desk trade after) :
    Closing venue desk.unwatched trade after.unwatched := by
  obtain ⟨stage_eq, finds, values, takes⟩ := h
  have hclosing := Closing.close (by exact stage_eq) (ends_findOrder_unwatched finds)
    (ends_closedTrade_unwatched values) (takesExit_unwatched.mpr takes)
  exact hclosing

end Tracker

/-! ## What is sold and what is cancelled -/

namespace VenueCall

/-- The call was to sell. -/
def Sells : VenueCall → Prop
  | createOrder _ .sell _ _ _ => True
  | _ => False

/-- The call took an order off the book. -/
def Cancels : VenueCall → Prop
  | cancelOrder _ _ (.ok true) => True
  | _ => False

theorem Looks.not_sells {call : VenueCall} (h : call.Looks) : ¬call.Sells := by
  cases call with
  | createOrder => exact h.elim
  | _ => exact not_false

/-- An order of another kind does not sell. -/
theorem not_sells_createOrder {market : Market} {kind : OrderKind} {quantity price : Float}
    {answer : Answer OrderId} (h : kind ≠ .sell) :
    ¬(createOrder market kind quantity price answer).Sells := by
  cases kind with
  | sell => exact absurd rfl h
  | _ => exact not_false

end VenueCall

namespace Desk

section Calls

variable {P Q R : VenueCall → Prop} {desk mid after : Desk (Journaled σ) κ}

/-- What holds of every call on the way holds of those on each part of it. -/
theorem Calls.split (h : Calls P desk after) (hfirst : Calls Q desk mid)
    (hrest : Calls R mid after) :
    Calls P desk mid ∧ Calls P mid after := by
  obtain ⟨calls, hcalls, hall⟩ := h
  obtain ⟨first, hmid, -⟩ := hfirst
  obtain ⟨rest, hafter, -⟩ := hrest
  rw [hafter, hmid, ← List.append_assoc, List.append_left_inj] at hcalls
  subst hcalls
  exact ⟨⟨first, hmid, fun call hcall => hall call (List.mem_append_right _ hcall)⟩,
    rest, hafter, fun call hcall => hall call (List.mem_append_left _ hcall)⟩

/-- Where there are only calls that look, nothing is sold. -/
theorem Calls.no_sale (h : Calls VenueCall.Looks desk after) :
    Calls (fun call => ¬call.Sells) desk after :=
  h.mono fun _ => VenueCall.Looks.not_sells

theorem Calls.of_cons {call : VenueCall} (h : Calls P desk after)
    (hcons : after.venue.calls = call :: desk.venue.calls) : P call := by
  obtain ⟨calls, hcalls, hall⟩ := h
  obtain rfl : calls = [call] := List.append_cancel_right (hcalls.symm.trans hcons)
  exact hall call (List.mem_singleton_self call)

end Calls

end Desk

namespace Tracker

open Desk

section Offers

variable {desk seen asked after : Desk (Journaled σ) κ}

/-- Looking an order up makes only calls that look. -/
theorem calls_of_find {id : OrderId} {answer : Except TradingError (Option OpenOrder)}
    (h : Ends (findOrder venue.journaled id) desk answer after) :
    Calls VenueCall.Looks desk after :=
  Seeks.calls (find_seeks h)

theorem Holds.calls {side : Side} {ofShort quantity : Float}
    (h : Holds venue.journaled desk side ofShort quantity after) :
    Calls VenueCall.Looks desk after := by
  cases side with
  | long => exact Asking.calls (onlyAsks_call (.balance _) rfl h)
  | short =>
    obtain ⟨-, rfl⟩ := h
    exact .of_eq rfl

/-- A cancel sells nothing. -/
theorem no_sale_of_cancel {id : OrderId} {cancelled : Bool}
    (h : Ends (cancel venue.journaled id) desk (.ok cancelled) after) :
    Calls (fun call => ¬call.Sells) desk after := by
  obtain ⟨_ | _, state, hreply, -, rfl⟩ := ends_cancel.mp h
  · exact .of_replies hreply rfl not_false
  · exact .of_replies hreply rfl not_false

/--
A long is offered for sale: all that is answered to be available, in the stage that
needs an exit.
-/
inductive Offers (venue : Venue σ) : Desk σ κ → Desk σ κ → Prop where
  | exit {desk asked after : Desk σ κ} {entry : PlacedOrder} {ratchet? : Option Ratchet}
      {quantity price : Float} {answer : Answer OrderId}
      (stage_eq : desk.tracker.stage = some (.needExit entry ratchet?))
      (side_eq : entry.side = .long)
      (holds : Ends (call (venue.availableBalance desk.market.base)) desk (.ok quantity) asked)
      (replies : Replies (venue.createOrder asked.market .sell quantity price) asked.venue answer
        after.venue) : Offers venue desk after

/-- A tracker sells nothing but what it offers for sale. -/
theorem Move.offers (h : Move venue.journaled desk after) :
    Calls (fun call => ¬call.Sells) desk after ∨ Offers venue.journaled desk after := by
  cases h with
  | remember => exact .inl (.of_eq rfl)
  | ask asks => exact .inl asks.calls.no_sale
  | list lists => exact .inl (calls_of_listOrders lists).no_sale
  | refuseEntry _ enters replies =>
    -- an entry is never to sell
    refine .inl (.of_replies replies rfl (VenueCall.not_sells_createOrder ?_))
    rintro rfl
    cases enters
  | @refuseExit asked entry _ _ _ _ _ stage_eq holds replies =>
    -- only the exit of a long sells
    cases hside : entry.side with
    | long =>
      rw [hside] at holds replies
      exact .inr (.exit stage_eq hside holds replies)
    | short =>
      rw [hside] at replies
      exact .inl (holds.calls.no_sale.trans
        (.of_replies replies rfl (VenueCall.not_sells_createOrder nofun)))
  | @enter _ side _ _ _ _ submits =>
    obtain ⟨id, state, hreply, -, rfl⟩ := ends_submit_ok.mp submits
    refine .inl (.of_replies hreply rfl (VenueCall.not_sells_createOrder ?_))
    cases side <;> exact nofun
  | @leave _ _ entry _ _ _ _ _ stage_eq _ holds submits =>
    -- the same of an exit that is not refused
    obtain ⟨id, state, hreply, -, rfl⟩ := ends_submit_ok.mp submits
    cases hside : entry.side with
    | long =>
      rw [hside] at holds hreply
      exact .inr (.exit stage_eq hside holds hreply)
    | short =>
      rw [hside] at hreply
      exact .inl (holds.calls.no_sale.trans
        (.of_replies hreply rfl (VenueCall.not_sells_createOrder nofun)))
  | waitEnter | waitExit => exact .inl (.of_eq rfl)
  | keep _ _ cancels => exact .inl (no_sale_of_cancel cancels)
  | fill _ finds _ =>
    have hfind := (calls_of_find finds).no_sale
    exact .inl hfind
  | giveUp _ finds _ cancels =>
    have hcancel := no_sale_of_cancel cancels
    exact .inl ((calls_of_find finds).no_sale.trans hcancel)
  | takePart _ _ finds _ holds cancels _ =>
    have hcancel := no_sale_of_cancel cancels
    exact .inl (((calls_of_find finds).no_sale.trans holds.calls.no_sale).trans hcancel)
  | withdraw _ _ finds cancels =>
    have hcancel := no_sale_of_cancel cancels
    exact .inl ((calls_of_find finds).no_sale.trans hcancel)

/-- Where nothing is cancelled on the way, no cancel is confirmed. -/
theorem false_of_cancel {P : VenueCall → Prop} {id : OrderId}
    (hcancel : Ends (cancel venue.journaled id) seen (.ok true) after) (hfirst : Calls P desk seen)
    (h : Calls (fun call => ¬call.Cancels) desk after) : False := by
  have hcalls := calls_of_cancel hcancel
  have hrest : Calls (fun _ => True) seen after := ⟨[_], hcalls, fun _ _ => trivial⟩
  exact (h.split hfirst hrest).2.of_cons hcalls trivial

end Offers

end Tracker

end SwingTrader
