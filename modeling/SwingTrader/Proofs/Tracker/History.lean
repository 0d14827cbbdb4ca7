import SwingTrader.Proofs.OpenOrders
import SwingTrader.Proofs.Paper
import SwingTrader.Proofs.Tracker.Operation
import SwingTrader.Venue.Journal

/-!
# SwingTrader — the orders of a tracker that are still live

A tracker is watched at a venue that answers whatever it likes. What it knows of
its orders is what the history of its calls tells: an order is live from the call
that created it, or the look that adopted it, until a list of open orders comes
back without it or a cancel of it is confirmed.

* `Event`, `Live` — the history of a tracker, and the orders that are live in it;
* `Operation`, `Run` — the operations of a tracker, and the histories they lead to;
* `Orderly` — no order was created beside a live one;
* `Tracker.orderly_of_run` — every history of a tracker is orderly.
-/

namespace SwingTrader

variable {σ κ α : Type}

open Desk

/-! ## Histories -/

/-- What a tracker did at its venue: it made a call, or took up an order that it found there. -/
inductive Event where
  | called (call : VenueCall)
  | adopted (id : OrderId)

namespace Event

/-- The order was created or adopted. -/
def Takes (id : OrderId) : Event → Prop
  | called (.createOrder _ _ _ _ (.ok created)) => created = id
  | adopted found => found = id
  | _ => False

/-- The order was missing from a list, or its cancel was confirmed. -/
def Clears (id : OrderId) : Event → Prop
  | called (.openOrders _ (.ok orders)) => ∀ order ∈ orders, order.id ≠ id
  | called (.cancelOrder _ cancelled (.ok true)) => cancelled = id
  | _ => False

/-- An order was to be created, whether it was or not. -/
def Creates : Event → Prop
  | called (.createOrder ..) => True
  | _ => False

end Event

/-- An order has been taken and not been cleared since; the newest event comes first. -/
def Live (id : OrderId) : List Event → Prop
  | [] => False
  | event :: older => event.Takes id ∨ Live id older ∧ ¬event.Clears id

/-- Whenever an order was to be created, no order was live. -/
def Orderly : List Event → Prop
  | [] => True
  | event :: older => (event.Creates → ∀ id, ¬Live id older) ∧ Orderly older

/-! ## Runs -/

/-- What a tracker can be asked to do, by any rule. -/
inductive Operation (κ : Type) where
  | look
  | placeEnter (rule : PriceRule κ) (side : Side)
  | trackEnter (rule : PriceRule κ)
  | placeExit (rule : PriceRule κ)
  | trackExit (rule : PriceRule κ)

namespace Operation

/-- What the operation does, whatever it answers. -/
def run (venue : Venue σ) : Operation κ → DeskM σ κ Unit
  | look => do let _ ← Tracker.resume venue
  | placeEnter rule side => Tracker.placeEnter venue rule side
  | trackEnter rule => Tracker.trackEnter venue rule
  | placeExit rule => Tracker.placeExit venue rule
  | trackExit rule => do let _ ← Tracker.trackExit venue rule

end Operation

namespace Tracker

/-- The calls made on the way from one desk to another, newest first. -/
def callsBetween (desk after : Desk (Journaled σ) κ) : List Event :=
  (after.venue.calls.take (after.venue.calls.length - desk.venue.calls.length)).map .called

/-- The order that a tracker without a stage has taken up by looking. -/
def adoption (desk looked : Desk σ κ) : List Event :=
  if desk.tracker.stage.isSome then []
  else ((looked.tracker.stage.bind awaited).map fun order => .adopted order.id).toList

/--
What an operation adds to the history: the calls of its look, the order adopted
by it, and then the other calls.
-/
def events (venue : Venue σ) (op : Operation κ) (desk : Desk (Journaled σ) κ) : List Event :=
  let looked := (Desk.outcome (resume venue.journaled) desk).2
  let after := (Desk.outcome (op.run venue.journaled) desk).2
  callsBetween looked after ++ adoption desk looked ++ callsBetween desk looked

/--
The histories of a tracker. Between two operations everything may change but the
tracker and the lists that are kept for it; the count of ticks never goes back.
-/
inductive Run (venue : Venue σ) : Desk (Journaled σ) κ → List Event → Prop where
  | begin {desk : Desk (Journaled σ) κ} (unresumed : desk.tracker.stage = none)
      (none_kept : desk.openOrders.snapshots = []) : Run venue desk []
  | meanwhile {desk next : Desk (Journaled σ) κ} {history : List Event}
      (run : Run venue desk history) (later : desk.tick ≤ next.tick)
      (tracker_eq : next.tracker = desk.tracker)
      (openOrders_eq : next.openOrders = desk.openOrders) :
      Run venue next history
  | operate {desk : Desk (Journaled σ) κ} {history : List Event} (run : Run venue desk history)
      (op : Operation κ) :
      Run venue (Desk.outcome (op.run venue.journaled) desk).2 (events venue op desk ++ history)

/-! ## What the history tells of the desk -/

/-- A call of a watched venue is the newest in its journal. -/
theorem calls_of_replies {describe : Answer α → VenueCall} {request : VenueM σ α}
    {state after : Journaled σ} {reply : Answer α}
    (h : Replies (Venue.journal describe request) state reply after) :
    after.calls = describe reply :: state.calls := by
  cases h
  rfl

/-- The history goes on by the calls that are made. -/
def Leads (desk : Desk (Journaled σ) κ) (history : List Event) (after : Desk (Journaled σ) κ)
    (history' : List Event) : Prop :=
  ∃ calls, after.venue.calls = calls ++ desk.venue.calls ∧ history' = calls.map .called ++ history

namespace Leads

variable {desk mid after : Desk (Journaled σ) κ} {history history' history'' : List Event}

theorem refl (desk : Desk (Journaled σ) κ) (history : List Event) :
    Leads desk history desk history :=
  ⟨[], rfl, rfl⟩

theorem trans (h : Leads desk history mid history') (h' : Leads mid history' after history'') :
    Leads desk history after history'' := by
  obtain ⟨calls, hcalls, rfl⟩ := h
  obtain ⟨calls', hcalls', rfl⟩ := h'
  refine ⟨calls' ++ calls, ?_, ?_⟩
  · rw [hcalls', hcalls, List.append_assoc]
  · rw [List.map_append, List.append_assoc]

/-- A call that is replied to is one more event of the history. -/
theorem call {describe : Answer α → VenueCall} {request : VenueM σ α} {state : Journaled σ}
    {reply : Answer α} (h : Replies (Venue.journal describe request) desk.venue reply state)
    (hafter : after.venue = state) (history : List Event) :
    Leads desk history after (.called (describe reply) :: history) :=
  ⟨[describe reply], by rw [hafter, calls_of_replies h]; rfl, rfl⟩

/-- The calls between two desks are those by which the history has gone on. -/
theorem callsBetween_append (h : Leads desk history after history') :
    callsBetween desk after ++ history = history' := by
  obtain ⟨calls, hcalls, rfl⟩ := h
  rw [callsBetween, hcalls, List.length_append, Nat.add_sub_cancel, List.take_left]

end Leads

/-- The lists that are kept leave out no live order, and no order was created beside one. -/
structure Tallied (desk : Desk (Journaled σ) κ) (history : List Event) : Prop where
  upTo : desk.openOrders.UpTo desk.tick
  listed : ∀ orders, desk.listed? = some orders →
    ∀ id, Live id history → ∃ order ∈ orders, order.id = id
  orderly : Orderly history

/-- The only order that can be live is the one that the stage waits for. -/
structure Accounted (desk : Desk (Journaled σ) κ) (history : List Event) : Prop extends
    Tallied desk history where
  awaited : ∀ id, Live id history →
    ∃ order, desk.tracker.stage.bind awaited = some order ∧ order.id = id

section Calls

variable {venue : Venue σ} {desk after : Desk (Journaled σ) κ} {history : List Event}

/-- An order that is live after an event that does not take it was live before. -/
theorem live_of_cons {event : Event} {id : OrderId} (h : Live id (event :: history))
    (htakes : ¬event.Takes id) : Live id history ∧ ¬event.Clears id := by
  obtain h | h := h
  · exact absurd h htakes
  · exact h

/-- A call that takes no order, and is no attempt to beside a live one, leaves all accounted for. -/
theorem Accounted.cons {event : Event} (h : Accounted desk history)
    (htracker : after.tracker = desk.tracker) (htick : after.tick = desk.tick)
    (hkept : after.openOrders = desk.openOrders ∨
      after.openOrders = desk.openOrders.invalidate desk.tick)
    (htakes : ∀ id, ¬event.Takes id) (hcreates : event.Creates → ∀ id, ¬Live id history) :
    Accounted after (event :: history) where
  upTo := by
    rw [htick]
    obtain hkept | hkept := hkept
    · rw [hkept]
      exact h.upTo
    · rw [hkept]
      exact h.upTo.invalidate
  listed := by
    intro orders hlisted id hlive
    rw [listed?, htick] at hlisted
    obtain hkept | hkept := hkept
    · rw [hkept] at hlisted
      exact h.listed orders hlisted id (live_of_cons hlive (htakes id)).1
    -- a list that is forgotten has nothing to leave out
    · rw [hkept, OpenOrderCache.at?_invalidate] at hlisted
      cases hlisted
  orderly := ⟨hcreates, h.orderly⟩
  awaited := by
    intro id hlive
    rw [htracker]
    exact h.awaited id (live_of_cons hlive (htakes id)).1

theorem Accounted.setStage {stage : Stage} (h : Tallied desk history)
    (hlive : ∀ id, Live id history → ∃ order, Tracker.awaited stage = some order ∧ order.id = id) :
    Accounted (desk.withStage stage) history :=
  ⟨⟨h.upTo, h.listed, h.orderly⟩, hlive⟩

/-- What is accounted for depends on the tracker and on the lists that are kept, not on the rest. -/
theorem Accounted.congr (h : Accounted desk history) (htracker : after.tracker = desk.tracker)
    (htick : after.tick = desk.tick) (hkept : after.openOrders = desk.openOrders) :
    Accounted after history where
  upTo := by rw [htick, hkept]; exact h.upTo
  listed := by rw [listed?, htick, hkept]; exact h.listed
  orderly := h.orderly
  awaited := by rw [htracker]; exact h.awaited

/-- The calls that ask for a number neither create an order nor clear one. -/
theorem asks_inv {market : Market} {request : VenueM (Journaled σ) Float}
    {state state' : Journaled σ} {reply : Answer Float}
    (hasks : Asks venue.journaled market request) (h : Replies request state reply state') :
    ∃ call, state'.calls = call :: state.calls ∧ (∀ id, ¬(Event.called call).Takes id) ∧
      ¬(Event.called call).Creates := by
  cases hasks with
  | balance => exact ⟨_, calls_of_replies h, fun _ => False.elim, False.elim⟩
  | minimum => exact ⟨_, calls_of_replies h, fun _ => False.elim, False.elim⟩
  | buyFee => exact ⟨_, calls_of_replies h, fun _ => False.elim, False.elim⟩
  | sellFee => exact ⟨_, calls_of_replies h, fun _ => False.elim, False.elim⟩

/-- Asking for a number leaves every order as live as it was. -/
theorem Ask.accounted (h : Ask venue.journaled desk after) (hacc : Accounted desk history) :
    ∃ history', Leads desk history after history' ∧ Accounted after history' ∧
      ∀ id, Live id history' → Live id history := by
  obtain ⟨asks, replies⟩ := h
  obtain ⟨call, hcalls, htakes, hcreates⟩ := asks_inv asks replies
  refine ⟨.called call :: history, ⟨[call], hcalls, rfl⟩, ?_, ?_⟩
  · exact hacc.cons rfl rfl (.inl rfl) htakes fun h => absurd h hcreates
  · exact fun id hlive => (live_of_cons hlive (htakes id)).1

theorem Asking.accounted (h : Asking venue.journaled desk after) (hacc : Accounted desk history) :
    ∃ history', Leads desk history after history' ∧ Accounted after history' ∧
      ∀ id, Live id history' → Live id history := by
  induction h with
  | refl => exact ⟨history, .refl _ _, hacc, fun _ => id⟩
  | tail _ hask ih =>
    obtain ⟨history₁, hleads, hacc', hlive⟩ := ih
    obtain ⟨history₂, hleads', hacc', hlive'⟩ := hask.accounted hacc'
    exact ⟨history₂, hleads.trans hleads', hacc', fun id h => hlive id (hlive' id h)⟩

theorem holds_accounted {side : Side} {ofShort quantity : Float}
    (h : Holds venue.journaled desk side ofShort quantity after) (hacc : Accounted desk history) :
    ∃ history', Leads desk history after history' ∧ Accounted after history' := by
  cases side with
  | long =>
    obtain ⟨history', hleads, hacc', -⟩ := (onlyAsks_call (.balance _) rfl h).accounted hacc
    exact ⟨history', hleads, hacc'⟩
  | short =>
    obtain ⟨-, rfl⟩ := h
    exact ⟨history, .refl _ _, hacc⟩

/-- A live order is among those that are listed. -/
theorem list_accounted {answer : Except TradingError (List OpenOrder)}
    (h : Ends (listOrders venue.journaled) desk answer after) (hacc : Accounted desk history) :
    ∃ history', Leads desk history after history' ∧ Accounted after history' ∧
      ∀ orders, answer = .ok orders → ∀ id, Live id history' → ∃ order ∈ orders, order.id = id := by
  cases answer with
  | error error =>
    obtain ⟨-, reason, state, hreply, -, rfl⟩ := ends_listOrders_error.mp h
    refine ⟨_, .call hreply rfl history, ?_, by simp⟩
    exact hacc.cons rfl rfl (.inl rfl) (fun _ => False.elim) False.elim
  | ok orders =>
    obtain ⟨hlisted, rfl⟩ | ⟨-, state, hreply, rfl⟩ := ends_listOrders_ok.mp h
    · refine ⟨history, .refl _ _, hacc, ?_⟩
      rintro _ ⟨⟩
      exact hacc.listed orders hlisted
    -- a list that comes back clears every order that it leaves out
    · have hmem : ∀ id, Live id (.called (.openOrders desk.market (.ok orders)) :: history) →
          ∃ order ∈ orders, order.id = id := by
        intro id hlive
        have hclears := (live_of_cons hlive not_false).2
        simpa [Event.Clears] using hclears
      refine ⟨_, .call hreply rfl history,
        ⟨⟨hacc.upTo.store, ?_, False.elim, hacc.orderly⟩, ?_⟩, ?_⟩
      · intro kept hkept
        rw [listed?_of_listOrders h hkept]
        exact hmem
      · intro id hlive
        exact hacc.awaited id (live_of_cons hlive not_false).1
      · rintro _ ⟨⟩
        exact hmem

/-- An order that is not found is not live. -/
theorem find_accounted {id : OrderId} {found : Option OpenOrder}
    (h : Ends (findOrder venue.journaled id) desk (.ok found) after)
    (hacc : Accounted desk history) :
    ∃ history', Leads desk history after history' ∧ Accounted after history' ∧
      (found = none → ¬Live id history') := by
  obtain ⟨orders, hlist, rfl⟩ := ends_findOrder_ok.mp h
  obtain ⟨history', hleads, hacc', hlisted⟩ := list_accounted hlist hacc
  refine ⟨history', hleads, hacc', fun hnone hlive => ?_⟩
  -- a live order is on the list, so it would have been found
  obtain ⟨order, hmem, hid⟩ := hlisted orders rfl id hlive
  simpa [hid] using List.find?_eq_none.mp hnone order hmem

/-- An order whose cancel is confirmed is not live. -/
theorem cancel_accounted {id : OrderId} {cancelled : Bool}
    (h : Ends (cancel venue.journaled id) desk (.ok cancelled) after)
    (hacc : Accounted desk history) :
    ∃ history', Leads desk history after history' ∧ Accounted after history' ∧
      (cancelled = true → ¬Live id history') := by
  obtain ⟨reply | reply, state, hreply, hanswer, rfl⟩ := ends_cancel.mp h
  · cases hanswer
    refine ⟨_, .call hreply rfl history, ?_, by simp⟩
    exact hacc.cons rfl rfl (.inl rfl) (fun _ => False.elim) False.elim
  · cases hanswer
    refine ⟨_, .call hreply rfl history, ?_, ?_⟩
    -- the list that was kept is forgotten once the cancel is answered
    · exact hacc.cons rfl rfl (.inr rfl) (fun _ => False.elim) False.elim
    · rintro rfl hlive
      exact (live_of_cons hlive not_false).2 rfl

/-- An order is found and what is held is counted, and then the cancel of the order is confirmed. -/
theorem part_accounted {seen asked : Desk (Journaled σ) κ} {entry : PlacedOrder} {order : OpenOrder}
    {held : Float} (hfind : Ends (findOrder venue.journaled entry.id) desk (.ok (some order)) seen)
    (hholds : Holds venue.journaled seen entry.side order.filledQuantity held asked)
    (hcancel : Ends (cancel venue.journaled entry.id) asked (.ok true) after)
    (hacc : Accounted desk history) :
    ∃ history', Leads desk history after history' ∧ Accounted after history' ∧
      ¬Live entry.id history' := by
  obtain ⟨history₁, hleads, hacc', -⟩ := find_accounted hfind hacc
  obtain ⟨history₂, hleads', hacc'⟩ := holds_accounted hholds hacc'
  obtain ⟨history₃, hleads'', hacc', hcleared⟩ := cancel_accounted hcancel hacc'
  exact ⟨history₃, (hleads.trans hleads').trans hleads'', hacc', hcleared rfl⟩

/-- Only the order that was just created is live, where none was before. -/
theorem submit_accounted {kind : OrderKind} {quantity price : Float} {order : PlacedOrder}
    (h : Ends (submit venue.journaled kind quantity price) desk (.ok order) after)
    (hacc : Accounted desk history) (hnone : ∀ id, ¬Live id history) :
    ∃ history', Leads desk history after history' ∧ Tallied after history' ∧
      ∀ id, Live id history' → id = order.id := by
  obtain ⟨id, state, hreply, rfl, rfl⟩ := ends_submit_ok.mp h
  refine ⟨_, .call hreply rfl history,
    ⟨hacc.upTo.invalidate, ?_, fun _ => hnone, hacc.orderly⟩, ?_⟩
  · intro orders hlisted
    rw [listed?, forgetting, OpenOrderCache.at?_invalidate] at hlisted
    cases hlisted
  · rintro id' (htakes | ⟨hlive, -⟩)
    · exact htakes.symm
    · exact absurd hlive (hnone id')

/-- An order is live only in a stage that waits for it. -/
theorem Accounted.not_live {stage : Stage} (h : Accounted desk history)
    (hstage : desk.tracker.stage = some stage) (hawaited : Tracker.awaited stage = none)
    (id : OrderId) : ¬Live id history := by
  intro hlive
  obtain ⟨order, horder, -⟩ := h.awaited id hlive
  rw [hstage, Option.bind_some, hawaited] at horder
  cases horder

/-- Once the order that a stage waits for is cleared, no order is live. -/
theorem Accounted.not_live_of_cleared {stage : Stage} {order : PlacedOrder}
    (h : Accounted desk history) (hstage : desk.tracker.stage = some stage)
    (hawaited : Tracker.awaited stage = some order) (hcleared : ¬Live order.id history)
    (id : OrderId) : ¬Live id history := by
  intro hlive
  obtain ⟨live, hlive', rfl⟩ := h.awaited id hlive
  rw [hstage, Option.bind_some, hawaited] at hlive'
  cases hlive'
  exact hcleared hlive

end Calls

/-! ## Moves -/

section Moves

variable {venue : Venue σ} {desk after : Desk (Journaled σ) κ} {history : List Event}

/--
Once the order that was found missing, or whose cancel was confirmed, is let go, none is
live.
-/
theorem Accounted.letGo {stage : Stage} {order : PlacedOrder} (next : Stage)
    (h : Accounted desk history) (hstage : desk.tracker.stage = some stage)
    (hawaited : Tracker.awaited stage = some order) (hcleared : ¬Live order.id history) :
    Accounted (desk.withStage next) history :=
  .setStage h.toTallied fun id hlive =>
    absurd hlive (h.not_live_of_cleared hstage hawaited hcleared id)

/-- After a move, too, the only order that can be live is the one that is waited for. -/
theorem Move.accounted (h : Move venue.journaled desk after) (hacc : Accounted desk history) :
    ∃ history', Leads desk history after history' ∧ Accounted after history' := by
  -- orders are only created in a stage that waits for none, and let go once they are cleared
  cases h with
  | remember rules => exact ⟨history, .refl _ _, hacc.congr rfl rfl rfl⟩
  | ask asks =>
    obtain ⟨history', hleads, hacc', -⟩ := asks.accounted hacc
    exact ⟨history', hleads, hacc'⟩
  | list lists =>
    obtain ⟨history', hleads, hacc', -⟩ := list_accounted lists hacc
    exact ⟨history', hleads, hacc'⟩
  | refuseEntry stage_eq _ replies =>
    refine ⟨_, .call replies rfl history, ?_⟩
    -- an attempt counts as well, and it is made from a stage that waits for nothing
    exact hacc.cons rfl rfl (.inl rfl) (fun _ => False.elim) fun _ => hacc.not_live stage_eq rfl
  | refuseExit stage_eq holds replies =>
    obtain ⟨history', hleads, hacc'⟩ := holds_accounted holds hacc
    have hstage := holds.undisturbed.tracker_eq ▸ stage_eq
    refine ⟨_, hleads.trans (.call replies rfl history'), ?_⟩
    exact hacc'.cons rfl rfl (.inl rfl) (fun _ => False.elim) fun _ => hacc'.not_live hstage rfl
  | enter stage_eq submits =>
    obtain ⟨history', hleads, htallied, hlive⟩ :=
      submit_accounted submits hacc (hacc.not_live stage_eq rfl)
    exact ⟨history', hleads, .setStage htallied fun id h => ⟨_, rfl, (hlive id h).symm⟩⟩
  | leave stage_eq _ holds submits =>
    obtain ⟨history₁, hleads, hacc'⟩ := holds_accounted holds hacc
    have hstage := holds.undisturbed.tracker_eq ▸ stage_eq
    obtain ⟨history₂, hleads', htallied, hlive⟩ :=
      submit_accounted submits hacc' (hacc'.not_live hstage rfl)
    exact ⟨history₂, hleads.trans hleads', .setStage htallied
      fun id h => ⟨_, rfl, (hlive id h).symm⟩⟩
  | waitEnter stage_eq counted =>
    refine ⟨history, .refl _ _, .setStage hacc.toTallied fun id hlive => ?_⟩
    obtain ⟨order, horder, rfl⟩ := hacc.awaited id hlive
    rw [stage_eq] at horder
    cases horder
    exact ⟨_, rfl, counted.id_eq⟩
  | waitExit stage_eq counted =>
    refine ⟨history, .refl _ _, .setStage hacc.toTallied fun id hlive => ?_⟩
    obtain ⟨order, horder, rfl⟩ := hacc.awaited id hlive
    rw [stage_eq] at horder
    cases horder
    exact ⟨_, rfl, counted.id_eq⟩
  | keep _ _ cancels =>
    obtain ⟨history', hleads, hacc', -⟩ := cancel_accounted cancels hacc
    exact ⟨history', hleads, hacc'⟩
  | fill stage_eq finds takes =>
    obtain ⟨history', hleads, hacc', hcleared⟩ := find_accounted finds hacc
    have hstage := (Undisturbed.findOrder finds).tracker_eq ▸ stage_eq
    exact ⟨history', hleads, .letGo _ (hacc'.congr rfl rfl rfl) hstage rfl (hcleared rfl)⟩
  | giveUp stage_eq finds _ cancels =>
    have hsame := Undisturbed.cancelFound finds cancels
    have hstage := hsame.tracker_eq ▸ stage_eq
    obtain ⟨history₁, hleads, hacc', -⟩ := find_accounted finds hacc
    obtain ⟨history₂, hleads', hacc', hcleared⟩ :=
      cancel_accounted cancels (hacc'.congr rfl rfl rfl)
    exact ⟨history₂, hleads.trans hleads', hacc'.letGo _ hstage rfl (hcleared rfl)⟩
  | takePart stage_eq _ finds _ holds cancels takes =>
    have hstage := (undisturbed_of_part finds holds cancels).tracker_eq ▸ stage_eq
    obtain ⟨history', hleads, hacc', hcleared⟩ := part_accounted finds holds cancels hacc
    exact ⟨history', hleads, .letGo _ (hacc'.congr rfl rfl rfl) hstage rfl hcleared⟩
  | withdraw stage_eq _ finds cancels =>
    have hsame := Undisturbed.cancelFound finds cancels
    have hstage := hsame.tracker_eq ▸ stage_eq
    obtain ⟨history₁, hleads, hacc', -⟩ := find_accounted finds hacc
    obtain ⟨history₂, hleads', hacc', hcleared⟩ :=
      cancel_accounted cancels (hacc'.congr rfl rfl rfl)
    exact ⟨history₂, hleads.trans hleads', hacc'.letGo _ hstage rfl (hcleared rfl)⟩

/-- After any number of moves, the only order that can be live is the one that is waited for. -/
theorem Moves.accounted (h : Moves venue.journaled desk after) (hacc : Accounted desk history) :
    ∃ history', Leads desk history after history' ∧ Accounted after history' := by
  induction h with
  | refl => exact ⟨history, .refl _ _, hacc⟩
  | tail _ hmove ih =>
    obtain ⟨history₁, hleads, hacc'⟩ := ih
    obtain ⟨history₂, hleads', hacc'⟩ := hmove.accounted hacc'
    exact ⟨history₂, hleads.trans hleads', hacc'⟩

theorem Proceeds.accounted {answer : Except TradingError α}
    (h : Proceeds venue.journaled desk answer after) (hacc : Accounted desk history) :
    ∃ history', Leads desk history after history' ∧ Accounted after history' := by
  cases h with
  | moves moves => exact moves.accounted hacc
  | cutOff _ finds _ holds cancels =>
    obtain ⟨history', hleads, hacc', -⟩ := part_accounted finds holds cancels hacc
    exact ⟨history', hleads, hacc'⟩

/-- Once a trade is closed no order can be live. -/
theorem Closing.accounted {trade : ClosedTrade} (h : Closing venue.journaled desk trade after)
    (hacc : Accounted desk history) :
    ∃ history', Leads desk history after history' ∧ Accounted after history' := by
  obtain ⟨stage_eq, finds, values, takes⟩ := h
  have hsame := (Undisturbed.findOrder finds).trans (undisturbed_of_closedTrade values)
  have hstage := hsame.tracker_eq ▸ stage_eq
  obtain ⟨history₁, hleads, hacc', hcleared⟩ := find_accounted finds hacc
  obtain ⟨history₂, hleads', hacc', hlive⟩ :=
    (closedTrade_onlyAsks _ _ _ rfl values).accounted hacc'
  refine ⟨history₂, hleads.trans hleads', ?_⟩
  exact .letGo _ (hacc'.congr rfl rfl rfl) hstage rfl fun h => hcleared rfl (hlive _ h)

/-- No order is live before a stage is found, and then only the one that is adopted. -/
theorem Accounted.adopt {first : Desk (Journaled σ) κ} {stage : Stage} (h : Accounted desk history)
    (hfirst : first.tracker.stage = none) (htracker : desk.tracker = first.tracker)
    (hlisted : ∀ orders, desk.listed? = some orders →
      ∀ order, Tracker.awaited stage = some order → ∃ listed ∈ orders, listed.id = order.id) :
    Accounted (desk.withStage stage) (adoption first (desk.withStage stage) ++ history) := by
  -- without a stage nothing is awaited, so nothing is live
  have hnone : ∀ id, ¬Live id history := by
    intro id hlive
    obtain ⟨order, horder, -⟩ := h.awaited id hlive
    rw [htracker, hfirst] at horder
    cases horder
  have hadoption : adoption first (desk.withStage stage) =
      ((Tracker.awaited stage).map fun order => .adopted order.id).toList := by
    simp [adoption, hfirst, withStage]
  rw [hadoption]
  cases hawaited : Tracker.awaited stage with
  | none => exact .setStage h.toTallied fun id hlive => absurd hlive (hnone id)
  | some order =>
    have hlive : ∀ id, Live id (.adopted order.id :: history) → order.id = id := by
      rintro id (htakes | ⟨hlive, -⟩)
      · exact htakes
      · exact absurd hlive (hnone id)
    -- the order that is adopted is the only live one, and it is on the list it was found in
    refine ⟨⟨h.upTo, ?_, False.elim, h.orderly⟩,
      fun id h => ⟨order, hawaited, hlive id h⟩⟩
    intro orders hlist id h
    obtain rfl := hlive id h
    exact hlisted orders hlist order hawaited

/-- To find a stage by what is held makes no order live. -/
theorem holdings_accounted {seen asked : Desk (Journaled σ) κ} {base minimum : Float}
    (hlist : Ends (listOrders venue.journaled) desk (.ok []) seen)
    (hbase : Ends (call (venue.journaled.availableBalance desk.market.base)) seen (.ok base) asked)
    (hleast : Ends (call (venue.journaled.minimumOrderVolume desk.market)) asked
      (.ok minimum) after)
    (hacc : Accounted desk history) :
    ∃ history', Leads desk history after history' ∧ Accounted after history' := by
  have hseen := (Undisturbed.listOrders hlist).market_eq
  have hasked := ((Undisturbed.listOrders hlist).trans (.call hbase)).market_eq
  obtain ⟨history₁, hleads₁, hacc₁, -⟩ := list_accounted hlist hacc
  obtain ⟨history₂, hleads₂, hacc₂, -⟩ :=
    (onlyAsks_call (.balance _) hseen hbase).accounted hacc₁
  obtain ⟨history₃, hleads₃, hacc₃, -⟩ :=
    (onlyAsks_call .minimum hasked hleast).accounted hacc₂
  exact ⟨history₃, (hleads₁.trans hleads₂).trans hleads₃, hacc₃⟩

/-- An order that a tracker finds is adopted, and then it is the one that can be live. -/
theorem Finding.accounted (h : Finding venue.journaled desk after) (hacc : Accounted desk history) :
    ∃ history', Leads desk history after history' ∧
      Accounted after (adoption desk after ++ history') := by
  cases h with
  | flat stage_eq lists holds least _ =>
    have hsame := Undisturbed.callListed lists holds least
    obtain ⟨history', hleads, hacc'⟩ := holdings_accounted lists holds least hacc
    exact ⟨history', hleads, hacc'.adopt stage_eq hsame.tracker_eq fun _ _ _ h => nomatch h⟩
  | held stage_eq lists holds least _ takes =>
    have hsame := Undisturbed.callListed lists holds least
    obtain ⟨history', hleads, hacc'⟩ := holdings_accounted lists holds least hacc
    exact ⟨history', hleads, .adopt (hacc'.congr rfl rfl rfl) stage_eq hsame.tracker_eq
      fun _ _ _ h => nomatch h⟩
  | enter stage_eq lists _ =>
    obtain ⟨history', hleads, hacc', -⟩ := list_accounted lists hacc
    refine ⟨history', hleads, hacc'.adopt stage_eq (Undisturbed.listOrders lists).tracker_eq ?_⟩
    -- the adopted order is on the list that was fetched, and it is the only one there
    rintro orders hkept _ ⟨⟩
    rw [listed?_of_listOrders lists hkept]
    exact ⟨_, List.mem_singleton.mpr rfl, rfl⟩
  | leave stage_eq lists _ takes =>
    obtain ⟨history', hleads, hacc', -⟩ := list_accounted lists hacc
    refine ⟨history', hleads, .adopt (hacc'.congr rfl rfl rfl) stage_eq
      (Undisturbed.listOrders lists).tracker_eq ?_⟩
    rintro orders hkept _ ⟨⟩
    rw [listed?_of_listOrders lists hkept]
    exact ⟨_, List.mem_singleton.mpr rfl, rfl⟩

end Moves

/-! ## Operations -/

section Looks

variable {venue : Venue σ} {desk after : Desk σ κ} {answer : Except TradingError Unit}

/-- Every operation looks first. -/
theorem run_eq_resume_bind (venue : Venue σ) (op : Operation κ) :
    ∃ f, op.run venue = (resume venue >>= f : DeskM σ κ Unit) := by
  cases op with
  | look => exact ⟨_, rfl⟩
  | placeEnter rule side => exact ⟨_, rfl⟩
  | trackEnter rule => exact ⟨_, rfl⟩
  | placeExit rule => exact ⟨_, rfl⟩
  | trackExit rule =>
    rw [Operation.run, trackExit, bind_assoc]
    exact ⟨_, rfl⟩

/-- An operation fails while it looks, or does what it does once it has looked. -/
theorem run_inv (op : Operation κ) (h : Ends (op.run venue) desk answer after) :
    (∃ error, Ends (resume venue) desk (.error error) after ∧ answer = .error error) ∨
      ∃ stage mid, Ends (resume venue) desk (.ok stage) mid ∧
        Ends (op.run venue) mid answer after := by
  obtain ⟨f, hf⟩ := run_eq_resume_bind venue op
  rw [hf] at h
  obtain ⟨error, hresume, herror⟩ | ⟨stage, mid, hresume, h⟩ := ends_bind.mp h
  · exact .inl ⟨error, hresume, herror⟩
  · refine .inr ⟨stage, mid, hresume, ?_⟩
    -- a second look finds the stage that is there already
    rw [hf, ends_resume_bind (found_of_resume hresume).2]
    exact h

/-- An operation of a tracker that has a stage goes on from there, or closes the position. -/
theorem run_proceeds (op : Operation κ) {stage : Stage} (hstage : desk.tracker.stage = some stage)
    (h : Ends (op.run venue) desk answer after) :
    Proceeds venue desk answer after ∨ ∃ trade, Closing venue desk trade after := by
  cases op with
  | look =>
    rw [Operation.run, ends_resume_bind hstage] at h
    obtain ⟨-, rfl⟩ := ends_pure.mp h
    exact .inl (.moves .refl)
  | placeEnter rule side => exact .inl (.moves (placeEnter_moves hstage h))
  | trackEnter rule => exact .inl (trackEnter_proceeds hstage h)
  | placeExit rule => exact .inl (.moves (placeExit_moves hstage h))
  | trackExit rule =>
    -- the trade is dropped, but the exit was tracked all the same
    have htrack : ∃ answer', Ends (trackExit venue rule) desk answer' after := by
      obtain ⟨_, h, -⟩ | ⟨_, mid, h, hpure⟩ := ends_bind.mp h
      · exact ⟨_, h⟩
      · obtain ⟨-, rfl⟩ := ends_pure.mp hpure
        exact ⟨_, h⟩
    obtain ⟨answer', htrack⟩ := htrack
    obtain ⟨hmoves, -⟩ | ⟨trade, -, hclosing⟩ := trackExit_moves hstage htrack
    · exact .inl (.moves hmoves)
    · exact .inr ⟨trade, hclosing⟩

end Looks

section Operations

variable {venue : Venue σ} {desk mid after : Desk (Journaled σ) κ} {history : List Event}
  {answer : Except TradingError Unit}

/-- An operation of a tracker that has a stage accounts for its orders by the calls it makes. -/
theorem run_accounted (op : Operation κ) {stage : Stage} (hstage : desk.tracker.stage = some stage)
    (h : Ends (op.run venue.journaled) desk answer after) (hacc : Accounted desk history) :
    ∃ history', Leads desk history after history' ∧ Accounted after history' := by
  obtain hproceeds | ⟨trade, hclosing⟩ := run_proceeds op hstage h
  · exact hproceeds.accounted hacc
  · exact hclosing.accounted hacc

/-- A tracker that has a stage accounts for the order it adopted, or for none. -/
theorem Found.accounted (h : Found venue.journaled desk after) (hacc : Accounted desk history) :
    ∃ history', Leads desk history after history' ∧
      Accounted after (adoption desk after ++ history') := by
  cases h with
  | known stage_eq =>
    refine ⟨history, .refl _ _, ?_⟩
    rw [adoption, stage_eq]
    exact hacc
  | finds finding => exact finding.accounted hacc

theorem adoption_of_stage_eq_none (hstage : after.tracker.stage = none) :
    adoption desk after = [] := by
  simp [adoption, hstage]

theorem events_eq {op : Operation κ} {stage : Except TradingError Stage}
    (hresume : Ends (resume venue.journaled) desk stage mid)
    (hop : Ends (op.run venue.journaled) desk answer after) :
    events venue op desk = callsBetween mid after ++ adoption desk mid ++
      callsBetween desk mid := by
  rw [events, hresume, hop]

/-- What an operation adds to the history accounts for the orders at its desk. -/
theorem events_accounted (op : Operation κ) (h : Ends (op.run venue.journaled) desk answer after)
    (hacc : Accounted desk history) : Accounted after (events venue op desk ++ history) := by
  obtain ⟨error, hresume, -⟩ | ⟨stage, looked, hresume, hop⟩ := run_inv op h
  · obtain ⟨hstage, hmoves⟩ := moves_of_resume_error hresume
    -- a look that fails adopts nothing, and the operation ends there
    obtain ⟨history', hleads, hacc'⟩ := hmoves.accounted hacc
    rw [events_eq hresume h, adoption_of_stage_eq_none (hmoves.stage_eq_none hstage),
      List.append_nil, List.append_assoc, hleads.callsBetween_append,
      (Leads.refl after history').callsBetween_append]
    exact hacc'
  · obtain ⟨hfound, hstage⟩ := found_of_resume hresume
    -- the look leaves a stage, from which the rest goes on
    obtain ⟨history₁, hleads, hacc₁⟩ := hfound.accounted hacc
    obtain ⟨history₂, hleads', hacc₂⟩ := run_accounted op hstage hop hacc₁
    rw [events_eq hresume h, List.append_assoc, List.append_assoc, hleads.callsBetween_append,
      hleads'.callsBetween_append]
    exact hacc₂

/-- Before and after every operation, no order is live but the one that the stage waits for. -/
theorem Run.accounted (run : Run venue desk history) : Accounted desk history := by
  induction run with
  | @begin desk unresumed none_kept =>
    -- no call was made yet
    have hupTo : desk.openOrders.UpTo desk.tick := by
      simp [OpenOrderCache.UpTo, none_kept]
    exact ⟨⟨hupTo, fun _ _ _ => False.elim, trivial⟩, fun _ => False.elim⟩
  | @meanwhile desk next history _ later tracker_eq openOrders_eq ih =>
    refine ⟨⟨?_, ?_, ih.orderly⟩, ?_⟩
    · rw [openOrders_eq]
      exact ih.upTo.mono later
    · intro orders hlisted
      -- a list is only read at the tick that it was kept for
      obtain hlt | heq := Nat.lt_or_eq_of_le later
      · rw [listed?, openOrders_eq, ih.upTo.at?_of_lt hlt] at hlisted
        cases hlisted
      · rw [listed?, openOrders_eq, ← heq] at hlisted
        exact ih.listed orders hlisted
    · rw [tracker_eq]
      exact ih.awaited
  | operate _ op ih => exact events_accounted op (ends_outcome _ _) ih

/--
**No order is ever created while an earlier one is live.** Whatever the venue
answers and whatever fails, an order is created only when each order before it
has been missing from a list that came after it, or its cancel was confirmed.
-/
theorem orderly_of_run (run : Run venue desk history) : Orderly history :=
  run.accounted.orderly

end Operations

/-! ## An exit that is moved -/

/-- A tracker at a watched paper venue, at its first bar; the two coins are still to be found. -/
def watched : Desk (Journaled Paper) Unit :=
  let settings := (Session.start (.ofCurrencies "BTC" "EUR") {} () ()).desk.tracker.settings
  (outcome (Desk.update Paper.venue.journaled) (.open settings ⟨Paper.holdingTwo, []⟩ ())).2

/-- An exit is placed, and then moved to a better stop: two orders, and never two at once. -/
theorem orderly_of_moved_exit :
    let place := Operation.placeExit (.fixed 98.0)
    let track := Operation.trackExit (.fixed 99.0)
    let placed := (outcome (place.run Paper.venue.journaled) watched).2
    let tracked := (outcome (track.run Paper.venue.journaled) placed).2
    (tracked.venue.calls.filter fun call => call.method = .createOrder).length = 2 ∧
      Orderly (events Paper.venue track placed ++ (events Paper.venue place watched ++ [])) :=
  ⟨by decide +kernel, orderly_of_run (.operate (.operate (.begin rfl rfl) _) _)⟩

end Tracker

end SwingTrader
