import SwingTrader.Proofs.Ledger
import SwingTrader.Proofs.Tracker.Hearing

/-!
# SwingTrader — what a tracker goes by

A tracker does not see the market, only what the venue answers. It must not believe
that an order is open, filled or gone without an answer that says so, since what it
believes is what it will trade on. The journal of the venue has these answers: the
orders that were created, the cancels that were confirmed, and the lists of open orders.

An operation makes one transition at most, and the transition is read against the
calls that were made in the course of it:

* `Desk.created`, `Desk.cancelled`, `Desk.Lists` — what the journal tells about orders;
* `Desk.AddsEntry`, `Desk.AddsExit` — a ledger with one event more;
* `Tracker.Transition` — every transition there is, with its evidence;
* `Tracker.transition_of_run` — an operation makes no other transition.
-/

namespace SwingTrader

variable {σ κ : Type}

open Desk

/-! ## Reading the journal -/

namespace VenueCall

/-- The order that a call created. -/
def created? : VenueCall → Option PlacedOrder
  | createOrder _ kind quantity price (.ok id) => some { id, kind, quantity, price }
  | _ => none

/-- The order whose cancel a call confirmed. -/
def cancelled? : VenueCall → Option OrderId
  | cancelOrder _ id (.ok true) => some id
  | _ => none

/-- The orders that a call listed. -/
def listed? : VenueCall → Option (List OpenOrder)
  | openOrders _ (.ok orders) => some orders
  | _ => none

theorem Looks.created?_eq {call : VenueCall} (h : call.Looks) : call.created? = none := by
  cases call with
  | createOrder => exact h.elim
  | _ => rfl

theorem Looks.cancelled?_eq {call : VenueCall} (h : call.Looks) : call.cancelled? = none := by
  cases call with
  | cancelOrder => exact h.elim
  | _ => rfl

end VenueCall

/-- The latest list of open orders among some calls, of which the newest comes first. -/
def latestList (calls : List VenueCall) : Option (List OpenOrder) :=
  calls.findSome? VenueCall.listed?

/-- A call that lists no orders leaves the latest list as it is. -/
theorem latestList_of_replies {α : Type} {describe : Answer α → VenueCall} {request : VenueM σ α}
    {state after : Journaled σ} {reply : Answer α}
    (h : Replies (Venue.journal describe request) state reply after)
    (hnone : (describe reply).listed? = none) :
    latestList after.calls = latestList state.calls := by
  rw [latestList, Tracker.calls_of_replies h, List.findSome?_cons, hnone]
  rfl

/-- The journal of a venue tells which list is the latest. -/
theorem hears_journaled (venue : Venue σ) :
    Hears venue.journaled (latestList ∘ Journaled.calls) where
  lists replies := by
    rw [Function.comp_apply, latestList, Tracker.calls_of_replies replies]
    rfl
  fails replies := latestList_of_replies replies rfl
  asks asks replies := by
    cases asks with
    | balance | minimum | buyFee | sellFee => exact latestList_of_replies replies rfl
  creates replies := latestList_of_replies replies rfl
  cancels replies := latestList_of_replies replies rfl

namespace Desk

/-- The calls made on the way from one desk to another, newest first. -/
def made (desk after : Desk (Journaled σ) κ) : List VenueCall :=
  after.venue.calls.take (after.venue.calls.length - desk.venue.calls.length)

/-- The orders created on the way from one desk to another, newest first. -/
def created (desk after : Desk (Journaled σ) κ) : List PlacedOrder :=
  (made desk after).filterMap VenueCall.created?

/-- The orders whose cancel was confirmed on the way from one desk to another, newest first. -/
def cancelled (desk after : Desk (Journaled σ) κ) : List OrderId :=
  (made desk after).filterMap VenueCall.cancelled?

/-- The orders were listed at the tick of the desk: before the operation, or in the course of it. -/
def Lists (desk after : Desk (Journaled σ) κ) (orders : List OpenOrder) : Prop :=
  desk.listed? = some orders ∨ .openOrders desk.market (.ok orders) ∈ made desk after

/-- An order is missing from the orders that were listed. -/
def Misses (desk after : Desk (Journaled σ) κ) (id : OrderId) : Prop :=
  ∃ orders, Lists desk after orders ∧ ∀ order ∈ orders, order.id ≠ id

/-- The orders that were listed show an order, as it stood then. -/
def Shows (desk after : Desk (Journaled σ) κ) (id : OrderId) (order : OpenOrder) : Prop :=
  ∃ orders, Lists desk after orders ∧ orders.find? (fun order => order.id = id) = some order

/-- The ledger of the tracker has an entry at the newest bar, and is as it was otherwise. -/
def AddsEntry (desk : Desk σ κ) (side : Side) (ledgers : LedgerBook) : Prop :=
  ∃ index ledger, desk.prices.lastIndex? = some index ∧
    desk.ledgers.get? desk.tracker.settings.ledger = some ledger ∧
      ledgers = ⟨desk.ledgers.ledgers.set desk.tracker.settings.ledger.number
        { ledger with entries := (index, side) :: ledger.entries }⟩

/-- The ledger of the tracker has an exit at the newest bar, and is as it was otherwise. -/
def AddsExit (desk : Desk σ κ) (ledgers : LedgerBook) : Prop :=
  ∃ index ledger, desk.prices.lastIndex? = some index ∧
    desk.ledgers.get? desk.tracker.settings.ledger = some ledger ∧
      ledgers = ⟨desk.ledgers.ledgers.set desk.tracker.settings.ledger.number
        { ledger with exits := index :: ledger.exits }⟩

/-- Ledgers that take an entry have it at the newest bar. -/
theorem TakesEntry.adds {desk : Desk σ κ} {side : Side} {ledgers : LedgerBook}
    (h : desk.TakesEntry side ledgers) : desk.AddsEntry side ledgers := by
  obtain ⟨index, hindex, hrecord⟩ := h
  obtain ⟨ledger, ledger', hget, hledger, rfl⟩ := LedgerBook.update_eq_ok.mp hrecord
  obtain ⟨-, -, rfl⟩ := TradeLedger.recordEntry_ok.mp hledger
  exact ⟨index, ledger, hindex, hget, rfl⟩

/-- Ledgers that take an exit have it at the newest bar. -/
theorem TakesExit.adds {desk : Desk σ κ} {ledgers : LedgerBook} (h : desk.TakesExit ledgers) :
    desk.AddsExit ledgers := by
  obtain ⟨index, hindex, hrecord⟩ := h
  obtain ⟨ledger, ledger', hget, hledger, rfl⟩ := LedgerBook.update_eq_ok.mp hrecord
  obtain ⟨-, -, rfl⟩ := TradeLedger.recordExit_ok.mp hledger
  exact ⟨index, ledger, hindex, hget, rfl⟩

/-! ### How the journal goes on -/

/-- The journal goes on by calls that create these orders and confirm these cancels. -/
def Journals (created : List PlacedOrder) (cancelled : List OrderId)
    (desk after : Desk (Journaled σ) κ) : Prop :=
  ∃ calls, after.venue.calls = calls ++ desk.venue.calls ∧
    calls.filterMap VenueCall.created? = created ∧ calls.filterMap VenueCall.cancelled? = cancelled

section Journals

variable {venue : Venue σ} {desk mid after : Desk (Journaled σ) κ}
  {made₁ made₂ : List PlacedOrder} {gone₁ gone₂ : List OrderId}

/-- A journal that goes on twice has the calls of both parts, the later ones first. -/
theorem Journals.trans (h : Journals made₁ gone₁ desk mid) (h' : Journals made₂ gone₂ mid after) :
    Journals (made₂ ++ made₁) (gone₂ ++ gone₁) desk after := by
  obtain ⟨calls, hcalls, rfl, rfl⟩ := h
  obtain ⟨calls', hcalls', rfl, rfl⟩ := h'
  refine ⟨calls' ++ calls, ?_, List.filterMap_append, List.filterMap_append⟩
  rw [hcalls', hcalls, List.append_assoc]

theorem made_eq {calls : List VenueCall} (h : after.venue.calls = calls ++ desk.venue.calls) :
    made desk after = calls := by
  rw [made, h, List.length_append, Nat.add_sub_cancel, List.take_left]

/-- What is so of the calls between two desks is so of each of them. -/
theorem Calls.of_made {P : VenueCall → Prop} {call : VenueCall} (h : Calls P desk after)
    (hmem : call ∈ made desk after) : P call := by
  obtain ⟨calls, hcalls, hall⟩ := h
  rw [made_eq hcalls] at hmem
  exact hall call hmem

theorem Journals.created_eq (h : Journals made₁ gone₁ desk after) :
    created desk after = made₁ := by
  obtain ⟨calls, hcalls, rfl, -⟩ := h
  rw [created, made_eq hcalls]

theorem Journals.cancelled_eq (h : Journals made₁ gone₁ desk after) :
    cancelled desk after = gone₁ := by
  obtain ⟨calls, hcalls, -, rfl⟩ := h
  rw [cancelled, made_eq hcalls]

/-- Calls that look or are refused leave every order as it was. -/
theorem Calls.journals {P : VenueCall → Prop} (h : Calls P desk after)
    (hP : ∀ call, P call → call.created? = none ∧ call.cancelled? = none) :
    Journals [] [] desk after := by
  obtain ⟨calls, hcalls, hall⟩ := h
  refine ⟨calls, hcalls, ?_, ?_⟩
  · exact List.filterMap_eq_nil_iff.mpr fun call hmem => (hP call (hall call hmem)).1
  · exact List.filterMap_eq_nil_iff.mpr fun call hmem => (hP call (hall call hmem)).2

/-- Where there are only calls that look, nothing is created and nothing cancelled. -/
theorem Calls.journals_of_looks (h : Calls VenueCall.Looks desk after) :
    Journals [] [] desk after :=
  h.journals fun _ hlooks => ⟨hlooks.created?_eq, hlooks.cancelled?_eq⟩

/-- A cancel that is confirmed is all that is added to the journal. -/
theorem journals_of_cancel {id : OrderId}
    (h : Ends (cancel venue.journaled id) desk (.ok true) after) : Journals [] [id] desk after :=
  ⟨[.cancelOrder desk.market id (.ok true)], Tracker.calls_of_cancel h, rfl, rfl⟩

/-- A cancel that is not confirmed leaves no trace but the call. -/
theorem journals_of_keep {id : OrderId}
    (h : Ends (cancel venue.journaled id) desk (.ok false) after) : Journals [] [] desk after := by
  obtain ⟨reply | cancelled, state, hreply, hanswer, rfl⟩ := ends_cancel.mp h
  · exact ⟨[.cancelOrder desk.market id (.error reply)], Tracker.calls_of_replies hreply, rfl, rfl⟩
  · cases hanswer
    exact ⟨[.cancelOrder desk.market id (.ok false)], Tracker.calls_of_replies hreply, rfl, rfl⟩

/-- An order that is submitted is created by the only call that is added to the journal. -/
theorem journals_of_submit {kind : OrderKind} {quantity price : Float} {order : PlacedOrder}
    (h : Ends (submit venue.journaled kind quantity price) desk (.ok order) after) :
    Journals [order] [] desk after := by
  obtain ⟨id, state, hreply, rfl, rfl⟩ := ends_submit_ok.mp h
  exact ⟨[.createOrder desk.market kind quantity price (.ok id)], Tracker.calls_of_replies hreply,
    rfl, rfl⟩

end Journals

end Desk

namespace Tracker

section Journals

variable {venue : Venue σ} {desk seen after : Desk (Journaled σ) κ}

theorem Tend.journals (h : Tend venue.journaled desk after) : Journals [] [] desk after := by
  cases h with
  | remember => exact ⟨[], rfl, rfl, rfl⟩
  | ask asks => exact asks.calls.journals_of_looks
  | list lists => exact (calls_of_listOrders lists).journals_of_looks
  | keep cancels => exact journals_of_keep cancels

theorem Tending.journals (h : Tending venue.journaled desk after) : Journals [] [] desk after := by
  induction h with
  | refl => exact ⟨[], rfl, rfl, rfl⟩
  | tail _ htend ih => exact ih.trans htend.journals

/-- Where an order is not placed, none is created. -/
theorem Unplaced.journals {kind : OrderKind} {price : Float}
    (h : Unplaced venue.journaled kind price desk after) : Journals [] [] desk after := by
  refine h.calls.journals fun call hcall => ?_
  obtain hlooks | hrefused := hcall
  · exact ⟨hlooks.created?_eq, hlooks.cancelled?_eq⟩
  -- an order that is refused is not created
  · cases call with
    | createOrder _ _ _ _ answer =>
      cases answer with
      | ok => exact hrefused.elim
      | error => exact ⟨rfl, rfl⟩
    | _ => exact hrefused.elim

/-- A look-up goes by the orders that are listed, whatever else is called for afterwards. -/
theorem lists_of_findOrder {id : OrderId} {found : Option OpenOrder} {made₁ : List PlacedOrder}
    {gone₁ : List OrderId} (h : Ends (findOrder venue.journaled id) desk (.ok found) seen)
    (hafter : Journals made₁ gone₁ seen after) :
    ∃ orders, Lists desk after orders ∧ orders.find? (fun order => order.id = id) = found := by
  obtain ⟨orders, hlist, rfl⟩ := ends_findOrder_ok.mp h
  refine ⟨orders, ?_, rfl⟩
  obtain ⟨hlisted, -⟩ | ⟨-, state, hreply, rfl⟩ := ends_listOrders_ok.mp hlist
  · exact .inl hlisted
  -- no list was kept, so the venue was asked for one
  · obtain ⟨calls, hcalls, -, -⟩ := hafter
    have hcall : state.calls = .openOrders desk.market (.ok orders) :: desk.venue.calls :=
      calls_of_replies hreply
    have hall : after.venue.calls =
        (calls ++ [.openOrders desk.market (.ok orders)]) ++ desk.venue.calls := by
      rw [hcalls, hcall, List.append_assoc]
      rfl
    refine .inr ?_
    rw [made_eq hall]
    exact List.mem_append_right _ (List.mem_singleton.mpr rfl)

/-- An order that is not found is missing from the orders that were listed. -/
theorem misses_of_findOrder {id : OrderId} {made₁ : List PlacedOrder} {gone₁ : List OrderId}
    (h : Ends (findOrder venue.journaled id) desk (.ok none) seen)
    (hafter : Journals made₁ gone₁ seen after) : Misses desk after id := by
  obtain ⟨orders, hlists, hfind⟩ := lists_of_findOrder h hafter
  refine ⟨orders, hlists, fun order hmem hid => ?_⟩
  simpa [hid] using List.find?_eq_none.mp hfind order hmem

end Journals

/-! ## Transitions -/

/-- A stage is kept, or the order that it waits for has one more tick counted. -/
inductive Recounts : Stage → Stage → Prop where
  | same (stage : Stage) : Recounts stage stage
  | entry {entry entry' : PlacedOrder} (counted : Counted entry entry') :
      Recounts (.waitForEnter entry) (.waitForEnter entry')
  | exit {entry exit exit' : PlacedOrder} {ratchet : Ratchet} (counted : Counted exit exit') :
      Recounts (.waitForExit entry exit ratchet) (.waitForExit entry exit' ratchet)

/--
What the calls of one operation, the ledgers and the trade that it reports say about the
stage that it leaves the tracker in.
-/
inductive Transition (op : Operation κ) (desk after : Desk (Journaled σ) κ) :
    Stage → Stage → Option ClosedTrade → Prop where
  -- without an order that is created or cancelled the phase is the same
  | stay {stage stage' : Stage} (recounts : Recounts stage stage')
      (created_eq : created desk after = []) (cancelled_eq : cancelled desk after = [])
      (ledgers_eq : after.ledgers = desk.ledgers) : Transition op desk after stage stage' none
  | enter {order : PlacedOrder} (enters : order.kind.isEnter = true)
      (created_eq : created desk after = [order]) (cancelled_eq : cancelled desk after = [])
      (ledgers_eq : after.ledgers = desk.ledgers) :
      Transition op desk after .needEnter (.waitForEnter order) none
  -- an entry is in the ledger as soon as it is missing from the list, or is taken in part
  | fill {entry : PlacedOrder} (misses : Misses desk after entry.id)
      (created_eq : created desk after = []) (cancelled_eq : cancelled desk after = [])
      (adds : desk.AddsEntry entry.side after.ledgers) :
      Transition op desk after (.waitForEnter entry) (.needExit entry none) none
  | takePart {entry : PlacedOrder} {order : OpenOrder} {held : Float}
      (shows : Shows desk after entry.id order) (part : order.isPartiallyFilled = true)
      (overdue : desk.tracker.settings.limits.enterPartiallyExecuted < entry.partiallyExecuted + 1)
      (created_eq : created desk after = []) (cancelled_eq : cancelled desk after = [entry.id])
      (adds : desk.AddsEntry entry.side after.ledgers) :
      Transition op desk after (.waitForEnter entry)
        (.needExit (entry.countPartiallyExecuted.withQuantity held) none) none
  -- the rest of the entry is cancelled, but the ledger refuses it: the tracker goes on waiting
  | cutOff {entry : PlacedOrder} {order : OpenOrder} (shows : Shows desk after entry.id order)
      (part : order.isPartiallyFilled = true)
      (refuses : ∀ ledgers, ¬desk.TakesEntry entry.side ledgers)
      (created_eq : created desk after = []) (cancelled_eq : cancelled desk after = [entry.id])
      (ledgers_eq : after.ledgers = desk.ledgers) :
      Transition op desk after (.waitForEnter entry) (.waitForEnter entry) none
  -- only an entry that is listed as whole is given up, and the ledger never hears of it
  | giveUp {entry : PlacedOrder} {order : OpenOrder} (shows : Shows desk after entry.id order)
      (whole : order.isPartiallyFilled = false) (created_eq : created desk after = [])
      (cancelled_eq : cancelled desk after = [entry.id])
      (ledgers_eq : after.ledgers = desk.ledgers) :
      Transition op desk after (.waitForEnter entry) .needEnter none
  | leave {entry order : PlacedOrder} {ratchet? : Option Ratchet} {proposed : Float}
      (kind_eq : order.kind = entry.side.exitKind) (usable : PriceRule.isUsable proposed = true)
      (price_eq : order.price = exitPrice ratchet? proposed)
      (created_eq : created desk after = [order])
      (cancelled_eq : cancelled desk after = []) (ledgers_eq : after.ledgers = desk.ledgers) :
      Transition op desk after (.needExit entry ratchet?)
        (.waitForExit entry order ((ratchet?.getD { side := entry.side }).apply order.price)) none
  -- an exit is moved by way of the phase that needs one, where it stays without a replacement
  | withdraw {entry exit : PlacedOrder} {order : OpenOrder} {ratchet ratchet' : Ratchet}
      {price : Float} (shows : Shows desk after exit.id order)
      (moves : MovesTo op desk entry exit ratchet price ratchet')
      (created_eq : created desk after = [])
      (cancelled_eq : cancelled desk after = [exit.id])
      (ledgers_eq : after.ledgers = desk.ledgers) :
      Transition op desk after (.waitForExit entry exit ratchet)
        (.needExit entry (some ratchet')) none
  | replace {entry exit exit' : PlacedOrder} {order : OpenOrder} {ratchet ratchet' : Ratchet}
      (shows : Shows desk after exit.id order) (kind_eq : exit'.kind = entry.side.exitKind)
      (moves : MovesTo op desk entry exit ratchet exit'.price ratchet')
      (created_eq : created desk after = [exit']) (cancelled_eq : cancelled desk after = [exit.id])
      (ledgers_eq : after.ledgers = desk.ledgers) :
      Transition op desk after (.waitForExit entry exit ratchet)
        (.waitForExit entry exit' ratchet') none
  | close {entry exit : PlacedOrder} {ratchet : Ratchet} {trade : ClosedTrade}
      (misses : Misses desk after exit.id) (created_eq : created desk after = [])
      (cancelled_eq : cancelled desk after = []) (adds : desk.AddsExit after.ledgers) :
      Transition op desk after (.waitForExit entry exit ratchet) .needEnter (some trade)

/-! ## Deeds as transitions -/

section Transitions

variable {venue : Venue σ} {op : Operation κ} {desk mid after : Desk (Journaled σ) κ}

/-- The tracker stands at a stage, and is as it was otherwise. -/
def StandsAt (desk after : Desk (Journaled σ) κ) (stage : Stage) : Prop :=
  after.tracker = { desk.tracker with stage := some stage }

/-- Where nothing is disturbed a tracker stands at the stage it had. -/
theorem standsAt_of_stage {stage : Stage} (h : Undisturbed desk after)
    (hstage : desk.tracker.stage = some stage) : StandsAt desk after stage := by
  rw [StandsAt, h.tracker_eq, ← hstage]

/-- A tracker whose stage is set stands there. -/
theorem standsAt_withStage (h : Undisturbed desk mid) (stage : Stage) :
    StandsAt desk (mid.withStage stage) stage := by
  rw [StandsAt, withStage, h.tracker_eq]

/-- Where nothing is created and nothing is cancelled, the stage stays. -/
theorem idle_transition {stage : Stage} (hstage : desk.tracker.stage = some stage)
    (hcalls : Journals [] [] desk after) (hsame : Undisturbed desk after) :
    ∃ stage', StandsAt desk after stage' ∧ Transition op desk after stage stage' none :=
  ⟨stage, standsAt_of_stage hsame hstage,
    .stay (.same stage) hcalls.created_eq hcalls.cancelled_eq hsame.ledgers_eq⟩

/-- An entry that is found filled in part, and then cancelled. -/
theorem shows_of_part {entry : PlacedOrder} {order : OpenOrder} {held : Float}
    {seen asked : Desk (Journaled σ) κ}
    (finds : Ends (findOrder venue.journaled entry.id) desk (.ok (some order)) seen)
    (holds : Holds venue.journaled seen entry.side order.filledQuantity held asked)
    (cancels : Ends (cancel venue.journaled entry.id) asked (.ok true) after) :
    Shows desk after entry.id order ∧ Journals [] [entry.id] desk after := by
  have hcancelled : Journals [] [entry.id] seen after :=
    (Asking.tending (holds_asking holds)).journals.trans (journals_of_cancel cancels)
  exact ⟨lists_of_findOrder finds hcancelled,
    (tending_of_findOrder finds).journals.trans hcancelled⟩

/-- An order that is found and then cancelled, whatever rules were asked in between. -/
theorem journals_of_cancelFound {id : OrderId} {order : OpenOrder} {rules : κ}
    {seen : Desk (Journaled σ) κ}
    (finds : Ends (findOrder venue.journaled id) desk (.ok (some order)) seen)
    (cancels : Ends (cancel venue.journaled id) { seen with rules } (.ok true) after) :
    Journals [] [id] seen after ∧ Journals [] [id] desk after := by
  have hcancelled : Journals [] [id] { seen with rules } after := journals_of_cancel cancels
  -- what the rules remember is no part of the journal
  exact ⟨hcancelled, (tending_of_findOrder finds).journals.trans hcancelled⟩

/-- Every deed is a transition, backed by the calls that were made in the course of it. -/
theorem Deed.transition {stage : Stage} {trade? : Option ClosedTrade}
    (hstage : desk.tracker.stage = some stage) (h : Deed venue.journaled op desk trade? after) :
    ∃ stage', StandsAt desk after stage' ∧ Transition op desk after stage stage' trade? := by
  cases h with
  | tend tending => exact idle_transition hstage tending.journals tending.undisturbed
  | missEntry _ tending _ unplaced | missExit _ tending _ unplaced =>
    have hcalls := tending.journals.trans unplaced.journals
    exact idle_transition hstage hcalls (tending.undisturbed.trans unplaced.undisturbed)
  | @waitEnter mid entry entry' stage_eq tending counted =>
    cases hstage.symm.trans stage_eq
    have hcalls := tending.journals
    have hsame := tending.undisturbed
    exact ⟨_, standsAt_withStage hsame _,
      .stay (.entry counted) hcalls.created_eq hcalls.cancelled_eq hsame.ledgers_eq⟩
  | @waitExit mid entry exit exit' ratchet stage_eq tending counted =>
    cases hstage.symm.trans stage_eq
    have hcalls := tending.journals
    have hsame := tending.undisturbed
    exact ⟨_, standsAt_withStage hsame _,
      .stay (.exit counted) hcalls.created_eq hcalls.cancelled_eq hsame.ledgers_eq⟩
  | @enter asked placed side quantity price order stage_eq tending _ submits =>
    cases hstage.symm.trans stage_eq
    have hcalls : Journals [order] [] desk placed :=
      tending.journals.trans (journals_of_submit submits)
    have hsame := tending.undisturbed.trans (.submit submits)
    obtain ⟨id, state, -, rfl, -⟩ := ends_submit_ok.mp submits
    exact ⟨_, standsAt_withStage hsame _, .enter (Side.isEnter_enterKind side) hcalls.created_eq
      hcalls.cancelled_eq hsame.ledgers_eq⟩
  | @leave asked placed entry order ratchet? quantity proposed stage_eq tending usable submits =>
    cases hstage.symm.trans stage_eq
    have hcalls : Journals [order] [] desk placed :=
      tending.journals.trans (journals_of_submit submits)
    have hsame := tending.undisturbed.trans (.submit submits)
    obtain ⟨id, state, -, rfl, -⟩ := ends_submit_ok.mp submits
    exact ⟨_, standsAt_withStage hsame _,
      .leave rfl usable rfl hcalls.created_eq hcalls.cancelled_eq hsame.ledgers_eq⟩
  | @fill seen entry ledgers stage_eq finds takes =>
    cases hstage.symm.trans stage_eq
    have hcalls := (tending_of_findOrder finds).journals
    have hsame := Undisturbed.findOrder finds
    -- the look is all that the operation has called for
    have hmisses : Misses desk seen entry.id := misses_of_findOrder finds ⟨[], rfl, rfl, rfl⟩
    refine ⟨_, standsAt_withStage hsame _, ?_⟩
    exact .fill hmisses hcalls.created_eq hcalls.cancelled_eq (hsame.takesEntry_iff.mp takes).adds
  | @takePart seen asked mid entry order held ledgers stage_eq finds part overdue holds cancels
    takes =>
    cases hstage.symm.trans stage_eq
    obtain ⟨hshows, hcalls⟩ := shows_of_part finds holds cancels
    have hsame := undisturbed_of_part finds holds cancels
    refine ⟨_, standsAt_withStage hsame _, ?_⟩
    exact .takePart hshows part overdue hcalls.created_eq hcalls.cancelled_eq
      (hsame.takesEntry_iff.mp takes).adds
  | @cutOff seen asked _ entry order held stage_eq finds part holds cancels refuses =>
    cases hstage.symm.trans stage_eq
    obtain ⟨hshows, hcalls⟩ := shows_of_part finds holds cancels
    have hsame := undisturbed_of_part finds holds cancels
    -- the ledger is as it was at the beginning, and would have refused the entry then
    simp only [hsame.takesEntry_iff] at refuses
    exact ⟨_, standsAt_of_stage hsame hstage, .cutOff hshows part refuses hcalls.created_eq
      hcalls.cancelled_eq hsame.ledgers_eq⟩
  | @giveUp seen mid entry order rules stage_eq finds whole cancels =>
    cases hstage.symm.trans stage_eq
    obtain ⟨hcancelled, hcalls⟩ := journals_of_cancelFound finds cancels
    have hshows : Shows desk mid entry.id order := lists_of_findOrder finds hcancelled
    have hsame := Undisturbed.cancelFound finds cancels
    exact ⟨_, standsAt_withStage hsame _, .giveUp hshows whole hcalls.created_eq
      hcalls.cancelled_eq hsame.ledgers_eq⟩
  | @withdraw seen mid _ entry exit order ratchet ratchet' price rules stage_eq finds moves cancels
      unplaced =>
    cases hstage.symm.trans stage_eq
    obtain ⟨hcancelled, hcalls⟩ := journals_of_cancelFound finds cancels
    -- the replacement is missing, so the list and the cancel are all there is
    have hmissing : Journals [] [] mid after := unplaced.journals
    have hshows : Shows desk after exit.id order :=
      lists_of_findOrder finds (hcancelled.trans hmissing)
    have hcalls := hcalls.trans hmissing
    have hsame := Undisturbed.cancelFound finds cancels
    have hafter := unplaced.undisturbed
    refine ⟨.needExit entry (some ratchet'), ?_, .withdraw hshows moves hcalls.created_eq
      hcalls.cancelled_eq (hafter.ledgers_eq.trans hsame.ledgers_eq)⟩
    rw [StandsAt, hafter.tracker_eq, withStage, hsame.tracker_eq]
  | @replace seen mid asked placed entry exit exit' order ratchet ratchet' quantity price rules
      stage_eq finds moves cancels asking submits =>
    cases hstage.symm.trans stage_eq
    obtain ⟨hcancelled, hcalls⟩ := journals_of_cancelFound finds cancels
    have hplaced : Journals [exit'] [] mid placed :=
      (Asking.tending asking).journals.trans (journals_of_submit submits)
    have hshows : Shows desk placed exit.id order :=
      lists_of_findOrder finds (hcancelled.trans hplaced)
    have hcalls := hcalls.trans hplaced
    have hsame := Undisturbed.cancelFound finds cancels
    have hafter := (Asking.undisturbed asking).trans (.submit submits)
    obtain ⟨id, state, -, rfl, -⟩ := ends_submit_ok.mp submits
    refine ⟨.waitForExit entry _ ratchet', ?_, .replace hshows rfl moves hcalls.created_eq
      hcalls.cancelled_eq (hafter.ledgers_eq.trans hsame.ledgers_eq)⟩
    rw [StandsAt, withStage, hafter.tracker_eq, withStage, hsame.tracker_eq]
  | close closing =>
    obtain ⟨stage_eq, finds, values, takes⟩ := closing
    cases hstage.symm.trans stage_eq
    have hvalued := (Asking.tending (closedTrade_onlyAsks _ _ _ rfl values)).journals
    have hcalls := (tending_of_findOrder finds).journals.trans hvalued
    have hsame := (Undisturbed.findOrder finds).trans (undisturbed_of_closedTrade values)
    refine ⟨_, standsAt_withStage hsame _, ?_⟩
    exact .close (misses_of_findOrder finds hvalued) hcalls.created_eq hcalls.cancelled_eq
      (hsame.takesExit_iff.mp takes).adds

/-- An order that is needed is waited for exactly when one was created. -/
theorem Transition.waits_iff {stage stage' : Stage} {trade? : Option ClosedTrade}
    (h : Transition op desk after stage stage' trade?) :
    (stage = .needEnter →
        (stage'.phase = .waitForEnter ↔ ∃ order, created desk after = [order])) ∧
      (stage.phase = .needExit →
        (stage'.phase = .waitForExit ↔ ∃ order, created desk after = [order])) := by
  cases h with
  | stay recounts created_eq _ _ =>
    rw [created_eq]
    cases recounts with
    | same =>
      -- the stage that is needed is no stage that waits
      refine ⟨?_, fun hphase => ?_⟩
      · rintro rfl
        simp [Stage.phase]
      · simp [hphase]
    | entry | exit => simp [Stage.phase]
  | enter _ created_eq _ _ =>
    exact ⟨fun _ => ⟨fun _ => ⟨_, created_eq⟩, fun _ => rfl⟩, by simp [Stage.phase]⟩
  | leave _ _ _ created_eq _ _ =>
    exact ⟨by simp, fun _ => ⟨fun _ => ⟨_, created_eq⟩, fun _ => rfl⟩⟩
  | fill | takePart | cutOff | giveUp | withdraw | replace | close => simp [Stage.phase]

/--
**A tracker moves on only by what the venue has answered.** Whatever the answers are, one
operation of a tracker that has a stage makes a transition of `Transition`, and none at
all where it belongs to another phase. An order that is needed is waited for exactly when
one was created. The list that is kept for the tick is the latest one in the journal.
-/
theorem transition_of_run (listening : Listening venue.journaled Journaled.calls desk)
    (op : Operation κ) {stage : Stage} (hstage : desk.tracker.stage = some stage) :
    let after := (outcome (op.run venue.journaled) desk).2
    (∃ stage', after.tracker = { desk.tracker with stage := some stage' } ∧
        Transition op desk after stage stage' (op.trade? venue.journaled desk) ∧
          (stage = .needEnter →
            (stage'.phase = .waitForEnter ↔ ∃ order, created desk after = [order])) ∧
          (stage.phase = .needExit →
            (stage'.phase = .waitForExit ↔ ∃ order, created desk after = [order]))) ∧
      (∀ phase, op.phase? = some phase → stage.phase ≠ phase → after = desk) ∧
        ∀ orders, desk.listed? = some orders → latestList desk.venue.calls = some orders := by
  intro after
  have hends : Ends (op.run venue.journaled) desk _ after := ends_outcome _ desk
  refine ⟨?_, fun phase hphase hmisplaced => ?_, (listening.kept (hears_journaled venue)).2⟩
  · obtain ⟨stage', hstands, htransition⟩ := (deed_of_run op hstage hends).transition hstage
    exact ⟨stage', hstands, htransition, htransition.waits_iff⟩
  · exact congrArg Prod.snd (ends_of_misplaced op hstage hphase hmisplaced)

end Transitions

/-! ### An entry that is taken in part -/

/-- A tracker at its first bar, at a watched paper venue where a thousand is to be spent. -/
def spending (config : StrategyConfig) : Desk (Journaled Paper) Unit :=
  let settings := (Session.start (.ofCurrencies "BTC" "EUR") config () ()).desk.tracker.settings
  let paper := Paper.holding (.ofCurrencies "BTC" "EUR") [("EUR", 1000.0)]
  (outcome (update Paper.venue.journaled) (.open settings ⟨paper, []⟩ ())).2

/-- On the next tick the market is where it was, and half of what it reaches is filled. -/
def halved (desk : Desk (Journaled Paper) Unit) : Desk (Journaled Paper) Unit :=
  let paper := { desk.venue.venue with partialFill := some 0.5 }.setTicker Paper.narrow
  { desk with tick := desk.tick + 1, venue := { desk.venue with venue := paper } }

/-- The market fills orders without a call, so that the journal is the same. -/
theorem Listening.halved {desk : Desk (Journaled Paper) Unit}
    (h : Listening Paper.venue.journaled Journaled.calls desk) :
    Listening Paper.venue.journaled Journaled.calls (halved desk) :=
  .meanwhile h (Nat.le_succ _) rfl rfl rfl

/-- An entry that is filled by half, by a tracker that is to wait for no more of it. -/
def halfFilled : Desk (Journaled Paper) Unit :=
  halved (outcome ((Operation.placeEnter (.fixed 101.0) .long).run Paper.venue.journaled)
    (spending { limits := { enterPartiallyExecuted := 0 } })).2

/-- The tracker of the entry that is filled by half has heard what its venue told. -/
theorem listening_halfFilled : Listening Paper.venue.journaled Journaled.calls halfFilled :=
  .halved (.operate (.begin rfl rfl) (.placeEnter (.fixed 101.0) .long))

/-- The rest of the entry is cancelled, and what there is of it needs an exit. -/
theorem transition_of_halfFilled :
    let track := Operation.trackEnter (.fixed 101.0)
    let after := (outcome (track.run Paper.venue.journaled) halfFilled).2
    ∃ entry exits, halfFilled.tracker.stage = some (.waitForEnter entry) ∧
      after.tracker.stage = some exits ∧ exits.phase = .needExit ∧
        Transition track halfFilled after (.waitForEnter entry) exits none := by
  intro track after
  have hphase : halfFilled.tracker.stage.map Stage.phase = some .waitForEnter := by decide +kernel
  have hafter : after.tracker.phase = .needExit := by decide +kernel
  obtain ⟨stage, hstage, hwaits⟩ := Option.map_eq_some_iff.mp hphase
  obtain ⟨⟨stage', hstands, htransition, -⟩, -⟩ :=
    transition_of_run listening_halfFilled track hstage
  cases stage with
  | waitForEnter entry =>
    have hstage' : after.tracker.stage = some stage' := by rw [hstands]
    refine ⟨entry, stage', hstage, hstage', ?_, htransition⟩
    simpa only [Tracker.phase, hstage', Option.map_some, Option.getD_some] using hafter
  | needEnter | needExit | waitForExit => cases hwaits

end Tracker

end SwingTrader
