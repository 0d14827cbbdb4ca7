import SwingTrader.Proofs.Tracker.Deed

/-!
# SwingTrader — what a tracker has last heard of its orders

A tracker looks its orders up in a list that the venue has answered, and at one tick it
looks more than once in the same list. That is only sound while the book has not been
changed by the tracker itself, so a list is forgotten with every order that is created or
cancelled. What is decided on a list that was kept is therefore decided on the newest
answer of the venue.

Nothing about that depends on what the single operations are for. It is shown for the
few steps that they are made of.

* `Tracker.Step`, `Tracker.steps_of_run` — the steps of an operation;
* `Hears` — a venue that remembers its latest list of open orders;
* `Tracker.Listening` — the desks that operations lead to;
* `Tracker.Listening.kept` — the list that is kept at such a desk is the latest one.
-/

namespace SwingTrader

variable {σ κ : Type}

open Desk

namespace Tracker

/-! ## Steps -/

/-- The steps that the operations of a tracker are made of. -/
inductive Step (venue : Venue σ) : Desk σ κ → Desk σ κ → Prop where
  | tend {desk after : Desk σ κ} (tends : Tend venue desk after) : Step venue desk after
  -- an order that is refused leaves the list as it is kept; one that is created does not
  | refuse {desk : Desk σ κ} {kind : OrderKind} {quantity price : Float} {reason : VenueError}
      {state : σ}
      (replies : Replies (venue.createOrder desk.market kind quantity price) desk.venue
        (.error reason) state) :
      Step venue desk { desk with venue := state }
  | create {desk after : Desk σ κ} {kind : OrderKind} {quantity price : Float} {order : PlacedOrder}
      (submits : Ends (submit venue kind quantity price) desk (.ok order) after) :
      Step venue desk after
  | clear {desk after : Desk σ κ} {id : OrderId}
      (cancels : Ends (cancel venue id) desk (.ok true) after) : Step venue desk after
  -- stages and ledgers are the tracker's own
  | settle (desk : Desk σ κ) (ledgers : LedgerBook) (tracker : Tracker) :
      Step venue desk { desk with ledgers, tracker }

/-- Any number of steps. -/
abbrev Steps (venue : Venue σ) : Desk σ κ → Desk σ κ → Prop :=
  Relation.ReflTransGen (Step venue)

section Steps

variable {venue : Venue σ} {op : Operation κ} {desk seen mid after : Desk σ κ}

theorem Tending.steps (h : Tending venue desk after) : Steps venue desk after :=
  Relation.ReflTransGen.mono (fun _ _ htend => Step.tend htend) _ _ h

theorem Asking.steps (h : Asking venue desk after) : Steps venue desk after :=
  (Asking.tending h).steps

/-- To look an order up is made of steps. -/
theorem steps_of_findOrder {id : OrderId} {found : Option OpenOrder}
    (h : Ends (findOrder venue id) desk (.ok found) after) : Steps venue desk after :=
  (tending_of_findOrder h).steps

/-- A desk is left at another stage. -/
theorem Steps.toStage (h : Steps venue desk mid) (stage : Stage) :
    Steps venue desk (mid.withStage stage) :=
  h.tail (.settle mid mid.ledgers { mid.tracker with stage := some stage })

/-- A desk is left at another stage, with an event in its ledger. -/
theorem Steps.record (h : Steps venue desk mid) (ledgers : LedgerBook) (stage : Stage) :
    Steps venue desk ({ mid with ledgers }.withStage stage) :=
  h.tail (.settle mid ledgers { mid.tracker with stage := some stage })

theorem Unplaced.steps {kind : OrderKind} {price : Float}
    (h : Unplaced venue kind price desk after) : Steps venue desk after := by
  cases h with
  | unsized asking => exact Asking.steps asking
  | refused asking replies => exact (Asking.steps asking).tail (.refuse replies)

/-- To cut off an entry that is filled in part is made of steps. -/
theorem steps_of_part {entry : PlacedOrder} {order : OpenOrder} {held : Float} {asked : Desk σ κ}
    (finds : Ends (findOrder venue entry.id) desk (.ok (some order)) seen)
    (holds : Holds venue seen entry.side order.filledQuantity held asked)
    (cancels : Ends (cancel venue entry.id) asked (.ok true) after) : Steps venue desk after :=
  ((steps_of_findOrder finds).trans (Asking.steps (holds_asking holds))).tail (.clear cancels)

/-- To cancel an order that was found is made of steps. -/
theorem steps_of_cancelFound {id : OrderId} {order : OpenOrder} {rules : κ}
    (finds : Ends (findOrder venue id) desk (.ok (some order)) seen)
    (cancels : Ends (cancel venue id) { seen with rules } (.ok true) after) :
    Steps venue desk after :=
  ((steps_of_findOrder finds).tail (.tend (.remember seen rules))).tail (.clear cancels)

/-- Whatever an operation comes to is made of steps. -/
theorem Deed.steps {trade? : Option ClosedTrade} (h : Deed venue op desk trade? after) :
    Steps venue desk after := by
  cases h with
  | tend tending => exact tending.steps
  | waitEnter _ tending _ | waitExit _ tending _ => exact .toStage tending.steps _
  | missEntry _ tending _ unplaced | missExit _ tending _ unplaced =>
    exact tending.steps.trans unplaced.steps
  | enter _ tending _ submits | leave _ tending _ submits =>
    exact .toStage (tending.steps.tail (.create submits)) _
  | fill _ finds _ => exact .record (steps_of_findOrder finds) _ _
  | takePart _ finds _ _ holds cancels _ => exact .record (steps_of_part finds holds cancels) _ _
  | cutOff _ finds _ holds cancels _ => exact steps_of_part finds holds cancels
  | giveUp _ finds _ cancels => exact .toStage (steps_of_cancelFound finds cancels) _
  | withdraw _ finds _ cancels unplaced =>
    exact (Steps.toStage (steps_of_cancelFound finds cancels) _).trans unplaced.steps
  | replace _ finds _ cancels asking submits =>
    have hcancelled := steps_of_cancelFound finds cancels
    have hasked := (Steps.toStage hcancelled _).trans (Asking.steps asking)
    exact .toStage (hasked.tail (.create submits)) _
  | close closing =>
    obtain ⟨-, finds, values, -⟩ := closing
    have hvalued := Asking.steps (closedTrade_onlyAsks _ _ _ rfl values)
    exact .record ((steps_of_findOrder finds).trans hvalued) _ _

/-- The two numbers that tell whether a position is held are asked for after the list. -/
theorem steps_of_holdings {orders : List OpenOrder} {base minimum : Float}
    (lists : Ends (listOrders venue) desk (.ok orders) seen)
    (holds : Ends (call (venue.availableBalance desk.market.base)) seen (.ok base) mid)
    (least : Ends (call (venue.minimumOrderVolume desk.market)) mid (.ok minimum) after) :
    Steps venue desk after := by
  have hseen := (Undisturbed.listOrders lists).market_eq
  have hasked := ((Undisturbed.listOrders lists).trans (.call holds)).market_eq
  have hbalance := Asking.steps (onlyAsks_call (.balance _) hseen holds)
  have hminimum := Asking.steps (onlyAsks_call .minimum hasked least)
  exact .head (.tend (.list lists)) (hbalance.trans hminimum)

theorem Finding.steps (h : Finding venue desk after) : Steps venue desk after := by
  cases h with
  | flat _ lists holds least _ => exact .toStage (steps_of_holdings lists holds least) _
  | held _ lists holds least _ _ => exact .record (steps_of_holdings lists holds least) _ _
  | enter _ lists _ => exact .toStage (.single (.tend (.list lists))) _
  | leave _ lists _ _ => exact .record (.single (.tend (.list lists))) _ _

/-- Whatever an operation comes to, it is made of steps. -/
theorem steps_of_run (op : Operation κ) {answer : Except TradingError Unit}
    (h : Ends (op.run venue) desk answer after) : Steps venue desk after := by
  obtain ⟨error, hresume, -⟩ | ⟨stage, looked, hresume, hop⟩ := run_inv op h
  · exact (seeks_of_resume_error hresume).2.1.tending.steps
  · obtain ⟨hfound, hstage⟩ := found_of_resume hresume
    have hsteps := (deed_of_run op hstage hop).steps
    cases hfound with
    | known _ => exact hsteps
    | finds finding => exact finding.steps.trans hsteps

end Steps

end Tracker

/-! ## Hearing -/

/--
What the state of a venue tells of the latest list of open orders that it has answered:
a list that it answers is the latest from then on, and no other call has one.
-/
structure Hears (venue : Venue σ) (heard : σ → Option (List OpenOrder)) : Prop where
  lists {market : Market} {state after : σ} {orders : List OpenOrder}
    (replies : Replies (venue.openOrders market) state (.ok orders) after) :
    heard after = some orders
  fails {market : Market} {state after : σ} {reason : VenueError}
    (replies : Replies (venue.openOrders market) state (.error reason) after) :
    heard after = heard state
  asks {market : Market} {request : VenueM σ Float} {state after : σ}
    {reply : Except VenueError Float} (asks : Tracker.Asks venue market request)
    (replies : Replies request state reply after) : heard after = heard state
  creates {market : Market} {kind : OrderKind} {quantity price : Float} {state after : σ}
    {reply : Except VenueError OrderId}
    (replies : Replies (venue.createOrder market kind quantity price) state reply after) :
    heard after = heard state
  cancels {market : Market} {id : OrderId} {state after : σ} {reply : Except VenueError Bool}
    (replies : Replies (venue.cancelOrder market id) state reply after) : heard after = heard state

namespace Tracker

/-- The list that is kept for the tick, if one is, is the latest one. -/
def Keeps (heard : σ → Option (List OpenOrder)) (desk : Desk σ κ) : Prop :=
  ∀ orders, desk.listed? = some orders → heard desk.venue = some orders

section Keeps

variable {venue : Venue σ} {heard : σ → Option (List OpenOrder)} {desk after : Desk σ κ}

/--
Where neither the list nor what the venue tells has changed, the list is the latest as
before.
-/
theorem Keeps.congr (hkeeps : Keeps heard desk) (hlisted : after.listed? = desk.listed?)
    (hheard : heard after.venue = heard desk.venue) : Keeps heard after := by
  intro orders hafter
  rw [hlisted] at hafter
  rw [hheard]
  exact hkeeps orders hafter

/-- A list that is forgotten need not be the latest. -/
theorem keeps_forgetting (desk : Desk σ κ) : Keeps heard desk.forgetting := by
  intro orders hlisted
  rw [listed?, forgetting, OpenOrderCache.at?_invalidate] at hlisted
  cases hlisted

/-- The orders that are listed are the latest that the venue has answered. -/
theorem heard_of_listOrders {orders : List OpenOrder} (hhears : Hears venue heard)
    (hkeeps : Keeps heard desk) (h : Ends (listOrders venue) desk (.ok orders) after) :
    heard after.venue = some orders := by
  obtain ⟨hlisted, rfl⟩ | ⟨-, state, hreply, rfl⟩ := ends_listOrders_ok.mp h
  · exact hkeeps orders hlisted
  · exact hhears.lists hreply

/-- A cancel tells nothing of the open orders. -/
theorem heard_of_cancel {id : OrderId} {answer : Except TradingError Bool}
    (hhears : Hears venue heard) (h : Ends (cancel venue id) desk answer after) :
    heard after.venue = heard desk.venue := by
  obtain ⟨_ | _, state, hreply, -, rfl⟩ := ends_cancel.mp h
  · exact hhears.cancels hreply
  · exact hhears.cancels hreply

/-- What leaves the book alone keeps the latest list. -/
theorem Tend.keeps (hhears : Hears venue heard) (h : Tend venue desk after)
    (hkeeps : Keeps heard desk) : Keeps heard after := by
  cases h with
  | remember => exact hkeeps
  | ask asks =>
    obtain ⟨asks, replies⟩ := asks
    exact hkeeps.congr rfl (hhears.asks asks replies)
  | @list _ answer lists =>
    cases answer with
    | error error =>
      obtain ⟨-, reason, state, hreply, -, rfl⟩ := ends_listOrders_error.mp lists
      exact hkeeps.congr rfl (hhears.fails hreply)
    | ok listed =>
      intro orders hlisted
      rw [listed?_of_listOrders lists hlisted]
      exact heard_of_listOrders hhears hkeeps lists
  | keep cancels =>
    obtain ⟨_ | _, state, hreply, -, rfl⟩ := ends_cancel.mp cancels
    -- a cancel that is not answered leaves the list, and one that is refused forgets it
    · exact hkeeps.congr rfl (hhears.cancels hreply)
    · exact keeps_forgetting _

/-- Every step keeps the latest list, or throws it away. -/
theorem Step.keeps (hhears : Hears venue heard) (h : Step venue desk after)
    (hkeeps : Keeps heard desk) : Keeps heard after := by
  cases h with
  | tend tends => exact tends.keeps hhears hkeeps
  | refuse replies => exact hkeeps.congr rfl (hhears.creates replies)
  | create submits =>
    obtain ⟨_, _, -, -, rfl⟩ := ends_submit_ok.mp submits
    exact keeps_forgetting _
  | clear cancels =>
    obtain ⟨_ | _, _, -, hanswer, rfl⟩ := ends_cancel.mp cancels
    · cases hanswer
    · exact keeps_forgetting _
  | settle => exact hkeeps

/-- No step keeps a list for a tick still to come. -/
theorem Step.upTo (h : Step venue desk after) (hupTo : desk.openOrders.UpTo desk.tick) :
    after.openOrders.UpTo after.tick := by
  cases h with
  | tend tends =>
    cases tends with
    | remember => exact hupTo
    | ask asks =>
      cases asks
      exact hupTo
    | @list _ answer lists =>
      cases answer with
      | error error =>
        obtain ⟨-, _, _, -, -, rfl⟩ := ends_listOrders_error.mp lists
        exact hupTo
      | ok listed =>
        obtain ⟨-, rfl⟩ | ⟨-, _, -, rfl⟩ := ends_listOrders_ok.mp lists
        · exact hupTo
        -- a new list is the one step that keeps something, and it is of this tick
        · exact hupTo.store
    | keep cancels =>
      obtain ⟨_ | _, _, -, -, rfl⟩ := ends_cancel.mp cancels
      · exact hupTo
      · exact hupTo.invalidate
  | refuse | settle => exact hupTo
  | create submits =>
    obtain ⟨_, _, -, -, rfl⟩ := ends_submit_ok.mp submits
    exact hupTo.invalidate
  | clear cancels =>
    obtain ⟨_ | _, _, -, hanswer, rfl⟩ := ends_cancel.mp cancels
    · cases hanswer
    · exact hupTo.invalidate

/-- What no step breaks, no operation does. -/
theorem Steps.kept (hhears : Hears venue heard) (h : Steps venue desk after)
    (hkept : desk.openOrders.UpTo desk.tick ∧ Keeps heard desk) :
    after.openOrders.UpTo after.tick ∧ Keeps heard after := by
  induction h with
  | refl => exact hkept
  | tail _ hstep ih => exact ⟨hstep.upTo ih.1, hstep.keeps hhears ih.2⟩

end Keeps

/-! ## Runs -/

/--
The desks of a tracker at a venue that remembers what it has told. Between two operations
everything may change but that, the tracker and the lists that are kept for it; the count
of ticks never goes back.
-/
inductive Listening {μ : Type} (venue : Venue σ) (memory : σ → μ) : Desk σ κ → Prop where
  | begin {desk : Desk σ κ} (unresumed : desk.tracker.stage = none)
      (none_kept : desk.openOrders.snapshots = []) : Listening venue memory desk
  | meanwhile {desk next : Desk σ κ} (listening : Listening venue memory desk)
      (later : desk.tick ≤ next.tick) (tracker_eq : next.tracker = desk.tracker)
      (openOrders_eq : next.openOrders = desk.openOrders)
      (memory_eq : memory next.venue = memory desk.venue) : Listening venue memory next
  | operate {desk : Desk σ κ} (listening : Listening venue memory desk) (op : Operation κ) :
      Listening venue memory (outcome (op.run venue) desk).2

/-- The list that a tracker keeps for a tick is the latest that the venue has answered. -/
theorem Listening.kept {μ : Type} {venue : Venue σ} {memory : σ → μ}
    {heard : μ → Option (List OpenOrder)} {desk : Desk σ κ}
    (hhears : Hears venue (heard ∘ memory)) (h : Listening venue memory desk) :
    desk.openOrders.UpTo desk.tick ∧ Keeps (heard ∘ memory) desk := by
  induction h with
  -- nothing is kept at first
  | begin _ none_kept =>
    refine ⟨by simp [OpenOrderCache.UpTo, none_kept], fun orders hlisted => ?_⟩
    simp [listed?, OpenOrderCache.at?, none_kept] at hlisted
  | @meanwhile desk next _ later _ openOrders_eq memory_eq ih =>
    obtain ⟨hupTo, hkeeps⟩ := ih
    refine ⟨openOrders_eq ▸ hupTo.mono later, fun orders hlisted => ?_⟩
    rw [listed?, openOrders_eq] at hlisted
    -- no list is kept for a tick that is yet to come
    obtain hlt | heq := Nat.lt_or_eq_of_le later
    · rw [hupTo.at?_of_lt hlt] at hlisted
      cases hlisted
    · rw [← heq] at hlisted
      rw [Function.comp_apply, memory_eq]
      exact hkeeps orders hlisted
  | @operate desk _ op ih => exact (steps_of_run op (ends_outcome _ desk)).kept hhears ih

end Tracker

end SwingTrader
