import SwingTrader.Proofs.Paper
import SwingTrader.Proofs.Tracker.Operation

/-!
# SwingTrader — a tracker at the paper venue

What a tracker sees of the paper venue is its book as it stands: a list that is
kept for a tick is thrown away whenever the tracker changes the book, and the
ticker only changes between two ticks. So every move is a turn, which says what
becomes of the book, of the funds and of the stage, and leaves out the looking.

* `Desk.Fresh` — the list that is kept is the book as it stands;
* `Tracker.Turn` — what one move does to the venue and to the stage;
* `Tracker.Move.turn`, `Tracker.Finding.turn` — the moves as turns;
* `Tracker.Closed` — a position that is closed, which is no turn: it ends what the
  turns before it were about.
-/

namespace SwingTrader

variable {κ α : Type} {desk mid after : Desk Paper κ}

open Desk

/-! ## The list that is kept -/

/-- The list kept for the tick is the book as it stands, and none is kept for a tick to come. -/
structure Desk.Fresh (desk : Desk Paper κ) : Prop where
  upTo : desk.openOrders.UpTo desk.tick
  listed : ∀ orders, desk.listed? = some orders → orders = desk.venue.orders

/-- Nothing was done but to ask and to look. -/
structure Desk.Looked (desk after : Desk Paper κ) : Prop where
  same : Undisturbed desk after
  spares : desk.venue.Spares after.venue
  fresh : desk.Fresh → after.Fresh

namespace Desk

theorem Undisturbed.settings_eq (h : Undisturbed desk after) :
    after.tracker.settings = desk.tracker.settings := by
  rw [h.tracker_eq]

theorem Fresh.spares {state : Paper} (h : desk.Fresh) (hspares : desk.venue.Spares state) :
    Fresh { desk with venue := state } := by
  obtain ⟨_, _, _, rfl⟩ := hspares
  exact ⟨h.upTo, h.listed⟩

/-- Once its list is forgotten, nothing is kept that could differ from the book. -/
theorem Fresh.forgetting (h : desk.openOrders.UpTo desk.tick) : desk.forgetting.Fresh where
  upTo := h.invalidate
  listed := by
    intro orders hlisted
    rw [listed?, Desk.forgetting, OpenOrderCache.at?_invalidate] at hlisted
    cases hlisted

namespace Looked

theorem refl (desk : Desk Paper κ) : Looked desk desk :=
  ⟨.refl desk, .refl _, id⟩

theorem trans (h : Looked desk mid) (h' : Looked mid after) : Looked desk after :=
  ⟨h.same.trans h'.same, h.spares.trans h'.spares, fun hfresh => h'.fresh (h.fresh hfresh)⟩

theorem remember (desk : Desk Paper κ) (rules : κ) : Looked desk { desk with rules } :=
  ⟨.remember desk rules, .refl _, fun h => ⟨h.upTo, h.listed⟩⟩

/-- Calls that are set to fail change nothing that is looked at. -/
theorem venue {state : Paper} (h : desk.venue.Spares state) :
    Looked desk { desk with venue := state } :=
  ⟨⟨rfl, rfl, rfl, rfl, rfl⟩, h, fun hfresh => hfresh.spares h⟩

/-- To ask for a balance is only to look, and answers what is available. -/
theorem balance {currency : String} {amount : Float}
    (h : Ends (Desk.call (Paper.venue.availableBalance currency)) desk (.ok amount) after) :
    Looked desk after ∧ amount = desk.venue.balance currency := by
  obtain ⟨state, hreply, rfl⟩ := ends_call_ok.mp h
  obtain ⟨hspares, hamount⟩ := Paper.replies_availableBalance hreply
  exact ⟨.venue hspares, hamount amount rfl⟩

theorem ask (h : Tracker.Ask Paper.venue desk after) : Looked desk after := by
  obtain ⟨asks, replies⟩ := h
  cases asks with
  | balance => exact .venue (Paper.replies_availableBalance replies).1
  | minimum | buyFee | sellFee => exact .venue (Paper.replies_term replies).1

/-- An order that is refused leaves the book as it was. -/
theorem refused {market : Market} {kind : OrderKind} {quantity price : Float} {reason : VenueError}
    {state : Paper}
    (h : Replies (Paper.venue.createOrder market kind quantity price) desk.venue (.error reason)
      state) :
    Looked desk { desk with venue := state } := by
  obtain ⟨-, hspares⟩ | ⟨_, hok, -⟩ := Paper.replies_createOrder h
  · exact .venue hspares
  · cases hok

/-- To list the orders is only to look. -/
theorem listOrders {answer : Except TradingError (List OpenOrder)}
    (h : Ends (listOrders Paper.venue) desk answer after) : Looked desk after := by
  cases answer with
  | error error =>
    obtain ⟨-, reason, state, hreply, -, rfl⟩ := ends_listOrders_error.mp h
    exact .venue (Paper.replies_openOrders hreply).1
  | ok orders =>
    obtain ⟨-, rfl⟩ | ⟨-, state, hreply, hafter⟩ := ends_listOrders_ok.mp h
    · exact .refl _
    · obtain ⟨hspares, horders⟩ := Paper.replies_openOrders hreply
      obtain rfl := horders orders rfl
      refine ⟨.listOrders h, ?_, fun hfresh => ⟨?_, ?_⟩⟩
      · rw [hafter]
        exact hspares
      · rw [hafter]
        exact hfresh.upTo.store
      · intro kept hkept
        -- a list that is kept anew is the one that was just answered
        obtain ⟨_, _, _, rfl⟩ := hspares
        rw [listed?_of_listOrders h hkept, hafter]
        rfl

end Looked

/-- The orders that are listed are the book. -/
theorem Fresh.orders_eq {orders : List OpenOrder} (hfresh : desk.Fresh)
    (h : Ends (listOrders Paper.venue) desk (.ok orders) after) : orders = desk.venue.orders := by
  obtain ⟨hlisted, -⟩ | ⟨-, state, hreply, -⟩ := ends_listOrders_ok.mp h
  · exact hfresh.listed orders hlisted
  · exact (Paper.replies_openOrders hreply).2 orders rfl

/-- An order is looked up in the book. -/
theorem Fresh.found_eq {id : OrderId} {found : Option OpenOrder} (hfresh : desk.Fresh)
    (h : Ends (findOrder Paper.venue id) desk (.ok found) after) :
    Looked desk after ∧ found = desk.venue.orders.find? fun order => order.id = id := by
  obtain ⟨orders, hlist, rfl⟩ := ends_findOrder_ok.mp h
  rw [hfresh.orders_eq hlist]
  exact ⟨.listOrders hlist, rfl⟩

/-- To find out what is held is only to look, and of a long it is all that is available. -/
theorem looked_of_holds {side : Side} {ofShort quantity : Float}
    (h : Tracker.Holds Paper.venue desk side ofShort quantity after) :
    Looked desk after ∧ (side = .long → quantity = desk.venue.balance desk.market.base) := by
  cases side with
  | long =>
    obtain ⟨hlooked, hquantity⟩ := Looked.balance h
    exact ⟨hlooked, fun _ => hquantity⟩
  | short =>
    obtain ⟨-, rfl⟩ := h
    exact ⟨.refl _, nofun⟩

/-- An order that is submitted is placed, and no list is kept after it. -/
theorem places_of_submit {kind : OrderKind} {quantity price : Float} {order : PlacedOrder}
    (h : Ends (submit Paper.venue kind quantity price) desk (.ok order) after) :
    desk.venue.Places order after.venue ∧ order.kind = kind ∧ order.quantity = quantity ∧
      (desk.Fresh → after.Fresh) := by
  obtain ⟨id, state, hreply, rfl, rfl⟩ := ends_submit_ok.mp h
  obtain ⟨⟨_, herror⟩, -⟩ | ⟨_, hok, hplaces⟩ := Paper.replies_createOrder hreply
  · cases herror
  · cases hok
    exact ⟨hplaces, rfl, rfl, fun hfresh => .forgetting hfresh.upTo⟩

/-- An order whose cancel is confirmed is taken off the book, and no list is kept after it. -/
theorem takesOff_of_cancel {id : OrderId}
    (h : Ends (cancel Paper.venue id) desk (.ok true) after) :
    (∃ order, order.id = id ∧ desk.venue.TakesOff order after.venue) ∧
      (desk.Fresh → after.Fresh) := by
  obtain ⟨reply, state, hreply, hafter⟩ := ends_cancel.mp h
  obtain ⟨hrefused, -⟩ | ⟨rfl, htakes⟩ := Paper.replies_cancelOrder hreply
  · cases reply with
    | error => cases hafter.1
    -- a cancel is answered as the venue answers it
    | ok cancelled =>
      obtain ⟨rfl, -⟩ : cancelled = true ∧ True := by simpa using hafter.1.symm
      exact absurd rfl hrefused
  · obtain ⟨-, rfl⟩ := hafter
    exact ⟨htakes, fun hfresh => .forgetting hfresh.upTo⟩

/-- What a confirmed cancel takes off the book is the order that was found there. -/
theorem takesOff_of_found {id : OrderId} {order : OpenOrder} (hlooked : Looked desk mid)
    (hfound : some order = desk.venue.orders.find? fun order => order.id = id)
    (h : Ends (cancel Paper.venue id) mid (.ok true) after) :
    order.id = id ∧ desk.venue.TakesOff order after.venue ∧ (mid.Fresh → after.Fresh) := by
  obtain ⟨⟨taken, rfl, htakes⟩, hafter⟩ := takesOff_of_cancel h
  have htakes := hlooked.spares.takesOff htakes
  -- both are the first of their id on one and the same book
  obtain rfl : order = taken := Option.some.inj (hfound.trans htakes.1)
  exact ⟨rfl, htakes, hafter⟩

/-- A cancel that is refused, or cannot be made, leaves the book as it was. -/
theorem looked_of_cancel {id : OrderId}
    (h : Ends (cancel Paper.venue id) desk (.ok false) after) : Looked desk after := by
  obtain ⟨reply, state, hreply, hafter⟩ := ends_cancel.mp h
  obtain ⟨-, hspares⟩ | ⟨rfl, -⟩ := Paper.replies_cancelOrder hreply
  · cases reply with
    | error =>
      obtain ⟨-, rfl⟩ := hafter
      exact .venue hspares
    | ok cancelled =>
      obtain ⟨-, rfl⟩ := hafter
      exact ⟨⟨rfl, rfl, rfl, rfl, rfl⟩, hspares, fun hfresh => .forgetting hfresh.upTo⟩
  · cases hafter.1

end Desk

namespace Tracker

/-! ## Turns -/

/-- What one move of a tracker does to the paper venue and to the stage. -/
inductive Turn (market : Market) : Paper → Option Stage → Paper → Option Stage → Prop where
  | spare {paper after : Paper} {stage? : Option Stage} (spares : paper.Spares after) :
      Turn market paper stage? after stage?
  | enter {paper after : Paper} {order : PlacedOrder} (enters : order.kind.isEnter = true)
      (places : paper.Places order after) :
      Turn market paper (some .needEnter) after (some (.waitForEnter order))
  | leave {paper after : Paper} {entry order : PlacedOrder} {ratchet? : Option Ratchet}
      {ratchet : Ratchet} (leaves : order.kind = entry.side.exitKind)
      (whole : entry.side = .long → order.quantity = paper.balance market.base)
      (places : paper.Places order after) :
      Turn market paper (some (.needExit entry ratchet?)) after
        (some (.waitForExit entry order ratchet))
  | waitEnter {paper : Paper} {entry entry' : PlacedOrder} (counted : Counted entry entry') :
      Turn market paper (some (.waitForEnter entry)) paper (some (.waitForEnter entry'))
  | waitExit {paper : Paper} {entry exit exit' : PlacedOrder} {ratchet : Ratchet}
      (counted : Counted exit exit') :
      Turn market paper (some (.waitForExit entry exit ratchet)) paper
        (some (.waitForExit entry exit' ratchet))
  | fill {paper after : Paper} {entry : PlacedOrder}
      (missing : paper.orders.find? (fun order => order.id = entry.id) = none)
      (spares : paper.Spares after) :
      Turn market paper (some (.waitForEnter entry)) after (some (.needExit entry none))
  | giveUp {paper after : Paper} {entry : PlacedOrder} {order : OpenOrder}
      (id_eq : order.id = entry.id) (whole : order.isPartiallyFilled = false)
      (takesOff : paper.TakesOff order after) :
      Turn market paper (some (.waitForEnter entry)) after (some .needEnter)
  | takePart {paper after : Paper} {entry taken : PlacedOrder} {order : OpenOrder}
      (id_eq : order.id = entry.id) (part : order.isPartiallyFilled = true)
      (side_eq : taken.side = entry.side) (price_eq : taken.price = entry.price)
      (held : entry.side = .long → taken.quantity = paper.balance market.base)
      (takesOff : paper.TakesOff order after) :
      Turn market paper (some (.waitForEnter entry)) after (some (.needExit taken none))
  | withdraw {paper after : Paper} {entry exit : PlacedOrder} {order : OpenOrder}
      {ratchet ratchet' : Ratchet} (id_eq : order.id = exit.id)
      (takesOff : paper.TakesOff order after) :
      Turn market paper (some (.waitForExit entry exit ratchet)) after
        (some (.needExit entry (some ratchet')))
  | flat {paper after : Paper} (empty : paper.orders = [])
      (not_above : paper.balance market.base ≤ paper.terms.minimumVolume)
      (spares : paper.Spares after) :
      Turn market paper none after (some .needEnter)
  | held {paper after : Paper} {entry : PlacedOrder} (empty : paper.orders = [])
      (above : ¬ paper.balance market.base ≤ paper.terms.minimumVolume)
      (side_eq : entry.side = .long) (spares : paper.Spares after) :
      Turn market paper none after (some (.needExit entry none))
  | adoptEntry {paper after : Paper} {order : OpenOrder} (alone : paper.orders = [order])
      (enters : order.kind.isEnter = true) (spares : paper.Spares after) :
      Turn market paper none after (some (.waitForEnter (adopt order)))
  | adoptExit {paper after : Paper} {order : OpenOrder} {entry : PlacedOrder} {ratchet : Ratchet}
      (alone : paper.orders = [order]) (leaves : order.kind = entry.side.exitKind)
      (spares : paper.Spares after) :
      Turn market paper none after (some (.waitForExit entry (adopt order) ratchet))

/-- The desk has taken a turn, and the list that is kept is the book as before. -/
structure Turns (desk after : Desk Paper κ) : Prop where
  settings_eq : after.tracker.settings = desk.tracker.settings
  prices_eq : after.prices = desk.prices
  fresh : after.Fresh
  turn : Turn desk.market desk.venue desk.tracker.stage after.venue after.tracker.stage

theorem Turns.of_looked (h : Looked desk after) (hfresh : desk.Fresh) : Turns desk after where
  settings_eq := h.same.settings_eq
  prices_eq := h.same.prices_eq
  fresh := h.fresh hfresh
  turn := by
    rw [h.same.tracker_eq]
    exact .spare h.spares

/-- A turn may end with entries in the ledgers and another stage. -/
theorem Turns.toStage {stage : Stage} {ledgers : LedgerBook} (hsame : Undisturbed desk mid)
    (hfresh : mid.Fresh)
    (hturn : Turn desk.market desk.venue desk.tracker.stage mid.venue (some stage)) :
    Turns desk ({ mid with ledgers }.withStage stage) where
  settings_eq := hsame.settings_eq
  prices_eq := hsame.prices_eq
  fresh := ⟨hfresh.upTo, hfresh.listed⟩
  turn := hturn

/-- Every move of a tracker is a turn. -/
theorem Move.turn (h : Move Paper.venue desk after) (hfresh : desk.Fresh) : Turns desk after := by
  -- looking spares the book and the funds, so only what comes after it makes a turn
  cases h with
  | remember rules => exact .of_looked (.remember desk rules) hfresh
  | ask asks => exact .of_looked (.ask asks) hfresh
  | list lists => exact .of_looked (.listOrders lists) hfresh
  | refuseEntry _ _ replies => exact .of_looked (.refused replies) hfresh
  | refuseExit _ holds replies =>
    exact .of_looked ((looked_of_holds holds).1.trans (.refused replies)) hfresh
  | enter stage_eq submits =>
    obtain ⟨hplaces, hkind, -, hafter⟩ := places_of_submit submits
    refine .toStage (.submit submits) (hafter hfresh) ?_
    rw [stage_eq]
    exact .enter (hkind ▸ Side.isEnter_enterKind _) hplaces
  | leave stage_eq _ holds submits =>
    obtain ⟨hlooked, hwhole⟩ := looked_of_holds holds
    -- the balance was asked for just before the order went out
    obtain ⟨hplaces, hkind, rfl, hafter⟩ := places_of_submit submits
    refine .toStage (hlooked.same.trans (.submit submits)) (hafter (hlooked.fresh hfresh)) ?_
    rw [stage_eq]
    exact .leave hkind hwhole (hlooked.spares.places hplaces)
  | waitEnter stage_eq counted =>
    refine .toStage (.refl desk) hfresh ?_
    rw [stage_eq]
    exact .waitEnter counted
  | waitExit stage_eq counted =>
    refine .toStage (.refl desk) hfresh ?_
    rw [stage_eq]
    exact .waitExit counted
  | keep stage_eq awaits cancels => exact .of_looked (looked_of_cancel cancels) hfresh
  | fill stage_eq finds takes =>
    obtain ⟨hlooked, hmissing⟩ := hfresh.found_eq finds
    refine .toStage hlooked.same (hlooked.fresh hfresh) ?_
    rw [stage_eq]
    exact .fill hmissing.symm hlooked.spares
  | giveUp stage_eq finds whole cancels =>
    obtain ⟨hlooked, hfound⟩ := hfresh.found_eq finds
    obtain ⟨hid, htakes, hafter⟩ :=
      takesOff_of_found (hlooked.trans (.remember _ _)) hfound cancels
    have hsame := (hlooked.same.trans (.remember _ _)).trans (.cancel cancels)
    refine .toStage hsame (hafter ((hlooked.trans (.remember _ _)).fresh hfresh)) ?_
    rw [stage_eq]
    exact .giveUp hid whole htakes
  | takePart stage_eq counted finds part holds cancels takes =>
    obtain ⟨hlooked, hfound⟩ := hfresh.found_eq finds
    -- the balance is read before the cancel, which gives back nothing of what is held
    obtain ⟨hasked, hheld⟩ := looked_of_holds holds
    obtain ⟨hid, htakes, hafter⟩ := takesOff_of_found (hlooked.trans hasked) hfound cancels
    refine .toStage (undisturbed_of_part finds holds cancels)
      (hafter ((hlooked.trans hasked).fresh hfresh)) ?_
    rw [stage_eq]
    refine .takePart hid part counted.side_eq counted.price_eq ?_ htakes
    intro hside
    rw [PlacedOrder.withQuantity, hheld hside, hlooked.spares.balance_eq, hlooked.same.market_eq]
  | withdraw stage_eq _ finds cancels =>
    obtain ⟨hlooked, hfound⟩ := hfresh.found_eq finds
    obtain ⟨hid, htakes, hafter⟩ :=
      takesOff_of_found (hlooked.trans (.remember _ _)) hfound cancels
    have hsame := (hlooked.same.trans (.remember _ _)).trans (.cancel cancels)
    refine .toStage hsame (hafter ((hlooked.trans (.remember _ _)).fresh hfresh)) ?_
    rw [stage_eq]
    exact .withdraw hid htakes

/-- What a look at the holdings is told. -/
theorem looked_of_holdings {seen asked : Desk Paper κ} {base minimum : Float} (hfresh : desk.Fresh)
    (hlist : Ends (listOrders Paper.venue) desk (.ok []) seen)
    (hbase : Ends (call (Paper.venue.availableBalance desk.market.base)) seen (.ok base) asked)
    (hleast : Ends (call (Paper.venue.minimumOrderVolume desk.market)) asked (.ok minimum) after) :
    Looked desk after ∧ desk.venue.orders = [] ∧ base = desk.venue.balance desk.market.base ∧
      minimum = desk.venue.terms.minimumVolume := by
  have hseen := Looked.listOrders hlist
  obtain ⟨hasked, rfl⟩ := Looked.balance hbase
  have hlooked := hseen.trans hasked
  obtain ⟨state, hreply, rfl⟩ := ends_call_ok.mp hleast
  obtain ⟨hspares, hminimum⟩ := Paper.replies_term hreply
  refine ⟨hlooked.trans (.venue hspares), (hfresh.orders_eq hlist).symm, ?_, ?_⟩
  · exact hseen.spares.balance_eq _
  · rw [hminimum minimum rfl, hlooked.spares.terms_eq]

/-- A kind that does not open a position closes one of its side. -/
theorem exitKind_side {kind : OrderKind} (h : kind.isEnter = false) :
    kind.side.exitKind = kind := by
  cases kind with
  | buy | shortEnter => cases h
  | sell | shortExit => rfl

/-- To find a stage is a turn. -/
theorem Finding.turn (h : Finding Paper.venue desk after) (hfresh : desk.Fresh) :
    Turns desk after := by
  -- a stage is found by looking alone, so the venue is spared
  cases h with
  | flat stage_eq lists holds least not_above =>
    obtain ⟨hlooked, hempty, rfl, rfl⟩ := looked_of_holdings hfresh lists holds least
    refine .toStage hlooked.same (hlooked.fresh hfresh) ?_
    rw [stage_eq]
    exact .flat hempty not_above hlooked.spares
  | held stage_eq lists holds least above takes =>
    obtain ⟨hlooked, hempty, rfl, rfl⟩ := looked_of_holdings hfresh lists holds least
    refine .toStage hlooked.same (hlooked.fresh hfresh) ?_
    rw [stage_eq]
    exact .held hempty above rfl hlooked.spares
  | enter stage_eq lists enters =>
    have hlooked := Looked.listOrders lists
    refine .toStage hlooked.same (hlooked.fresh hfresh) ?_
    rw [stage_eq]
    exact .adoptEntry (hfresh.orders_eq lists).symm enters hlooked.spares
  | leave stage_eq lists leaves takes =>
    have hlooked := Looked.listOrders lists
    refine .toStage hlooked.same (hlooked.fresh hfresh) ?_
    rw [stage_eq]
    refine .adoptExit (hfresh.orders_eq lists).symm ?_ hlooked.spares
    rw [PlacedOrder.side, Side.side_enterKind, exitKind_side leaves]

/--
A position is closed: its exit is missing from the book, and the trade is at the prices
of its orders.
-/
structure Closed (desk : Desk Paper κ) (entry exit : PlacedOrder) (trade : ClosedTrade)
    (after : Desk Paper κ) : Prop where
  awaits : ∃ ratchet, desk.tracker.stage = some (.waitForExit entry exit ratchet)
  missing : desk.venue.orders.find? (fun order => order.id = exit.id) = none
  spares : desk.venue.Spares after.venue
  settings_eq : after.tracker.settings = desk.tracker.settings
  prices_eq : after.prices = desk.prices
  fresh : after.Fresh
  stage_eq : after.tracker.stage = some .needEnter
  trade_eq : trade = tradeOf entry exit desk.venue.terms.fees

/-- To make up a trade is only to look, and the trade is at the fees of the venue. -/
theorem looked_of_closedTrade {entry exit : PlacedOrder} {trade : ClosedTrade}
    (h : Ends (closedTrade Paper.venue entry exit) desk (.ok trade) after) :
    Looked desk after ∧ trade = tradeOf entry exit desk.venue.terms.fees := by
  obtain ⟨buy, sell, mid, hbuy, hsell, rfl⟩ := closedTrade_ok h
  obtain ⟨state, hreply, rfl⟩ := ends_call_ok.mp hbuy
  obtain ⟨state', hreply', rfl⟩ := ends_call_ok.mp hsell
  obtain ⟨hspares, hfee⟩ := Paper.replies_term hreply
  obtain ⟨hspares', hfee'⟩ := Paper.replies_term hreply'
  refine ⟨(Looked.venue hspares).trans (.venue hspares'), ?_⟩
  rw [hfee buy rfl, hfee' sell rfl, hspares.terms_eq]

/-- A trade is closed once its exit is missing from the book. -/
theorem Closing.closed {trade : ClosedTrade} (h : Closing Paper.venue desk trade after)
    (hfresh : desk.Fresh) : ∃ entry exit, Closed desk entry exit trade after := by
  obtain ⟨stage_eq, finds, values, takes⟩ := h
  obtain ⟨hlooked, hmissing⟩ := hfresh.found_eq finds
  obtain ⟨hasked, htrade⟩ := looked_of_closedTrade values
  rw [hlooked.spares.terms_eq] at htrade
  have hlooked := hlooked.trans hasked
  have hafter := hlooked.fresh hfresh
  exact ⟨_, _, ⟨_, stage_eq⟩, hmissing.symm, hlooked.spares, hlooked.same.settings_eq,
    hlooked.same.prices_eq, ⟨hafter.upTo, hafter.listed⟩, rfl, htrade⟩

/-! ## Turn after turn -/

/--
The desk has taken turns, at the end of which an operation may have been cut off
between the cancel of an entry and the stage that was to follow.
-/
inductive Goes (desk : Desk Paper κ) : Desk Paper κ → Prop where
  | turns {after : Desk Paper κ} (turns : Relation.ReflTransGen Turns desk after) : Goes desk after
  | cutOff {mid after : Desk Paper κ} {entry : PlacedOrder} {order : OpenOrder}
      (turns : Relation.ReflTransGen Turns desk mid)
      (stage_eq : mid.tracker.stage = some (.waitForEnter entry)) (id_eq : order.id = entry.id)
      (part : order.isPartiallyFilled = true)
      (takesOff : mid.venue.TakesOff order after.venue)
      (same : Undisturbed mid after)
      (fresh : after.Fresh) : Goes desk after

/-- The list that is kept is the book as it stands, after any turns. -/
theorem fresh_of_turns (h : Relation.ReflTransGen Turns desk after) (hfresh : desk.Fresh) :
    after.Fresh := by
  cases h with
  | refl => exact hfresh
  | tail _ hturns => exact hturns.fresh

/-- Turns change neither settings nor prices. -/
theorem same_of_turns (h : Relation.ReflTransGen Turns desk after) :
    after.tracker.settings = desk.tracker.settings ∧ after.prices = desk.prices := by
  induction h with
  | refl => exact ⟨rfl, rfl⟩
  | tail _ hturns ih => exact ⟨hturns.settings_eq.trans ih.1, hturns.prices_eq.trans ih.2⟩

namespace Goes

theorem fresh (h : Goes desk after) (hfresh : desk.Fresh) : after.Fresh := by
  cases h with
  | turns turns => exact fresh_of_turns turns hfresh
  | cutOff _ _ _ _ _ _ fresh => exact fresh

/-- However far an operation goes, it changes neither settings nor prices. -/
theorem same (h : Goes desk after) :
    after.tracker.settings = desk.tracker.settings ∧ after.prices = desk.prices := by
  cases h with
  | turns turns => exact same_of_turns turns
  | cutOff turns _ _ _ _ same _ =>
    obtain ⟨hsettings, hprices⟩ := same_of_turns turns
    exact ⟨same.settings_eq.trans hsettings, same.prices_eq.trans hprices⟩

/-- Turns may come before however far an operation goes. -/
theorem head (h : Relation.ReflTransGen Turns desk mid) (h' : Goes mid after) :
    Goes desk after := by
  cases h' with
  | turns turns => exact .turns (h.trans turns)
  | cutOff turns stage_eq id_eq part takesOff same fresh =>
    exact .cutOff (h.trans turns) stage_eq id_eq part takesOff same fresh

end Goes

/-- Any number of moves are turns. -/
theorem Moves.turns (h : Moves Paper.venue desk after) (hfresh : desk.Fresh) :
    Relation.ReflTransGen Turns desk after := by
  induction h with
  | refl => exact .refl
  | tail _ hmove ih => exact ih.tail (hmove.turn (fresh_of_turns ih hfresh))

/-- A tracker finds its stage by turns. -/
theorem Found.turns (h : Found Paper.venue desk after) (hfresh : desk.Fresh) :
    Relation.ReflTransGen Turns desk after := by
  cases h with
  | known => exact .refl
  | finds finding => exact .single (finding.turn hfresh)

/-- An operation proceeds by turns, and may be cut off at their end. -/
theorem Proceeds.goes {answer : Except TradingError α} (h : Proceeds Paper.venue desk answer after)
    (hfresh : desk.Fresh) : Goes desk after := by
  cases h with
  | moves moves => exact .turns (moves.turns hfresh)
  | cutOff stage_eq finds part holds cancels =>
    obtain ⟨hlooked, hfound⟩ := hfresh.found_eq finds
    have hlooked := hlooked.trans (looked_of_holds holds).1
    -- the cancel is confirmed, so the entry is off the book already
    obtain ⟨hid, htakes, hafter⟩ := takesOff_of_found hlooked hfound cancels
    exact .cutOff .refl stage_eq hid part htakes (undisturbed_of_part finds holds cancels)
      (hafter (hlooked.fresh hfresh))

/-! ## What is kept -/

/-- What every turn keeps. -/
def KeptByTurns (P : Market → Paper → Option Stage → Prop) : Prop :=
  ∀ ⦃market : Market⦄ ⦃paper after : Paper⦄ ⦃stage? stage?' : Option Stage⦄,
    Turn market paper stage? after stage?' → P market paper stage? → P market after stage?'

/-- What every turn carries on, and an operation that is cut off as well. -/
structure Carried (P : Market → Paper → Option Stage → Prop) : Prop where
  turn : KeptByTurns P
  cutOff : ∀ {market : Market} {paper after : Paper} {entry : PlacedOrder} {order : OpenOrder},
    order.id = entry.id → order.isPartiallyFilled = true → paper.TakesOff order after →
      P market paper (some (.waitForEnter entry)) → P market after (some (.waitForEnter entry))

/-- What is carried on, and outlasts the position as well. -/
structure Kept (P : Market → Paper → Option Stage → Prop) : Prop extends Carried P where
  close : ∀ {market : Market} {paper after : Paper} {entry exit : PlacedOrder} {ratchet : Ratchet},
    paper.orders.find? (fun order => order.id = exit.id) = none → paper.Spares after →
      P market paper (some (.waitForExit entry exit ratchet)) → P market after (some .needEnter)

section Kept

variable {P : Market → Paper → Option Stage → Prop}

/-- What every turn keeps is kept by any number of them. -/
theorem KeptByTurns.of_turns (hP : KeptByTurns P) (h : Relation.ReflTransGen Turns desk after)
    (hdesk : P desk.market desk.venue desk.tracker.stage) :
    P after.market after.venue after.tracker.stage := by
  induction h with
  | refl => exact hdesk
  | tail _ hturns ih =>
    rw [market, hturns.settings_eq]
    exact hP hturns.turn ih

/-- What every turn carries on is so however far an operation goes. -/
theorem Carried.of_goes (hP : Carried P) (h : Goes desk after)
    (hdesk : P desk.market desk.venue desk.tracker.stage) :
    P after.market after.venue after.tracker.stage := by
  cases h with
  | turns turns => exact hP.turn.of_turns turns hdesk
  | cutOff turns stage_eq id_eq part takesOff same _ =>
    have hmid := hP.turn.of_turns turns hdesk
    rw [stage_eq] at hmid
    rw [same.market_eq, same.tracker_eq, stage_eq]
    -- the stage is as it was before the cancel
    exact hP.cutOff id_eq part takesOff hmid

/-- What outlasts a position is so once its trade is closed. -/
theorem Kept.of_closed {entry exit : PlacedOrder} {trade : ClosedTrade} (hP : Kept P)
    (h : Closed desk entry exit trade after) (hdesk : P desk.market desk.venue desk.tracker.stage) :
    P after.market after.venue after.tracker.stage := by
  obtain ⟨ratchet, hstage⟩ := h.awaits
  rw [hstage] at hdesk
  rw [market, h.settings_eq, h.stage_eq]
  exact hP.close h.missing h.spares hdesk

end Kept

end Tracker

end SwingTrader
