import SwingTrader.Proofs.Paper.Connected
import SwingTrader.Proofs.Tracker.History
import SwingTrader.Proofs.Tracker.Likeness

/-!
# SwingTrader — looking afresh every time

A desk that keeps no list of open orders asks the venue whenever it looks one up. At
the paper venue, while no call fails, this shows in nothing: the list that is kept
for a tick is the book as it stands, because the tracker throws it away whenever it
may have changed the book, and the book changes by itself only between two ticks.

* `Desk.afresh` — the desk that keeps no lists;
* `Paper.SameBook` — what relates a venue with the list kept to the venue without;
* `Paper.likeness` — every call does the same for both;
* `Scheduled`, `Scheduled.perform` — operations, and what goes on around them;
* `Scheduled.performAll_afresh` — the same answers, tracker, ledgers and venue throughout.
-/

namespace SwingTrader

variable {σ κ α : Type}

/-! ## No lists -/

/-- The lists of a desk that looks afresh: it keeps none, not even for the tick it is in. -/
def OpenOrderCache.nothing : OpenOrderCache :=
  { window := 0 }

@[simp] theorem OpenOrderCache.at?_nothing (tick : Nat) : nothing.at? tick = none :=
  rfl

@[simp] theorem OpenOrderCache.store_nothing (tick : Nat) (orders : List OpenOrder) :
    nothing.store tick orders = nothing := by
  simp [store, nothing]

@[simp] theorem OpenOrderCache.invalidate_nothing (tick : Nat) :
    nothing.invalidate tick = nothing :=
  rfl

namespace Desk

/-- The same desk, which looks afresh from now on. -/
def afresh (desk : Desk σ κ) : Desk σ κ :=
  { desk with openOrders := .nothing }

end Desk

open Desk

/-! ## The list that is kept -/

namespace Paper

/--
A venue with the lists kept for it, and the same venue without. The list of this tick
is the book; it was answered once, so the market is the one that is traded.
-/
structure SameBook (market : Market) (tick : Nat) (venue : Paper) (kept : OpenOrderCache)
    (venue' : Paper) (kept' : OpenOrderCache) : Prop where
  venue_eq : venue' = venue
  nothing_kept : kept' = .nothing
  connected : venue.Connected
  upTo : kept.UpTo tick
  listed : ∀ orders, kept.at? tick = some orders →
    orders = venue.orders ∧ market.id = venue.terms.market.id

section Calls

variable {desk other : Desk Paper κ}

/-- What one venue replies, the other replies as well. -/
theorem SameBook.replies (request : Market → VenueM Paper α) {reply : Except VenueError α}
    {state : Paper} (h : Alike κ SameBook desk other)
    (hreply : Replies (request desk.market) desk.venue reply state) :
    Replies (request other.market) other.venue reply state := by
  rw [market, h.tracker_eq, h.related.venue_eq]
  exact hreply

/-- A call that changes nothing does the same for both. -/
theorem SameBook.mimics_call {request : VenueM Paper α}
    (h : ∀ paper : Paper, paper.Connected → ∃ reply, Replies request paper reply paper) :
    Mimics (Alike κ SameBook) (call request) (call request) := by
  refine .of_ends fun desk other halike => ?_
  obtain ⟨reply, hreply⟩ := h desk.venue halike.related.connected
  refine ⟨_, desk, other, ends_call.mpr ⟨reply, desk.venue, hreply, rfl, rfl⟩,
    ends_call.mpr ⟨reply, other.venue, ?_, rfl, rfl⟩, halike⟩
  rw [halike.related.venue_eq]
  exact hreply

/-- A term of the venue is answered, or any other market is refused. -/
theorem SameBook.replies_term (term : PaperTerms → Float) (market : Market) {paper : Paper}
    (h : paper.Connected) :
    ∃ reply, Replies (visible (callTerm term market)) paper reply paper := by
  by_cases hmarket : market.id = paper.terms.market.id
  · exact ⟨_, h.replies_term hmarket term⟩
  · exact ⟨_, h.replies_unknown hmarket _⟩

/-- Once the list of the tick is thrown away, the book may be any. -/
theorem SameBook.forgetting {state : Paper} (h : Alike κ SameBook desk other)
    (hconnected : state.Connected) :
    Alike κ SameBook { desk with venue := state }.forgetting
      { other with venue := state }.forgetting where
  prices_eq := h.prices_eq
  tick_eq := h.tick_eq
  ledgers_eq := h.ledgers_eq
  tracker_eq := h.tracker_eq
  rules_eq := h.rules_eq
  related :=
    { venue_eq := rfl
      nothing_kept := by
        show other.openOrders.invalidate other.tick = _
        rw [h.related.nothing_kept, OpenOrderCache.invalidate_nothing]
      connected := hconnected
      upTo := h.related.upTo.invalidate
      listed := fun orders hlisted => by
        have hnone : (desk.openOrders.invalidate desk.tick).at? desk.tick = none :=
          OpenOrderCache.at?_invalidate
        cases hnone.symm.trans hlisted }

/-- The book is listed alike, from the list that is kept or from the venue. -/
theorem SameBook.mimics_listOrders :
    Mimics (Alike κ SameBook) (listOrders venue) (listOrders venue) := by
  refine .of_ends fun desk other h => ?_
  obtain ⟨hvenue, hnothing, hconnected, hupTo, hlisted⟩ := h.related
  have hnone : other.listed? = none := by rw [listed?, hnothing, OpenOrderCache.at?_nothing]
  by_cases hmarket : desk.market.id = desk.venue.terms.market.id
  · have hreply := hconnected.replies_openOrders hmarket
    have hother : Ends (listOrders venue) other (.ok desk.venue.orders) other := by
      refine ends_listOrders_ok.mpr (.inr ⟨hnone, desk.venue,
        replies venue.openOrders h hreply, ?_⟩)
      rw [← hvenue, hnothing, OpenOrderCache.store_nothing, ← hnothing]
    cases hkept : desk.listed? with
    | some orders =>
      obtain ⟨rfl, -⟩ := hlisted orders hkept
      exact ⟨_, desk, other, ends_listOrders_ok.mpr (.inl ⟨hkept, rfl⟩), hother, h⟩
    | none =>
      refine ⟨_, _, other, ends_listOrders_ok.mpr (.inr ⟨hkept, desk.venue, hreply, rfl⟩),
        hother, ?_⟩
      refine { h with related := ⟨hvenue, hnothing, hconnected, hupTo.store,
        fun orders hstored => ?_⟩ }
      rw [OpenOrderCache.at?_store] at hstored
      split at hstored
      · exact ⟨(Option.some.inj hstored).symm, hmarket⟩
      · cases hstored
  -- no list was ever answered for a market that is not traded
  · have hkept : desk.listed? = none := by
      cases hkept : desk.listed? with
      | none => rfl
      | some orders => exact absurd (hlisted orders hkept).2 hmarket
    have hreply : Replies (venue.openOrders desk.market) desk.venue
        (.error (PaperError.toVenueError (.unknownMarket desk.market.id))) desk.venue :=
      hconnected.replies_unknown hmarket _
    have hreply' := replies venue.openOrders h hreply
    rw [← hvenue] at hreply'
    exact ⟨_, desk, other, ends_listOrders_error.mpr ⟨hkept, _, desk.venue, hreply, rfl, rfl⟩,
      ends_listOrders_error.mpr ⟨hnone, _, other.venue, hreply', rfl, rfl⟩, h⟩

/-- An order is submitted alike, and the list that is kept is thrown away. -/
theorem SameBook.mimics_submit (kind : OrderKind) (quantity price : Float) :
    Mimics (Alike κ SameBook) (Desk.submit venue kind quantity price)
      (Desk.submit venue kind quantity price) := by
  refine .of_ends fun desk other h => ?_
  have hconnected := h.related.connected
  have hrefused {reason : VenueError}
      (hreply : Replies (venue.createOrder desk.market kind quantity price) desk.venue
        (.error reason) desk.venue) :
      ∃ answer after after', Ends (Desk.submit venue kind quantity price) desk answer after ∧
        Ends (Desk.submit venue kind quantity price) other answer after' ∧
          Alike κ SameBook after after' := by
    have hreply' := replies (fun market => venue.createOrder market kind quantity price) h hreply
    rw [← h.related.venue_eq] at hreply'
    exact ⟨_, desk, other, ends_submit_error.mpr ⟨reason, desk.venue, hreply, rfl, rfl⟩,
      ends_submit_error.mpr ⟨reason, other.venue, hreply', rfl, rfl⟩, h⟩
  -- a paper venue knows one market, and refuses an order on any other
  by_cases hmarket : desk.market.id = desk.venue.terms.market.id
  · cases hcheck : desk.venue.checkOrder kind quantity price with
    | error error => exact hrefused (hconnected.replies_createOrder_refused hmarket hcheck)
    | ok =>
      have hreply := hconnected.replies_createOrder hmarket hcheck
      have hreply' := replies (fun market => venue.createOrder market kind quantity price) h hreply
      exact ⟨_, _, _, ends_submit_ok.mpr ⟨_, _, hreply, rfl, rfl⟩,
        ends_submit_ok.mpr ⟨_, _, hreply', rfl, rfl⟩,
        SameBook.forgetting h (hconnected.placed kind quantity price).1⟩
  · exact hrefused (hconnected.replies_unknown hmarket _)

/--
An order is cancelled alike, and the list that is kept is thrown away if the book may
have changed.
-/
theorem SameBook.mimics_cancel (id : OrderId) :
    Mimics (Alike κ SameBook) (cancel venue id) (cancel venue id) := by
  refine .of_ends fun desk other h => ?_
  have hconnected := h.related.connected
  by_cases hmarket : desk.market.id = desk.venue.terms.market.id
  · have hreply := hconnected.replies_cancelOrder hmarket id
    have hreply' := replies (fun market => venue.cancelOrder market id) h hreply
    exact ⟨_, _, _, ends_cancel.mpr ⟨_, _, hreply, rfl, rfl⟩,
      ends_cancel.mpr ⟨_, _, hreply', rfl, rfl⟩,
        SameBook.forgetting h (hconnected.withdrawn id).1⟩
  -- a cancel that is not carried out is answered like one that is refused, and forgets nothing
  · have hreply : Replies (venue.cancelOrder desk.market id) desk.venue
        (.error (PaperError.toVenueError (.unknownMarket desk.market.id))) desk.venue :=
      hconnected.replies_unknown hmarket _
    have hreply' := replies (fun market => venue.cancelOrder market id) h hreply
    rw [← h.related.venue_eq] at hreply'
    exact ⟨_, desk, other, ends_cancel.mpr ⟨_, desk.venue, hreply, rfl, rfl⟩,
      ends_cancel.mpr ⟨_, other.venue, hreply', rfl, rfl⟩, h⟩

end Calls

/-- Without lists, every call of the paper venue does what it does with them. -/
theorem likeness : Likeness κ SameBook venue venue where
  balance currency := SameBook.mimics_call fun _ h => ⟨_, h.replies_balance currency⟩
  minimum market := SameBook.mimics_call fun _ => SameBook.replies_term _ market
  buyFee market := SameBook.mimics_call fun _ => SameBook.replies_term _ market
  sellFee market := SameBook.mimics_call fun _ => SameBook.replies_term _ market
  lists := SameBook.mimics_listOrders
  submits := SameBook.mimics_submit
  cancels := SameBook.mimics_cancel

end Paper

/-! ## Operations and their answers -/

/-- What an operation answers. -/
inductive Reply where
  | phase (phase : Phase)
  | done
  | trade (trade? : Option ClosedTrade)

/-- The operation with its answer. -/
def Operation.answer (venue : Venue σ) : Operation κ → DeskM σ κ Reply
  | look => do return .phase (← Tracker.resume venue).phase
  | placeEnter rule side => do
    Tracker.placeEnter venue rule side
    return .done
  | trackEnter rule => do
    Tracker.trackEnter venue rule
    return .done
  | placeExit rule => do
    Tracker.placeExit venue rule
    return .done
  | trackExit rule => do return .trade (← Tracker.trackExit venue rule)

/-- Every operation goes alike at venues that are alike. -/
theorem Operation.mimics {τ : Type}
    {S : Market → Nat → σ → OpenOrderCache → τ → OpenOrderCache → Prop} {venue : Venue σ}
    {venue' : Venue τ} (h : Likeness κ S venue venue') (op : Operation κ) :
    Mimics (Alike κ S) (op.answer venue) (op.answer venue') := by
  cases op with
  | look => exact (Tracker.mimics_resume h).bind fun _ => .pure _
  | placeEnter rule side => exact (Tracker.mimics_placeEnter h rule side).bind fun _ => .pure _
  | trackEnter rule => exact (Tracker.mimics_trackEnter h rule).bind fun _ => .pure _
  | placeExit rule => exact (Tracker.mimics_placeExit h rule).bind fun _ => .pure _
  | trackExit rule => exact (Tracker.mimics_trackExit h rule).bind fun _ => .pure _

/-! ## What goes on around a tracker -/

/-- A desk without its tracker and the lists that are kept for it. -/
structure Surroundings (κ : Type) where
  venue : Paper
  prices : PriceFeed
  tick : Nat
  ledgers : LedgerBook
  rules : κ

/-- What is around the tracker of a desk. -/
def Desk.surroundings (desk : Desk Paper κ) : Surroundings κ :=
  ⟨desk.venue, desk.prices, desk.tick, desk.ledgers, desk.rules⟩

/-- The tracker of a desk in other surroundings. -/
def Desk.amid (desk : Desk Paper κ) (around : Surroundings κ) : Desk Paper κ :=
  { around with openOrders := desk.openOrders, tracker := desk.tracker }

/--
What may happen around a tracker between two operations: anything, but the count of
ticks never goes back, and the book stays as it is as long as the count does.
-/
structure Surroundings.Passes (now next : Surroundings κ) : Prop where
  later : now.tick ≤ next.tick
  terms_eq : next.venue.terms = now.venue.terms
  connected : next.venue.Connected
  orders_eq : next.tick = now.tick → next.venue.orders = now.venue.orders

namespace Surroundings

variable {now : Surroundings κ}

/-- A ticker is published at the beginning of the next tick, and becomes a bar if it can. -/
def publish (ticker : Ticker) (now : Surroundings κ) : Surroundings κ :=
  { now with
    tick := now.tick + 1
    venue := now.venue.setTicker ticker
    prices := (now.prices.record ticker).toOption.getD now.prices }

/-- Somebody else puts an order on the book before the next tick. -/
def insert (kind : OrderKind) (quantity price : Float) (now : Surroundings κ) : Surroundings κ :=
  { now with
    tick := now.tick + 1
    venue := (now.venue.insertOpenOrder kind quantity price).2 }

theorem passes_publish (h : now.venue.Connected) (ticker : Ticker) :
    now.Passes (now.publish ticker) where
  later := Nat.le_succ _
  terms_eq := Paper.setTicker_terms _ _
  connected := h.setTicker ticker
  orders_eq heq := absurd heq (Nat.succ_ne_self _)

/-- An order of somebody else may come before the next tick. -/
theorem passes_insert (h : now.venue.Connected) (kind : OrderKind) (quantity price : Float) :
    now.Passes (now.insert kind quantity price) where
  later := Nat.le_succ _
  terms_eq := rfl
  connected := ⟨h.calls_eq, h.afterCancel_eq⟩
  orders_eq heq := absurd heq (Nat.succ_ne_self _)

end Surroundings

/-- What is to happen next: an operation of the tracker, or something around it. -/
inductive Scheduled (κ : Type) where
  | operate (op : Operation κ)
  | meanwhile (change : Surroundings κ → Surroundings κ)

namespace Scheduled

/-- The answers that are given, and the desk afterwards; an operation that fails is not the last. -/
def perform : Scheduled κ → Desk Paper κ → List (Except TradingError Reply) × Desk Paper κ
  | operate op, desk => ([(outcome (op.answer Paper.venue) desk).1],
      (outcome (op.answer Paper.venue) desk).2)
  | meanwhile change, desk => ([], desk.amid (change desk.surroundings))

/-- One after the other. -/
def performAll : List (Scheduled κ) → Desk Paper κ → List (Except TradingError Reply) × Desk Paper κ
  | [], desk => ([], desk)
  | item :: rest, desk =>
    let (answers, mid) := item.perform desk
    let (later, after) := performAll rest mid
    (answers ++ later, after)

/-- What happens around the tracker is what may happen there. -/
def Permitted : List (Scheduled κ) → Desk Paper κ → Prop
  | [], _ => True
  | operate op :: rest, desk => Permitted rest ((operate op).perform desk).2
  | meanwhile change :: rest, desk =>
    desk.surroundings.Passes (change desk.surroundings) ∧
      Permitted rest ((meanwhile change).perform desk).2

/-- What happens around a tracker happens before the rest is performed. -/
theorem performAll_meanwhile (change : Surroundings κ → Surroundings κ)
    (rest : List (Scheduled κ)) (desk : Desk Paper κ) :
    performAll (meanwhile change :: rest) desk =
      performAll rest (desk.amid (change desk.surroundings)) :=
  rfl

/-- The list that is kept for a tick is the book as long as the book stays as it is. -/
theorem alike_amid {desk other : Desk Paper κ} (h : Alike κ Paper.SameBook desk other)
    {next : Surroundings κ} (hpasses : desk.surroundings.Passes next) :
    Alike κ Paper.SameBook (desk.amid next) (other.amid next) where
  prices_eq := rfl
  tick_eq := rfl
  ledgers_eq := rfl
  tracker_eq := h.tracker_eq
  rules_eq := rfl
  related :=
    { venue_eq := rfl
      nothing_kept := h.related.nothing_kept
      connected := hpasses.connected
      upTo := h.related.upTo.mono hpasses.later
      listed := by
        intro orders hlisted
        -- within the tick the book is still the one listed, and a later tick has no list yet
        obtain heq | hlt := Nat.eq_or_lt_of_le hpasses.later
        · replace hlisted : desk.openOrders.at? desk.tick = some orders := by
            rw [show desk.tick = next.tick from heq]
            exact hlisted
          obtain ⟨rfl, hmarket⟩ := h.related.listed orders hlisted
          refine ⟨(hpasses.orders_eq heq.symm).symm, ?_⟩
          show desk.market.id = next.venue.terms.market.id
          rw [hpasses.terms_eq]
          exact hmarket
        · have hnone : desk.openOrders.at? next.tick = none := h.related.upTo.at?_of_lt hlt
          cases hnone.symm.trans hlisted }

/-- Whatever is scheduled, the desks with and without lists answer alike and stay alike. -/
theorem performAll_alike (items : List (Scheduled κ)) : ∀ {desk other : Desk Paper κ},
    Alike κ Paper.SameBook desk other → Permitted items desk →
      (performAll items other).1 = (performAll items desk).1 ∧
        Alike κ Paper.SameBook (performAll items desk).2 (performAll items other).2 := by
  induction items with
  | nil => exact fun h _ => ⟨rfl, h⟩
  | cons item rest ih =>
    intro desk other h hpermitted
    cases item with
    | operate op =>
      obtain ⟨hanswer, hafter⟩ := op.mimics Paper.likeness desk other h
      obtain ⟨hlater, hrest⟩ := ih hafter hpermitted
      exact ⟨congrArg₂ (fun answer later => [answer] ++ later) hanswer.symm hlater, hrest⟩
    | meanwhile change =>
      have hsame : other.surroundings = desk.surroundings := by
        simp only [Desk.surroundings, h.prices_eq, h.tick_eq, h.ledgers_eq, h.rules_eq,
          h.related.venue_eq]
      rw [performAll_meanwhile, performAll_meanwhile, hsame]
      exact ih (alike_amid h hpermitted.1) hpermitted.2

/-- A desk that is like another but looks afresh is that desk without its lists. -/
theorem eq_afresh {desk other : Desk Paper κ} (h : Alike κ Paper.SameBook desk other) :
    other = desk.afresh := by
  obtain ⟨hprices, htick, hledgers, htracker, hrules, hvenue, hnothing, -, -, -⟩ := h
  cases other
  cases hprices
  cases htick
  cases hledgers
  cases htracker
  cases hrules
  cases hvenue
  cases hnothing
  rfl

/--
**The lists that are kept do not show.** Whatever operations a tracker is put through
at a paper venue whose calls do not fail, and whatever goes on around it, the answers
are those of a tracker that asks for the open orders every time, and so is all of the
desk, but for the lists themselves. Cancels may be refused on the way.
-/
theorem performAll_afresh {items : List (Scheduled κ)} {desk : Desk Paper κ}
    (hkept : desk.openOrders.snapshots = []) (hconnected : desk.venue.Connected)
    (hpermitted : Permitted items desk) :
    (performAll items desk.afresh).1 = (performAll items desk).1 ∧
      (performAll items desk.afresh).2 = (performAll items desk).2.afresh := by
  have hnone : ∀ tick, desk.openOrders.at? tick = none := by
    simp [OpenOrderCache.at?_eq_none, hkept]
  have halike : Alike κ Paper.SameBook desk desk.afresh :=
    { prices_eq := rfl
      tick_eq := rfl
      ledgers_eq := rfl
      tracker_eq := rfl
      rules_eq := rfl
      related :=
        { venue_eq := rfl
          nothing_kept := rfl
          connected := hconnected
          upTo := by simp [OpenOrderCache.UpTo, hkept]
          listed := by simp [hnone] } }
  obtain ⟨hanswers, hafter⟩ := performAll_alike items halike hpermitted
  exact ⟨hanswers, eq_afresh hafter⟩

/-- A desk at which two coins are offered at 90, and one cancel is to be refused. -/
def offering : Desk Paper Unit :=
  let venue := (Paper.holdingTwo.insertOpenOrder .sell 2.0 90.0).2
  let desk := Desk.open
    { market := .ofCurrencies "BTC" "EUR", ledger := ⟨0⟩, balancePercentage := 1.0,
      emergencyStop := 0.0 }
    { venue with failingCancels := 1 } ()
  { desk with
    prices := { desk.prices with
      ticker := some Paper.narrow
      bars := ⟨#[⟨⟨0, 0⟩, ⟨0, 0⟩, 100.0, 101.0, 99.0, 100.0⟩]⟩ } }

/-- The exit is adopted and moved, for which it has to be cancelled twice, and then it is filled. -/
def movedAndFilled : List (Scheduled Unit) :=
  [.operate (.trackExit (.fixed 95.0)), .operate (.trackExit (.fixed 95.0)),
    .meanwhile (.publish { Paper.narrow with bid := 95.0 }), .operate (.trackExit (.fixed 97.0)),
    .meanwhile (.insert .buy 1.0 50.0), .operate .look]

/-- The position is closed in the end, with the lists that are kept and without them. -/
theorem performAll_movedAndFilled :
    (performAll movedAndFilled offering).2.tracker.phase = .needEnter ∧
      (performAll movedAndFilled offering.afresh).1 = (performAll movedAndFilled offering).1 ∧
        (performAll movedAndFilled offering.afresh).2 =
          (performAll movedAndFilled offering).2.afresh := by
  have hconnected : offering.venue.Connected := ⟨rfl, rfl⟩
  have hpermitted : Permitted movedAndFilled offering :=
    ⟨Surroundings.passes_publish ⟨by decide +kernel, by decide +kernel⟩ _,
      Surroundings.passes_insert ⟨by decide +kernel, by decide +kernel⟩ _ _ _, trivial⟩
  exact ⟨by decide +kernel, performAll_afresh rfl hconnected hpermitted⟩

end Scheduled

end SwingTrader
