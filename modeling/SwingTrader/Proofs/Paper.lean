import Mathlib
import SwingTrader.Proofs.Desk
import SwingTrader.Venue.Paper

/-!
# SwingTrader — what the calls of the paper venue do

A call that breaks off changes the counts of calls still to fail and nothing else,
and so does every call that only asks. What is left are an order that is put on
the book, an order that is taken off it, and a ticker that is published.

* `Paper.failing` — the same venue with other counts, and `Paper.Spares` — a call
  that leads to it;
* `Paper.Places`, `Paper.TakesOff` — an order goes on the book and comes off it;
* `Paper.held` — what is held in the base currency;
* `Paper.setTicker_of_singleton` — what a ticker does to a book of one order.
-/

namespace SwingTrader

theorem OrderId.ofNat_inj {m n : Nat} : OrderId.ofNat m = .ofNat n ↔ m = n := by
  simp only [ofNat, mk.injEq]
  exact Nat.repr_inj

namespace Paper

/-! ## Failures -/

section Failures

variable {α : Type}

/-- The same venue with other counts of calls that are still to fail. -/
def failing (paper : Paper α) (cancels calls afterCancel : Nat) : Paper α :=
  { paper with
    failingCancels := cancels
    failingCalls := calls
    failingAfterCancel := afterCancel }

/-- Nothing has changed but the counts of calls that are still to fail. -/
def Spares (paper after : Paper α) : Prop :=
  ∃ cancels calls afterCancel, after = paper.failing cancels calls afterCancel

theorem Spares.refl (paper : Paper α) : paper.Spares paper :=
  ⟨_, _, _, rfl⟩

theorem Spares.trans {paper mid after : Paper α} (h : paper.Spares mid) (h' : mid.Spares after) :
    paper.Spares after := by
  obtain ⟨_, _, _, rfl⟩ := h
  obtain ⟨_, _, _, rfl⟩ := h'
  exact ⟨_, _, _, rfl⟩

end Failures

/-! ## Connections -/

section Connections

variable {α β γ : Type} {paper after : Paper α} {market : Market}

/-- What a call answers, and the venue it leaves behind. -/
def outcome (call : CallM α β) (paper : Paper α) : Except (PaperError α) β × Paper α :=
  call.run paper

/-- A call in two parts fails in the first, or goes on at the venue that the first left behind. -/
theorem outcome_bind (call : CallM α γ) (f : γ → CallM α β) (paper : Paper α) :
    outcome (call >>= f) paper =
      match outcome call paper with
      | (.ok a, mid) => outcome (f a) mid
      | (.error error, mid) => (.error error, mid) := by
  show (match call.run paper with
    | (a, mid) => (ExceptT.bindCont f a mid : Except (PaperError α) β × Paper α)) = _
  unfold outcome
  rcases call.run paper with ⟨_ | _, _⟩ <;> rfl

/-- While calls are set to fail, a call fails and there is one fewer to fail. -/
theorem outcome_connect_of_pos (h : 0 < paper.failingCalls) :
    outcome connect paper =
      (.error .connectionReset, { paper with failingCalls := paper.failingCalls - 1 }) := by
  rw [connect, outcome_bind]
  show outcome (if 0 < paper.failingCalls then _ else _) paper = _
  rw [if_pos h]
  rfl

theorem outcome_connect_of_not_pos (h : ¬0 < paper.failingCalls) :
    outcome connect paper = (.ok (), paper) := by
  rw [connect, outcome_bind]
  show outcome (if 0 < paper.failingCalls then _ else _) paper = _
  rw [if_neg h]
  rfl

/-- A call that connects breaks off, or is carried out. -/
theorem connect_bind_inv {f : Unit → CallM α β} {reply : Except (PaperError α) β}
    (h : outcome (connect >>= f) paper = (reply, after)) :
    ((∃ error, reply = .error error) ∧ paper.Spares after) ∨
      outcome (f ()) paper = (reply, after) := by
  rw [outcome_bind] at h
  by_cases hcalls : 0 < paper.failingCalls
  · rw [outcome_connect_of_pos hcalls] at h
    cases h
    exact .inl ⟨⟨_, rfl⟩, _, _, _, rfl⟩
  · rw [outcome_connect_of_not_pos hcalls] at h
    exact .inr h

theorem outcome_get_bind {f : Paper α → CallM α β} :
    outcome (get >>= f) paper = outcome (f paper) paper :=
  outcome_bind _ f paper

/-- Once it is connected, a call for the market that is traded here is carried out. -/
theorem outcome_connectFor_bind {f : Unit → CallM α β} (hcalls : ¬0 < paper.failingCalls)
    (hmarket : market.id = paper.terms.market.id) :
    outcome (connectFor market >>= f) paper = outcome (f ()) paper := by
  have hconnect : outcome (connectFor market) paper = (.ok (), paper) := by
    rw [connectFor, outcome_bind, outcome_connect_of_not_pos hcalls]
    show outcome (if market.id ≠ paper.terms.market.id then _ else _) paper = _
    rw [if_neg (not_not_intro hmarket)]
    rfl
  rw [outcome_bind, hconnect]

/-- Why a call for one market is not carried out. -/
inductive Unconnected (market : Market) : PaperError α → Prop where
  | reset : Unconnected market .connectionReset
  | unknown : Unconnected market (.unknownMarket market.id)

/-- A call for a market is not carried out and changes nothing but the counts, or goes through. -/
theorem connectFor_bind_inv {f : Unit → CallM α β} {reply : Except (PaperError α) β}
    (h : outcome (connectFor market >>= f) paper = (reply, after)) :
    ((∃ error, reply = .error error ∧ Unconnected market error) ∧ paper.Spares after) ∨
      outcome (f ()) paper = (reply, after) := by
  by_cases hcalls : 0 < paper.failingCalls
  · rw [connectFor, bind_assoc, outcome_bind, outcome_connect_of_pos hcalls] at h
    cases h
    exact .inl ⟨⟨_, rfl, .reset⟩, _, _, _, rfl⟩
  by_cases hmarket : market.id = paper.terms.market.id
  · rw [outcome_connectFor_bind hcalls hmarket] at h
    exact .inr h
  · have hconnect :
        outcome (connectFor market) paper = (.error (.unknownMarket market.id), paper) := by
      rw [connectFor, outcome_bind, outcome_connect_of_not_pos hcalls]
      show outcome (if market.id ≠ paper.terms.market.id then _ else _) paper = _
      rw [if_pos hmarket]
      rfl
    rw [outcome_bind, hconnect] at h
    cases h
    exact .inl ⟨⟨_, rfl, .unknown⟩, .refl paper⟩

end Connections

/-! ## Funds -/

section Funds

variable {α : Type} [Arithmetic α] {paper : Paper α} {order : OpenOrder α} {kind : OrderKind}
  {quantity price : α}

/-- What is held in the base currency. -/
def held (paper : Paper α) : α :=
  paper.balance paper.terms.market.base

theorem lock_eq (paper : Paper α) (kind : OrderKind) (quantity price : α) :
    ∃ balances, paper.lock kind quantity price = { paper with balances } := by
  cases kind <;> exact ⟨_, rfl⟩

theorem release_eq (paper : Paper α) (order : OpenOrder α) :
    ∃ balances, paper.release order = { paper with balances } := by
  obtain ⟨id, kind, price, quantity, ordered⟩ := order
  cases kind <;> exact ⟨_, rfl⟩

/-- A fill changes balances, the short debt and the record of fills, and nothing of the book. -/
theorem settle_eq (paper : Paper α) (order : OpenOrder α) (quantity : α) :
    ∃ balances shortDebt fills,
      paper.settle order quantity = { paper with balances, shortDebt, fills } := by
  obtain ⟨id, kind, price, rest, ordered⟩ := order
  cases kind <;> exact ⟨_, _, _, rfl⟩

/-- The counter currency is not held in the base, where the two differ. -/
theorem held_creditCounter (h : paper.terms.market.base ≠ paper.terms.market.counter) (amount : α) :
    (paper.creditCounter amount).held = paper.held := by
  show (paper.balances.credit paper.terms.market.counter amount).get paper.terms.market.base = _
  rw [Balances.get_credit, if_neg h]
  rfl

/-- What is credited in the base currency is held. -/
theorem held_creditBase (amount : α) : (paper.creditBase amount).held = paper.held + amount := by
  show (paper.balances.credit paper.terms.market.base amount).get paper.terms.market.base = _
  rw [Balances.get_credit, if_pos rfl]
  rfl

omit [Arithmetic α] in
theorem Spares.terms_eq {after : Paper α} (h : paper.Spares after) :
    after.terms = paper.terms := by
  obtain ⟨_, _, _, rfl⟩ := h
  rfl

omit [Arithmetic α] in
theorem Spares.orders_eq {after : Paper α} (h : paper.Spares after) :
    after.orders = paper.orders := by
  obtain ⟨_, _, _, rfl⟩ := h
  rfl

theorem Spares.balance_eq {after : Paper α} (h : paper.Spares after) (currency : String) :
    after.balance currency = paper.balance currency := by
  obtain ⟨_, _, _, rfl⟩ := h
  rfl

/-- Only a sale locks away what is held. -/
theorem held_lock (h : paper.terms.market.base ≠ paper.terms.market.counter) :
    (paper.lock kind quantity price).held =
      if kind = .sell then paper.held + -quantity else paper.held := by
  cases kind with
  | buy => exact held_creditCounter h _
  | sell => exact held_creditBase _
  | shortEnter | shortExit => rfl

/-- Only a sale gives back what was held. -/
theorem held_release (h : paper.terms.market.base ≠ paper.terms.market.counter) :
    (paper.release order).held =
      if order.kind = .sell then paper.held + order.quantity else paper.held := by
  obtain ⟨id, kind, price, rest, ordered⟩ := order
  cases kind with
  | buy => exact held_creditCounter h _
  | sell => exact held_creditBase _
  | shortEnter | shortExit => rfl

/-- Only the fill of a purchase adds to what is held. -/
theorem held_settle (h : paper.terms.market.base ≠ paper.terms.market.counter) :
    (paper.settle order quantity).held =
      if order.kind = .buy then paper.held + quantity else paper.held := by
  obtain ⟨id, kind, price, rest, ordered⟩ := order
  cases kind with
  | buy => exact held_creditBase _
  | sell | shortEnter | shortExit => exact held_creditCounter h _

/-- A fill goes on record at the price of its order. -/
theorem fills_settle (paper : Paper α) (order : OpenOrder α) (quantity : α) :
    ∃ filled, (paper.settle order quantity).fills =
      paper.fills ++ [⟨order.id, order.kind, filled, order.price⟩] := by
  obtain ⟨id, kind, price, rest, ordered⟩ := order
  cases kind <;> exact ⟨_, rfl⟩

/-- The fill of a short exit covers the debt. -/
theorem shortDebt_settle (h : order.kind = .shortExit) :
    (paper.settle order quantity).shortDebt = 0 := by
  rw [settle, h]
  rfl

end Funds

/-! ## The book -/

/-- An order passes the check, its funds are locked away, and it goes on the book. -/
def Places (paper : Paper) (order : PlacedOrder) (after : Paper) : Prop :=
  let placed := (paper.lock order.kind order.quantity order.price).insertOpenOrder order.kind
    order.quantity order.price
  paper.checkOrder order.kind order.quantity order.price = .ok () ∧ order.id = placed.1 ∧
    placed.2.Spares after

/-- An order, the first of its id, is taken off the book, and its funds are given back. -/
def TakesOff (paper : Paper) (order : OpenOrder) (after : Paper) : Prop :=
  paper.orders.find? (fun listed => listed.id = order.id) = some order ∧
    Spares
      { paper.release order with orders := paper.orders.eraseP fun listed => listed.id = order.id }
      after

theorem Places.terms_eq {paper after : Paper} {order : PlacedOrder} (h : paper.Places order after) :
    after.terms = paper.terms := by
  obtain ⟨-, -, _, _, _, rfl⟩ := h
  obtain ⟨balances, hlock⟩ := lock_eq paper order.kind order.quantity order.price
  rw [hlock]
  rfl

/-- What goes on the book. -/
theorem Places.orders_eq {paper after : Paper} {order : PlacedOrder}
    (h : paper.Places order after) :
    after.orders = paper.orders ++
      [⟨order.id, order.kind, order.price, order.quantity, order.quantity⟩] := by
  obtain ⟨-, hid, _, _, _, rfl⟩ := h
  obtain ⟨balances, hlock⟩ := lock_eq paper order.kind order.quantity order.price
  rw [hlock] at hid ⊢
  rw [hid]
  rfl

/-- What an order locks away once it is on the book. -/
theorem Places.held_eq {paper after : Paper} {order : PlacedOrder} (h : paper.Places order after)
    (hdiffer : paper.terms.market.base ≠ paper.terms.market.counter) :
    after.held = if order.kind = .sell then paper.held + -order.quantity else paper.held := by
  obtain ⟨-, -, _, _, _, rfl⟩ := h
  exact held_lock hdiffer

/-- An order gets the next number, and nothing is filled. -/
theorem Places.numbers {paper after : Paper} {order : PlacedOrder} (h : paper.Places order after) :
    order.id = .ofNat paper.nextId ∧ after.nextId = paper.nextId + 1 ∧
      after.fills = paper.fills := by
  obtain ⟨-, hid, _, _, _, rfl⟩ := h
  obtain ⟨balances, hlock⟩ := lock_eq paper order.kind order.quantity order.price
  rw [hlock] at hid ⊢
  exact ⟨hid, rfl, rfl⟩

theorem TakesOff.terms_eq {paper after : Paper} {order : OpenOrder}
    (h : paper.TakesOff order after) :
    after.terms = paper.terms := by
  obtain ⟨-, _, _, _, rfl⟩ := h
  obtain ⟨balances, hrelease⟩ := release_eq paper order
  rw [hrelease]
  rfl

/-- A cancel gives out no number, and fills nothing. -/
theorem TakesOff.numbers {paper after : Paper} {order : OpenOrder}
    (h : paper.TakesOff order after) :
    after.nextId = paper.nextId ∧ after.fills = paper.fills := by
  obtain ⟨-, _, _, _, rfl⟩ := h
  obtain ⟨balances, hrelease⟩ := release_eq paper order
  rw [hrelease]
  exact ⟨rfl, rfl⟩

/-- What comes off a book of at most one order. -/
theorem TakesOff.orders_eq {paper after : Paper} {order : OpenOrder}
    (h : paper.TakesOff order after)
    (hbook : paper.orders = [] ∨ ∃ listed, paper.orders = [listed]) :
    paper.orders = [order] ∧ after.orders = [] := by
  obtain ⟨hfind, _, _, _, rfl⟩ := h
  obtain hbook | ⟨listed, hbook⟩ := hbook
  · rw [hbook] at hfind
    cases hfind
  · rw [hbook] at hfind ⊢
    -- the only order on the book is the one that was found
    obtain rfl := List.mem_singleton.mp (List.mem_of_find?_eq_some hfind)
    exact ⟨rfl, by simp [failing]⟩

/-- What an order gives back once it is off the book. -/
theorem TakesOff.held_eq {paper after : Paper} {order : OpenOrder} (h : paper.TakesOff order after)
    (hdiffer : paper.terms.market.base ≠ paper.terms.market.counter) :
    after.held = if order.kind = .sell then paper.held + order.quantity else paper.held := by
  obtain ⟨-, _, _, _, rfl⟩ := h
  exact held_release hdiffer

/-- An order that is placed once calls have failed could have been placed before. -/
theorem Spares.places {paper mid after : Paper} {order : PlacedOrder} (h : paper.Spares mid)
    (hplaces : mid.Places order after) : paper.Places order after := by
  obtain ⟨_, _, _, rfl⟩ := h
  obtain ⟨hcheck, hid, hspares⟩ := hplaces
  obtain ⟨id, kind, quantity, price, _, _⟩ := order
  -- neither the check nor the funds depend on the calls that are to fail
  cases kind <;> exact ⟨hcheck, hid, Spares.trans ⟨_, _, _, rfl⟩ hspares⟩

/-- An order that is taken off once calls have failed could have been taken off before. -/
theorem Spares.takesOff {paper mid after : Paper} {order : OpenOrder} (h : paper.Spares mid)
    (htakes : mid.TakesOff order after) : paper.TakesOff order after := by
  obtain ⟨_, _, _, rfl⟩ := h
  obtain ⟨hfind, hspares⟩ := htakes
  obtain ⟨id, kind, price, quantity, ordered⟩ := order
  cases kind <;> exact ⟨hfind, Spares.trans ⟨_, _, _, rfl⟩ hspares⟩

/-! ## Orders -/

section Orders

variable {α : Type} [Arithmetic α] {paper after : Paper α} {market : Market} {kind : OrderKind}
  {quantity price : α}

/-- An order that passes the check has its funds locked away and goes on the book. -/
theorem submit_of_checked (h : paper.checkOrder kind quantity price = .ok ()) :
    paper.submit kind quantity price =
      .ok ((paper.lock kind quantity price).insertOpenOrder kind quantity price) := by
  rw [submit, h]
  rfl

/-- An order that does not pass the check is refused with what the check says. -/
theorem submit_of_refused {error : PaperError α}
    (h : paper.checkOrder kind quantity price = .error error) :
    paper.submit kind quantity price = .error error := by
  rw [submit, h]
  rfl

/-- An order is refused, or its funds are locked away and it goes on the book. -/
theorem createOrder_inv {reply : Except (PaperError α) OrderId}
    (h : outcome (callCreateOrder market kind quantity price) paper = (reply, after)) :
    ((∃ error, reply = .error error) ∧ paper.Spares after) ∨
      ∃ id, reply = .ok id ∧ paper.checkOrder kind quantity price = .ok () ∧
        (paper.lock kind quantity price).insertOpenOrder kind quantity price = (id, after) := by
  obtain ⟨⟨error, rfl, -⟩, hspares⟩ | hcall := connectFor_bind_inv h
  · exact .inl ⟨⟨error, rfl⟩, hspares⟩
  · rw [outcome_get_bind] at hcall
    cases hcheck : paper.checkOrder kind quantity price with
    | error error =>
      rw [submit_of_refused hcheck] at hcall
      cases hcall
      exact .inl ⟨⟨_, rfl⟩, .refl paper⟩
    | ok =>
      rw [submit_of_checked hcheck] at hcall
      cases hcall
      exact .inr ⟨_, rfl, rfl, rfl⟩

/-- A cancel is refused, or the first order of its id comes off the book and its funds come back. -/
theorem withdraw_inv (paper : Paper α) (id : OrderId) :
    ((paper.withdraw id).1 = false ∧ paper.Spares (paper.withdraw id).2) ∨
      (paper.withdraw id).1 = true ∧ ∃ order, order.id = id ∧
        paper.orders.find? (fun listed => listed.id = order.id) = some order ∧
        Spares
          { paper.release order with
            orders := paper.orders.eraseP fun listed => listed.id = order.id }
          (paper.withdraw id).2 := by
  unfold withdraw
  split
  · exact .inl ⟨rfl, _, _, _, rfl⟩
  · split
    next => exact .inl ⟨rfl, .refl paper⟩
    next order hfind =>
      -- only an order on the book can be taken off it
      obtain rfl : order.id = id := by simpa using List.find?_some hfind
      exact .inr ⟨rfl, order, rfl, hfind, _, _, _, rfl⟩

/--
A cancel succeeds on the first order of its id and takes it off, or changes nothing
but the counts.
-/
theorem cancelOrder_inv {id : OrderId} {reply : Except (PaperError α) Bool}
    (h : outcome (callCancelOrder market id) paper = (reply, after)) :
    (reply ≠ .ok true ∧ paper.Spares after) ∨
      reply = .ok true ∧ ∃ order, order.id = id ∧
        paper.orders.find? (fun listed => listed.id = order.id) = some order ∧
        Spares
          { paper.release order with
            orders := paper.orders.eraseP fun listed => listed.id = order.id }
          after := by
  obtain ⟨⟨_, rfl, -⟩, hspares⟩ | hcall := connectFor_bind_inv h
  · exact .inl ⟨by simp, hspares⟩
  · rw [outcome_get_bind] at hcall
    -- a cancel that is connected is answered, by false where it is refused
    have hwithdraw : (Except.ok (paper.withdraw id).1, (paper.withdraw id).2) = _ := hcall
    obtain ⟨rfl, rfl⟩ := Prod.mk.inj hwithdraw
    obtain ⟨hrefused, hspares⟩ | ⟨htaken, horder⟩ := paper.withdraw_inv id
    · exact .inl ⟨by simp [hrefused], hspares⟩
    · exact .inr ⟨by rw [htaken], horder⟩

end Orders

/-! ## Calls -/

section Calls

variable {β : Type} {paper after : Paper} {market : Market}

/-- A trader sees the answer of a call, with its error told as one of a venue. -/
theorem replies_visible {call : CallM Float β} {reply : Except VenueError β} :
    Replies (visible call) paper reply after ↔
      ∃ reply', outcome call paper = (reply', after) ∧
        reply = reply'.mapError PaperError.toVenueError := by
  rcases h : outcome call paper with ⟨reply', after'⟩
  have hrun : ((visible call).run paper : Except VenueError β × Paper) =
      (reply'.mapError PaperError.toVenueError, after') := by
    show ((outcome call paper).1.mapError PaperError.toVenueError, (outcome call paper).2) = _
    rw [h]
  rw [replies_iff hrun]
  simp [and_comm, eq_comm]

/-- A call for one market breaks off, or is carried out. -/
theorem replies_connectFor_inv {f : Unit → CallM Float β} {reply : Except VenueError β}
    (h : Replies (visible (connectFor market >>= f)) paper reply after) :
    ((∃ error, reply = .error error) ∧ paper.Spares after) ∨
      ∃ reply', outcome (f ()) paper = (reply', after) ∧
        reply = reply'.mapError PaperError.toVenueError := by
  obtain ⟨reply', hcall, rfl⟩ := replies_visible.mp h
  obtain ⟨⟨_, rfl, -⟩, hspares⟩ | hcall := connectFor_bind_inv hcall
  · exact .inl ⟨⟨_, rfl⟩, hspares⟩
  · exact .inr ⟨reply', hcall, rfl⟩

/-- The open orders that are answered are those on the book. -/
theorem replies_openOrders {reply : Except VenueError (List OpenOrder)}
    (h : Replies (venue.openOrders market) paper reply after) :
    paper.Spares after ∧ ∀ orders, reply = .ok orders → orders = paper.orders := by
  obtain ⟨⟨_, rfl⟩, hspares⟩ | ⟨_, hcall, rfl⟩ := replies_connectFor_inv h
  · exact ⟨hspares, by simp⟩
  · cases hcall
    refine ⟨.refl paper, ?_⟩
    rintro _ ⟨⟩
    rfl

/-- A term of trade that is answered is the one there is. -/
theorem replies_term {term : PaperTerms → Float} {reply : Except VenueError Float}
    (h : Replies (visible (callTerm term market)) paper reply after) :
    paper.Spares after ∧ ∀ value, reply = .ok value → value = term paper.terms := by
  obtain ⟨⟨_, rfl⟩, hspares⟩ | ⟨_, hcall, rfl⟩ := replies_connectFor_inv h
  · exact ⟨hspares, by simp⟩
  · cases hcall
    refine ⟨.refl paper, ?_⟩
    rintro _ ⟨⟩
    rfl

/-- A balance that is answered is what is available. -/
theorem replies_availableBalance {currency : String} {reply : Except VenueError Float}
    (h : Replies (venue.availableBalance currency) paper reply after) :
    paper.Spares after ∧ ∀ amount, reply = .ok amount → amount = paper.balance currency := by
  obtain ⟨_, hcall, rfl⟩ := replies_visible.mp h
  obtain ⟨⟨_, rfl⟩, hspares⟩ | hcall := connect_bind_inv hcall
  · exact ⟨hspares, nofun⟩
  · cases hcall
    refine ⟨.refl paper, ?_⟩
    rintro _ ⟨⟩
    rfl

/-- Asking for the ticker changes nothing but the counts. -/
theorem replies_ticker {reply : Except VenueError Ticker}
    (h : Replies (venue.ticker market) paper reply after) : paper.Spares after := by
  obtain ⟨-, hspares⟩ | ⟨_, hcall, rfl⟩ := replies_connectFor_inv h
  · exact hspares
  · rw [outcome_get_bind] at hcall
    cases hticker : paper.ticker <;> rw [hticker] at hcall <;> cases hcall <;> exact .refl paper

/-- An order is refused, or it is placed. -/
theorem replies_createOrder {kind : OrderKind} {quantity price : Float}
    {reply : Except VenueError OrderId}
    (h : Replies (venue.createOrder market kind quantity price) paper reply after) :
    ((∃ error, reply = .error error) ∧ paper.Spares after) ∨
      ∃ id, reply = .ok id ∧ paper.Places { id, kind, quantity, price } after := by
  obtain ⟨_, hcall, rfl⟩ := replies_visible.mp h
  obtain ⟨⟨_, rfl⟩, hspares⟩ | ⟨id, rfl, hcheck, hplaced⟩ := createOrder_inv hcall
  · exact .inl ⟨⟨_, rfl⟩, hspares⟩
  · obtain ⟨rfl, rfl⟩ := Prod.mk.inj hplaced
    exact .inr ⟨_, rfl, hcheck, rfl, .refl _⟩

/-- Why an order is refused: it does not reach the venue, or it does not pass the check. -/
theorem createOrder_error {kind : OrderKind} {quantity price : Float} {error : PaperError}
    (h : outcome (callCreateOrder market kind quantity price) paper = (.error error, after)) :
    Unconnected market error ∨ paper.checkOrder kind quantity price = .error error := by
  obtain ⟨⟨_, ⟨⟩, hunconnected⟩, -⟩ | hcall := connectFor_bind_inv h
  · exact .inl hunconnected
  · rw [outcome_get_bind] at hcall
    cases hcheck : paper.checkOrder kind quantity price with
    | error reason =>
      rw [submit_of_refused hcheck] at hcall
      cases hcall
      exact .inr rfl
    | ok =>
      rw [submit_of_checked hcheck] at hcall
      cases hcall

/-- For a trader too, a cancel takes its order off or changes nothing but the counts. -/
theorem replies_cancelOrder {id : OrderId} {reply : Except VenueError Bool}
    (h : Replies (venue.cancelOrder market id) paper reply after) :
    (reply ≠ .ok true ∧ paper.Spares after) ∨
      reply = .ok true ∧ ∃ order, order.id = id ∧ paper.TakesOff order after := by
  obtain ⟨reply', hcall, rfl⟩ := replies_visible.mp h
  obtain ⟨hrefused, hspares⟩ | ⟨rfl, horder⟩ := cancelOrder_inv hcall
  · refine .inl ⟨fun hok => hrefused ?_, hspares⟩
    cases reply' with
    | error => cases hok
    | ok =>
      cases hok
      rfl
  · exact .inr ⟨rfl, horder⟩

/-- A call for the market that is traded here is answered once it is connected. -/
theorem replies_of_connected {f : Unit → CallM Float β} {value : β}
    (hcalls : ¬0 < paper.failingCalls)
    (hmarket : market.id = paper.terms.market.id)
    (hcall : outcome (f ()) paper = (.ok value, paper)) :
    Replies (visible (connectFor market >>= f)) paper (.ok value) paper :=
  replies_visible.mpr ⟨.ok value, by rw [outcome_connectFor_bind hcalls hmarket, hcall], rfl⟩

/-- A balance is answered while no call is set to fail. -/
theorem replies_balance_of_connected (hcalls : ¬0 < paper.failingCalls) (currency : String) :
    Replies (venue.availableBalance currency) paper (.ok (paper.balance currency)) paper := by
  refine replies_visible.mpr ⟨.ok (paper.balance currency), ?_, rfl⟩
  rw [callAvailableBalance, outcome_bind, outcome_connect_of_not_pos hcalls]
  rfl

end Calls

/-! ## Tickers -/

section Tickers

variable {paper : Paper} {ticker : Ticker} {order : OpenOrder}

/-- Fills are made on the terms there are. -/
theorem executeAll_terms (orders : List OpenOrder) :
    ∀ paper : Paper, (executeAll ticker orders paper).2.terms = paper.terms := by
  induction orders with
  | nil => exact fun _ => rfl
  | cons order rest ih =>
    intro paper
    rw [executeAll]
    split
    · obtain ⟨_, _, _, hsettle⟩ := settle_eq paper order (paper.fillQuantity order)
      show (executeAll ticker rest (paper.settle order (paper.fillQuantity order))).2.terms = _
      rw [ih, hsettle]
    · exact ih paper

/-- A ticker leaves the terms as they are. -/
theorem setTicker_terms (paper : Paper) (ticker : Ticker) :
    (paper.setTicker ticker).terms = paper.terms :=
  executeAll_terms paper.orders _

/-- A ticker reaches nothing on an empty book. -/
theorem setTicker_of_nil (h : paper.orders = []) :
    paper.setTicker ticker = { paper with ticker := some ticker } := by
  rw [setTicker, h, executeAll, ← h]

/-- What is left of an order once a quantity of it is filled. -/
def remainder (order : OpenOrder) (quantity : Float) : List OpenOrder :=
  let rest := { order with quantity := order.quantity - quantity }
  if staysOpen rest then [rest] else []

/-- An order that is filled in part stays with less of it, or goes. -/
theorem remainder_cases (order : OpenOrder) (quantity : Float) :
    remainder order quantity = [] ∨
      remainder order quantity = [{ order with quantity := order.quantity - quantity }] := by
  by_cases h : staysOpen { order with quantity := order.quantity - quantity } = true
  · exact .inr (if_pos h)
  · exact .inl (if_neg h)

/-- The only order of a book is left alone, or a quantity of it is filled. -/
theorem setTicker_of_singleton (h : paper.orders = [order]) :
    paper.setTicker ticker =
      if reaches paper.terms ticker order then
        { ({ paper with ticker := some ticker }).settle order (paper.fillQuantity order) with
          orders := remainder order (paper.fillQuantity order) }
      else { paper with ticker := some ticker } := by
  rw [setTicker, h]
  by_cases hreaches : reaches paper.terms ticker order = true
  · simp only [executeAll, hreaches, if_true]
    rfl
  · simp only [executeAll, hreaches, ← h]
    rfl

end Tickers

/-! ## A venue to look at -/

/-- A ticker with a narrow spread. -/
def narrow : Ticker :=
  { last := 100.0, ask := 101.0, bid := 99.0, time := ⟨0, 0⟩ }

/--
A paper venue without fees, with its least volume of one coin, at which some amounts are
held.
-/
def holding (market : Market) (amounts : List (String × Float)) : Paper :=
  { Paper.new market 0.0 1.0 0.005 with ticker := some narrow, balances := ⟨amounts⟩ }

/-- A paper venue at which two coins are held. -/
def holdingTwo : Paper :=
  holding (.ofCurrencies "BTC" "EUR") [("BTC", 2.0)]

end Paper

end SwingTrader
