import SwingTrader.Proofs.Paper

/-!
# SwingTrader — the paper venue while no call is set to fail

A venue that has no calls to break off answers every call by what is on its books.
Asking changes nothing at all; and what a call does to the books never makes a later
call fail.

* `Paper.Connected` — no call is set to fail, now or once a cancel has succeeded;
* `Paper.Connected.replies_openOrders` and its siblings — what is answered to each
  call for the market that is traded;
* `Paper.Connected.replies_unknown` — any other market is refused.
-/

namespace SwingTrader.Paper

variable {α β : Type} {paper after : Paper} {market : Market}

/-- No call is set to fail, now or once a cancel has succeeded; cancels may still be refused. -/
structure Connected (paper : Paper α) : Prop where
  calls_eq : paper.failingCalls = 0
  afterCancel_eq : paper.failingAfterCancel = 0

namespace Connected

theorem not_pos {paper : Paper α} (h : paper.Connected) : ¬0 < paper.failingCalls := by
  simp [h.calls_eq]

/-! ## Calls for the market that is traded -/

section Traded

variable (h : paper.Connected) (hmarket : market.id = paper.terms.market.id)
include h hmarket

/-- A call is carried out. -/
theorem replies_iff {f : Unit → CallM Float β} {reply : Except VenueError β} :
    Replies (visible (connectFor market >>= f)) paper reply after ↔
      ∃ reply', outcome (f ()) paper = (reply', after) ∧
        reply = reply'.mapError PaperError.toVenueError := by
  rw [replies_visible, outcome_connectFor_bind h.not_pos hmarket]

theorem replies_openOrders : Replies (venue.openOrders market) paper (.ok paper.orders) paper :=
  replies_of_connected h.not_pos hmarket rfl

/-- Every term of trade is answered. -/
theorem replies_term (term : PaperTerms → Float) :
    Replies (visible (callTerm term market)) paper (.ok (term paper.terms)) paper :=
  replies_of_connected h.not_pos hmarket rfl

/-- A ticker is answered once there is one. -/
theorem replies_ticker {ticker : Ticker} (hticker : paper.ticker = some ticker) :
    Replies (venue.ticker market) paper (.ok ticker) paper := by
  refine replies_of_connected h.not_pos hmarket ?_
  rw [outcome_get_bind, hticker]
  rfl

/-- An order that does not pass the check is refused. -/
theorem replies_createOrder_refused {kind : OrderKind} {quantity price : Float} {error : PaperError}
    (hcheck : paper.checkOrder kind quantity price = .error error) :
    Replies (venue.createOrder market kind quantity price) paper (.error error.toVenueError)
      paper := by
  refine (h.replies_iff hmarket).mpr ⟨.error error, ?_, rfl⟩
  rw [outcome_get_bind, submit_of_refused hcheck]
  rfl

/-- An order that passes the check goes on the book. -/
theorem replies_createOrder {kind : OrderKind} {quantity price : Float}
    (hcheck : paper.checkOrder kind quantity price = .ok ()) :
    Replies (venue.createOrder market kind quantity price) paper (.ok (.ofNat paper.nextId))
      ((paper.lock kind quantity price).insertOpenOrder kind quantity price).2 := by
  refine (h.replies_iff hmarket).mpr ⟨.ok (.ofNat paper.nextId), ?_, rfl⟩
  rw [outcome_get_bind, submit_of_checked hcheck]
  obtain ⟨balances, hlock⟩ := lock_eq paper kind quantity price
  rw [hlock]
  rfl

/-- A cancel is answered by what becomes of it. -/
theorem replies_cancelOrder (id : OrderId) :
    Replies (venue.cancelOrder market id) paper (.ok (paper.withdraw id).1)
      (paper.withdraw id).2 := by
  refine (h.replies_iff hmarket).mpr ⟨.ok (paper.withdraw id).1, ?_, rfl⟩
  rw [outcome_get_bind]
  rfl

end Traded

/-! ## Other calls -/

/-- Every balance is answered. -/
theorem replies_balance (h : paper.Connected) (currency : String) :
    Replies (venue.availableBalance currency) paper (.ok (paper.balance currency)) paper :=
  replies_balance_of_connected h.not_pos currency

/-- A call for any other market is refused. -/
theorem replies_unknown (h : paper.Connected) (hmarket : market.id ≠ paper.terms.market.id)
    (f : Unit → CallM Float β) :
    Replies (visible (connectFor market >>= f)) paper
      (.error (PaperError.toVenueError (.unknownMarket market.id))) paper := by
  refine replies_visible.mpr ⟨.error (.unknownMarket market.id), ?_, rfl⟩
  rw [connectFor, bind_assoc, outcome_bind, outcome_connect_of_not_pos h.not_pos]
  show outcome ((if market.id ≠ paper.terms.market.id then _ else _) >>= f) paper = _
  rw [if_pos hmarket]
  rfl

/-! ## What stays -/

/-- An order that is placed leaves the venue connected. -/
theorem placed (h : paper.Connected) (kind : OrderKind) (quantity price : Float) :
    (((paper.lock kind quantity price).insertOpenOrder kind quantity price).2).Connected ∧
      (((paper.lock kind quantity price).insertOpenOrder kind quantity price).2).terms =
        paper.terms := by
  obtain ⟨balances, hlock⟩ := lock_eq paper kind quantity price
  rw [hlock]
  exact ⟨⟨h.calls_eq, h.afterCancel_eq⟩, rfl⟩

/-- An order that is withdrawn leaves the venue connected. -/
theorem withdrawn (h : paper.Connected) (id : OrderId) :
    (paper.withdraw id).2.Connected ∧ (paper.withdraw id).2.terms = paper.terms := by
  unfold withdraw
  split
  · exact ⟨⟨h.calls_eq, h.afterCancel_eq⟩, rfl⟩
  · split
    · exact ⟨h, rfl⟩
    next order _ =>
      obtain ⟨balances, hrelease⟩ := release_eq paper order
      rw [hrelease]
      exact ⟨⟨by simp [h.calls_eq, h.afterCancel_eq], rfl⟩, rfl⟩

/-- A ticker leaves the venue connected. -/
theorem setTicker (h : paper.Connected) (ticker : Ticker) : (paper.setTicker ticker).Connected := by
  have hexecute (orders : List OpenOrder) : ∀ paper : Paper, paper.Connected →
      (executeAll ticker orders paper).2.Connected := by
    induction orders with
    | nil => exact fun _ h => h
    | cons order rest ih =>
      intro paper h
      rw [executeAll]
      split
      · obtain ⟨_, _, _, hsettle⟩ := settle_eq paper order (paper.fillQuantity order)
        refine ih (paper.settle order (paper.fillQuantity order)) ?_
        rw [hsettle]
        exact ⟨h.calls_eq, h.afterCancel_eq⟩
      · exact ih paper h
  obtain ⟨hcalls, hafterCancel⟩ :=
    hexecute paper.orders { paper with ticker := some ticker } ⟨h.calls_eq, h.afterCancel_eq⟩
  exact ⟨hcalls, hafterCancel⟩

end Connected

end SwingTrader.Paper
