import SwingTrader.Proofs.Desk

/-!
# SwingTrader — operations that are blind to the position

Most of what an operation of a tracker is made of neither looks at what the tracker
keeps of its position nor changes it: the calls of the venue, the prices, the ledgers.
Such a part ends alike in whatever form the position is kept.

* `Desk.keeping` — a desk whose tracker keeps something else;
* `Desk.Blind` — an operation that ends alike at either desk;
* `Desk.blind_call` and its siblings — the parts that are blind;
* `Tracker.blind_enterAmount` and its siblings — what is made of such parts alone.
-/

namespace SwingTrader

variable {σ κ τ τ' α β : Type}

namespace Desk

/-- The desk when its tracker keeps something else of its position, in any form. -/
def keeping (desk : Desk σ κ τ) (stage : τ') : Desk σ κ τ' where
  venue := desk.venue
  prices := desk.prices
  tick := desk.tick
  openOrders := desk.openOrders
  ledgers := desk.ledgers
  tracker := { settings := desk.tracker.settings, stage }
  rules := desk.rules

/--
Whatever the tracker keeps, the operation ends with the same answer, and leaves that as
it is.
-/
structure Blind (op : (τ : Type) → TradeM σ κ τ α) : Prop where
  ends : ∀ {τ τ' : Type} {desk after : Desk σ κ τ} {answer : Except TradingError α} (stage : τ'),
    Ends (op τ) desk answer after → Ends (op τ') (desk.keeping stage) answer (after.keeping stage)

namespace Blind

theorem pure (value : α) : Blind fun τ => (Pure.pure value : TradeM σ κ τ α) := by
  constructor
  intro τ τ' desk after answer stage h
  obtain ⟨rfl, rfl⟩ := ends_pure.mp h
  exact ends_pure.mpr ⟨rfl, rfl⟩

theorem throw (error : TradingError) :
    Blind fun τ => (MonadExcept.throw error : TradeM σ κ τ α) := by
  constructor
  intro τ τ' desk after answer stage h
  obtain ⟨rfl, rfl⟩ := ends_throw.mp h
  exact ends_throw.mpr ⟨rfl, rfl⟩

/-- An operation is blind to what the tracker keeps if both of its parts are. -/
theorem bind {op : (τ : Type) → TradeM σ κ τ α} {next : (τ : Type) → α → TradeM σ κ τ β}
    (h : Blind op) (hnext : ∀ value, Blind fun τ => next τ value) :
    Blind fun τ => op τ >>= next τ := by
  constructor
  intro τ τ' desk after answer stage hends
  obtain ⟨error, hfirst, rfl⟩ | ⟨value, mid, hfirst, hrest⟩ := ends_bind.mp hends
  · exact ends_bind.mpr (.inl ⟨error, h.ends stage hfirst, rfl⟩)
  · exact ends_bind.mpr (.inr ⟨value, mid.keeping stage, h.ends stage hfirst,
      (hnext value).ends stage hrest⟩)

/-- What the tracker keeps is left as it is. -/
theorem stage_eq {op : (τ : Type) → TradeM σ κ τ α} (h : Blind op) {desk after : Desk σ κ τ}
    {answer : Except TradingError α} (hends : Ends (op τ) desk answer after) :
    after.tracker.stage = desk.tracker.stage := by
  -- keeping what is kept already changes nothing, and an operation ends in one way only
  have hsame : Ends (op τ) desk answer (after.keeping desk.tracker.stage) :=
    h.ends _ hends
  obtain ⟨-, hafter⟩ := Prod.mk.inj (hends.symm.trans hsame)
  rw [hafter]
  rfl

end Blind

/-! ## Parts -/

section Parts

/-- The settings are the same whatever the tracker keeps. -/
theorem blind_settings : Blind fun τ => (settings : TradeM σ κ τ TrackerSettings) := by
  constructor
  intro τ τ' desk after answer stage h
  obtain ⟨rfl, rfl⟩ := ends_settings.mp h
  exact ends_settings.mpr ⟨rfl, rfl⟩

/-- A call of the venue does not touch the tracker. -/
theorem blind_call (request : VenueM σ α) :
    Blind fun τ => (call request : TradeM σ κ τ α) := by
  constructor
  intro τ τ' desk after answer stage h
  obtain ⟨reply, state, hreply, rfl, rfl⟩ := ends_call.mp h
  exact ends_call.mpr ⟨reply, state, hreply, rfl, rfl⟩

/-- A price rule is asked the same whatever the tracker keeps. -/
theorem blind_askPrice (rule : PriceRule κ) (side : Side) :
    Blind fun τ => (askPrice rule side : TradeM σ κ τ Float) := by
  constructor
  intro τ τ' desk after answer stage h
  obtain ⟨rfl, rfl⟩ := ends_askPrice.mp h
  exact ends_askPrice.mpr ⟨rfl, rfl⟩

/-- A decision is the same whatever the tracker keeps. -/
theorem blind_decide (decision : Decision κ) :
    Blind fun τ => (decide decision : TradeM σ κ τ Bool) := by
  constructor
  intro τ τ' desk after answer stage h
  obtain ⟨rfl, rfl⟩ := ends_decide.mp h
  exact ends_decide.mpr ⟨rfl, rfl⟩

theorem blind_newestBar : Blind fun τ => (newestBar : TradeM σ κ τ Nat) := by
  constructor
  intro τ τ' desk after answer stage h
  obtain ⟨rfl, rfl⟩ := ends_newestBar.mp h
  exact ends_newestBar.mpr ⟨rfl, rfl⟩

/-- The newest ticker is the same whatever the tracker keeps. -/
theorem blind_newestTicker : Blind fun τ => (newestTicker : TradeM σ κ τ Ticker) := by
  constructor
  intro τ τ' desk after answer stage h
  obtain ⟨rfl, rfl⟩ := ends_newestTicker.mp h
  exact ends_newestTicker.mpr ⟨rfl, rfl⟩

/-- An entry is written down in the same ledger whatever the tracker keeps. -/
theorem blind_recordEntry (side : Side) :
    Blind fun τ => (recordEntry side : TradeM σ κ τ Unit) := by
  constructor
  intro τ τ' desk after answer stage h
  cases hindex : desk.prices.lastIndex? with
  | none =>
    simp only [ends_recordEntry, keeping, hindex] at h ⊢
    exact ⟨h.1, by rw [h.2]⟩
  | some index =>
    cases hrecord : desk.ledgers.recordEntry desk.tracker.settings.ledger index side <;>
      simp only [ends_recordEntry, keeping, hindex, hrecord] at h ⊢ <;>
      exact ⟨h.1, by rw [h.2]⟩

theorem blind_recordExit : Blind fun τ => (recordExit : TradeM σ κ τ Unit) := by
  constructor
  intro τ τ' desk after answer stage h
  cases hindex : desk.prices.lastIndex? with
  | none =>
    simp only [ends_recordExit, keeping, hindex] at h ⊢
    exact ⟨h.1, by rw [h.2]⟩
  | some index =>
    cases hrecord : desk.ledgers.recordExit desk.tracker.settings.ledger index <;>
      simp only [ends_recordExit, keeping, hindex, hrecord] at h ⊢ <;>
      exact ⟨h.1, by rw [h.2]⟩

/-- The orders are listed, and kept for the tick, whatever the tracker keeps. -/
theorem blind_listOrders (venue : Venue σ) :
    Blind fun τ => (listOrders venue : TradeM σ κ τ (List OpenOrder)) := by
  constructor
  intro τ τ' desk after answer stage h
  cases answer with
  | error error =>
    obtain ⟨hnone, reason, state, hreply, rfl, rfl⟩ := ends_listOrders_error.mp h
    exact ends_listOrders_error.mpr ⟨hnone, reason, state, hreply, rfl, rfl⟩
  | ok orders =>
    obtain ⟨hlisted, rfl⟩ | ⟨hnone, state, hreply, rfl⟩ := ends_listOrders_ok.mp h
    · exact ends_listOrders_ok.mpr (.inl ⟨hlisted, rfl⟩)
    · exact ends_listOrders_ok.mpr (.inr ⟨hnone, state, hreply, rfl⟩)

/-- An order is looked up whatever the tracker keeps. -/
theorem blind_findOrder (venue : Venue σ) (id : OrderId) :
    Blind fun τ => (findOrder venue id : TradeM σ κ τ (Option OpenOrder)) := by
  constructor
  intro τ τ' desk after answer stage h
  cases answer with
  | error error =>
    exact ends_findOrder_error.mpr ((blind_listOrders venue).ends stage (ends_findOrder_error.mp h))
  | ok found =>
    obtain ⟨orders, hlist, hfound⟩ := ends_findOrder_ok.mp h
    exact ends_findOrder_ok.mpr ⟨orders, (blind_listOrders venue).ends stage hlist, hfound⟩

/-- An order is submitted whatever the tracker keeps. -/
theorem blind_submit (venue : Venue σ) (kind : OrderKind) (quantity price : Float) :
    Blind fun τ => (submit venue kind quantity price : TradeM σ κ τ PlacedOrder) := by
  constructor
  intro τ τ' desk after answer stage h
  cases answer with
  | error error =>
    obtain ⟨reason, state, hreply, rfl, rfl⟩ := ends_submit_error.mp h
    exact ends_submit_error.mpr ⟨reason, state, hreply, rfl, rfl⟩
  | ok order =>
    obtain ⟨id, state, hreply, rfl, rfl⟩ := ends_submit_ok.mp h
    exact ends_submit_ok.mpr ⟨id, state, hreply, rfl, rfl⟩

/-- An order is cancelled whatever the tracker keeps. -/
theorem blind_cancel (venue : Venue σ) (id : OrderId) :
    Blind fun τ => (cancel venue id : TradeM σ κ τ Bool) := by
  constructor
  intro τ τ' desk after answer stage h
  obtain ⟨reply, state, hreply, hafter⟩ := ends_cancel.mp h
  refine ends_cancel.mpr ⟨reply, state, hreply, ?_⟩
  cases reply with
  | error reason =>
    obtain ⟨rfl, rfl⟩ := hafter
    exact ⟨rfl, rfl⟩
  | ok cancelled =>
    obtain ⟨rfl, rfl⟩ := hafter
    exact ⟨rfl, rfl⟩

/-- What the rules remember changes whatever the tracker keeps. -/
theorem blind_modifyRules (change : κ → κ) :
    Blind fun τ => (modify fun desk => { desk with rules := change desk.rules } :
      TradeM σ κ τ PUnit) := by
  constructor
  intro τ τ' desk after answer stage h
  obtain ⟨rfl, rfl⟩ := ends_modify.mp h
  exact ends_modify.mpr ⟨rfl, rfl⟩

/-- A tick is counted whatever the tracker keeps. -/
theorem blind_countTick :
    Blind fun τ => (modify fun desk => { desk with tick := desk.tick + 1 } :
      TradeM σ κ τ PUnit) := by
  constructor
  intro τ τ' desk after answer stage h
  obtain ⟨rfl, rfl⟩ := ends_modify.mp h
  exact ends_modify.mpr ⟨rfl, rfl⟩

/-- What is left of taking in a ticker, once the venue has answered it. -/
theorem blind_take (ticker : Ticker) :
    Blind fun τ => (do
      let desk ← get
      match desk.prices.record ticker with
      | .ok prices => set { desk with prices }
      | .error error => throw (.ofBar error)
      newestBar : TradeM σ κ τ Nat) := by
  constructor
  intro τ τ' desk after answer stage h
  rw [ends_get_bind] at h ⊢
  cases hrecord : desk.prices.record ticker with
  | error error =>
    simp only [keeping, hrecord] at h ⊢
    exact ((Blind.throw _).bind fun _ => blind_newestBar).ends stage h
  | ok prices =>
    simp only [keeping, hrecord, ends_set_bind] at h ⊢
    exact blind_newestBar.ends stage h

/-- A ticker is taken in whatever the tracker keeps. -/
theorem blind_update (venue : Venue σ) : Blind fun τ => (update venue : TradeM σ κ τ Nat) := by
  constructor
  intro τ τ' desk after answer stage h
  simp only [update, ends_get_bind] at h ⊢
  obtain ⟨error, hcall, rfl⟩ | ⟨ticker, mid, hcall, h⟩ := ends_bind.mp h
  · exact ends_bind.mpr (.inl ⟨error, (blind_call _).ends stage hcall, rfl⟩)
  · exact ends_bind.mpr (.inr ⟨ticker, _, (blind_call _).ends stage hcall,
      (blind_take ticker).ends stage h⟩)

end Parts

end Desk

/-! ## What is made of blind parts alone -/

namespace Tracker

open Desk

theorem blind_lastPrice : Blind fun τ => (lastPrice : TradeM σ κ τ Float) := by
  constructor
  intro τ τ' desk after answer stage h
  simp only [lastPrice, ends_get_bind] at h ⊢
  rw [show (desk.keeping stage).prices = desk.prices from rfl]
  cases hprice : desk.prices.lastPrice? with
  | none =>
    rw [hprice] at h
    obtain ⟨rfl, rfl⟩ := ends_throw.mp h
    exact ends_throw.mpr ⟨rfl, rfl⟩
  | some price =>
    rw [hprice] at h
    obtain ⟨rfl, rfl⟩ := ends_pure.mp h
    exact ends_pure.mpr ⟨rfl, rfl⟩

/-- What to open a position with does not depend on what the tracker keeps. -/
theorem blind_enterAmount (venue : Venue σ) (side : Side) (price : Float) :
    Blind fun τ => (enterAmount venue side price : TradeM σ κ τ (Option Float)) := by
  refine blind_settings.bind fun settings => (blind_call _).bind fun counter =>
    (blind_call _).bind fun minimum => ?_
  cases side with
  | long => exact (blind_call _).bind fun fee => .pure _
  | short => exact (blind_call _).bind fun fee => .pure _

/--
What to close a position with does not depend on what the tracker keeps, but on its
side alone.
-/
theorem blind_submitExit (venue : Venue σ) (side : Side) (price : Float) :
    Blind fun τ => (submitExit venue side price : TradeM σ κ τ PlacedOrder) := by
  cases side with
  | long =>
    exact blind_settings.bind fun settings => (blind_call _).bind fun amount => blind_submit ..
  | short => exact (Blind.pure _).bind fun amount => blind_submit ..

/-- A trade is made up from its two orders alone. -/
theorem blind_closedTrade (venue : Venue σ) (entry exit : PlacedOrder) :
    Blind fun τ => (closedTrade venue entry exit : TradeM σ κ τ ClosedTrade) :=
  blind_settings.bind fun _ => (blind_call _).bind fun _ => (blind_call _).bind fun _ => .pure _

end Tracker

end SwingTrader
