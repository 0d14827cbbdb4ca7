import SwingTrader.Proofs.Session.Watched

/-!
# SwingTrader — operations that go through

An operation goes through where every call that it makes is answered. It ends with an
answer then, and with a desk of which something is known; or a decision of the strategy
cuts it short, by a reversal. The venue is watched for that, and what is said of the
desk is said of the desk without the journal.

* `Desk.Achieves` — an operation goes through, towards a goal;
* `Desk.Achieves.bind` — two parts go through one after the other;
* `Desk.Achieves.call`, `Desk.Achieves.submit` and their siblings — what the venue has to
  answer for a part to go through.
-/

namespace SwingTrader

variable {σ κ α β : Type}

/-- A call that did not fail. -/
def VenueCall.Answered : VenueCall → Prop
  | .ticker _ answer => answer.isOk
  | .openOrders _ answer => answer.isOk
  | .createOrder _ _ _ _ answer => answer.isOk
  | .cancelOrder _ _ answer => answer.isOk
  | .availableBalance _ answer => answer.isOk
  | .minimumOrderVolume _ answer => answer.isOk
  | .buyFee _ answer => answer.isOk
  | .sellFee _ answer => answer.isOk

instance : DecidablePred VenueCall.Answered := fun call => by
  cases call <;> exact inferInstanceAs (Decidable (_ = true))

/-- The strategy could not decide, since two pivots were confirmed at one bar. -/
def TradingError.IsReversal : TradingError → Prop
  | .strategy (.reversal _) => True
  | _ => False

/-- A call is answered beside the journal as it is without it. -/
theorem replies_journal (describe : Answer α → VenueCall) {request : VenueM σ α} {state : σ}
    {after : σ} {reply : Answer α} (h : Replies request state reply after)
    (calls : List VenueCall) :
    Replies (Venue.journal describe request) ⟨state, calls⟩ reply ⟨after,
      describe reply :: calls⟩ := by
  have hrun : (Venue.journal describe request).run ⟨state, calls⟩ =
      (((request.run state).1, ⟨(request.run state).2, describe (request.run state).1 :: calls⟩) :
        Answer α × Journaled σ) := rfl
  rw [Replies, hrun, h]

namespace Desk

/--
All calls of an operation are answered, and the operation ends with an answer and a desk
that are as they should be, or is cut short by a reversal.
-/
def Achieves (op : DeskM (Journaled σ) κ α) (desk : Desk σ κ) (goal : α → Desk σ κ → Prop) : Prop :=
  ∀ watched : Desk (Journaled σ) κ, watched.unwatched = desk →
    ∃ answer after, Ends op watched answer after ∧ Calls VenueCall.Answered watched after ∧
      match answer with
      | .ok value => goal value after.unwatched
      | .error error => error.IsReversal

namespace Achieves

variable {op : DeskM (Journaled σ) κ α} {desk : Desk σ κ} {goal goal' : α → Desk σ κ → Prop}
  {next : β → Desk σ κ → Prop} {venue : Venue σ}

theorem mono (h : Achieves op desk goal)
    (hgoal : ∀ value after, goal value after → goal' value after) :
    Achieves op desk goal' := by
  intro watched hwatched
  obtain ⟨answer, after, hends, hcalls, hanswer⟩ := h watched hwatched
  refine ⟨answer, after, hends, hcalls, ?_⟩
  cases answer with
  | error error => exact hanswer
  | ok value => exact hgoal value _ hanswer

/-- An operation achieves a goal if its second part does from wherever the first may end. -/
theorem bind {f : α → DeskM (Journaled σ) κ β} (h : Achieves op desk goal)
    (hnext : ∀ value after, goal value after → Achieves (f value) after next) :
    Achieves (op >>= f) desk next := by
  intro watched hwatched
  obtain ⟨answer, mid, hends, hcalls, hanswer⟩ := h watched hwatched
  cases answer with
  | error error =>
    exact ⟨.error error, mid, ends_bind.mpr (.inl ⟨error, hends, rfl⟩), hcalls, hanswer⟩
  | ok value =>
    obtain ⟨answer, after, hends', hcalls', hanswer'⟩ := hnext value _ hanswer mid rfl
    exact ⟨answer, after, ends_bind.mpr (.inr ⟨value, mid, hends, hends'⟩),
      hcalls.trans hcalls', hanswer'⟩

/-! ## Parts without a call -/

/-- What answers without a call, and changes nothing, achieves what is so already. -/
theorem of_ends {value : α} (hgoal : goal value desk)
    (h : ∀ watched : Desk (Journaled σ) κ, watched.unwatched = desk →
      Ends op watched (.ok value) watched) :
    Achieves op desk goal := by
  rintro watched rfl
  exact ⟨.ok value, watched, h watched rfl, .of_eq rfl, hgoal⟩

theorem pure {value : α} (h : goal value desk) : Achieves (Pure.pure value) desk goal :=
  .of_ends h fun _ _ => ends_pure.mpr ⟨rfl, rfl⟩

/-- What an operation reads of the desk it reads of the desk without the journal. -/
theorem get_bind {f : Desk (Journaled σ) κ → DeskM (Journaled σ) κ β}
    (h : ∀ watched : Desk (Journaled σ) κ, watched.unwatched = desk →
    Achieves (f watched) desk next) :
    Achieves (get >>= f) desk next := by
  intro watched hwatched
  obtain ⟨answer, after, hends, hrest⟩ := h watched hwatched watched hwatched
  exact ⟨answer, after, ends_get_bind.mpr hends, hrest⟩

theorem settings_bind {f : TrackerSettings → DeskM (Journaled σ) κ β}
    (h : Achieves (f desk.tracker.settings) desk next) : Achieves (settings >>= f) desk next := by
  rintro watched rfl
  obtain ⟨answer, after, hends, hrest⟩ := h watched rfl
  exact ⟨answer, after, ends_settings_bind.mpr hends, hrest⟩

theorem setStage {stage : Stage} {goal : Unit → Desk σ κ → Prop}
    (h : goal () (desk.withStage stage)) :
    Achieves (Desk.setStage stage) desk goal := by
  rintro watched rfl
  exact ⟨.ok (), watched.withStage stage, ends_setStage.mpr ⟨rfl, rfl⟩, .of_eq rfl, h⟩

/-- A rule may answer any price, and remember what it likes. -/
theorem askPrice (rule : PriceRule κ) (side : Side) :
    Achieves (Desk.askPrice rule side) desk fun _ after =>
      ∃ rules, after = { desk with rules } := by
  rintro watched rfl
  exact ⟨.ok _, _, ends_askPrice.mpr ⟨rfl, rfl⟩, .of_eq rfl, _, rfl⟩

/-- A decision may come out either way, or be cut short by a reversal. -/
theorem decide {decision : Decision κ} (hraises : ∀ view rules reason,
      ((decision view).run rules).1 = .error reason → TradingError.IsReversal (.strategy reason)) :
    Achieves (Desk.decide decision) desk fun _ after => ∃ rules, after = { desk with rules } := by
  rintro watched rfl
  refine ⟨_, _, ends_decide.mpr ⟨rfl, rfl⟩, .of_eq rfl, ?_⟩
  cases hdecision : ((decision watched.view).run watched.rules).1 with
  | error reason => exact hraises _ _ _ hdecision
  | ok decided => exact ⟨_, rfl⟩

/-- A change that leaves the venue alone is made without failure. -/
theorem modifying {change : Desk (Journaled σ) κ → Desk (Journaled σ) κ}
    {goal : PUnit → Desk σ κ → Prop}
    (hvenue : ∀ watched, (change watched).venue = watched.venue)
    (h : ∀ watched : Desk (Journaled σ) κ, watched.unwatched = desk →
      goal ⟨⟩ (change watched).unwatched) :
    Achieves (modify change : DeskM (Journaled σ) κ PUnit) desk goal := by
  rintro watched rfl
  exact ⟨.ok ⟨⟩, change watched, ends_modify.mpr ⟨rfl, rfl⟩, .of_eq (hvenue watched), h watched rfl⟩

/-- Once there is a ticker, it is read without failure. -/
theorem newestTicker {ticker : Ticker} (hticker : desk.prices.ticker = some ticker) :
    Achieves Desk.newestTicker desk fun found after => found = ticker ∧ desk = after := by
  refine .of_ends ⟨rfl, rfl⟩ fun watched hwatched => ends_newestTicker.mpr ⟨?_, rfl⟩
  rw [show watched.prices = desk.prices from congrArg Desk.prices hwatched, hticker]

/-! ## Calls -/

/-- A call goes through if the venue answers it. -/
theorem call {describe : Answer α → VenueCall} {request : VenueM σ α} {value : α} {state : σ}
    (hreply : Replies request desk.venue (.ok value) state)
    (hanswered : (describe (.ok value)).Answered)
    (h : goal value { desk with venue := state }) :
    Achieves (Desk.call (Venue.journal describe request)) desk goal := by
  rintro watched rfl
  have hjournal := replies_journal describe hreply watched.venue.calls
  exact ⟨.ok value, _, ends_call_ok.mpr ⟨_, hjournal, rfl⟩,
    .of_replies hjournal rfl hanswered, h⟩

/-- The orders are listed anew where no list is kept. -/
theorem listOrders {orders : List OpenOrder} {goal : List OpenOrder → Desk σ κ → Prop}
    (hnone : desk.listed? = none)
    (hreply : Replies (venue.openOrders desk.market) desk.venue (.ok orders) desk.venue)
    (h : goal orders { desk with openOrders := desk.openOrders.store desk.tick orders }) :
    Achieves (Desk.listOrders venue.journaled) desk goal := by
  rintro watched rfl
  have hjournal := replies_journal (.openOrders watched.market) hreply watched.venue.calls
  exact ⟨.ok orders, _, ends_listOrders_ok.mpr (.inr ⟨hnone, _, hjournal, rfl⟩),
    .of_replies hjournal rfl rfl, h⟩

/-- An order is looked up without failure where the venue answers its book. -/
theorem findOrder {orders : List OpenOrder} {id : OrderId}
    {goal : Option OpenOrder → Desk σ κ → Prop}
    (hnone : desk.listed? = none)
    (hreply : Replies (venue.openOrders desk.market) desk.venue (.ok orders) desk.venue)
    (h : goal (orders.find? fun order => order.id = id)
      { desk with openOrders := desk.openOrders.store desk.tick orders }) :
    Achieves (Desk.findOrder venue.journaled id) desk goal := by
  rintro watched rfl
  have hjournal := replies_journal (.openOrders watched.market) hreply watched.venue.calls
  refine ⟨.ok _, _, ends_findOrder_ok.mpr
    ⟨orders, ends_listOrders_ok.mpr (.inr ⟨hnone, _, hjournal, rfl⟩), rfl⟩, ?_, h⟩
  exact .of_replies hjournal rfl rfl

/-- An order is submitted without failure where the venue creates it. -/
theorem submit {kind : OrderKind} {quantity price : Float} {id : OrderId} {state : σ}
    {goal : PlacedOrder → Desk σ κ → Prop}
    (hreply : Replies (venue.createOrder desk.market kind quantity price) desk.venue (.ok id) state)
    (h : goal { id, kind, quantity, price } { desk with venue := state }.forgetting) :
    Achieves (Desk.submit venue.journaled kind quantity price) desk goal := by
  rintro watched rfl
  have hjournal := replies_journal (.createOrder watched.market kind quantity price)
    hreply watched.venue.calls
  exact ⟨.ok _, _, ends_submit_ok.mpr ⟨id, _, hjournal, rfl, rfl⟩,
    .of_replies hjournal rfl rfl, h⟩

/-- An order is cancelled without failure where the venue answers the cancel. -/
theorem cancel {id : OrderId} {cancelled : Bool} {state : σ} {goal : Bool → Desk σ κ → Prop}
    (hreply : Replies (venue.cancelOrder desk.market id) desk.venue (.ok cancelled) state)
    (h : goal cancelled { desk with venue := state }.forgetting) :
    Achieves (Desk.cancel venue.journaled id) desk goal := by
  rintro watched rfl
  have hjournal := replies_journal (.cancelOrder watched.market id) hreply watched.venue.calls
  exact ⟨.ok cancelled, _, ends_cancel.mpr ⟨_, _, hjournal, rfl, rfl⟩,
    .of_replies hjournal rfl rfl, h⟩

/-! ## The ledger -/

/-- An entry is written down without failure where the ledgers take it. -/
theorem recordEntry {side : Side} {ledgers : LedgerBook} {goal : Unit → Desk σ κ → Prop}
    (htakes : desk.TakesEntry side ledgers) (h : goal () { desk with ledgers }) :
    Achieves (Desk.recordEntry side) desk goal := by
  rintro watched rfl
  exact ⟨.ok (), _, ends_recordEntry_ok.mpr ⟨ledgers, htakes, rfl⟩, .of_eq rfl, h⟩

/-- An exit is written down without failure where the ledgers take it. -/
theorem recordExit {ledgers : LedgerBook} {goal : Unit → Desk σ κ → Prop}
    (htakes : desk.TakesExit ledgers) (h : goal () { desk with ledgers }) :
    Achieves Desk.recordExit desk goal := by
  rintro watched rfl
  exact ⟨.ok (), _, ends_recordExit_ok.mpr ⟨ledgers, htakes, rfl⟩, .of_eq rfl, h⟩

end Achieves

end Desk

end SwingTrader
