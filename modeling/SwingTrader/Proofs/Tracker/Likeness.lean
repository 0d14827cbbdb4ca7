import SwingTrader.Proofs.Desk

/-!
# SwingTrader — desks that are alike

Two desks may work with different venues and keep different lists of open orders,
and yet be alike: the same prices, ledgers and tracker, and venues that answer
alike. An operation then does the same at both, whatever it is made of, as soon as
the calls that it makes do.

* `Desk.Alike` — two desks that differ at most in their venues and the lists kept;
* `Desk.Mimics` — two operations with the same answers, that leave such desks alike;
* `Desk.Likeness` — two venues whose calls mimic one another;
* `Tracker.Likeness.resume` and its siblings — every operation of a tracker mimics
  itself.
-/

namespace SwingTrader

variable {σ τ κ α β : Type}

namespace Desk

/-! ## Operations that mimic one another -/

/-- From related desks, two operations give the same answer and leave related desks. -/
def Mimics (R : Desk σ κ → Desk τ κ → Prop) (op : DeskM σ κ α) (op' : DeskM τ κ α) : Prop :=
  ∀ desk other, R desk other →
    (outcome op desk).1 = (outcome op' other).1 ∧ R (outcome op desk).2 (outcome op' other).2

namespace Mimics

variable {R : Desk σ κ → Desk τ κ → Prop} {op : DeskM σ κ α} {op' : DeskM τ κ α}

/--
Two operations mimic each other if from related desks both have an end, with one
answer and related desks.
-/
theorem of_ends
    (h : ∀ desk other, R desk other → ∃ answer after after',
      Ends op desk answer after ∧ Ends op' other answer after' ∧ R after after') :
    Mimics R op op' := by
  intro desk other hrelated
  obtain ⟨answer, after, after', hends, hends', hafter⟩ := h desk other hrelated
  rw [hends, hends']
  exact ⟨rfl, hafter⟩

/-- However one of them ends, the other ends with the same answer at a related desk. -/
theorem ends (h : Mimics R op op') {desk after : Desk σ κ} {other : Desk τ κ}
    {answer : Except TradingError α} (hrelated : R desk other) (hends : Ends op desk answer after) :
    ∃ after', Ends op' other answer after' ∧ R after after' := by
  obtain ⟨hanswer, hafter⟩ := h desk other hrelated
  rw [hends] at hanswer hafter
  exact ⟨_, Prod.ext hanswer.symm rfl, hafter⟩

theorem pure (value : α) :
    Mimics R (Pure.pure value : DeskM σ κ α) (Pure.pure value : DeskM τ κ α) :=
  fun _ _ h => ⟨rfl, h⟩

theorem throw (error : TradingError) :
    Mimics R (MonadExcept.throw error : DeskM σ κ α) (MonadExcept.throw error : DeskM τ κ α) :=
  fun _ _ h => ⟨rfl, h⟩

/-- What goes on alike after the same answer mimics each other in the whole. -/
theorem bind {next : α → DeskM σ κ β} {next' : α → DeskM τ κ β} (h : Mimics R op op')
    (hnext : ∀ value, Mimics R (next value) (next' value)) :
    Mimics R (op >>= next) (op' >>= next') := by
  intro desk other hrelated
  obtain ⟨hanswer, hafter⟩ := h desk other hrelated
  rw [outcome_bind, outcome_bind]
  rcases hop : outcome op desk with ⟨answer, after⟩
  rcases hop' : outcome op' other with ⟨answer', after'⟩
  rw [hop, hop'] at hanswer hafter
  obtain rfl : answer = answer' := hanswer
  cases answer with
  | error error => exact ⟨rfl, hafter⟩
  | ok value => exact hnext value after after' hafter

/-- Where both decide by the same condition, it is enough that both branches go alike. -/
theorem ite (condition : Bool) {first second : DeskM σ κ α} {first' second' : DeskM τ κ α}
    (hfirst : Mimics R first first') (hsecond : Mimics R second second') :
    Mimics R (if condition then first else second) (if condition then first' else second') := by
  cases condition
  · exact hsecond
  · exact hfirst

theorem set {desk : Desk σ κ} {other : Desk τ κ} (h : R desk other) :
    Mimics R (MonadStateOf.set desk) (MonadStateOf.set other) :=
  fun _ _ _ => ⟨rfl, h⟩

/-- What goes on alike from any related desks goes on alike from those that are read. -/
theorem get {next : Desk σ κ → DeskM σ κ α} {next' : Desk τ κ → DeskM τ κ α}
    (h : ∀ desk other, R desk other → Mimics R (next desk) (next' other)) :
    Mimics R (MonadState.get >>= next) (MonadState.get >>= next') := by
  intro desk other hrelated
  exact h desk other hrelated desk other hrelated

end Mimics

/-! ## Desks that are alike -/

/--
Two desks with the same prices, ledgers, tracker and rules at the same tick. `S` is
what relates the venues and the lists that are kept, given the market and the tick.
-/
structure Alike (κ : Type) (S : Market → Nat → σ → OpenOrderCache → τ → OpenOrderCache → Prop)
    (desk : Desk σ κ) (other : Desk τ κ) : Prop where
  prices_eq : other.prices = desk.prices
  tick_eq : other.tick = desk.tick
  ledgers_eq : other.ledgers = desk.ledgers
  tracker_eq : other.tracker = desk.tracker
  rules_eq : other.rules = desk.rules
  related : S desk.market desk.tick desk.venue desk.openOrders other.venue other.openOrders

/-- Two venues are alike: from desks that are alike, each call mimics that of the other. -/
structure Likeness (κ : Type) (S : Market → Nat → σ → OpenOrderCache → τ → OpenOrderCache → Prop)
    (venue : Venue σ) (venue' : Venue τ) : Prop where
  balance : ∀ currency, Mimics (Alike κ S) (call (venue.availableBalance currency))
    (call (venue'.availableBalance currency))
  minimum : ∀ market, Mimics (Alike κ S) (call (venue.minimumOrderVolume market))
    (call (venue'.minimumOrderVolume market))
  buyFee : ∀ market, Mimics (Alike κ S) (call (venue.buyFee market))
    (call (venue'.buyFee market))
  sellFee : ∀ market, Mimics (Alike κ S) (call (venue.sellFee market))
    (call (venue'.sellFee market))
  lists : Mimics (Alike κ S) (listOrders venue) (listOrders venue')
  submits : ∀ kind quantity price, Mimics (Alike κ S) (submit venue kind quantity price)
    (submit venue' kind quantity price)
  cancels : ∀ id, Mimics (Alike κ S) (cancel venue id) (cancel venue' id)

/-! ## Parts without a call -/

section Parts

variable {S : Market → Nat → σ → OpenOrderCache → τ → OpenOrderCache → Prop}

theorem Alike.view_eq {desk : Desk σ κ} {other : Desk τ κ} (h : Alike κ S desk other) :
    other.view = desk.view := by
  rw [view, h.prices_eq, h.ledgers_eq, view]

theorem mimics_settings : Mimics (Alike κ S) settings settings :=
  .of_ends fun desk _ h =>
    ⟨_, _, _, ends_settings.mpr ⟨rfl, rfl⟩,
      ends_settings.mpr ⟨by rw [h.tracker_eq], rfl⟩, h⟩

/-- Both trackers get the same stage. -/
theorem mimics_setStage (stage : Stage) :
    Mimics (Alike κ S) (setStage stage) (setStage stage) := by
  refine .of_ends fun desk other h =>
    ⟨_, _, _, ends_setStage.mpr ⟨rfl, rfl⟩, ends_setStage.mpr ⟨rfl, rfl⟩, ?_⟩
  exact { h with tracker_eq := by rw [withStage, h.tracker_eq, withStage] }

/-- A price rule is asked the same at both desks. -/
theorem mimics_askPrice (rule : PriceRule κ) (side : Side) :
    Mimics (Alike κ S) (askPrice rule side) (askPrice rule side) := by
  refine .of_ends fun desk other h =>
    ⟨_, _, _, ends_askPrice.mpr ⟨rfl, rfl⟩, ends_askPrice.mpr ⟨?_, rfl⟩, ?_⟩
  · rw [h.view_eq, h.rules_eq]
  · exact { h with rules_eq := by rw [h.view_eq, h.rules_eq] }

/-- A decision is the same at both desks. -/
theorem mimics_decide (decision : Decision κ) :
    Mimics (Alike κ S) (decide decision) (decide decision) := by
  refine .of_ends fun desk other h =>
    ⟨_, _, _, ends_decide.mpr ⟨rfl, rfl⟩, ends_decide.mpr ⟨?_, rfl⟩, ?_⟩
  · rw [h.view_eq, h.rules_eq]
  · exact { h with rules_eq := by rw [h.view_eq, h.rules_eq] }

theorem mimics_newestBar : Mimics (Alike κ S) newestBar newestBar :=
  .of_ends fun desk _ h => ⟨_, _, _, ends_newestBar.mpr ⟨rfl, rfl⟩,
    ends_newestBar.mpr ⟨by rw [h.prices_eq], rfl⟩, h⟩

/-- The newest ticker is the same at both desks. -/
theorem mimics_newestTicker : Mimics (Alike κ S) newestTicker newestTicker :=
  .of_ends fun desk _ h => ⟨_, _, _, ends_newestTicker.mpr ⟨rfl, rfl⟩,
    ends_newestTicker.mpr ⟨by rw [h.prices_eq], rfl⟩, h⟩

/-- An entry is written down in the same ledger at both desks. -/
theorem mimics_recordEntry (side : Side) :
    Mimics (Alike κ S) (recordEntry side) (recordEntry side) := by
  refine mimics_newestBar.bind fun index => .get fun desk other h => ?_
  rw [h.ledgers_eq, h.tracker_eq]
  cases desk.ledgers.recordEntry desk.tracker.settings.ledger index side with
  | error error => exact .throw _
  | ok ledgers => exact .set { h with ledgers_eq := rfl, tracker_eq := rfl }

theorem mimics_recordExit : Mimics (Alike κ S) recordExit recordExit := by
  refine mimics_newestBar.bind fun index => .get fun desk other h => ?_
  rw [h.ledgers_eq, h.tracker_eq]
  cases desk.ledgers.recordExit desk.tracker.settings.ledger index with
  | error error => exact .throw _
  | ok ledgers => exact .set { h with ledgers_eq := rfl, tracker_eq := rfl }

end Parts

/-- An order is looked up among those that are listed. -/
theorem Likeness.finds {S : Market → Nat → σ → OpenOrderCache → τ → OpenOrderCache → Prop}
    {venue : Venue σ} {venue' : Venue τ} (h : Likeness κ S venue venue') (id : OrderId) :
    Mimics (Alike κ S) (findOrder venue id) (findOrder venue' id) := by
  intro desk other hrelated
  have hends := ends_outcome (findOrder venue id) desk
  rcases houtcome : outcome (findOrder venue id) desk with ⟨answer, after⟩
  rw [houtcome] at hends
  cases answer with
  | error error =>
    obtain ⟨after', hlist, hafter⟩ := h.lists.ends hrelated (ends_findOrder_error.mp hends)
    rw [show outcome (findOrder venue' id) other = _ from ends_findOrder_error.mpr hlist]
    exact ⟨rfl, hafter⟩
  | ok found =>
    obtain ⟨orders, hlist, hfound⟩ := ends_findOrder_ok.mp hends
    obtain ⟨after', hlist', hafter⟩ := h.lists.ends hrelated hlist
    rw [show outcome (findOrder venue' id) other = _ from
      ends_findOrder_ok.mpr ⟨orders, hlist', hfound⟩]
    exact ⟨rfl, hafter⟩

end Desk

/-! ## The operations of a tracker -/

namespace Tracker

open Desk

section Operations

variable {S : Market → Nat → σ → OpenOrderCache → τ → OpenOrderCache → Prop}
  {venue : Venue σ} {venue' : Venue τ}

theorem mimics_lastPrice : Mimics (Alike κ S) lastPrice lastPrice := by
  refine .get fun desk other h => ?_
  rw [h.prices_eq]
  cases desk.prices.lastPrice? with
  | none => exact .throw _
  | some price => exact .pure price

/-- A stage is found alike by what is held. -/
theorem mimics_stageFromHoldings (h : Likeness κ S venue venue') :
    Mimics (Alike κ S) (stageFromHoldings venue) (stageFromHoldings venue') := by
  refine mimics_settings.bind fun settings => (h.balance _).bind fun base =>
    (h.minimum _).bind fun minimum => ?_
  split
  · exact .pure _
  · exact mimics_lastPrice.bind fun price => (mimics_recordEntry _).bind fun _ => .pure _

/-- A stage is found alike from an exit. -/
theorem mimics_stageFromExit (order : OpenOrder) :
    Mimics (Alike κ S) (stageFromExit order) (stageFromExit order) :=
  mimics_lastPrice.bind fun _ => (mimics_recordEntry _).bind fun _ => .pure _

/-- A stage is found alike from the orders that are listed. -/
theorem mimics_stageFromOrders (h : Likeness κ S venue venue') (orders : List OpenOrder) :
    Mimics (Alike κ S) (stageFromOrders venue orders) (stageFromOrders venue' orders) := by
  match orders with
  | [] => exact mimics_stageFromHoldings h
  | [order] =>
    rw [stageFromOrders, stageFromOrders]
    split
    · exact .pure _
    · exact mimics_stageFromExit order
  | _ :: _ :: _ => exact .throw _

/-- A tracker finds its stage alike at venues that are alike. -/
theorem mimics_resume (h : Likeness κ S venue venue') :
    Mimics (Alike κ S) (resume venue) (resume venue') := by
  refine .get fun desk other hrelated => ?_
  rw [hrelated.tracker_eq]
  cases desk.tracker.stage with
  | some stage => exact .pure stage
  | none =>
    exact h.lists.bind fun orders => (mimics_stageFromOrders h orders).bind fun stage =>
      (mimics_setStage stage).bind fun _ => .pure stage

/-! ### Entering -/

/-- What to open a position with is decided alike. -/
theorem mimics_enterAmount (h : Likeness κ S venue venue') (side : Side) (price : Float) :
    Mimics (Alike κ S) (enterAmount venue side price) (enterAmount venue' side price) := by
  refine mimics_settings.bind fun settings => (h.balance _).bind fun counter =>
    (h.minimum _).bind fun minimum => ?_
  cases side with
  | long => exact (h.buyFee _).bind fun fee => .pure _
  | short => exact (h.sellFee _).bind fun fee => .pure _

/-- An entry is placed alike. -/
theorem mimics_placeEnter (h : Likeness κ S venue venue') (rule : PriceRule κ) (side : Side) :
    Mimics (Alike κ S) (placeEnter venue rule side) (placeEnter venue' rule side) := by
  refine (mimics_resume h).bind fun stage => ?_
  cases stage with
  | needEnter =>
    refine (mimics_askPrice rule side).bind fun price => ?_
    split
    · refine (mimics_enterAmount h side price).bind fun amount? => ?_
      cases amount? with
      | none => exact .pure _
      | some amount =>
        exact (h.submits _ _ _).bind fun _ => mimics_setStage _
    · exact .pure _
  | waitForEnter | needExit | waitForExit => exact .throw _

/-- A position is entered alike. -/
theorem mimics_enterPosition (entry : PlacedOrder) :
    Mimics (Alike κ S) (enterPosition entry) (enterPosition entry) :=
  (mimics_recordEntry _).bind fun _ => mimics_setStage _

/-- An entry that is filled in part is dealt with alike. -/
theorem mimics_trackPartialEntry (h : Likeness κ S venue venue') (entry : PlacedOrder)
    (order : OpenOrder) :
    Mimics (Alike κ S) (trackPartialEntry venue entry order)
      (trackPartialEntry venue' entry order) := by
  refine mimics_settings.bind fun settings => ?_
  dsimp only
  split
  · exact mimics_setStage _
  · have hcancel (held : Float) := (h.cancels entry.countPartiallyExecuted.id).bind
      fun cancelled => Mimics.ite cancelled
        (mimics_enterPosition (entry.countPartiallyExecuted.withQuantity held))
        (mimics_setStage (.waitForEnter entry.countPartiallyExecuted))
    cases entry.countPartiallyExecuted.side with
    | long => exact (h.balance _).bind hcancel
    | short => exact (Mimics.pure _).bind hcancel

/-- An entry that is open is dealt with alike. -/
theorem mimics_trackOpenEntry (h : Likeness κ S venue venue') (rule : PriceRule κ)
    (entry : PlacedOrder) :
    Mimics (Alike κ S) (trackOpenEntry venue rule entry) (trackOpenEntry venue' rule entry) := by
  refine (mimics_askPrice rule entry.side).bind fun fresh => ?_
  split
  · refine mimics_settings.bind fun settings => ?_
    split
    · exact mimics_setStage _
    · exact (h.cancels _).bind fun cancelled =>
        .ite cancelled (mimics_setStage _) (mimics_setStage _)
  · exact .pure _

/-- An entry is watched alike. -/
theorem mimics_trackEnter (h : Likeness κ S venue venue') (rule : PriceRule κ) :
    Mimics (Alike κ S) (trackEnter venue rule) (trackEnter venue' rule) := by
  refine (mimics_resume h).bind fun stage => ?_
  cases stage with
  | waitForEnter entry =>
    refine (h.finds entry.id).bind fun found => ?_
    cases found with
    | none => exact mimics_enterPosition entry
    | some order =>
      exact .ite order.isPartiallyFilled (mimics_trackPartialEntry h entry order)
        (mimics_trackOpenEntry h rule entry)
  | needEnter | needExit | waitForExit => exact .throw _

/-! ### Leaving -/

/-- What to close a position with is submitted alike. -/
theorem mimics_submitExit (h : Likeness κ S venue venue') (side : Side) (price : Float) :
    Mimics (Alike κ S) (submitExit venue side price) (submitExit venue' side price) := by
  cases side with
  | long =>
    exact mimics_settings.bind fun settings => (h.balance _).bind fun amount => h.submits _ _ _
  | short => exact (Mimics.pure _).bind fun amount => h.submits _ _ _

/-- An exit is placed alike. -/
theorem mimics_placeExit (h : Likeness κ S venue venue') (rule : PriceRule κ) :
    Mimics (Alike κ S) (placeExit venue rule) (placeExit venue' rule) := by
  refine (mimics_resume h).bind fun stage => ?_
  cases stage with
  | needExit entry ratchet? =>
    refine (mimics_askPrice rule entry.side).bind fun price => ?_
    split
    · exact (mimics_submitExit h _ _).bind fun _ => mimics_setStage _
    · exact .pure _
  | needEnter | waitForEnter | waitForExit => exact .throw _

/-- A position is left alike, with the same trade. -/
theorem mimics_leavePosition (h : Likeness κ S venue venue') (entry exit : PlacedOrder) :
    Mimics (Alike κ S) (leavePosition venue entry exit) (leavePosition venue' entry exit) := by
  have htrade : Mimics (Alike κ S) (closedTrade venue entry exit)
      (closedTrade venue' entry exit) :=
    mimics_settings.bind fun settings => (h.buyFee _).bind fun buy => (h.sellFee _).bind fun sell =>
      .pure _
  exact htrade.bind fun trade => mimics_recordExit.bind fun _ => (mimics_setStage _).bind fun _ =>
    .pure trade

/-- An exit is submitted again alike. -/
theorem mimics_resubmitExit (h : Likeness κ S venue venue') (entry : PlacedOrder)
    (ratchet : Ratchet) (price : Float) :
    Mimics (Alike κ S) (resubmitExit venue entry ratchet price)
      (resubmitExit venue' entry ratchet price) :=
  (mimics_setStage _).bind fun _ => (mimics_submitExit h _ _).bind fun _ => mimics_setStage _

/-- An exit that the market is past is dealt with alike. -/
theorem mimics_trackCrossedExit (h : Likeness κ S venue venue') (entry exit : PlacedOrder)
    (ratchet : Ratchet) :
    Mimics (Alike κ S) (trackCrossedExit venue entry exit ratchet)
      (trackCrossedExit venue' entry exit ratchet) := by
  refine mimics_settings.bind fun settings => ?_
  split
  · exact mimics_setStage _
  · refine .get fun desk other hrelated => ?_
    rw [hrelated.view_eq]
    exact (h.cancels _).bind fun cancelled => .ite cancelled (mimics_resubmitExit h _ _ _)
      (mimics_setStage _)

/-- An exit follows its stop alike. -/
theorem mimics_trackStop (h : Likeness κ S venue venue') (rule : PriceRule κ)
    (entry exit : PlacedOrder) (ratchet : Ratchet) :
    Mimics (Alike κ S) (trackStop venue rule entry exit ratchet)
      (trackStop venue' rule entry exit ratchet) := by
  refine (mimics_askPrice rule entry.side).bind fun stop => ?_
  split
  · exact (h.cancels _).bind fun cancelled => .ite cancelled (mimics_resubmitExit h _ _ _) (.pure _)
  · exact .pure _

/-- An exit is watched alike. -/
theorem mimics_trackExit (h : Likeness κ S venue venue') (rule : PriceRule κ) :
    Mimics (Alike κ S) (trackExit venue rule) (trackExit venue' rule) := by
  refine (mimics_resume h).bind fun stage => ?_
  cases stage with
  | waitForExit entry exit ratchet =>
    refine (h.finds exit.id).bind fun found => ?_
    cases found with
    | none => exact (mimics_leavePosition h entry exit).bind fun trade => .pure _
    | some order =>
      refine mimics_newestTicker.bind fun ticker => ?_
      split
      · exact (mimics_trackCrossedExit h entry exit ratchet).bind fun _ => .pure _
      · exact (mimics_trackStop h rule entry exit ratchet).bind fun _ => .pure _
  | needEnter | waitForEnter | needExit => exact .throw _

end Operations

end Tracker

end SwingTrader
