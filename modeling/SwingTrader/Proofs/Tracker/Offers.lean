import SwingTrader.Proofs.Double
import SwingTrader.Proofs.Tracker.Evidence

/-!
# SwingTrader — the prices that orders are offered at

No venue takes an order at a price that is not finite and above zero, and a rule may
answer any price at all. An entry and a first exit are not offered at a price that cannot
be used, a forced exit goes to where the market is, and an exit that is missing goes to
the price that was settled on before.

That leaves an exit that is moved. It goes to the stop of the rule, which is only asked to
be finite and to improve on the ratchet. For a long that is enough: what is above a level
that is not negative is above zero. For a short it is not, since zero improves on every
exit that there is. The exit is then cancelled for one that the venue refuses, and
`Tracker.unusable_of_shorted` shows that the ratchet keeps it so.

* `Fed` — feeds of tickers whose prices can be used;
* `Desk.offered` — the prices that orders are offered at, refused ones included;
* `Tracker.PriceOf` — where such a price comes from;
* `Tracker.Sensible` — what is asked of the venue and of the rules;
* `Tracker.offers_of_run` — every price that is offered can be used.
-/

namespace SwingTrader

variable {σ κ : Type}

open Desk

/-! ## Prices that can be used -/

/-- A price can be used if it is finite and above zero. -/
theorem PriceRule.isUsable_iff {price : Float} :
    PriceRule.isUsable price = true ↔ price.isFinite = true ∧ ¬price ≤ 0.0 := by
  simp [PriceRule.isUsable]

/-- A price that can be used is not below zero. -/
theorem PriceRule.not_lt_zero {price : Float} (h : PriceRule.isUsable price = true) :
    ¬price < 0.0 := fun hlt => (isUsable_iff.mp h).2 (Double.le_of_lt hlt)

namespace Ratchet

variable {ratchet : Ratchet} {price level : Float}

/-- What is better for a long than a level that is not negative is above zero. -/
theorem isUsable_of_improves (hside : ratchet.side = .long) (hlevel : ratchet.level = some level)
    (hnot : ¬level < 0.0) (h : ratchet.improves price = true) :
    PriceRule.isUsable price = true := by
  refine PriceRule.isUsable_iff.mpr ⟨isFinite_of_improves h, ?_⟩
  have hbetter := isBetterExit_of_improves h hlevel
  rw [hside] at hbetter
  -- zero is below the price, or else above the level
  obtain hneg | hpos :=
    Double.lt_or_lt (of_decide_eq_true hbetter) (show (0.0 : Float).isNaN = false by decide)
  · exact absurd hneg hnot
  · exact Double.not_le_of_lt hpos

/-- Once a price that can be used is proposed, there is a level, and it can be used. -/
theorem usable_apply (husable : PriceRule.isUsable price = true)
    (hlevels : ∀ level, ratchet.level = some level → PriceRule.isUsable level = true) :
    ∃ level, (ratchet.apply price).level = some level ∧ PriceRule.isUsable level = true := by
  by_cases himproves : ratchet.improves price = true
  · exact ⟨price, level_apply_of_improves himproves, husable⟩
  · rw [apply_of_not_improves (Bool.not_eq_true _ ▸ himproves)]
    cases hlevel : ratchet.level with
    | some level => exact ⟨level, rfl, hlevels level hlevel⟩
    | none =>
      -- any finite price improves a ratchet without a level
      have hfinite := (PriceRule.isUsable_iff.mp husable).1
      simp [improves, hlevel, hfinite] at himproves

end Ratchet

/-! ## Feeds -/

/-- The feeds that are made of tickers whose bid and ask are finite and above zero. -/
inductive Fed : PriceFeed → Prop where
  | fresh (market : Market) : Fed { market }
  | record {feed feed' : PriceFeed} {ticker : Ticker} (fed : Fed feed)
      (bid : PriceRule.isUsable ticker.bid = true) (ask : PriceRule.isUsable ticker.ask = true)
      (records : feed.record ticker = .ok feed') : Fed feed'

namespace Fed

variable {feed : PriceFeed} {ticker : Ticker}

/-- A ticker that the feed refuses leaves it as it was. -/
theorem recordOr (fed : Fed feed) (bid : PriceRule.isUsable ticker.bid = true)
    (ask : PriceRule.isUsable ticker.ask = true) :
    Fed ((feed.record ticker).toOption.getD feed) := by
  cases hrecord : feed.record ticker with
  | error => exact fed
  | ok feed' => exact fed.record bid ask hrecord

/-- Where there is a ticker, there is a bar to leave a position at. -/
theorem usable {desk : Desk σ κ} (fed : Fed desk.prices)
    (hticker : desk.prices.ticker = some ticker)
    (side : Side) :
    PriceRule.isUsable (PriceRule.ofNewestBar (PriceRule.exitField side) desk.view) = true := by
  rw [view, PriceRule.ofNewestBar]
  generalize desk.prices = feed at fed hticker
  cases fed with
  | fresh => cases hticker
  | record _ bid ask records =>
    obtain ⟨bars, hpush, rfl⟩ := prices_of_record records
    rw [BarSeries.last?, BarSeries.bars_push hpush, Array.back?_push]
    cases side with
    | long => exact bid
    | short => exact ask

end Fed

/-! ## Offers in the journal -/

namespace VenueCall

/-- The price that a call offered an order at, whether it was created or refused. -/
def price? : VenueCall → Option Float
  | createOrder _ _ _ price _ => some price
  | _ => none

theorem Looks.price?_eq {call : VenueCall} (h : call.Looks) : call.price? = none := by
  cases call with
  | createOrder => exact h.elim
  | _ => rfl

theorem RefusedAt.price?_eq {call : VenueCall} {price : Float} (h : call.RefusedAt price) :
    call.price? = some price := by
  cases call with
  | createOrder _ _ _ _ answer =>
    cases answer with
    | ok => exact h.elim
    | error => exact congrArg some h
  | _ => exact h.elim

end VenueCall

namespace Desk

/-- The prices that orders were offered at on the way from one desk to another, newest first. -/
def offered (desk after : Desk (Journaled σ) κ) : List Float :=
  (made desk after).filterMap VenueCall.price?

/-- Every price that an order was offered at on the way is of some kind. -/
def OffersAt (P : Float → Prop) (desk after : Desk (Journaled σ) κ) : Prop :=
  Calls (fun call => ∀ price, call.price? = some price → P price) desk after

section Offers

variable {P Q : Float → Prop} {venue : Venue σ} {desk mid after : Desk (Journaled σ) κ}

theorem OffersAt.trans (h : OffersAt P desk mid) (h' : OffersAt P mid after) :
    OffersAt P desk after :=
  Calls.trans h h'

theorem OffersAt.mono (h : OffersAt P desk after) (himp : ∀ price, P price → Q price) :
    OffersAt Q desk after :=
  Calls.mono h fun _ hcall price hprice => himp price (hcall price hprice)

/-- Every price that was offered on the way is of the kind. -/
theorem OffersAt.of_mem_offered (h : OffersAt P desk after) :
    ∀ price ∈ offered desk after, P price := by
  obtain ⟨calls, hcalls, hall⟩ := h
  intro price hmem
  rw [offered, made_eq hcalls] at hmem
  obtain ⟨call, hcall, hprice⟩ := List.mem_filterMap.mp hmem
  exact hall call hcall price hprice

/-- Where a call only looks, nothing is offered. -/
theorem offersAt_of_looks (h : Calls VenueCall.Looks desk after) : OffersAt P desk after :=
  h.mono fun _ hlooks price hprice => by cases hlooks.price?_eq.symm.trans hprice

/-- A cancel offers nothing. -/
theorem offersAt_of_cancel {id : OrderId} {answer : Except TradingError Bool}
    (h : Ends (cancel venue.journaled id) desk answer after) : OffersAt P desk after := by
  obtain ⟨reply | cancelled, state, hreply, -, rfl⟩ := ends_cancel.mp h
  · exact .of_replies hreply rfl fun _ hprice => by cases hprice
  · exact .of_replies hreply rfl fun _ hprice => by cases hprice

/-- A submission offers its own price. -/
theorem offersAt_of_submit {kind : OrderKind} {quantity price : Float} {order : PlacedOrder}
    (h : Ends (submit venue.journaled kind quantity price) desk (.ok order) after)
    (hprice : P price) :
    OffersAt P desk after := by
  obtain ⟨id, state, hreply, rfl, rfl⟩ := ends_submit_ok.mp h
  refine .of_replies hreply rfl fun offer hoffer => ?_
  cases hoffer
  exact hprice

end Offers

end Desk

namespace Tracker

/-! ## Where prices come from -/

/-- Where the price of an order that an operation offers comes from. -/
inductive PriceOf (op : Operation κ) (desk : Desk σ κ) : Float → Prop where
  | entry {price : Float} (usable : PriceRule.isUsable price = true) : PriceOf op desk price
  | exit {entry : PlacedOrder} {ratchet? : Option Ratchet} {proposed : Float}
      (stage_eq : desk.tracker.stage = some (.needExit entry ratchet?))
      (usable : PriceRule.isUsable proposed = true) : PriceOf op desk (exitPrice ratchet? proposed)
  | move {entry exit : PlacedOrder} {ratchet ratchet' : Ratchet} {price : Float}
      (stage_eq : desk.tracker.stage = some (.waitForExit entry exit ratchet))
      (moves : MovesTo op desk entry exit ratchet price ratchet') : PriceOf op desk price

section Offers

variable {P : Float → Prop} {venue : Venue σ} {op : Operation κ}
  {desk seen mid after : Desk (Journaled σ) κ}

theorem Tending.offersAt (h : Tending venue.journaled desk after) : OffersAt P desk after := by
  induction h with
  | refl => exact .of_eq rfl
  | tail _ htend ih =>
    refine ih.trans ?_
    cases htend with
    | remember => exact .of_eq rfl
    | ask asks => exact offersAt_of_looks asks.calls
    | list lists => exact offersAt_of_looks (calls_of_listOrders lists)
    | keep cancels => exact offersAt_of_cancel cancels

theorem Asking.offersAt (h : Asking venue.journaled desk after) : OffersAt P desk after :=
  offersAt_of_looks (Asking.calls h)

/-- To look an order up offers nothing. -/
theorem offersAt_of_findOrder {id : OrderId} {found : Option OpenOrder}
    (h : Ends (findOrder venue.journaled id) desk (.ok found) after) : OffersAt P desk after :=
  (tending_of_findOrder h).offersAt

/-- An order that is not placed was offered at its price, if at all. -/
theorem Unplaced.offersAt {kind : OrderKind} {price : Float}
    (h : Unplaced venue.journaled kind price desk after) (hprice : P price) :
    OffersAt P desk after := by
  refine h.calls.mono fun call hcall offer hoffer => ?_
  obtain hlooks | hrefused := hcall
  · cases hlooks.price?_eq.symm.trans hoffer
  · cases hrefused.price?_eq.symm.trans hoffer
    exact hprice

/-- To cut off an entry that is filled in part offers nothing. -/
theorem offersAt_of_part {entry : PlacedOrder} {order : OpenOrder} {held : Float}
    {asked : Desk (Journaled σ) κ}
    (finds : Ends (findOrder venue.journaled entry.id) desk (.ok (some order)) seen)
    (holds : Holds venue.journaled seen entry.side order.filledQuantity held asked)
    (cancels : Ends (cancel venue.journaled entry.id) asked (.ok true) after) :
    OffersAt P desk after :=
  ((offersAt_of_findOrder finds).trans (Asking.offersAt (holds_asking holds))).trans
    (offersAt_of_cancel cancels)

/-- To cancel an order that was found offers nothing. -/
theorem offersAt_of_cancelFound {id : OrderId} {order : OpenOrder} {rules : κ}
    (finds : Ends (findOrder venue.journaled id) desk (.ok (some order)) seen)
    (cancels : Ends (cancel venue.journaled id) { seen with rules } (.ok true) after) :
    OffersAt P desk after := by
  have hcancel : OffersAt P { seen with rules } after := offersAt_of_cancel cancels
  exact (offersAt_of_findOrder finds).trans hcancel

/-- Whatever an operation offers comes from where `PriceOf` says. -/
theorem Deed.offersAt {trade? : Option ClosedTrade}
    (h : Deed venue.journaled op desk trade? after) :
    OffersAt (PriceOf op desk) desk after := by
  cases h with
  | tend tending => exact tending.offersAt
  | waitEnter _ tending _ | waitExit _ tending _ => exact tending.offersAt.trans (.of_eq rfl)
  | missEntry _ tending usable unplaced =>
    exact tending.offersAt.trans (unplaced.offersAt (.entry usable))
  | missExit stage_eq tending usable unplaced =>
    exact tending.offersAt.trans (unplaced.offersAt (.exit stage_eq usable))
  | enter _ tending usable submits =>
    have hplaced : OffersAt (PriceOf op desk) desk _ :=
      tending.offersAt.trans (offersAt_of_submit submits (.entry usable))
    exact hplaced.trans (.of_eq rfl)
  | leave stage_eq tending usable submits =>
    have hplaced : OffersAt (PriceOf op desk) desk _ :=
      tending.offersAt.trans (offersAt_of_submit submits (.exit stage_eq usable))
    exact hplaced.trans (.of_eq rfl)
  | fill _ finds _ => exact (offersAt_of_findOrder finds).trans (.of_eq rfl)
  | takePart _ finds _ _ holds cancels _ =>
    exact (offersAt_of_part finds holds cancels).trans (.of_eq rfl)
  | cutOff _ finds _ holds cancels _ => exact offersAt_of_part finds holds cancels
  | giveUp _ finds _ cancels => exact (offersAt_of_cancelFound finds cancels).trans (.of_eq rfl)
  | withdraw stage_eq finds moves cancels unplaced =>
    have hcancelled : OffersAt (PriceOf op desk) desk _ := offersAt_of_cancelFound finds cancels
    -- the tracker is moved to another stage in between, which takes no call
    have hrefused := unplaced.offersAt (PriceOf.move stage_eq moves)
    exact hcancelled.trans hrefused
  | replace stage_eq finds moves cancels asking submits =>
    have hcancelled : OffersAt (PriceOf op desk) desk _ := offersAt_of_cancelFound finds cancels
    have hplaced := (Asking.offersAt asking).trans
      (offersAt_of_submit submits (PriceOf.move stage_eq moves))
    exact hcancelled.trans hplaced
  | close closing =>
    obtain ⟨-, finds, values, -⟩ := closing
    have hvalued : OffersAt (PriceOf op desk) _ _ :=
      Asking.offersAt (closedTrade_onlyAsks _ _ _ rfl values)
    exact ((offersAt_of_findOrder finds).trans hvalued).trans (.of_eq rfl)

end Offers

/-! ## Levels that can be used -/

/-- A stop that the exit of a short is moved to is above zero. -/
def StopsAboveZero (op : Operation κ) (desk : Desk σ κ) : Prop :=
  ∀ rule entry exit ratchet, op = .trackExit rule →
    desk.tracker.stage = some (.waitForExit entry exit ratchet) → entry.side = .short →
      let stop := ((rule desk.view entry.side).run desk.rules).1
      ratchet.improves stop = true → ¬stop ≤ 0.0

/--
Where an exit is missing, the level that it is to go to can be used. Where the exit of a
long is open, its level is not negative.
-/
def Levelled : Option Stage → Prop
  | some (.needExit entry (some ratchet)) =>
    ratchet.side = entry.side ∧ ∃ level, ratchet.level = some level ∧
      PriceRule.isUsable level = true
  | some (.waitForExit entry _ ratchet) =>
    ratchet.side = entry.side ∧
      (entry.side = .long → ∃ level, ratchet.level = some level ∧ ¬level < 0.0)
  | _ => True

section Levels

variable {venue : Venue σ} {op : Operation κ} {desk looked after : Desk (Journaled σ) κ}
  {entry exit : PlacedOrder} {ratchet ratchet' : Ratchet} {price : Float}

/-- Wherever an exit is moved to, that price can be used. -/
theorem MovesTo.usable {desk : Desk σ κ} (h : MovesTo op desk entry exit ratchet price ratchet')
    (hstage : desk.tracker.stage = some (.waitForExit entry exit ratchet)) (fed : Fed desk.prices)
    (hstops : StopsAboveZero op desk) (hlevelled : Levelled desk.tracker.stage) :
    PriceRule.isUsable price = true := by
  cases h with
  | forced overdue price_eq =>
    obtain ⟨⟨ticker, hticker, -⟩, -⟩ := overdue
    rw [price_eq]
    exact fed.usable hticker entry.side
  | @improved rule _ op_eq price_eq improves =>
    rw [hstage] at hlevelled
    obtain ⟨hside, hlong⟩ := hlevelled
    cases hentry : entry.side with
    | long =>
      obtain ⟨level, hlevel, hnot⟩ := hlong hentry
      exact Ratchet.isUsable_of_improves (hside.trans hentry) hlevel hnot improves
    | short =>
      -- nothing but the rule itself keeps the stop of a short above zero
      have habove := hstops rule entry exit ratchet op_eq hstage hentry
      rw [← price_eq] at habove
      exact PriceRule.isUsable_iff.mpr ⟨Ratchet.isFinite_of_improves improves, habove improves⟩

/-- A ratchet that is left from an exit that could not be replaced has a level that can be used. -/
theorem Levelled.left {entry : PlacedOrder} {ratchet? : Option Ratchet}
    (h : Levelled (some (.needExit entry ratchet?))) :
    (ratchet?.getD { side := entry.side }).side = entry.side ∧
      ∀ level, (ratchet?.getD { side := entry.side }).level = some level →
        PriceRule.isUsable level = true := by
  cases ratchet? with
  | none => exact ⟨rfl, fun _ hnone => by cases hnone⟩
  | some ratchet =>
    obtain ⟨hside, level, hlevel, husable⟩ := h
    refine ⟨hside, fun level' hlevel' => ?_⟩
    cases hlevel.symm.trans hlevel'
    exact husable

/-- The first price of an exit can be used if the rule answers one that can. -/
theorem Levelled.exitPrice {entry : PlacedOrder} {ratchet? : Option Ratchet} {proposed : Float}
    (h : Levelled (some (.needExit entry ratchet?)))
    (husable : PriceRule.isUsable proposed = true) :
    PriceRule.isUsable (Tracker.exitPrice ratchet? proposed) = true := by
  cases ratchet? with
  | none => exact husable
  | some ratchet =>
    obtain ⟨level, hlevel, hlevel_usable⟩ := Ratchet.usable_apply husable h.left.2
    rw [Option.getD_some] at hlevel
    rw [Tracker.exitPrice, Ratchet.levelOr, hlevel]
    exact hlevel_usable

/-- Wherever the price of an order comes from, it can be used. -/
theorem PriceOf.usable {desk : Desk σ κ} (h : PriceOf op desk price) (fed : Fed desk.prices)
    (hstops : StopsAboveZero op desk) (hlevelled : Levelled desk.tracker.stage) :
    PriceRule.isUsable price = true := by
  cases h with
  | entry usable => exact usable
  | exit stage_eq usable =>
    rw [stage_eq] at hlevelled
    exact hlevelled.exitPrice usable
  | move stage_eq moves => exact moves.usable stage_eq fed hstops hlevelled

/-- What an operation does to the stage leaves a level that can be used. -/
theorem Transition.levelled {stage stage' : Stage} {trade? : Option ClosedTrade}
    (h : Transition op desk after stage stage' trade?) (hstage : desk.tracker.stage = some stage)
    (fed : Fed desk.prices) (hstops : StopsAboveZero op desk) (hlevelled : Levelled (some stage)) :
    Levelled (some stage') := by
  cases h with
  | stay recounts _ _ _ =>
    cases recounts with
    | same | exit => exact hlevelled
    | entry => trivial
  | enter | fill | takePart | cutOff | giveUp | close => trivial
  | leave _ usable price_eq _ _ _ =>
    -- the ratchet takes the price that the exit went out at, or keeps one that is as good
    obtain ⟨hside, hlevels⟩ := hlevelled.left
    have hprice := hlevelled.exitPrice usable
    rw [← price_eq] at hprice
    obtain ⟨level, hlevel, hlevel_usable⟩ := Ratchet.usable_apply hprice hlevels
    exact ⟨(Ratchet.side_apply _ _).trans hside,
      fun _ => ⟨level, hlevel, PriceRule.not_lt_zero hlevel_usable⟩⟩
  | withdraw _ moves _ _ _ =>
    have husable := moves.usable hstage fed hstops (hstage ▸ hlevelled)
    exact ⟨moves.side_eq.trans hlevelled.1, _, moves.level_eq, husable⟩
  | replace _ _ moves _ _ _ =>
    have husable := moves.usable hstage fed hstops (hstage ▸ hlevelled)
    exact ⟨moves.side_eq.trans hlevelled.1,
      fun _ => ⟨_, moves.level_eq, PriceRule.not_lt_zero husable⟩⟩

/-- An exit is only cancelled for a price that can be used. -/
theorem Transition.usable_of_cancelled {stage' : Stage} {trade? : Option ClosedTrade}
    (h : Transition op desk after (.waitForExit entry exit ratchet) stage' trade?)
    (hstage : desk.tracker.stage = some (.waitForExit entry exit ratchet)) (fed : Fed desk.prices)
    (hstops : StopsAboveZero op desk) (hlevelled : Levelled desk.tracker.stage)
    (hcancelled : exit.id ∈ cancelled desk after) :
    ∃ ratchet level, stage'.ratchet = some ratchet ∧ ratchet.level = some level ∧
      PriceRule.isUsable level = true := by
  cases h with
  | stay _ _ cancelled_eq _ | close _ _ cancelled_eq _ =>
    rw [cancelled_eq] at hcancelled
    cases hcancelled
  | withdraw _ moves _ _ _ | replace _ _ moves _ _ _ =>
    exact ⟨_, _, rfl, moves.level_eq, moves.usable hstage fed hstops hlevelled⟩

end Levels

/-! ## Runs -/

/--
What is asked of the venue and of the rule of an operation: the exit of a long that is
taken up is not at a negative price, and the exit of a short is moved to no stop but above
zero.
-/
structure Sensible (venue : Venue σ) (op : Operation κ) (desk : Desk (Journaled σ) κ) : Prop where
  adopted : ∀ looked entry exit ratchet, desk.tracker.stage = none →
    Ends (resume venue.journaled) desk (.ok (.waitForExit entry exit ratchet)) looked →
      entry.side = .long → ¬exit.price < 0.0
  moved : ∀ looked stage, Ends (resume venue.journaled) desk (.ok stage) looked →
    StopsAboveZero op looked

/--
The desks of a tracker whose operations are admitted, each with prices that can be used.
Between two operations everything may change but the tracker.
-/
inductive Offering (venue : Venue σ) (admits : Operation κ → Desk (Journaled σ) κ → Prop) :
    Desk (Journaled σ) κ → Prop where
  | begin {desk : Desk (Journaled σ) κ} (unresumed : desk.tracker.stage = none) :
      Offering venue admits desk
  | meanwhile {desk next : Desk (Journaled σ) κ} (offering : Offering venue admits desk)
      (tracker_eq : next.tracker = desk.tracker) : Offering venue admits next
  | operate {desk : Desk (Journaled σ) κ} (offering : Offering venue admits desk) (op : Operation κ)
      (fed : Fed desk.prices) (admitted : admits op desk) :
      Offering venue admits (outcome (op.run venue.journaled) desk).2

section Runs

variable {venue : Venue σ} {op : Operation κ} {desk looked after : Desk (Journaled σ) κ}

/-- What is found at the venue leaves the prices, and a level that can be used. -/
theorem Found.levelled {stage : Stage} (hfound : Found venue.journaled desk looked)
    (hresume : Ends (resume venue.journaled) desk (.ok stage) looked)
    (hsensible : Sensible venue op desk) (hlevelled : Levelled desk.tracker.stage) :
    looked.prices = desk.prices ∧ Levelled looked.tracker.stage := by
  cases hfound with
  | known => exact ⟨rfl, hlevelled⟩
  | finds finding =>
    have hlooked := (found_of_resume hresume).2
    cases finding with
    | flat _ lists holds least _ =>
      exact ⟨(Undisturbed.callListed lists holds least).prices_eq, trivial⟩
    | held _ lists holds least _ _ =>
      exact ⟨(Undisturbed.callListed lists holds least).prices_eq, trivial⟩
    | enter _ lists _ => exact ⟨(Undisturbed.listOrders lists).prices_eq, trivial⟩
    | @leave seen order quantity price ledgers stage_eq lists _ _ =>
      obtain rfl := Option.some.inj hlooked
      refine ⟨(Undisturbed.listOrders lists).prices_eq, (Side.side_enterKind _).symm,
        fun hlong => ?_⟩
      have hnot : ¬(adopt order).price < 0.0 := hsensible.adopted _ _ _ _ stage_eq hresume hlong
      exact ⟨order.price, rfl, hnot⟩

/-- A level that can be used is kept from operation to operation. -/
theorem Offering.levelled (offering : Offering venue (Sensible venue) desk) :
    Levelled desk.tracker.stage := by
  induction offering with
  | begin unresumed =>
    rw [unresumed]
    trivial
  | meanwhile _ tracker_eq ih =>
    rw [tracker_eq]
    exact ih
  | @operate desk _ op fed sensible ih =>
    -- one operation is a look and then a transition; each leaves the level in its place
    have hends := ends_outcome (op.run venue.journaled) desk
    obtain ⟨_, hresume, -⟩ | ⟨stage, looked, hresume, hop⟩ := run_inv op hends
    · -- the look has failed, and the tracker is as it was
      rw [(seeks_of_resume_error hresume).2.1.undisturbed.tracker_eq]
      exact ih
    · obtain ⟨hfound, hstage⟩ := found_of_resume hresume
      obtain ⟨hprices, hlevelled⟩ := hfound.levelled hresume sensible ih
      obtain ⟨stage', hstands, htransition⟩ := (deed_of_run op hstage hop).transition hstage
      rw [hstage] at hlevelled
      rw [show (outcome (op.run venue.journaled) desk).2.tracker.stage =
        some stage' by rw [hstands]]
      exact htransition.levelled hstage (hprices ▸ fed) (sensible.moved _ _ hresume) hlevelled

/--
**Every price that an order is offered at is finite and above zero**, whatever the rules
answer and whatever the venue does, as long as no exit of a short is moved to a stop that
is not above zero and no exit of a long is found at a negative price. An exit is only
cancelled for a price that can be used, which the ratchet keeps until there is an exit at it.
-/
theorem offers_of_run (offering : Offering venue (Sensible venue) desk) (op : Operation κ)
    (fed : Fed desk.prices) (sensible : Sensible venue op desk) :
    let after := (outcome (op.run venue.journaled) desk).2
    (∀ price ∈ offered desk after, PriceRule.isUsable price = true) ∧
      ∀ looked entry exit ratchet,
        Ends (resume venue.journaled) desk (.ok (.waitForExit entry exit ratchet)) looked →
          exit.id ∈ cancelled looked after →
            ∃ ratchet' level, after.tracker.ratchet = some ratchet' ∧
              ratchet'.level = some level ∧ PriceRule.isUsable level = true := by
  intro after
  have hends : Ends (op.run venue.journaled) desk _ after := ends_outcome _ desk
  obtain ⟨_, hresume, -⟩ | ⟨stage, looked, hresume, hop⟩ := run_inv op hends
  · refine ⟨(offersAt_of_looks (seeks_of_resume_error hresume).2.1.calls).of_mem_offered, ?_⟩
    intro looked entry exit ratchet hlooked
    cases hresume.symm.trans hlooked
  · obtain ⟨hfound, hstage⟩ := found_of_resume hresume
    obtain ⟨hprices, hlevelled⟩ := hfound.levelled hresume sensible offering.levelled
    have hstops := sensible.moved _ _ hresume
    have hdeed := deed_of_run op hstage hop
    refine ⟨?_, fun looked' entry exit ratchet hlooked hcancelled => ?_⟩
    · -- looking offers nothing, and what is offered afterwards has its price from the desk
      -- that was found
      have hoffers : OffersAt (PriceOf op looked) desk after :=
        (offersAt_of_looks hfound.calls).trans hdeed.offersAt
      exact (hoffers.mono fun _ hoffer =>
        hoffer.usable (hprices ▸ fed) hstops hlevelled).of_mem_offered
    · cases hresume.symm.trans hlooked
      obtain ⟨stage', hstands, htransition⟩ := hdeed.transition hstage
      obtain ⟨ratchet', level, hratchet, hlevel⟩ :=
        htransition.usable_of_cancelled hstage (hprices ▸ fed) hstops hlevelled hcancelled
      refine ⟨ratchet', level, ?_, hlevel⟩
      rw [Tracker.ratchet, hstands]
      exact hratchet

end Runs

/-! ### The exit of a short -/

/-- A feed at its first bar. -/
def quoted (market : Market) : PriceFeed :=
  (PriceFeed.record { market } Paper.narrow).toOption.getD { market }

theorem fed_quoted (market : Market) : Fed (quoted market) :=
  (Fed.fresh market).recordOr (by decide +kernel) (by decide +kernel)

/-- A tracker at its first bar, at a watched paper venue with the exit of a short at 105. -/
def shorted : Desk (Journaled Paper) Unit :=
  let market := Market.ofCurrencies "BTC" "EUR"
  let settings := (Session.start market {} () ()).desk.tracker.settings
  let paper := ((Paper.holding market []).insertOpenOrder .shortExit 1.0 105.0).2
  { Desk.open settings ⟨paper, []⟩ () with prices := quoted market }

/-- The open exit is tracked, by a rule that always answers the same stop. -/
def moveTo (stop : Float) : Operation Unit :=
  .trackExit (.fixed stop)

/-- What the tracker takes up is the exit of a short. -/
theorem side_of_shorted {looked : Desk (Journaled Paper) Unit} {entry exit : PlacedOrder}
    {ratchet : Ratchet}
    (h : Ends (resume Paper.venue.journaled) shorted (.ok (.waitForExit entry exit ratchet))
      looked) :
    entry.side = .short := by
  have hside : (outcome (resume Paper.venue.journaled) shorted).1.toOption.bind
      (fun stage => stage.enterOrder.map PlacedOrder.side) = some .short := by decide +kernel
  rw [h] at hside
  exact Option.some.inj hside

theorem sensible_shorted : Sensible Paper.venue (moveTo 103.0) shorted where
  adopted looked entry exit ratchet _ hlooks hlong := by
    cases hlong.symm.trans (side_of_shorted hlooks)
  moved looked stage hlooks rule entry exit ratchet hop hstage hshort := by
    cases hop
    have habove : ¬(103.0 : Float) ≤ 0.0 := by decide
    exact fun _ => habove

/-- The exit is moved from 105 to 103, which the venue can take. -/
theorem offers_of_shorted :
    let after := (outcome ((moveTo 103.0).run Paper.venue.journaled) shorted).2
    after.tracker.phase = .waitForExit ∧ offered shorted after = [103.0] ∧
      ∀ price ∈ offered shorted after, PriceRule.isUsable price = true := by
  have hoffers := offers_of_run (.begin rfl) (moveTo 103.0) (fed_quoted _) sensible_shorted
  exact ⟨by decide +kernel, by decide +kernel, hoffers.1⟩

/--
A stop of zero improves on 105. The exit is cancelled for an exit at zero, which the venue
refuses, and the one that is placed afterwards goes out at zero again, although the rule
has 104 by then.
-/
theorem unusable_of_shorted :
    let after := (outcome ((moveTo 0.0).run Paper.venue.journaled) shorted).2
    let later := (outcome ((Operation.placeExit (.fixed 104.0)).run Paper.venue.journaled) after).2
    Offering Paper.venue (fun _ _ => True) shorted ∧ Fed shorted.prices ∧
      cancelled shorted after = [.ofNat 1] ∧ offered shorted after = [0.0] ∧
        PriceRule.isUsable 0.0 = false ∧ after.tracker.phase = .needExit ∧
          offered after later = [0.0] ∧ later.tracker.phase = .needExit := by
  intro after later
  refine ⟨.begin rfl, fed_quoted _, ?_, ?_, ?_, ?_, ?_, ?_⟩
  all_goals decide +kernel

end Tracker

end SwingTrader
