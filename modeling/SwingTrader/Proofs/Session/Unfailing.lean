import SwingTrader.Proofs.PriceFeed
import SwingTrader.Proofs.Session.Failure
import SwingTrader.Proofs.Tracker.Sizing
import SwingTrader.Proofs.Tracker.Success

/-!
# SwingTrader — ticks that go through

At a paper venue that is afloat a strategy that only ever goes long has all of its
calls answered: what it buys is paid for with a reserve left over, what it sells is all
that it holds, and both at prices that can be used. So no order is refused, and no tick
fails, unless the strategy itself cannot decide.

* `Desk.Backed`, `Desk.Sustained` — a desk whose venue is afloat, and is as the stage says;
* `Strategy.LongOnly` — strategies that go long, and fail by reversals only;
* `Session.achieves_tick` — what a tick keeps.
-/

namespace SwingTrader

variable {κ : Type}

open Desk Tracker

namespace Desk

/--
The venue is the one that is traded at, and is afloat; a reserve is kept that is not
negative.
-/
structure Backed (desk : Desk Paper κ) : Prop where
  market_eq : desk.market = desk.venue.terms.market
  reserve : 0.0 ≤ desk.tracker.settings.emergencyStop
  afloat : desk.venue.Afloat

/-- The venue is also what the stage says of it. -/
structure Sustained (desk : Desk Paper κ) : Prop extends Backed desk where
  sustains : Sustains desk.venue desk.tracker.stage

namespace Backed

variable {desk : Desk Paper κ}

theorem id_eq (h : desk.Backed) : desk.market.id = desk.venue.terms.market.id :=
  congrArg Market.id h.market_eq

/-! ## Calls -/

theorem balance (h : desk.Backed) (currency : String) :
    Achieves (call (Paper.venue.journaled.availableBalance currency)) desk fun amount after =>
      amount = desk.venue.balance currency ∧ desk = after :=
  .call (h.afloat.connected.replies_balance currency) rfl ⟨rfl, rfl⟩

theorem minimum (h : desk.Backed) :
    Achieves (call (Paper.venue.journaled.minimumOrderVolume desk.market)) desk fun volume after =>
      volume = desk.venue.terms.minimumVolume ∧ desk = after :=
  .call (h.afloat.connected.replies_term h.id_eq _) rfl ⟨rfl, rfl⟩

theorem buyFee (h : desk.Backed) :
    Achieves (call (Paper.venue.journaled.buyFee desk.market)) desk fun fee after =>
      fee = desk.venue.terms.fees.buy ∧ desk = after :=
  .call (h.afloat.connected.replies_term h.id_eq _) rfl ⟨rfl, rfl⟩

theorem sellFee (h : desk.Backed) :
    Achieves (call (Paper.venue.journaled.sellFee desk.market)) desk fun fee after =>
      fee = desk.venue.terms.fees.sell ∧ desk = after :=
  .call (h.afloat.connected.replies_term h.id_eq _) rfl ⟨rfl, rfl⟩

/-- The orders that are listed anew are the book. -/
theorem listOrders (h : desk.Backed) (hnone : desk.listed? = none) :
    Achieves (Desk.listOrders Paper.venue.journaled) desk fun orders after =>
      orders = desk.venue.orders ∧
        after = { desk with openOrders := desk.openOrders.store desk.tick desk.venue.orders } :=
  .listOrders hnone (h.afloat.connected.replies_openOrders h.id_eq) ⟨rfl, rfl⟩

/-- An order is looked up on the book, and the book is kept for the tick. -/
theorem findOrder (h : desk.Backed) (hnone : desk.listed? = none) (id : OrderId) :
    Achieves (Desk.findOrder Paper.venue.journaled id) desk fun found after =>
      found = desk.venue.orders.find? (fun order => order.id = id) ∧
        after = { desk with openOrders := desk.openOrders.store desk.tick desk.venue.orders } :=
  .findOrder hnone (h.afloat.connected.replies_openOrders h.id_eq) ⟨rfl, rfl⟩

/-- An order that passes the check is placed. -/
theorem submit (h : desk.Backed) {kind : OrderKind} {quantity price : Float}
    (hcheck : desk.venue.checkOrder kind quantity price = .ok ())
    (hafloat :
      ((desk.venue.lock kind quantity price).insertOpenOrder kind quantity price).2.Afloat) :
    Achieves (Desk.submit Paper.venue.journaled kind quantity price) desk fun order after =>
      order.kind = kind ∧ desk.venue.Places order after.venue ∧ after.tracker = desk.tracker ∧
        after.Backed := by
  refine .submit (h.afloat.connected.replies_createOrder h.id_eq hcheck) ?_
  obtain ⟨-, hterms⟩ := h.afloat.connected.placed kind quantity price
  refine ⟨rfl, ⟨hcheck, ?_, .refl _⟩, rfl, ⟨?_, h.reserve, hafloat⟩⟩
  · obtain ⟨balances, hlock⟩ := Paper.lock_eq desk.venue kind quantity price
    rw [hlock]
    rfl
  · show desk.market = _
    rw [h.market_eq, ← hterms]
    rfl

/-- The only order of the book is taken off it. -/
theorem cancel (h : desk.Backed) {order : OpenOrder} (hbook : desk.venue.orders = [order]) :
    Achieves (Desk.cancel Paper.venue.journaled order.id) desk fun cancelled after =>
      cancelled = true ∧ after.venue.orders = [] ∧
        (order.kind = .sell → ¬after.venue.held < after.venue.terms.minimumVolume) ∧
          after.tracker = desk.tracker ∧ after.Backed := by
  obtain ⟨hcancelled, hafloat, hempty, hheld⟩ := h.afloat.withdrawn hbook
  have hterms := (h.afloat.connected.withdrawn order.id).2
  refine .cancel (h.afloat.connected.replies_cancelOrder h.id_eq order.id) ?_
  refine ⟨hcancelled, hempty, ?_, rfl, ⟨?_, h.reserve, hafloat⟩⟩
  · show _ →
      ¬(desk.venue.withdraw order.id).2.held < (desk.venue.withdraw order.id).2.terms.minimumVolume
    rw [hterms]
    exact hheld
  · show desk.market = (desk.venue.withdraw order.id).2.terms.market
    rw [hterms]
    exact h.market_eq

end Backed

/-- The list that is kept has no part in it. -/
theorem Sustained.listing {desk : Desk Paper κ} (h : desk.Sustained) (openOrders : OpenOrderCache) :
    Sustained { desk with openOrders } :=
  ⟨⟨h.market_eq, h.reserve, h.afloat⟩, h.sustains⟩

/-- What the stage says of the venue, of a stage that is known. -/
theorem Sustained.says {desk : Desk Paper κ} {stage : Stage} (h : desk.Sustained)
    (hstage : desk.tracker.stage = some stage) : Sustains desk.venue (some stage) :=
  hstage ▸ h.sustains

theorem Sustained.withRules {desk : Desk Paper κ} (h : desk.Sustained) (rules : κ) :
    Sustained { desk with rules } :=
  ⟨⟨h.market_eq, h.reserve, h.afloat⟩, h.sustains⟩

/-- A stage is set that the venue bears out. -/
theorem Backed.setStage {desk : Desk Paper κ} (h : desk.Backed) {stage : Stage}
    (hsustains : Sustains desk.venue (some stage)) :
    Achieves (Desk.setStage stage : DeskM (Journaled Paper) κ Unit) desk fun _ after =>
      after.Sustained :=
  .setStage ⟨⟨h.market_eq, h.reserve, h.afloat⟩, hsustains⟩

end Desk

namespace Tracker

variable {desk : Desk Paper κ} {entry exit : PlacedOrder} {ratchet : Ratchet} {price : Float}

/-- A tracker that has a stage keeps it. -/
theorem achieves_resume {stage : Stage} (hstage : desk.tracker.stage = some stage) :
    Achieves (resume Paper.venue.journaled) desk fun found after =>
      stage = found ∧ desk = after := by
  refine .get_bind fun watched hwatched => ?_
  rw [show watched.tracker = desk.tracker from congrArg Desk.tracker hwatched, hstage]
  exact .pure ⟨rfl, rfl⟩

/-! ## Entering -/

/-- What to buy is decided, and is ample and leaves the reserve alone. -/
theorem achieves_enterAmount (h : desk.Backed) (price : Float) :
    Achieves (enterAmount Paper.venue.journaled .long price) desk fun amount? after =>
      desk = after ∧ ∀ amount, amount? = some amount → ¬amount < desk.venue.terms.minimumVolume ∧
        ¬desk.venue.balance desk.venue.terms.market.counter -
          Paper.cost desk.venue.terms amount price < desk.tracker.settings.emergencyStop := by
  refine .settings_bind ((h.balance desk.market.counter).bind ?_)
  rintro counter _ ⟨rfl, rfl⟩
  refine h.minimum.bind ?_
  rintro minimum _ ⟨rfl, rfl⟩
  refine h.buyFee.bind ?_
  rintro fee _ ⟨rfl, rfl⟩
  refine .pure ⟨rfl, fun amount hamount => ?_⟩
  rw [← h.market_eq]
  exact ⟨not_lt_of_permitted hamount, (permittedAmount_eq_some.mp hamount).2.2⟩

/-- A purchase that was placed is what is waited for. -/
theorem sustains_of_bought {paper after : Paper} (hempty : paper.orders = [])
    (hkind : entry.kind = .buy) (hplaces : paper.Places entry after) :
    Sustains after (some (.waitForEnter entry)) := by
  refine ⟨hkind, hplaces.keepsOnly hempty, fun hnone => ?_⟩
  rw [hplaces.orders_eq, hempty] at hnone
  cases hnone

/-- An entry is placed that leaves the reserve, or the tick is left out. -/
theorem achieves_placeEnter (h : desk.Sustained) (hstage : desk.tracker.stage = some .needEnter)
    (rule : PriceRule κ) :
    Achieves (placeEnter Paper.venue.journaled rule .long) desk fun _ after => after.Sustained := by
  have hempty : desk.venue.orders = [] := h.says hstage
  refine (achieves_resume hstage).bind ?_
  rintro _ _ ⟨rfl, rfl⟩
  refine (Achieves.askPrice rule .long).bind ?_
  rintro price _ ⟨rules, rfl⟩
  have h := h.withRules rules
  split
  next husable =>
    refine (achieves_enterAmount h.toBacked price).bind ?_
    rintro amount? _ ⟨rfl, hpermitted⟩
    cases amount? with
    | none => exact .pure h
    | some amount =>
      obtain ⟨hample, hleft⟩ := hpermitted amount rfl
      -- the venue reckons the cost just as the amount was sized
      obtain ⟨hcheck, hafloat⟩ := h.afloat.bought hample husable h.reserve hleft
      refine (h.toBacked.submit hcheck hafloat).bind ?_
      rintro order after ⟨hkind, hplaces, -, hbacked⟩
      exact hbacked.setStage (sustains_of_bought hempty hkind hplaces)
  next => exact .pure h

/-- The fill of an entry is written down, and what was bought is to be sold. -/
theorem achieves_enterPosition {ledgers : LedgerBook} (h : desk.Backed)
    (htakes : desk.TakesEntry entry.side ledgers) (hside : entry.side = .long)
    (hempty : desk.venue.orders = []) (hample : ¬desk.venue.held < desk.venue.terms.minimumVolume) :
    Achieves (enterPosition entry : DeskM (Journaled Paper) κ Unit) desk fun _ after =>
      after.Sustained := by
  have hrecord : Achieves (recordEntry entry.side : DeskM (Journaled Paper) κ Unit) desk
      fun _ after => after = { desk with ledgers } := .recordEntry htakes rfl
  refine hrecord.bind ?_
  rintro _ _ rfl
  have hsustains : Sustains desk.venue (some (.needExit entry none)) :=
    ⟨hside, rfl, hempty, hample⟩
  have hbacked : Backed { desk with ledgers } := ⟨h.market_eq, h.reserve, h.afloat⟩
  exact hbacked.setStage hsustains

/-- An entry that the market has left behind is waited for, or taken off the book. -/
theorem achieves_trackOpenEntry {order : OpenOrder} (h : desk.Sustained)
    (hstage : desk.tracker.stage = some (.waitForEnter entry)) (hbook : desk.venue.orders = [order])
    (rule : PriceRule κ) :
    Achieves (trackOpenEntry Paper.venue.journaled rule entry) desk fun _ after =>
      after.Sustained := by
  refine (Achieves.askPrice rule entry.side).bind ?_
  rintro fresh _ ⟨rules, rfl⟩
  have h := h.withRules rules
  obtain ⟨hkind, hkeeps, hheld⟩ := h.says hstage
  have hwaits : Sustains desk.venue (some (.waitForEnter entry.countNotExecuted)) :=
    ⟨hkind, hkeeps.counted (.inl rfl), hheld⟩
  split
  · refine .settings_bind ?_
    split
    · exact h.toBacked.setStage hwaits
    · rw [show entry.countNotExecuted.id = order.id from (hkeeps.isOf hbook).id_eq.symm]
      refine (h.toBacked.cancel hbook).bind ?_
      rintro _ after ⟨rfl, hempty, -, -, hbacked⟩
      -- nothing was bought, so an entry is needed as before
      exact hbacked.setStage hempty
  · exact .pure h

/-- The order that is waited for is on the book as it was placed, or it was filled. -/
theorem find_of_keepsOnly {paper : Paper} (h : paper.Afloat) (hkeeps : paper.KeepsOnly entry) :
    (paper.orders = [] ∧ paper.orders.find? (fun order => order.id = entry.id) = none) ∨
      ∃ order, paper.orders = [order] ∧ order.Entire paper.terms.minimumVolume ∧
        paper.orders.find? (fun order => order.id = entry.id) = some order := by
  obtain hempty | ⟨order, hbook, horder⟩ := hkeeps
  · rw [hempty]
    exact .inl ⟨rfl, rfl⟩
  · refine .inr ⟨order, hbook, h.orders order (hbook ▸ List.mem_singleton_self _), ?_⟩
    simp [hbook, horder.id_eq]

/-- An entry is watched without failure. -/
theorem achieves_trackEnter (h : desk.Sustained) (hbegun : desk.Begun) (hnone : desk.listed? = none)
    (hstage : desk.tracker.stage = some (.waitForEnter entry)) (rule : PriceRule κ) :
    Achieves (trackEnter Paper.venue.journaled rule) desk fun _ after => after.Sustained := by
  obtain ⟨hkind, hkeeps, hheld⟩ := h.says hstage
  have hside : entry.side = .long := by rw [PlacedOrder.side, hkind, OrderKind.side]
  obtain ⟨ledgers, htakes⟩ :=
    hbegun.booked.takesEntry hbegun.unwritten (held_of_stage hstage) entry.side
  refine (achieves_resume hstage).bind ?_
  rintro _ _ ⟨rfl, rfl⟩
  refine (h.findOrder hnone entry.id).bind ?_
  rintro _ _ ⟨rfl, rfl⟩
  have hlisted := h.listing (desk.openOrders.store desk.tick desk.venue.orders)
  obtain ⟨hempty, hmissing⟩ | ⟨order, hbook, hentire, hfound⟩ :=
    find_of_keepsOnly h.afloat hkeeps
  -- an order that is missing was filled, and then there is enough to sell
  · rw [hmissing]
    exact achieves_enterPosition hlisted.toBacked htakes hside hempty (hheld hempty)
  · rw [hfound]
    -- nothing was filled of an order that is still on the book
    have hwhole : order.isPartiallyFilled = false := by
      rw [OpenOrder.isPartiallyFilled, hentire.whole]
      exact decide_eq_false Double.lt_irrefl
    dsimp only
    rw [hwhole]
    exact achieves_trackOpenEntry hlisted hstage hbook rule

/-! ## Leaving -/

/-- All that is held is offered for sale. -/
theorem achieves_submitExit (h : desk.Backed) (hempty : desk.venue.orders = [])
    (hample : ¬desk.venue.held < desk.venue.terms.minimumVolume)
    (husable : PriceRule.isUsable price = true) :
    Achieves (submitExit Paper.venue.journaled .long price) desk fun exit after =>
      exit.kind = .sell ∧ after.venue.KeepsOnly exit ∧ after.Backed := by
  have hheld : desk.venue.balance desk.market.base = desk.venue.held := by
    rw [h.market_eq, Paper.held]
  obtain ⟨hcheck, hafloat⟩ := h.afloat.sold hample husable
  refine .settings_bind ((h.balance desk.market.base).bind ?_)
  rintro amount _ ⟨rfl, rfl⟩
  rw [hheld]
  refine (h.submit hcheck hafloat).mono ?_
  rintro exit after ⟨hkind, hplaces, -, hbacked⟩
  exact ⟨hkind, hplaces.keepsOnly hempty, hbacked⟩

/-- A first exit is placed at a price that can be used, or the tick is left out. -/
theorem achieves_placeExit {ratchet? : Option Ratchet} (h : desk.Sustained)
    (hstage : desk.tracker.stage = some (.needExit entry ratchet?)) (rule : PriceRule κ) :
    Achieves (placeExit Paper.venue.journaled rule) desk fun _ after => after.Sustained := by
  obtain ⟨hside, rfl, hempty, hample⟩ := h.says hstage
  refine (achieves_resume hstage).bind ?_
  rintro _ _ ⟨rfl, rfl⟩
  refine (Achieves.askPrice rule entry.side).bind ?_
  rintro price _ ⟨rules, rfl⟩
  have h := h.withRules rules
  split
  next husable =>
    rw [hside]
    refine (achieves_submitExit h.toBacked hempty hample husable).bind ?_
    rintro exit after ⟨hkind, hkeeps, hbacked⟩
    -- a ratchet without a level takes any price that can be used
    let fresh : Ratchet := { side := .long }
    have hlevels : ∀ level, fresh.level = some level → PriceRule.isUsable level = true := nofun
    obtain ⟨level, hlevel, hlevelUsable⟩ := Ratchet.usable_apply husable hlevels
    refine hbacked.setStage ⟨hside, hkind, hkeeps, ?_, level, hlevel, hlevelUsable⟩
    rw [Option.getD_none, Ratchet.side_apply]
  next => exact .pure h

/-- The fill of an exit is written down, and the position is closed. -/
theorem achieves_leavePosition {ledgers : LedgerBook} (h : desk.Backed)
    (htakes : desk.TakesExit ledgers) (hempty : desk.venue.orders = []) :
    Achieves (leavePosition Paper.venue.journaled entry exit) desk fun _ after =>
      after.Sustained := by
  have htrade : Achieves (closedTrade Paper.venue.journaled entry exit) desk fun _ after =>
      desk = after := by
    refine .settings_bind (h.buyFee.bind ?_)
    rintro buy _ ⟨rfl, rfl⟩
    refine h.sellFee.bind ?_
    rintro sell _ ⟨rfl, rfl⟩
    exact .pure rfl
  refine htrade.bind ?_
  rintro trade _ rfl
  have hrecord : Achieves (recordExit : DeskM (Journaled Paper) κ Unit) desk fun _ after =>
      after = { desk with ledgers } := .recordExit htakes rfl
  refine hrecord.bind ?_
  rintro _ _ rfl
  have hbacked : Backed { desk with ledgers } := ⟨h.market_eq, h.reserve, h.afloat⟩
  have hsustains : Sustains desk.venue (some .needEnter) := hempty
  refine (hbacked.setStage hsustains).bind ?_
  rintro _ after hsustained
  exact .pure hsustained

/-- An exit is offered anew in place of the one that was taken off the book. -/
theorem achieves_resubmitExit {level : Float} (h : desk.Backed) (hempty : desk.venue.orders = [])
    (hample : ¬desk.venue.held < desk.venue.terms.minimumVolume) (hside : entry.side = .long)
    (husable : PriceRule.isUsable price = true) (hratchet : ratchet.side = .long)
    (hlevel : ratchet.level = some level) (hlevelUsable : PriceRule.isUsable level = true) :
    Achieves (resubmitExit Paper.venue.journaled entry ratchet price) desk fun _ after =>
      after.Sustained := by
  have hstaged :
      Achieves (setStage (.needExit entry (some ratchet)) : DeskM (Journaled Paper) κ Unit)
      desk fun _ after => after = desk.withStage (.needExit entry (some ratchet)) := .setStage rfl
  refine hstaged.bind ?_
  rintro _ _ rfl
  have hbacked : Backed (desk.withStage (.needExit entry (some ratchet))) :=
    ⟨h.market_eq, h.reserve, h.afloat⟩
  rw [hside]
  refine (achieves_submitExit hbacked hempty hample husable).bind ?_
  rintro exit after ⟨hkind, hkeeps, hafter⟩
  exact hafter.setStage ⟨hside, hkind, hkeeps, hratchet, level, hlevel, hlevelUsable⟩

/-- An exit that the market is past is waited for, or moved to where the market is. -/
theorem achieves_trackCrossedExit {order : OpenOrder} (h : desk.Sustained)
    (hstage : desk.tracker.stage = some (.waitForExit entry exit ratchet))
    (hbook : desk.venue.orders = [order])
    (hmarket : PriceRule.isUsable
      (PriceRule.ofNewestBar (PriceRule.exitField .long) desk.view) = true) :
    Achieves (trackCrossedExit Paper.venue.journaled entry exit ratchet) desk fun _ after =>
      after.Sustained := by
  obtain ⟨hside, hkind, hkeeps, hratchet⟩ := h.says hstage
  have hwaits : Sustains desk.venue (some (.waitForExit entry exit.countNotExecuted ratchet)) :=
    ⟨hside, hkind, hkeeps.counted (.inl rfl), hratchet⟩
  have horder := hkeeps.isOf hbook
  refine .settings_bind ?_
  split
  · exact h.toBacked.setStage hwaits
  · refine .get_bind fun watched hwatched => ?_
    rw [show watched.view = desk.view from congrArg Desk.view hwatched, hside,
      show exit.countNotExecuted.id = order.id from horder.id_eq.symm]
    refine (h.toBacked.cancel hbook).bind ?_
    rintro _ after ⟨rfl, hempty, hheld, -, hbacked⟩
    -- what the cancelled exit gives back can be offered anew
    exact achieves_resubmitExit hbacked hempty (hheld (horder.kind_eq.trans hkind)) hside hmarket
      hratchet.1 rfl hmarket

/-- An exit is moved to a better stop. -/
theorem achieves_trackStop {order : OpenOrder} (h : desk.Sustained)
    (hstage : desk.tracker.stage = some (.waitForExit entry exit ratchet))
    (hbook : desk.venue.orders = [order]) (rule : PriceRule κ) :
    Achieves (trackStop Paper.venue.journaled rule entry exit ratchet) desk fun _ after =>
      after.Sustained := by
  obtain ⟨hside, hkind, hkeeps, hratchet, level, hlevel, husable⟩ := h.says hstage
  have horder := hkeeps.isOf hbook
  refine (Achieves.askPrice rule entry.side).bind ?_
  rintro stop _ ⟨rules, rfl⟩
  have h := h.withRules rules
  split
  next himproves =>
    have hstop :=
      Ratchet.isUsable_of_improves hratchet hlevel (PriceRule.not_lt_zero husable) himproves
    rw [← horder.id_eq]
    refine (h.toBacked.cancel hbook).bind ?_
    rintro _ after ⟨rfl, hempty, hheld, -, hbacked⟩
    refine achieves_resubmitExit hbacked hempty (hheld (horder.kind_eq.trans hkind)) hside hstop ?_
      (Ratchet.level_apply_of_improves himproves) hstop
    rw [Ratchet.side_apply, hratchet]
  next => exact .pure h

theorem achieves_trackExit (h : desk.Sustained) (hbegun : desk.Begun) (hfed : Fed desk.prices)
    (hnone : desk.listed? = none)
    (hstage : desk.tracker.stage = some (.waitForExit entry exit ratchet)) (rule : PriceRule κ) :
    Achieves (trackExit Paper.venue.journaled rule) desk fun _ after => after.Sustained := by
  obtain ⟨hside, -, hkeeps, -⟩ := h.says hstage
  obtain ⟨ticker, hticker⟩ := hbegun.quoted
  have hheld : desk.tracker.held.isSome := by
    rw [held_of_stage hstage]
    rfl
  obtain ⟨ledgers, htakes⟩ := hbegun.booked.takesExit hbegun.unwritten hheld
  refine (achieves_resume hstage).bind ?_
  rintro _ _ ⟨rfl, rfl⟩
  refine (h.findOrder hnone exit.id).bind ?_
  rintro _ _ ⟨rfl, rfl⟩
  have hlisted := h.listing (desk.openOrders.store desk.tick desk.venue.orders)
  -- the book holds the tracked exit and no other order, so a missing exit leaves it empty
  obtain ⟨hempty, hmissing⟩ | ⟨order, hbook, -, hfound⟩ := find_of_keepsOnly h.afloat hkeeps
  · rw [hmissing]
    refine (achieves_leavePosition hlisted.toBacked htakes hempty).bind ?_
    rintro trade after hafter
    exact .pure hafter
  · rw [hfound]
    have hanswer : Achieves newestTicker
        { desk with openOrders := desk.openOrders.store desk.tick desk.venue.orders } _ :=
      .newestTicker hticker
    refine hanswer.bind ?_
    rintro _ _ ⟨rfl, rfl⟩
    dsimp only
    split
    · refine (achieves_trackCrossedExit hlisted hstage hbook (hfed.usable hticker .long)).bind ?_
      rintro _ after hafter
      exact .pure hafter
    · refine (achieves_trackStop hlisted hstage hbook rule).bind ?_
      rintro _ after hafter
      exact .pure hafter

/-! ## Finding a stage -/

/-- What is held tells of a flat tracker, or of a long that there is enough to sell of. -/
theorem achieves_stageFromHoldings (h : desk.Backed) (hbegun : desk.Begun)
    (hunheld : desk.tracker.held = none) (hempty : desk.venue.orders = []) :
    Achieves (stageFromHoldings Paper.venue.journaled) desk fun stage after =>
      after.Backed ∧ Sustains after.venue (some stage) ∧ awaited stage = none := by
  obtain ⟨ticker, hticker⟩ := hbegun.quoted
  obtain ⟨ledgers, htakes⟩ := hbegun.booked.takesEntry hbegun.unwritten hunheld .long
  have hheld : desk.venue.balance desk.market.base = desk.venue.held := by
    rw [h.market_eq, Paper.held]
  refine .settings_bind ((h.balance desk.market.base).bind ?_)
  rintro base _ ⟨rfl, rfl⟩
  refine h.minimum.bind ?_
  rintro minimum _ ⟨rfl, rfl⟩
  rw [hheld]
  split
  next => exact .pure ⟨h, hempty, rfl⟩
  next habove =>
    have hprice : Achieves (lastPrice : DeskM (Journaled Paper) κ Float) desk fun _ after =>
        desk = after := by
      refine .get_bind fun watched hwatched => ?_
      rw [show watched.prices = desk.prices from congrArg Desk.prices hwatched,
        PriceFeed.lastPrice?,
        hticker]
      exact .pure rfl
    refine hprice.bind ?_
    rintro price _ rfl
    have hrecord : Achieves (recordEntry .long : DeskM (Journaled Paper) κ Unit) desk
        fun _ after => after = { desk with ledgers } := .recordEntry htakes rfl
    refine hrecord.bind ?_
    rintro _ _ rfl
    -- the minimum is reached, as what is held is above it: a later exit is not refused for it
    have hample : ¬desk.venue.held < desk.venue.terms.minimumVolume := fun hlt =>
      habove (Double.le_of_lt hlt)
    exact .pure ⟨⟨h.market_eq, h.reserve, h.afloat⟩, ⟨rfl, rfl, hempty, hample⟩, rfl⟩

/-- A tracker that has not looked yet finds nothing on the book. -/
theorem achieves_resume_of_none (h : desk.Sustained) (hbegun : desk.Begun)
    (hnone : desk.listed? = none)
    (hstage : desk.tracker.stage = none) :
    Achieves (resume Paper.venue.journaled) desk fun stage after =>
      after.Sustained ∧ after.tracker.stage = some stage ∧ awaited stage = none := by
  have hempty := h.sustains
  rw [hstage] at hempty
  refine .get_bind fun watched hwatched => ?_
  rw [show watched.tracker = desk.tracker from congrArg Desk.tracker hwatched, hstage]
  refine (h.listOrders hnone).bind ?_
  rintro _ _ ⟨rfl, rfl⟩
  rw [show desk.venue.orders = [] from hempty]
  have hlisted := h.listing (desk.openOrders.store desk.tick [])
  have hbegun : Begun { desk with openOrders := desk.openOrders.store desk.tick [] } :=
    ⟨⟨hbegun.booked.kept, hbegun.booked.ordered, hbegun.booked.position⟩, hbegun.quoted,
      hbegun.unwritten, hbegun.window_pos⟩
  -- without a stage there is no position in the ledger either
  have hunheld : desk.tracker.held = none := by rw [held, hstage, Option.bind_none]
  refine (achieves_stageFromHoldings hlisted.toBacked hbegun hunheld hempty).bind ?_
  rintro stage after ⟨hbacked, hsustains, hawaited⟩
  have hset : Achieves (setStage stage : DeskM (Journaled Paper) κ Unit) after fun _ staged =>
      staged = after.withStage stage := .setStage rfl
  refine hset.bind ?_
  rintro _ _ rfl
  exact .pure ⟨⟨⟨hbacked.market_eq, hbacked.reserve, hbacked.afloat⟩, hsustains⟩, rfl, hawaited⟩

end Tracker

namespace Strategy

/-- A strategy that only goes long, and fails to decide by reversals only. -/
structure LongOnly (strategy : Strategy κ) : Prop where
  side_eq : ∀ rules, strategy.side rules = .long
  raises : ∀ reason, strategy.Raises reason → TradingError.IsReversal (.strategy reason)

variable {strategy : Strategy κ} {desk : Desk Paper κ}

/-- To decide for a long and open it goes without failure. -/
theorem achieves_enter (hlong : strategy.LongOnly) (h : desk.Sustained)
    (hstage : desk.tracker.stage = some .needEnter) :
    Achieves (strategy.enter Paper.venue.journaled) desk fun _ after => after.Sustained := by
  have hdecide :
      Achieves (Desk.decide strategy.shouldEnter : DeskM (Journaled Paper) κ Bool) desk _ :=
    .decide fun view rules reason hraises => hlong.raises reason ⟨view, rules, .inl hraises⟩
  refine hdecide.bind ?_
  rintro decided _ ⟨rules, rfl⟩
  have h := h.withRules rules
  split
  · refine .get_bind fun watched hwatched => ?_
    rw [hlong.side_eq]
    exact achieves_placeEnter h hstage _
  · exact .pure h

theorem achieves_leave {entry : PlacedOrder} {ratchet? : Option Ratchet} (hlong : strategy.LongOnly)
    (h : desk.Sustained) (hstage : desk.tracker.stage = some (.needExit entry ratchet?)) :
    Achieves (strategy.leave Paper.venue.journaled) desk fun _ after => after.Sustained := by
  have hdecide :
      Achieves (Desk.decide strategy.shouldExit : DeskM (Journaled Paper) κ Bool) desk _ :=
    .decide fun view rules reason hraises => hlong.raises reason ⟨view, rules, .inr hraises⟩
  refine hdecide.bind ?_
  rintro decided _ ⟨rules, rfl⟩
  have h := h.withRules rules
  split
  · exact achieves_placeExit h hstage _
  · exact .pure h

/-- To watch an exit, and tell the rules of a trade, goes without failure. -/
theorem achieves_watchExit {entry exit : PlacedOrder} {ratchet : Ratchet} (h : desk.Sustained)
    (hbegun : desk.Begun) (hfed : Fed desk.prices) (hnone : desk.listed? = none)
    (hstage : desk.tracker.stage = some (.waitForExit entry exit ratchet)) :
    Achieves (strategy.watchExit Paper.venue.journaled) desk fun _ after => after.Sustained := by
  refine (achieves_trackExit h hbegun hfed hnone hstage strategy.exitPrice).bind ?_
  rintro closed? after hafter
  cases closed? with
  | none => exact .pure hafter
  | some trade =>
    have htold : Achieves (modify fun desk : Desk (Journaled Paper) κ =>
        { desk with rules := strategy.onTradeClosed trade desk.rules }) after fun _ told =>
          told.Sustained := by
      refine .modifying (fun _ => rfl) ?_
      rintro watched rfl
      exact hafter.withRules _
    refine htold.bind ?_
    rintro _ told htold
    exact .pure htold

/-- Whatever the phase calls for goes through. -/
theorem achieves_execute (hlong : strategy.LongOnly) (h : desk.Sustained) (hbegun : desk.Begun)
    (hfed : Fed desk.prices) (hnone : desk.listed? = none) :
    Achieves (strategy.execute Paper.venue.journaled) desk fun _ after => after.Sustained := by
  rw [execute, currentState_bind]
  cases hstage : desk.tracker.stage with
  | none =>
    refine (achieves_resume_of_none h hbegun hnone hstage).bind ?_
    rintro stage after ⟨hafter, hstage, hawaited⟩
    -- a tracker that has only just looked waits for no order
    cases stage with
    | needEnter =>
      refine (achieves_enter hlong hafter hstage).bind ?_
      rintro _ entered hentered
      exact .pure hentered
    | needExit entry ratchet? =>
      refine (achieves_leave hlong hafter hstage).bind ?_
      rintro _ left hleft
      exact .pure hleft
    | waitForEnter | waitForExit => cases hawaited
  | some current =>
    refine (achieves_resume hstage).bind ?_
    rintro _ _ ⟨rfl, rfl⟩
    cases current with
    | needEnter =>
      refine (achieves_enter hlong h hstage).bind ?_
      rintro _ entered hentered
      exact .pure hentered
    | waitForEnter entry =>
      refine (achieves_trackEnter h hbegun hnone hstage strategy.enterPrice).bind ?_
      rintro _ tracked htracked
      exact .pure htracked
    | needExit entry ratchet? =>
      refine (achieves_leave hlong h hstage).bind ?_
      rintro _ left hleft
      exact .pure hleft
    | waitForExit entry exit ratchet => exact achieves_watchExit h hbegun hfed hnone hstage

end Strategy

/-! ## Ticks -/

/-- A ticker that the venue answers, and the feed takes, is taken in as a bar. -/
theorem Desk.ends_update {σ : Type} {venue : Venue σ} {desk : Desk σ κ} {ticker : Ticker}
    {state : σ}
    {prices : PriceFeed}
    (hreply : Replies (venue.ticker desk.prices.market) desk.venue (.ok ticker) state)
    (hrecord : desk.prices.record ticker = .ok prices) :
    Ends (update venue) desk (.ok desk.prices.bars.size) { desk with venue := state, prices } := by
  have hupdate := ends_update_offer hreply
  rwa [PriceFeed.offer, hrecord] at hupdate

/-- Once its bar is taken, a tick follows a course from there, however it ends. -/
theorem Session.course_of_record {σ : Type} {venue : Venue σ} {session : Session σ κ}
    {ticker : Ticker}
    {state : σ} {prices : PriceFeed}
    (hreply : Replies (venue.ticker session.desk.prices.market) session.desk.venue
      (.ok ticker) state)
    (hrecord : session.desk.prices.record ticker = .ok prices) (strategy : Strategy κ) :
    Course venue { session.desk with venue := state, prices, tick := session.desk.tick + 1 }
      (session.onTick venue strategy).1 (session.onTick venue strategy).2.desk := by
  have hupdated := ends_update hreply hrecord
  obtain ⟨_, hupdate, -⟩ | ⟨_, updated, hupdate, hrest⟩ :=
    ends_bind.mp (ends_onTick venue strategy session)
  · cases hupdate.symm.trans hupdated
  · obtain ⟨-, rfl⟩ := Prod.mk.inj (hupdate.symm.trans hupdated)
    simp only [ends_bind, ends_modify, reduceCtorEq, false_and, exists_false, false_or] at hrest
    obtain ⟨_, _, ⟨-, rfl⟩, hexecute⟩ := hrest
    exact Strategy.execute_course hexecute

/-- A session begins its tick with a bar that nothing has happened at. -/
theorem Session.Abreast.begun {σ : Type} {session : Session σ κ} {ticker : Ticker}
    {prices : PriceFeed}
    (h : session.Abreast) (hrecord : session.desk.prices.record ticker = .ok prices) :
    Begun { session.desk with prices, tick := session.desk.tick + 1 } := by
  obtain ⟨bars, -, hprices⟩ := prices_of_record hrecord
  refine ⟨⟨h.booked.kept, h.booked.ordered, h.booked.position⟩, ⟨ticker, ?_⟩,
    ⟨_, lastIndex?_of_record hrecord, h.behind⟩, h.window_pos⟩
  rw [hprices]

/-- A ticker that becomes a bar is taken in without failure. -/
theorem Desk.achieves_update {desk : Desk Paper κ} {ticker : Ticker} {prices : PriceFeed}
    (hconnected : desk.venue.Connected)
    (hmarket : desk.prices.market.id = desk.venue.terms.market.id)
    (hticker : desk.venue.ticker = some ticker) (hrecord : desk.prices.record ticker = .ok prices) :
    Achieves (update Paper.venue.journaled) desk fun _ after => after = { desk with prices } := by
  rintro watched rfl
  have hjournal := replies_journal (.ticker watched.prices.market)
    (hconnected.replies_ticker hmarket hticker) watched.venue.calls
  exact ⟨_, _, ends_update hjournal hrecord, .of_replies hjournal rfl rfl, rfl⟩

/-- A tick takes in the ticker that was published, and goes through. -/
theorem Session.achieves_tick {strategy : Strategy κ} {desk : Desk Paper κ} {ticker : Ticker}
    {prices : PriceFeed} (hlong : strategy.LongOnly) (h : desk.Sustained)
    (hmarket : desk.prices.market.id = desk.venue.terms.market.id)
    (hticker : desk.venue.ticker = some ticker) (hrecord : desk.prices.record ticker = .ok prices)
    (hbegun : Begun { desk with prices, tick := desk.tick + 1 }) (hfed : Fed prices)
    (hupTo : desk.openOrders.UpTo desk.tick) :
    Achieves (Session.tick Paper.venue.journaled strategy) desk fun _ after => after.Sustained := by
  refine (achieves_update h.afloat.connected hmarket hticker hrecord).bind ?_
  rintro _ _ rfl
  have hcounted : Achieves
      (modify fun desk : Desk (Journaled Paper) κ => { desk with tick := desk.tick + 1 })
      { desk with prices } fun _ after => after = { desk with prices, tick := desk.tick + 1 } := by
    refine .modifying (fun _ => rfl) fun watched hwatched => ?_
    exact congrArg (fun desk : Desk Paper κ => { desk with tick := desk.tick + 1 }) hwatched
  refine hcounted.bind ?_
  rintro _ _ rfl
  have hsustained : Sustained { desk with prices, tick := desk.tick + 1 } :=
    ⟨⟨h.market_eq, h.reserve, h.afloat⟩, h.sustains⟩
  -- a new tick has no list yet
  have hnone : listed? { desk with prices, tick := desk.tick + 1 } = none :=
    hupTo.at?_of_lt (Nat.lt_succ_self _)
  exact strategy.achieves_execute hlong hsustained hbegun hfed hnone

end SwingTrader
