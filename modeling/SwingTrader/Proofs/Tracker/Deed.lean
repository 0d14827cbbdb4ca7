import SwingTrader.Proofs.Tracker.Setback

/-!
# SwingTrader — what one operation comes to

The moves of a tracker say what it can do at all, in any order. One operation does
far less: it looks and asks, and then takes one step of the cycle at most, whose
guard it has checked at the desk where it began. The prices that orders go out at
are part of that.

* `Tracker.Tending` — looking and asking, up to a cancel that is not confirmed;
* `Tracker.MovesTo` — why and where an open exit is moved;
* `Tracker.Deed` — what one operation of a tracker that has a stage comes to;
* `Tracker.deed_of_run` — every operation comes to a deed.
-/

namespace SwingTrader

variable {σ κ α : Type}

open Desk

/-- The trade that an operation reports, if it closes one. -/
def Operation.trade? (venue : Venue σ) (op : Operation κ) (desk : Desk σ κ) :
    Option ClosedTrade :=
  match op with
  | trackExit rule => (outcome (Tracker.trackExit venue rule) desk).1.toOption.join
  | _ => none

namespace Tracker

/-! ## Tending -/

/-- A step that leaves the position and the book alone. -/
inductive Tend (venue : Venue σ) : Desk σ κ → Desk σ κ → Prop where
  | remember (desk : Desk σ κ) (rules : κ) : Tend venue desk { desk with rules }
  | ask {desk after : Desk σ κ} (asks : Ask venue desk after) : Tend venue desk after
  | list {desk after : Desk σ κ} {answer : Except TradingError (List OpenOrder)}
      (lists : Ends (listOrders venue) desk answer after) : Tend venue desk after
  | keep {desk after : Desk σ κ} {id : OrderId}
      (cancels : Ends (cancel venue id) desk (.ok false) after) : Tend venue desk after

/-- Any number of steps that leave the position and the book alone. -/
abbrev Tending (venue : Venue σ) : Desk σ κ → Desk σ κ → Prop :=
  Relation.ReflTransGen (Tend venue)

section Tending

variable {venue : Venue σ} {desk after : Desk σ κ}

theorem Tend.undisturbed (h : Tend venue desk after) : Undisturbed desk after := by
  cases h with
  | remember rules => exact .remember desk rules
  | ask asks => exact (Asking.undisturbed (.single asks))
  | list lists => exact .listOrders lists
  | keep cancels => exact .cancel cancels

theorem Tending.undisturbed (h : Tending venue desk after) : Undisturbed desk after := by
  induction h with
  | refl => exact .refl desk
  | tail _ htend ih => exact ih.trans htend.undisturbed

theorem Asking.tending (h : Asking venue desk after) : Tending venue desk after :=
  Relation.ReflTransGen.mono (fun _ _ hask => Tend.ask hask) _ _ h

theorem Seeks.tending (h : Seeks venue desk after) : Tending venue desk after := by
  obtain ⟨answer, seen, hlist, hasking⟩ := h
  exact .head (.list hlist) hasking.tending

/-- To look an order up leaves the position and the book alone. -/
theorem tending_of_findOrder {id : OrderId} {answer : Except TradingError (Option OpenOrder)}
    (h : Ends (findOrder venue id) desk answer after) : Tending venue desk after :=
  (find_seeks h).tending

end Tending

/-! ## Deeds -/

/-- The price of an exit when a rule proposes one: a ratchet does not let it fall back. -/
def exitPrice (ratchet? : Option Ratchet) (proposed : Float) : Float :=
  match ratchet? with
  | some ratchet => (ratchet.apply proposed).levelOr proposed
  | none => proposed

/-- The market is past the open exit of a position, and has been for more ticks than it may. -/
def Overdue (desk : Desk σ κ) (entry exit : PlacedOrder) : Prop :=
  (∃ ticker, desk.prices.ticker = some ticker ∧ isCrossed entry.side ticker exit.price = true) ∧
    desk.tracker.settings.limits.exitCrossed < exit.notExecuted + 1

/--
Why an open exit is moved, to which price, and how the ratchet follows: it is forced to
where the market is, or it goes to a stop of the rule that improves on the ratchet.
-/
inductive MovesTo (op : Operation κ) (desk : Desk σ κ) (entry exit : PlacedOrder)
    (ratchet : Ratchet) : Float → Ratchet → Prop where
  | forced {price : Float} (overdue : Overdue desk entry exit)
      (price_eq : price = PriceRule.ofNewestBar (PriceRule.exitField entry.side) desk.view) :
      MovesTo op desk entry exit ratchet price (ratchet.reset price)
  | improved {rule : PriceRule κ} {price : Float} (op_eq : op = .trackExit rule)
      (price_eq : price = ((rule desk.view entry.side).run desk.rules).1)
      (improves : ratchet.improves price = true) :
      MovesTo op desk entry exit ratchet price (ratchet.apply price)

/-- A ratchet stays on its side wherever the exit is moved. -/
theorem MovesTo.side_eq {op : Operation κ} {desk : Desk σ κ} {entry exit : PlacedOrder}
    {ratchet ratchet' : Ratchet} {price : Float}
    (h : MovesTo op desk entry exit ratchet price ratchet') : ratchet'.side = ratchet.side := by
  cases h with
  | forced _ _ => rfl
  | improved _ _ _ => exact Ratchet.side_apply _ _

/-- Wherever an exit is moved to, the ratchet is there. -/
theorem MovesTo.level_eq {op : Operation κ} {desk : Desk σ κ} {entry exit : PlacedOrder}
    {ratchet ratchet' : Ratchet} {price : Float}
    (h : MovesTo op desk entry exit ratchet price ratchet') : ratchet'.level = some price := by
  cases h with
  | forced _ _ => rfl
  | improved _ _ improves => exact Ratchet.level_apply_of_improves improves

/-- What one operation of a tracker that has a stage comes to, and the trade that it reports. -/
inductive Deed (venue : Venue σ) (op : Operation κ) (desk : Desk σ κ) :
    Option ClosedTrade → Desk σ κ → Prop where
  -- nothing comes of it but looking and asking
  | tend {after : Desk σ κ} (tending : Tending venue desk after) : Deed venue op desk none after
  -- the order stays open, and one more tick is counted against it
  | waitEnter {mid : Desk σ κ} {entry entry' : PlacedOrder}
      (stage_eq : desk.tracker.stage = some (.waitForEnter entry))
      (tending : Tending venue desk mid) (counted : Counted entry entry') :
      Deed venue op desk none (mid.withStage (.waitForEnter entry'))
  | waitExit {mid : Desk σ κ} {entry exit exit' : PlacedOrder} {ratchet : Ratchet}
      (stage_eq : desk.tracker.stage = some (.waitForExit entry exit ratchet))
      (tending : Tending venue desk mid) (counted : Counted exit exit') :
      Deed venue op desk none (mid.withStage (.waitForExit entry exit' ratchet))
  -- an order is to be placed, and cannot be sized or is refused
  | missEntry {mid after : Desk σ κ} {side : Side} {price : Float}
      (stage_eq : desk.tracker.stage = some .needEnter)
      (tending : Tending venue desk mid) (usable : PriceRule.isUsable price = true)
      (unplaced : Unplaced venue side.enterKind price mid after) : Deed venue op desk none after
  | missExit {mid after : Desk σ κ} {entry : PlacedOrder} {ratchet? : Option Ratchet}
      {proposed : Float} (stage_eq : desk.tracker.stage = some (.needExit entry ratchet?))
      (tending : Tending venue desk mid) (usable : PriceRule.isUsable proposed = true)
      (unplaced : Unplaced venue entry.side.exitKind (exitPrice ratchet? proposed) mid after) :
      Deed venue op desk none after
  -- an order is placed, and is waited for from then on
  | enter {asked after : Desk σ κ} {side : Side} {quantity price : Float} {order : PlacedOrder}
      (stage_eq : desk.tracker.stage = some .needEnter)
      (tending : Tending venue desk asked) (usable : PriceRule.isUsable price = true)
      (submits : Ends (submit venue side.enterKind quantity price) asked (.ok order) after) :
      Deed venue op desk none (after.withStage (.waitForEnter order))
  | leave {asked after : Desk σ κ} {entry order : PlacedOrder} {ratchet? : Option Ratchet}
      {quantity proposed : Float}
      (stage_eq : desk.tracker.stage = some (.needExit entry ratchet?))
      (tending : Tending venue desk asked) (usable : PriceRule.isUsable proposed = true)
      (submits :
        Ends (submit venue entry.side.exitKind quantity (exitPrice ratchet? proposed)) asked
        (.ok order) after) :
      Deed venue op desk none (after.withStage (.waitForExit entry order
        ((ratchet?.getD { side := entry.side }).apply (exitPrice ratchet? proposed))))
  -- the entry is not listed any more, so it was filled
  | fill {seen : Desk σ κ} {entry : PlacedOrder} {ledgers : LedgerBook}
      (stage_eq : desk.tracker.stage = some (.waitForEnter entry))
      (finds : Ends (findOrder venue entry.id) desk (.ok none) seen)
      (takes : seen.TakesEntry entry.side ledgers) :
      Deed venue op desk none ({ seen with ledgers }.withStage (.needExit entry none))
  -- what there is of a partial entry is taken once the rest is cancelled, if the ledger has it
  | takePart {seen asked after : Desk σ κ} {entry : PlacedOrder} {order : OpenOrder} {held : Float}
      {ledgers : LedgerBook} (stage_eq : desk.tracker.stage = some (.waitForEnter entry))
      (finds : Ends (findOrder venue entry.id) desk (.ok (some order)) seen)
      (part : order.isPartiallyFilled = true)
      (overdue : desk.tracker.settings.limits.enterPartiallyExecuted < entry.partiallyExecuted + 1)
      (holds : Holds venue seen entry.side order.filledQuantity held asked)
      (cancels : Ends (cancel venue entry.id) asked (.ok true) after)
      (takes : after.TakesEntry entry.side ledgers) :
      Deed venue op desk none ({ after with ledgers }.withStage
        (.needExit (entry.countPartiallyExecuted.withQuantity held) none))
  | cutOff {seen asked after : Desk σ κ} {entry : PlacedOrder} {order : OpenOrder} {held : Float}
      (stage_eq : desk.tracker.stage = some (.waitForEnter entry))
      (finds : Ends (findOrder venue entry.id) desk (.ok (some order)) seen)
      (part : order.isPartiallyFilled = true)
      (holds : Holds venue seen entry.side order.filledQuantity held asked)
      (cancels : Ends (cancel venue entry.id) asked (.ok true) after)
      (refuses : ∀ ledgers, ¬after.TakesEntry entry.side ledgers) : Deed venue op desk none after
  -- the market has left an entry behind that was listed as whole
  | giveUp {seen after : Desk σ κ} {entry : PlacedOrder} {order : OpenOrder} {rules : κ}
      (stage_eq : desk.tracker.stage = some (.waitForEnter entry))
      (finds : Ends (findOrder venue entry.id) desk (.ok (some order)) seen)
      (whole : order.isPartiallyFilled = false)
      (cancels : Ends (cancel venue entry.id) { seen with rules } (.ok true) after) :
      Deed venue op desk none (after.withStage .needEnter)
  -- an exit that is to be moved is cancelled first, and its replacement may not come about
  | withdraw {seen mid after : Desk σ κ} {entry exit : PlacedOrder} {order : OpenOrder}
      {ratchet ratchet' : Ratchet} {price : Float} {rules : κ}
      (stage_eq : desk.tracker.stage = some (.waitForExit entry exit ratchet))
      (finds : Ends (findOrder venue exit.id) desk (.ok (some order)) seen)
      (moves : MovesTo op desk entry exit ratchet price ratchet')
      (cancels : Ends (cancel venue exit.id) { seen with rules } (.ok true) mid)
      (unplaced : Unplaced venue entry.side.exitKind price
        (mid.withStage (.needExit entry (some ratchet'))) after) : Deed venue op desk none after
  | replace {seen mid asked after : Desk σ κ} {entry exit exit' : PlacedOrder} {order : OpenOrder}
      {ratchet ratchet' : Ratchet} {quantity price : Float} {rules : κ}
      (stage_eq : desk.tracker.stage = some (.waitForExit entry exit ratchet))
      (finds : Ends (findOrder venue exit.id) desk (.ok (some order)) seen)
      (moves : MovesTo op desk entry exit ratchet price ratchet')
      (cancels : Ends (cancel venue exit.id) { seen with rules } (.ok true) mid)
      (asking : Asking venue (mid.withStage (.needExit entry (some ratchet'))) asked)
      (submits : Ends (submit venue entry.side.exitKind quantity price) asked (.ok exit') after) :
      Deed venue op desk none (after.withStage (.waitForExit entry exit' ratchet'))
  -- the exit is not listed any more, so the position is closed
  | close {after : Desk σ κ} {trade : ClosedTrade} (closing : Closing venue desk trade after) :
      Deed venue op desk (some trade) after

/-! ## Operations as deeds -/

section Deeds

variable {venue : Venue σ} {rule : PriceRule κ} {op : Operation κ} {desk seen after : Desk σ κ}

/-! ### Entering -/

/-- To open a position places an entry, or leaves it all as it was. -/
theorem placeEnter_deed {side : Side} {answer : Except TradingError Unit}
    (hstage : desk.tracker.stage = some .needEnter)
    (h : Ends (placeEnter venue rule side) desk answer after) : Deed venue op desk none after := by
  rw [placeEnter, ends_resume_bind hstage] at h
  rw [ends_askPrice_bind] at h
  have htend : Tend venue desk { desk with rules := ((rule desk.view side).run desk.rules).2 } :=
    .remember desk _
  split at h
  case isFalse =>
    obtain ⟨-, rfl⟩ := ends_pure.mp h
    exact .tend (.single htend)
  case isTrue husable =>
    obtain ⟨_, h, -⟩ | ⟨amount?, sized, hamount, h⟩ := ends_bind.mp h
    · exact .tend (.head htend (enterAmount_onlyAsks _ side _ rfl h).tending)
    have hsized :=
      Relation.ReflTransGen.head htend (enterAmount_onlyAsks _ side _ rfl hamount).tending
    cases amount? with
    | none =>
      obtain ⟨-, rfl⟩ := ends_pure.mp h
      exact .tend hsized
    | some amount =>
      obtain ⟨_, h, -⟩ | ⟨order, placed, hsubmit, h⟩ := ends_bind.mp h
      · exact .missEntry hstage hsized husable (unplaced_of_submit .refl h).1
      · obtain ⟨-, rfl⟩ := ends_setStage.mp h
        exact .enter hstage hsized husable hsubmit

/-- An entry that is filled in part is waited for once more, or cut off and the part held. -/
theorem trackPartialEntry_deed {entry : PlacedOrder} {order : OpenOrder}
    {answer : Except TradingError Unit} (hstage : desk.tracker.stage = some (.waitForEnter entry))
    (hfind : Ends (findOrder venue entry.id) desk (.ok (some order)) seen)
    (hpart : order.isPartiallyFilled = true)
    (h : Ends (trackPartialEntry venue entry order) seen answer after) :
    Deed venue op desk none after := by
  have hcounted : Counted entry entry.countPartiallyExecuted := .inr rfl
  have hseen := tending_of_findOrder hfind
  simp only [trackPartialEntry, ends_settings_bind] at h
  split at h
  case isTrue =>
    obtain ⟨-, rfl⟩ := ends_setStage.mp h
    exact .waitEnter hstage hseen hcounted
  case isFalse hoverdue =>
    rw [(Undisturbed.findOrder hfind).tracker_eq] at hoverdue
    obtain ⟨hasking, -⟩ | ⟨held, asked, hholds, h⟩ := holds_inv h
    · exact .tend (hseen.trans hasking.tending)
    have hasked := hseen.trans (holds_asking hholds).tending
    obtain ⟨cancelled, mid, hcancel, h⟩ := cancel_inv h
    have hcancel : Ends (cancel venue entry.id) asked (.ok cancelled) mid := hcancel
    cases cancelled with
    | false =>
      obtain ⟨-, rfl⟩ := ends_setStage.mp h
      exact .waitEnter hstage (hasked.tail (.keep hcancel)) hcounted
    | true =>
      -- the remainder is gone; whether the position is entered is up to the ledger
      obtain ⟨rfl, -, hrefuses⟩ | ⟨ledgers, htakes, rfl⟩ := enterPosition_inv h
      · exact .cutOff hstage hfind hpart hholds hcancel hrefuses
      · exact .takePart hstage hfind hpart (Nat.lt_of_not_le hoverdue) hholds hcancel htakes

/--
An entry that is open is waited for once more, or given up once the market is past it
for too long.
-/
theorem trackOpenEntry_deed {entry : PlacedOrder} {order : OpenOrder}
    {answer : Except TradingError Unit} (hstage : desk.tracker.stage = some (.waitForEnter entry))
    (hfind : Ends (findOrder venue entry.id) desk (.ok (some order)) seen)
    (hwhole : order.isPartiallyFilled = false)
    (h : Ends (trackOpenEntry venue rule entry) seen answer after) :
    Deed venue op desk none after := by
  have hcounted : Counted entry entry.countNotExecuted := .inl rfl
  simp only [trackOpenEntry, ends_askPrice_bind] at h
  have hseen := (tending_of_findOrder hfind).tail
    (.remember seen ((rule seen.view entry.side).run seen.rules).2)
  split at h
  case isFalse =>
    obtain ⟨-, rfl⟩ := ends_pure.mp h
    exact .tend hseen
  case isTrue =>
    rw [ends_settings_bind] at h
    split at h
    case isTrue =>
      obtain ⟨-, rfl⟩ := ends_setStage.mp h
      exact .waitEnter hstage hseen hcounted
    case isFalse =>
      obtain ⟨cancelled, mid, hcancel, h⟩ := cancel_inv h
      -- both answers to the cancel end in a stage that is set
      obtain ⟨-, rfl⟩ : answer = .ok () ∧ after = mid.withStage
          (if cancelled then .needEnter else .waitForEnter entry.countNotExecuted) := by
        cases cancelled <;> exact ends_setStage.mp h
      cases cancelled with
      | false => exact .waitEnter hstage (hseen.tail (.keep hcancel)) hcounted
      | true => exact .giveUp hstage hfind hwhole hcancel

/-- To watch an entry finds it filled, or open and to be dealt with. -/
theorem trackEnter_deed {entry : PlacedOrder} {answer : Except TradingError Unit}
    (hstage : desk.tracker.stage = some (.waitForEnter entry))
    (h : Ends (trackEnter venue rule) desk answer after) : Deed venue op desk none after := by
  rw [trackEnter, ends_resume_bind hstage] at h
  obtain ⟨_, h, -⟩ | ⟨found, seen, hfind, h⟩ := ends_bind.mp h
  · exact .tend (tending_of_findOrder h)
  cases found with
  | none =>
    obtain ⟨rfl, -⟩ | ⟨ledgers, htakes, rfl⟩ := enterPosition_inv h
    -- an entry that is not listed any more was filled, and the ledger may refuse it
    · exact .tend (tending_of_findOrder hfind)
    · exact .fill hstage hfind htakes
  | some order =>
    dsimp only at h
    split at h
    case isTrue hpart => exact trackPartialEntry_deed hstage hfind hpart h
    case isFalse hpart =>
      exact trackOpenEntry_deed hstage hfind (Bool.not_eq_true _ ▸ hpart) h

/-! ### Leaving -/

/-- To close a position places an exit, or leaves it all as it was. -/
theorem placeExit_deed {entry : PlacedOrder} {ratchet? : Option Ratchet}
    {answer : Except TradingError Unit}
    (hstage : desk.tracker.stage = some (.needExit entry ratchet?))
    (h : Ends (placeExit venue rule) desk answer after) : Deed venue op desk none after := by
  rw [placeExit, ends_resume_bind hstage] at h
  simp only [ends_askPrice_bind] at h
  have htend : Tend venue desk
      { desk with rules := ((rule desk.view entry.side).run desk.rules).2 } := .remember desk _
  split at h
  case isFalse =>
    obtain ⟨-, rfl⟩ := ends_pure.mp h
    exact .tend (.single htend)
  case isTrue husable =>
    obtain ⟨_, h, -⟩ | ⟨exit, placed, hexit, h⟩ := ends_bind.mp h
    · exact .missExit hstage (.single htend) husable (unplaced_of_submitExit h).1
    · obtain ⟨quantity, asked, hholds, hsubmit⟩ := submitExit_ok hexit
      obtain ⟨-, rfl⟩ := ends_setStage.mp h
      exact .leave hstage (.head htend (holds_asking hholds).tending) husable hsubmit

/-- An exit whose cancel is confirmed is replaced at the price it is moved to, or is missing. -/
theorem resubmitExit_deed {entry exit : PlacedOrder} {order : OpenOrder}
    {ratchet ratchet' : Ratchet}
    {price : Float} {rules : κ} {cancelled : Desk σ κ} {answer : Except TradingError Unit}
    (hstage : desk.tracker.stage = some (.waitForExit entry exit ratchet))
    (hfind : Ends (findOrder venue exit.id) desk (.ok (some order)) seen)
    (hmoves : MovesTo op desk entry exit ratchet price ratchet')
    (hcancel : Ends (cancel venue exit.id) { seen with rules } (.ok true) cancelled)
    (h : Ends (resubmitExit venue entry ratchet' price) cancelled answer after) :
    Deed venue op desk none after := by
  rw [resubmitExit, ends_setStage_bind] at h
  obtain ⟨_, h, -⟩ | ⟨exit', placed, hexit, h⟩ := ends_bind.mp h
  · exact .withdraw hstage hfind hmoves hcancel (unplaced_of_submitExit h).1
  · obtain ⟨quantity, asked, hholds, hsubmit⟩ := submitExit_ok hexit
    obtain ⟨-, rfl⟩ := ends_setStage.mp h
    exact .replace hstage hfind hmoves hcancel (holds_asking hholds) hsubmit

/-- An exit that the market is past is waited for once more, or moved to where the market is. -/
theorem trackCrossedExit_deed {entry exit : PlacedOrder} {order : OpenOrder} {ratchet : Ratchet}
    {ticker : Ticker} {answer : Except TradingError Unit}
    (hstage : desk.tracker.stage = some (.waitForExit entry exit ratchet))
    (hfind : Ends (findOrder venue exit.id) desk (.ok (some order)) seen)
    (hticker : desk.prices.ticker = some ticker)
    (hcrossed : isCrossed entry.side ticker exit.price = true)
    (h : Ends (trackCrossedExit venue entry exit ratchet) seen answer after) :
    Deed venue op desk none after := by
  have hcounted : Counted exit exit.countNotExecuted := .inl rfl
  have hseen := tending_of_findOrder hfind
  simp only [trackCrossedExit, ends_settings_bind] at h
  split at h
  case isTrue =>
    obtain ⟨-, rfl⟩ := ends_setStage.mp h
    exact .waitExit hstage hseen hcounted
  case isFalse hlimit =>
    rw [ends_get_bind, (sees_of_findOrder hfind).2] at h
    rw [(Undisturbed.findOrder hfind).tracker_eq] at hlimit
    -- the limit is read after the list was looked at, which leaves the tracker as it was
    have hoverdue : Overdue desk entry exit :=
      ⟨⟨ticker, hticker, hcrossed⟩, Nat.lt_of_not_le hlimit⟩
    obtain ⟨cancelled, mid, hcancel, h⟩ := cancel_inv h
    have hcancel : Ends (cancel venue exit.id) seen (.ok cancelled) mid := hcancel
    cases cancelled with
    | false =>
      obtain ⟨-, rfl⟩ := ends_setStage.mp h
      exact .waitExit hstage (hseen.tail (.keep hcancel)) hcounted
    | true => exact resubmitExit_deed hstage hfind (.forced hoverdue rfl) hcancel h

/-- An exit is moved to a stop that improves on its ratchet, and to no other. -/
theorem trackStop_deed {entry exit : PlacedOrder} {order : OpenOrder} {ratchet : Ratchet}
    {answer : Except TradingError Unit}
    (hstage : desk.tracker.stage = some (.waitForExit entry exit ratchet))
    (hfind : Ends (findOrder venue exit.id) desk (.ok (some order)) seen)
    (h : Ends (trackStop venue rule entry exit ratchet) seen answer after) :
    Deed venue (.trackExit rule) desk none after := by
  rw [trackStop, ends_askPrice_bind, (sees_of_findOrder hfind).1, (sees_of_findOrder hfind).2] at h
  have hseen := (tending_of_findOrder hfind).tail
    (.remember seen ((rule desk.view entry.side).run desk.rules).2)
  split at h
  case isFalse =>
    obtain ⟨-, rfl⟩ := ends_pure.mp h
    exact .tend hseen
  case isTrue himproves =>
    obtain ⟨cancelled, mid, hcancel, h⟩ := cancel_inv h
    cases cancelled with
    | false =>
      obtain ⟨-, rfl⟩ := ends_pure.mp h
      exact .tend (hseen.tail (.keep hcancel))
    | true => exact resubmitExit_deed hstage hfind (.improved rfl rfl himproves) hcancel h

/-- To watch an exit finds it filled and reports the trade, or finds it open. -/
theorem trackExit_deed {entry exit : PlacedOrder} {ratchet : Ratchet}
    {answer : Except TradingError (Option ClosedTrade)}
    (hstage : desk.tracker.stage = some (.waitForExit entry exit ratchet))
    (h : Ends (trackExit venue rule) desk answer after) :
    Deed venue (.trackExit rule) desk answer.toOption.join after := by
  rw [trackExit, ends_resume_bind hstage] at h
  obtain ⟨_, hlook, rfl⟩ | ⟨found, seen, hfind, h⟩ := ends_bind.mp h
  · exact .tend (tending_of_findOrder hlook)
  cases found with
  | none =>
    obtain ⟨_, hleave, rfl⟩ | ⟨trade, closed, hleave, h⟩ := ends_bind.mp h
    -- the position is closed, unless a fee cannot be had or the ledger refuses the exit
    · obtain ⟨_, -, hseeks, -⟩ | ⟨_, hok, -⟩ := leavePosition_inv hstage hfind hleave
      · exact .tend hseeks.tending
      · cases hok
    · obtain ⟨rfl, rfl⟩ := ends_pure.mp h
      obtain ⟨_, herror, -⟩ | ⟨_, hok, hclosing⟩ := leavePosition_inv hstage hfind hleave
      · cases herror
      · cases hok
        exact .close hclosing
  | some order =>
    have hseen := tending_of_findOrder hfind
    obtain ⟨_, hticker, rfl⟩ | ⟨ticker, quoted, hticker, hopen⟩ := ends_bind.mp h
    · obtain ⟨-, rfl⟩ := ends_newestTicker.mp hticker
      exact .tend hseen
    rw [ends_newestTicker, (Undisturbed.findOrder hfind).prices_eq] at hticker
    cases hquote : desk.prices.ticker with
    | none =>
      rw [hquote] at hticker
      cases hticker.1
    | some newest =>
      rw [hquote] at hticker
      obtain ⟨⟨⟩, rfl⟩ := hticker
      dsimp only at hopen
      split at hopen
      case isTrue hcrossed =>
        obtain ⟨_, rfl, hcrossing⟩ | ⟨rfl, hcrossing⟩ := noTrade_inv hopen
        · exact trackCrossedExit_deed hstage hfind hquote hcrossed hcrossing
        · exact trackCrossedExit_deed hstage hfind hquote hcrossed hcrossing
      case isFalse =>
        obtain ⟨_, rfl, hstop⟩ | ⟨rfl, hstop⟩ := noTrade_inv hopen
        · exact trackStop_deed hstage hfind hstop
        · exact trackStop_deed hstage hfind hstop

/-- An operation of another phase comes to nothing. -/
theorem deed_of_misplaced {stage : Stage} {phase : Phase} {answer : Except TradingError Unit}
    (hstage : desk.tracker.stage = some stage) (hphase : op.phase? = some phase)
    (hmisplaced : stage.phase ≠ phase) (h : Ends (op.run venue) desk answer after) :
    Deed venue op desk none after := by
  obtain ⟨-, rfl⟩ := Prod.mk.inj (h.symm.trans (ends_of_misplaced op hstage hphase hmisplaced))
  exact .tend .refl

/-- Every operation of a tracker that has a stage comes to a deed. -/
theorem deed_of_run (op : Operation κ) {stage : Stage} {answer : Except TradingError Unit}
    (hstage : desk.tracker.stage = some stage) (h : Ends (op.run venue) desk answer after) :
    Deed venue op desk (op.trade? venue desk) after := by
  cases op with
  | look =>
    rw [Operation.run, ends_resume_bind hstage] at h
    obtain ⟨-, rfl⟩ := ends_pure.mp h
    exact .tend .refl
  | placeEnter rule side =>
    cases stage with
    | needEnter => exact placeEnter_deed hstage h
    | waitForEnter | needExit | waitForExit =>
      exact deed_of_misplaced hstage rfl (by simp [Stage.phase]) h
  | trackEnter rule =>
    cases stage with
    | waitForEnter entry => exact trackEnter_deed hstage h
    | needEnter | needExit | waitForExit =>
      exact deed_of_misplaced hstage rfl (by simp [Stage.phase]) h
  | placeExit rule =>
    cases stage with
    | needExit entry ratchet? => exact placeExit_deed hstage h
    | needEnter | waitForEnter | waitForExit =>
      exact deed_of_misplaced hstage rfl (by simp [Stage.phase]) h
  | trackExit rule =>
    -- the operation drops the trade, which is told apart from it
    rw [Operation.trade?]
    rcases htrack : outcome (trackExit venue rule) desk with ⟨closed?, tracked⟩
    have htrack : Ends (trackExit venue rule) desk closed? tracked := htrack
    obtain rfl : after = tracked := by
      obtain ⟨_, h, -⟩ | ⟨_, mid, h, hpure⟩ := ends_bind.mp h
      · exact (Prod.mk.inj (h.symm.trans htrack)).2
      · obtain ⟨-, rfl⟩ := ends_pure.mp hpure
        exact (Prod.mk.inj (h.symm.trans htrack)).2
    cases stage with
    | waitForExit entry exit ratchet => exact trackExit_deed hstage htrack
    | needEnter | waitForEnter | needExit =>
      rw [trackExit, ends_resume_bind hstage] at htrack
      obtain ⟨rfl, rfl⟩ := ends_throw.mp htrack
      exact .tend .refl

end Deeds

end Tracker

end SwingTrader
