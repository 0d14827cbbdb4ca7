import SwingTrader.Proofs.Session.Restart

/-!
# SwingTrader — what a trade tells of its fills

A trade is reckoned from two orders, the one that opened its position and the one
that closed it. The venue keeps a record of its own, of every fill. What the two
have in common is shown here: the fills of those two orders are at the prices of
the trade. An order that was given up or replaced may have been filled in part
before, and what it was filled at is not told.

* `ClosedTrade.Reports` — what a trade tells of the fills since the last one;
* `Tracker.OnRecord` — the record is in step with the stage; every turn carries it on;
* `Session.Trading` — sessions at a paper venue, and where its record stood when
  the last trade was closed;
* `Session.reports_of_trading` — a trade reports the orders that opened and closed
  its position.
-/

namespace SwingTrader

variable {κ : Type}

open Desk Tracker

/-! ## Fills -/

namespace Fill

/-- Nothing was filled but orders that open a position. -/
def Opening (fills : List Fill) : Prop :=
  ∀ fill ∈ fills, fill.kind.isEnter = true

/-- The last order that was filled to open a position was filled at a price. -/
def EntersAt (fills : List Fill) (price : Float) : Prop :=
  ∀ last ∈ (fills.filter fun fill => fill.kind.isEnter).getLast?,
    ∀ fill ∈ fills, fill.kind.isEnter = true → fill.orderId = last.orderId → fill.price = price

/-- All that was filled to open a position, or to close it, was filled for one order. -/
def OfOneOrder (fills : List Fill) (isEnter : Bool) : Prop :=
  ∀ fill ∈ fills, ∀ other ∈ fills, fill.kind.isEnter = isEnter → other.kind.isEnter = isEnter →
    fill.orderId = other.orderId

instance (fills : List Fill) (isEnter : Bool) : Decidable (OfOneOrder fills isEnter) :=
  inferInstanceAs (Decidable (∀ fill ∈ fills, ∀ other ∈ fills, fill.kind.isEnter = isEnter →
    other.kind.isEnter = isEnter → fill.orderId = other.orderId))

variable {fills : List Fill} {fill : Fill} {price : Float}

theorem Opening.append (h : Opening fills) (hfill : fill.kind.isEnter = true) :
    Opening (fills ++ [fill]) :=
  List.forall_mem_append.mpr ⟨h, List.forall_mem_singleton.mpr hfill⟩

/-- What is filled to close a position does not change what opened it. -/
theorem EntersAt.append (h : EntersAt fills price) (hfill : fill.kind.isEnter = false) :
    EntersAt (fills ++ [fill]) price := by
  intro last hlast
  rw [List.filter_append, List.filter_singleton, hfill] at hlast
  refine List.forall_mem_append.mpr ⟨h last (by simpa using hlast),
    List.forall_mem_singleton.mpr ?_⟩
  intro henters
  cases hfill.symm.trans henters

end Fill

namespace PlacedOrder

/-- The fills of an order are at its price. -/
def Prices (order : PlacedOrder) (fills : List Fill) : Prop :=
  ∀ fill ∈ fills, fill.orderId = order.id → fill.price = order.price

/-- The last fill on record is of an order. -/
def FilledLast (order : PlacedOrder) (fills : List Fill) : Prop :=
  ∃ last, fills.getLast? = some last ∧ last.orderId = order.id ∧ last.kind = order.kind

section Fills

variable {order : PlacedOrder} {fills : List Fill} {fill : Fill}

theorem Prices.append (h : order.Prices fills) (hprice : fill.price = order.price) :
    order.Prices (fills ++ [fill]) :=
  List.forall_mem_append.mpr ⟨h, List.forall_mem_singleton.mpr fun _ => hprice⟩

theorem FilledLast.append (hid : fill.orderId = order.id) (hkind : fill.kind = order.kind) :
    order.FilledLast (fills ++ [fill]) :=
  ⟨fill, List.getLast?_concat, hid, hkind⟩

/-- As long as only entries were filled, the last fill of all is the last of an entry. -/
theorem FilledLast.entersAt (h : order.FilledLast fills) (hopening : Fill.Opening fills)
    (hprices : order.Prices fills) : Fill.EntersAt fills order.price := by
  obtain ⟨last, hlast, hid, -⟩ := h
  intro last' hlast' fill hfill _ hfillId
  rw [List.filter_eq_self.mpr hopening, hlast] at hlast'
  cases hlast'
  exact hprices fill hfill (hfillId.trans hid)

end Fills

end PlacedOrder

/-! ## On record -/

namespace Paper

/-- What was filled since the record had a length. -/
def filledSince (paper : Paper) (mark : Nat) : List Fill :=
  paper.fills.drop mark

/-- The orders on the book, and those filled since, have numbers that were given out. -/
structure Numbered (mark : Nat) (paper : Paper) : Prop where
  marked : mark ≤ paper.fills.length
  listed : ∀ order ∈ paper.orders, ∃ n < paper.nextId, order.id = .ofNat n
  filled : ∀ fill ∈ paper.filledSince mark, ∃ n < paper.nextId, fill.orderId = .ofNat n

section Numbered

variable {mark : Nat} {paper after : Paper}

/-- An order that is placed has a number under which nothing was filled yet. -/
theorem Numbered.prices {order : PlacedOrder} (h : Numbered mark paper)
    (hplaces : paper.Places order after) : order.Prices (paper.filledSince mark) := by
  intro fill hfill hid
  obtain ⟨n, hn, hnumber⟩ := h.filled fill hfill
  have hnext := hnumber.symm.trans (hid.trans hplaces.numbers.1)
  exact absurd (OrderId.ofNat_inj.mp hnext) hn.ne

/-- An order that is placed gets a number that was not given out. -/
theorem Numbered.places {order : PlacedOrder} (h : Numbered mark paper)
    (hplaces : paper.Places order after) : Numbered mark after := by
  obtain ⟨hid, hnext, hfills⟩ := hplaces.numbers
  have hgiven {id : OrderId} : (∃ n < paper.nextId, id = .ofNat n) →
      ∃ n < after.nextId, id = .ofNat n := by
    rintro ⟨n, hn, rfl⟩
    exact ⟨n, by omega, rfl⟩
  refine ⟨hfills ▸ h.marked, ?_, ?_⟩
  · rw [hplaces.orders_eq]
    refine List.forall_mem_append.mpr ⟨fun listed hlisted => hgiven (h.listed listed hlisted), ?_⟩
    exact List.forall_mem_singleton.mpr ⟨paper.nextId, by omega, hid⟩
  · rw [filledSince, hfills]
    exact fun fill hfill => hgiven (h.filled fill hfill)

theorem Numbered.spares (h : Numbered mark paper) (hspares : paper.Spares after) :
    Numbered mark after := by
  obtain ⟨_, _, _, rfl⟩ := hspares
  exact ⟨h.marked, h.listed, h.filled⟩

/-- An order that is taken off has a number that was given out. -/
theorem Numbered.takesOff {order : OpenOrder} (h : Numbered mark paper)
    (htakes : paper.TakesOff order after)
    (hbook : paper.orders = [] ∨ ∃ listed, paper.orders = [listed]) : Numbered mark after := by
  obtain ⟨hnext, hfills⟩ := htakes.numbers
  refine ⟨hfills ▸ h.marked, ?_, ?_⟩
  · rw [(htakes.orders_eq hbook).2]
    exact nofun
  · rw [filledSince, hfills, hnext]
    exact h.filled

theorem filledSince_spares (hspares : paper.Spares after) :
    after.filledSince mark = paper.filledSince mark := by
  obtain ⟨_, _, _, rfl⟩ := hspares
  rfl

/-- Placing an order fills nothing. -/
theorem filledSince_places {order : PlacedOrder} (h : paper.Places order after) :
    after.filledSince mark = paper.filledSince mark := by
  rw [filledSince, h.numbers.2.2, filledSince]

/-- Taking an order off fills nothing. -/
theorem filledSince_takesOff {order : OpenOrder} (h : paper.TakesOff order after) :
    after.filledSince mark = paper.filledSince mark := by
  rw [filledSince, h.numbers.2, filledSince]

end Numbered

end Paper

namespace Tracker

/-- What is on record in each stage, of what was filled since the last trade was closed. -/
def Recorded (fills : List Fill) (paper : Paper) : Option Stage → Prop
  | none => fills = []
  | some .needEnter => Fill.Opening fills
  | some (.waitForEnter entry) =>
    entry.kind.isEnter = true ∧ Fill.Opening fills ∧ entry.Prices fills ∧
      (paper.Untouched ∨ entry.FilledLast fills)
  | some (.needExit entry _) =>
    Fill.EntersAt fills entry.price ∧ (entry.side = .short → Fill.Opening fills)
  | some (.waitForExit entry exit _) =>
    Fill.EntersAt fills entry.price ∧ exit.Prices fills ∧
      (paper.orders = [] → exit.FilledLast fills) ∧
        (entry.side = .short → ∀ fill ∈ fills, fill.kind.isEnter = false →
          paper.orders = [] ∧ fill.price = exit.price)

/-- The record is in step with the stage. -/
structure OnRecord (mark : Nat) (market : Market) (paper : Paper)
    (stage? : Option Stage) : Prop where
  inStep : InStep market paper stage?
  numbered : paper.Numbered mark
  recorded : Recorded (paper.filledSince mark) paper stage?

section Turns

variable {mark : Nat} {market : Market} {paper after : Paper} {stage? stage?' : Option Stage}

/-- There is at most one order on a book in step with its stage. -/
theorem InStep.atMostOne (h : InStep market paper stage?) :
    paper.orders = [] ∨ ∃ listed, paper.orders = [listed] := by
  obtain hempty | ⟨order, -, hbook, -⟩ := h.keepsBook
  · exact .inl hempty
  · exact .inr ⟨order, hbook⟩

/-- A turn gives numbers out in order. -/
theorem Turn.numbered (h : Turn market paper stage? after stage?')
    (hstep : InStep market paper stage?)
    (hnumbered : paper.Numbered mark) : after.Numbered mark := by
  cases h with
  | spare spares | fill _ spares | flat _ _ spares | held _ _ _ spares | adoptEntry _ _ spares
  | adoptExit _ _ spares => exact hnumbered.spares spares
  | enter _ places | leave _ _ places => exact hnumbered.places places
  | waitEnter | waitExit => exact hnumbered
  | giveUp _ _ takesOff | takePart _ _ _ _ _ takesOff | withdraw _ takesOff =>
    exact hnumbered.takesOff takesOff hstep.atMostOne

/-- Calls that are set to fail leave the record as it is. -/
theorem Recorded.spares {fills : List Fill} (h : Recorded fills paper stage?)
    (hspares : paper.Spares after) : Recorded fills after stage? := by
  obtain ⟨_, _, _, rfl⟩ := hspares
  rcases stage? with _ | _ | _ | _ | _ <;> exact h

/-- An order that was just placed is untouched. -/
theorem untouched_of_places {order : PlacedOrder} (h : paper.Places order after) :
    after.Untouched := by
  refine ⟨⟨order.id, order.kind, order.price, order.quantity, order.quantity⟩, ?_, ?_⟩
  · rw [h.orders_eq]
    exact List.mem_concat_self
  · exact decide_eq_false Double.lt_irrefl

theorem not_untouched_of_nil (h : paper.orders = []) : ¬paper.Untouched := by
  rintro ⟨order, horder, -⟩
  rw [h] at horder
  cases horder

/-- An order that is filled in part, and is all that is on the book, was filled last. -/
theorem filledLast_of_part {entry : PlacedOrder} {order : OpenOrder} {fills : List Fill}
    (hbook : paper.KeepsOnly entry) (htakes : paper.TakesOff order after)
    (hpart : order.isPartiallyFilled = true) (h : paper.Untouched ∨ entry.FilledLast fills) :
    entry.FilledLast fills := by
  refine h.resolve_left ?_
  rintro ⟨listed, hlisted, hwhole⟩
  rw [(htakes.orders_eq hbook.atMostOne).1, List.mem_singleton] at hlisted
  cases hwhole.symm.trans (hlisted ▸ hpart)

/-- Counting a tick does not change the price of an order. -/
theorem Counted.prices {order order' : PlacedOrder} {fills : List Fill} (h : Counted order order')
    (hprices : order.Prices fills) : order'.Prices fills := by
  rw [PlacedOrder.Prices, h.id_eq, h.price_eq]
  exact hprices

/-- Counting a tick does not change which order was filled last. -/
theorem Counted.filledLast {order order' : PlacedOrder} {fills : List Fill}
    (h : Counted order order')
    (hlast : order.FilledLast fills) : order'.FilledLast fills := by
  rw [PlacedOrder.FilledLast, h.id_eq, h.kind_eq]
  exact hlast

/-- A turn keeps the record in step with its stage, and fills nothing. -/
theorem Turn.recorded (h : Turn market paper stage? after stage?')
    (hrecord : OnRecord mark market paper stage?) :
    Recorded (after.filledSince mark) after stage?' := by
  -- no turn fills an order, so the record is looked at from another stage
  obtain ⟨hstep, hnumbered, hrecorded⟩ := hrecord
  cases h with
  | spare spares =>
    rw [Paper.filledSince_spares spares]
    exact hrecorded.spares spares
  | enter enters places =>
    rw [Paper.filledSince_places places]
    exact ⟨enters, hrecorded, hnumbered.prices places, .inl (untouched_of_places places)⟩
  | leave leaves whole places =>
    rw [Paper.filledSince_places places]
    obtain ⟨henters, hshort⟩ := hrecorded
    refine ⟨henters, hnumbered.prices places, ?_, ?_⟩
    · simp [places.orders_eq]
    · intro hside fill hfill hexit
      cases (hshort hside fill hfill).symm.trans hexit
  | waitEnter counted =>
    obtain ⟨henters, hopening, hprices, hfilled⟩ := hrecorded
    exact ⟨counted.kind_eq ▸ henters, hopening, counted.prices hprices,
      hfilled.imp_right counted.filledLast⟩
  | waitExit counted =>
    obtain ⟨henters, hprices, hfilled, hshort⟩ := hrecorded
    refine ⟨henters, counted.prices hprices,
      fun hempty => counted.filledLast (hfilled hempty), ?_⟩
    rw [counted.price_eq]
    exact hshort
  | fill missing spares =>
    rw [Paper.filledSince_spares spares]
    obtain ⟨-, hopening, hprices, hfilled⟩ := hrecorded
    -- an entry that is missing from the book was filled
    have hlast := hfilled.resolve_left (not_untouched_of_nil (hstep.orders_eq_nil missing))
    exact ⟨hlast.entersAt hopening hprices, fun _ => hopening⟩
  | giveUp id_eq whole takesOff =>
    rw [Paper.filledSince_takesOff takesOff]
    exact hrecorded.2.1
  | takePart id_eq part side_eq price_eq held takesOff =>
    rw [Paper.filledSince_takesOff takesOff]
    obtain ⟨-, hopening, hprices, hfilled⟩ := hrecorded
    have hlast := filledLast_of_part hstep takesOff part hfilled
    exact ⟨price_eq ▸ hlast.entersAt hopening hprices, fun _ => hopening⟩
  | withdraw id_eq takesOff =>
    rw [Paper.filledSince_takesOff takesOff]
    obtain ⟨henters, -, -, hshort⟩ := hrecorded
    refine ⟨henters, fun hside fill hfill => ?_⟩
    -- the exit of a short is only on the book as long as nothing of it is filled
    by_contra hexit
    obtain ⟨hempty, -⟩ := hshort hside fill hfill (Bool.not_eq_true _ ▸ hexit)
    obtain ⟨hbook, -⟩ := takesOff.orders_eq hstep.atMostOne
    cases hempty.symm.trans hbook
  | flat empty not_above spares =>
    rw [Paper.filledSince_spares spares, show paper.filledSince mark = [] from hrecorded]
    exact nofun
  | held empty above side_eq spares =>
    rw [Paper.filledSince_spares spares, show paper.filledSince mark = [] from hrecorded]
    exact ⟨nofun, fun _ => nofun⟩
  | adoptEntry alone enters spares => cases hstep.symm.trans alone
  | adoptExit alone leaves spares => cases hstep.symm.trans alone

/-- Being on record is carried through a tick. -/
theorem onRecord_carried (mark : Nat) : Carried (OnRecord mark) where
  turn := fun _ _ _ _ _ hturn h =>
    ⟨inStep_keptByTurns hturn h.inStep, hturn.numbered h.inStep h.numbered, hturn.recorded h⟩
  cutOff := by
    intro market paper after entry order hid hpart htakes h
    obtain ⟨henters, hopening, hprices, hfilled⟩ := h.recorded
    refine ⟨inStep_kept.cutOff hid hpart htakes h.inStep,
      h.numbered.takesOff htakes h.inStep.atMostOne, ?_⟩
    rw [Paper.filledSince_takesOff htakes]
    exact ⟨henters, hopening, hprices, .inr (filledLast_of_part h.inStep htakes hpart hfilled)⟩

end Turns

end Tracker

/-! ## Tickers -/

namespace Paper

section Tickers

variable {mark : Nat} {paper after : Paper} {ticker : Ticker} {order : OpenOrder}

/--
A ticker leaves the only order on the book alone, or fills some of it and puts that on
record.
-/
theorem setTicker_records (h : paper.orders = [order]) (ticker : Ticker) :
    paper.setTicker ticker = { paper with ticker := some ticker } ∨
      ∃ filled, (paper.setTicker ticker).fills =
          paper.fills ++ [⟨order.id, order.kind, filled, order.price⟩] ∧
        (paper.setTicker ticker).nextId = paper.nextId ∧
          (paper.setTicker ticker).orders = remainder order (paper.fillQuantity order) := by
  rw [setTicker_of_singleton h]
  split
  · let shown : Paper := { paper with ticker := some ticker }
    obtain ⟨filled, hfills⟩ := shown.fills_settle order (paper.fillQuantity order)
    obtain ⟨_, _, _, hsettle⟩ := shown.settle_eq order (paper.fillQuantity order)
    have hnext : (shown.settle order (paper.fillQuantity order)).nextId = paper.nextId := by
      rw [hsettle]
    exact .inr ⟨filled, hfills, hnext, rfl⟩
  · exact .inl rfl

/-- Nothing is left of the exit of a short once it is filled. -/
theorem remainder_shortExit {quantity : Float} (h : order.kind = .shortExit) :
    remainder order quantity = [] := by
  rw [remainder, staysOpen, h]
  rfl

/-- A fill is the newest of those since the record had a length. -/
theorem filledSince_append {fill : Fill} (h : mark ≤ paper.fills.length)
    (hfills : after.fills = paper.fills ++ [fill]) :
    after.filledSince mark = paper.filledSince mark ++ [fill] := by
  rw [filledSince, hfills, List.drop_append_of_le_length h, filledSince]

/-- A ticker gives no numbers out, and fills orders that have one. -/
theorem Numbered.setTicker (h : paper.Numbered mark)
    (hbook : paper.orders = [] ∨ ∃ listed, paper.orders = [listed]) :
    (paper.setTicker ticker).Numbered mark := by
  obtain hempty | ⟨order, hbook⟩ := hbook
  · rw [setTicker_of_nil hempty]
    exact ⟨h.marked, h.listed, h.filled⟩
  obtain hsame | ⟨filled, hfills, hnext, hrest⟩ := setTicker_records hbook ticker
  · rw [hsame]
    exact ⟨h.marked, h.listed, h.filled⟩
  -- the fill and what is left of the order have the number of the order
  have hid := h.listed order (hbook ▸ List.mem_singleton_self _)
  refine ⟨?_, ?_, ?_⟩
  · rw [hfills, List.length_append]
    exact Nat.le_add_right_of_le h.marked
  · rw [hrest, hnext]
    obtain hrest | hrest := remainder_cases order (paper.fillQuantity order)
    · rw [hrest]
      exact nofun
    · rw [hrest]
      exact List.forall_mem_singleton.mpr hid
  · rw [filledSince_append h.marked hfills, hnext]
    exact List.forall_mem_append.mpr ⟨h.filled, List.forall_mem_singleton.mpr hid⟩

end Tickers

end Paper

namespace Tracker

section Tickers

variable {mark : Nat} {market : Market} {paper after : Paper} {stage? : Option Stage}
    {ticker : Ticker}

/-- A ticker that leaves the book alone leaves the record as it is. -/
theorem Recorded.shown {fills : List Fill} (h : Recorded fills paper stage?) :
    Recorded fills { paper with ticker := some ticker } stage? := by
  rcases stage? with _ | _ | _ | _ | _ <;> exact h

/-- Whatever a ticker fills, the record stays in step with the stage. -/
theorem Recorded.setTicker (h : OnRecord mark market paper stage?) :
    Recorded ((paper.setTicker ticker).filledSince mark) (paper.setTicker ticker) stage? := by
  obtain ⟨hstep, hnumbered, hrecorded⟩ := h
  obtain hempty | ⟨order, placed, hbook, hawaited, horder⟩ := hstep.keepsBook
  · rw [Paper.setTicker_of_nil hempty]
    exact hrecorded.shown
  obtain hsame | ⟨filled, hfills, -, hrest⟩ := Paper.setTicker_records hbook ticker
  · rw [hsame]
    exact hrecorded.shown
  rw [Paper.filledSince_append hnumbered.marked hfills]
  -- what is filled is the order that the stage waits for
  rcases stage? with _ | _ | entry | _ | ⟨entry, exit, _⟩
  · cases hawaited
  · cases hawaited
  · cases hawaited
    obtain ⟨henters, hopening, hprices, -⟩ := hrecorded
    exact ⟨henters, hopening.append (horder.kind_eq ▸ henters), hprices.append horder.price_eq,
      .inr (.append horder.id_eq horder.kind_eq)⟩
  · cases hawaited
  · cases hawaited
    obtain ⟨henters, hprices, -, hshort⟩ := hrecorded
    have hkind : order.kind = entry.side.exitKind := horder.kind_eq.trans hstep.2.1
    refine ⟨henters.append (hkind ▸ Side.isEnter_exitKind _), hprices.append horder.price_eq,
      fun _ => .append horder.id_eq horder.kind_eq, fun hside => ?_⟩
    rw [hside] at hkind
    rw [hrest, Paper.remainder_shortExit hkind]
    refine List.forall_mem_append.mpr ⟨fun fill hfill hexit => ?_, ?_⟩
    · exact ⟨rfl, (hshort hside fill hfill hexit).2⟩
    · exact List.forall_mem_singleton.mpr fun _ => ⟨rfl, horder.price_eq⟩

/-- What happens between two ticks leaves the record in step with the stage. -/
theorem OnRecord.meanwhile (h : OnRecord mark market paper stage?)
    (hchange : paper.Meanwhile after) :
    OnRecord mark market after stage? := by
  have hstep := h.inStep.meanwhile hchange
  cases hchange with
  | ticker ticker => exact ⟨hstep, h.numbered.setTicker h.inStep.atMostOne, .setTicker h⟩
  | partialFill fraction =>
    obtain ⟨-, ⟨hmarked, hlisted, hfilled⟩, hrecorded⟩ := h
    refine ⟨hstep, ⟨hmarked, hlisted, hfilled⟩, ?_⟩
    rcases stage? with _ | _ | _ | _ | _ <;> exact hrecorded
  | failing cancels calls afterCancel =>
    have hspares : paper.Spares (paper.failing cancels calls afterCancel) := ⟨_, _, _, rfl⟩
    exact ⟨hstep, h.numbered.spares hspares, h.recorded.spares hspares⟩

end Tickers

end Tracker

/-! ## Sessions -/

/-- What a trade tells of the fills of its position. -/
structure ClosedTrade.Reports (trade : ClosedTrade) (fees : Fees) (fills : List Fill) : Prop where
  entry : Fill.EntersAt fills trade.entryPrice
  exit : ∃ last, fills.getLast? = some last ∧ last.kind = trade.side.exitKind ∧
    ∀ fill ∈ fills, fill.orderId = last.orderId → fill.price = trade.exitPrice
  short : trade.side = .short →
    ∀ fill ∈ fills, fill.kind.isEnter = false → fill.price = trade.exitPrice
  gain_eq :
    trade.gain = realizedGain trade.side trade.quantity trade.entryPrice trade.exitPrice fees

namespace ClosedTrade.Reports

variable {trade : ClosedTrade} {fees : Fees} {fills : List Fill}

/-- Every fill that opened the position is at the entry price, if all are of one order. -/
theorem entries (h : trade.Reports fees fills) (hone : Fill.OfOneOrder fills true) :
    ∀ fill ∈ fills, fill.kind.isEnter = true → fill.price = trade.entryPrice := by
  intro fill hfill henters
  cases hlast : (fills.filter fun fill => fill.kind.isEnter).getLast? with
  | none =>
    rw [List.getLast?_eq_none_iff, List.filter_eq_nil_iff] at hlast
    exact absurd henters (hlast fill hfill)
  | some last =>
    obtain ⟨hmem, hlastEnters⟩ := List.mem_filter.mp (List.mem_of_getLast? hlast)
    exact h.entry last hlast fill hfill henters (hone fill hfill last hmem henters hlastEnters)

/-- Every fill that closed the position is at the exit price, if all are of one order. -/
theorem exits (h : trade.Reports fees fills) (hone : Fill.OfOneOrder fills false) :
    ∀ fill ∈ fills, fill.kind.isEnter = false → fill.price = trade.exitPrice := by
  intro fill hfill hexit
  obtain ⟨last, hlast, hkind, hprices⟩ := h.exit
  have hlastExit : last.kind.isEnter = false := by rw [hkind, Side.isEnter_exitKind]
  exact hprices fill hfill (hone fill hfill last (List.mem_of_getLast? hlast) hexit hlastExit)

end ClosedTrade.Reports

namespace Session

/--
The sessions that trade at one paper venue, on whose book there was nothing when
they began, and the length of the record of the venue when the last trade was
closed, or else when they began.
-/
inductive Trading : Nat → Session Paper κ → Prop where
  | start (market : Market) (config : StrategyConfig) {paper : Paper} (empty : paper.orders = [])
      (rules : κ) : Trading paper.fills.length (start market config paper rules)
  | meanwhile {mark : Nat} {session : Session Paper κ} (run : Trading mark session) {paper : Paper}
      (change : session.desk.venue.Meanwhile paper) :
      Trading mark { session with desk := { session.desk with venue := paper } }
  | goesOn {mark : Nat} {session : Session Paper κ} (run : Trading mark session)
      {strategy : Strategy κ}
      (no_trade : ∀ trade, (session.onTick Paper.venue strategy).1 ≠ .ok (some trade)) :
      Trading mark (session.onTick Paper.venue strategy).2
  | closes {mark : Nat} {session : Session Paper κ} (run : Trading mark session)
      {strategy : Strategy κ} {trade : ClosedTrade}
      (answer_eq : (session.onTick Paper.venue strategy).1 = .ok (some trade)) :
      Trading (session.onTick Paper.venue strategy).2.desk.venue.fills.length
        (session.onTick Paper.venue strategy).2

variable {mark : Nat} {session : Session Paper κ} {strategy : Strategy κ}

/-- Where nothing was filled yet and nothing is on the book, the record begins. -/
theorem onRecord_of_nil {market : Market} {paper : Paper} {stage? : Option Stage}
    (hempty : paper.orders = []) (hstage : stage? = none ∨ stage? = some .needEnter) :
    OnRecord paper.fills.length market paper stage? := by
  have hnone : paper.filledSince paper.fills.length = [] := List.drop_length
  obtain rfl | rfl := hstage
  · exact ⟨hempty, ⟨le_rfl, by simp [hempty], by simp [hnone]⟩, hnone⟩
  · exact ⟨hempty, ⟨le_rfl, by simp [hempty], by simp [hnone]⟩,
      by simp [Tracker.Recorded, hnone, Fill.Opening]⟩

/-- A session that trades is on record between any two ticks. -/
theorem Trading.steady (run : Trading mark session) : session.Steady (OnRecord mark) := by
  induction run with
  | start market config empty rules => exact ⟨nofun, onRecord_of_nil empty (.inl rfl)⟩
  | meanwhile _ change ih => exact ⟨ih.upTo, ih.holds.meanwhile change⟩
  | @goesOn mark session _ strategy no_trade ih =>
    obtain ⟨-, hupTo, hcarries⟩ := ih.carries (onRecord_carried mark) strategy
    cases hcarries with
    | on _ holds => exact ⟨hupTo, holds⟩
    | closes answer_eq => exact absurd answer_eq (no_trade _)
  | @closes mark session _ strategy trade answer_eq ih =>
    obtain ⟨-, hupTo, hcarries⟩ := ih.carries (onRecord_carried mark) strategy
    cases hcarries with
    | on no_trade => exact absurd answer_eq (no_trade trade)
    | closes _ closed holds =>
      -- the book is empty once the position is closed, and the record begins anew
      have hempty := inStep_kept.of_closed closed holds.inStep
      rw [closed.stage_eq] at hempty
      refine ⟨hupTo, ?_⟩
      rw [closed.stage_eq]
      exact onRecord_of_nil hempty (.inr rfl)

/--
**A trade reports the orders that opened and closed its position**, whatever was
filled in parts and whatever failed: the fills of these two are at its prices, and
so is every fill on a side on which no other order was filled. The exit of a short
is never filled in parts, so a short reports its exit in any case.
-/
theorem reports_of_trading (run : Trading mark session) {trade : ClosedTrade}
    (hanswer : (session.onTick Paper.venue strategy).1 = .ok (some trade)) :
    let fills := (session.onTick Paper.venue strategy).2.desk.venue.filledSince mark
    trade.Reports (session.onTick Paper.venue strategy).2.desk.venue.terms.fees fills ∧
      (Fill.OfOneOrder fills true →
        ∀ fill ∈ fills, fill.kind.isEnter = true → fill.price = trade.entryPrice) ∧
      (Fill.OfOneOrder fills false →
        ∀ fill ∈ fills, fill.kind.isEnter = false → fill.price = trade.exitPrice) := by
  intro fills
  obtain ⟨-, -, hcarries⟩ := run.steady.carries (onRecord_carried mark) strategy
  cases hcarries with
  | on no_trade => exact absurd hanswer (no_trade trade)
  | @closes mid entry exit _ answer_eq closed holds =>
    cases answer_eq.symm.trans hanswer
    obtain ⟨ratchet, hstage⟩ := closed.awaits
    obtain ⟨hstep, -, hrecorded⟩ := holds
    rw [hstage] at hstep hrecorded
    obtain ⟨hbook, hkind, -⟩ := hstep
    obtain ⟨henters, hprices, hfilled, hshort⟩ := hrecorded
    -- the exit is missing from the book, so it was filled last
    obtain ⟨last, hlast, hid, hlastKind⟩ := hfilled (hbook.orders_eq_nil closed.missing)
    have hreports :
        trade.Reports (session.onTick Paper.venue strategy).2.desk.venue.terms.fees fills := by
      rw [closed.trade_eq, closed.spares.terms_eq,
        show fills = mid.venue.filledSince mark from Paper.filledSince_spares closed.spares]
      refine ⟨henters, ⟨last, hlast, hlastKind.trans hkind, ?_⟩, ?_, rfl⟩
      · exact fun fill hfill hlastId => hprices fill hfill (hlastId.trans hid)
      · exact fun hside fill hfill hexit => (hshort hside fill hfill hexit).2
    exact ⟨hreports, hreports.entries, hreports.exits⟩

/-! ### A position that is left in one order, and one that is left in two -/

/-- The venue of a session is set to fill a fraction of each order. -/
def inParts (session : Session Paper κ) (fraction : Option Float) : Session Paper κ :=
  { session with desk :=
    { session.desk with venue := { session.desk.venue with partialFill := fraction } } }

/-- A venue may be set to fill parts of orders at any time. -/
theorem Trading.inParts (run : Trading mark session) (fraction : Option Float) :
    Trading mark (session.inParts fraction) :=
  .meanwhile run (.partialFill fraction)

/-- A ticker may be published at any time. -/
theorem Trading.shown (run : Trading mark session) (ticker : Ticker) :
    Trading mark (session.shown ticker) :=
  .meanwhile run (.ticker ticker)

/-- No trade is closed in a run at whose end there are no more trades than before. -/
theorem Trading.eagerly {session : Session Paper Unit} (run : Trading mark session)
    (ticker : Ticker)
    (hnone : (session.eagerly ticker).closedTrades.length = session.closedTrades.length) :
    Trading mark (session.eagerly ticker) := by
  refine .goesOn (run.shown ticker) fun trade hanswer => ?_
  rw [Session.eagerly, closedTrades_of_trade trade hanswer, List.length_append] at hnone
  exact absurd hnone (Nat.succ_ne_self _)

/-- A session that has bought almost five coins at 101 and is to sell them at 99. -/
def selling : Session Paper Unit :=
  [Paper.narrow, Paper.narrow, Paper.narrow].foldl eagerly
    (atPaper {} (.holding (.ofCurrencies "BTC" "EUR") [("EUR", 1000.0)]))

/-- Half of the coins are sold at 99, and the other half, once the exit has been moved, at 105. -/
def soldInTwo : Session Paper Unit :=
  ((((selling.inParts (some 0.5)).eagerly Paper.narrow).eagerly (level 105.0)).inParts none).shown
    (level 105.0)

/-- A session that has had no tick trades, at a venue without orders and fills. -/
theorem trading_atPaper (config : StrategyConfig) {paper : Paper} (hempty : paper.orders = [])
    (hfills : paper.fills = []) : Trading 0 (atPaper config paper) := by
  have run := Trading.start paper.terms.market config hempty ()
  rw [hfills] at run
  exact run

theorem trading_selling : Trading 0 selling := by
  refine .eagerly (.eagerly (.eagerly (trading_atPaper _ rfl rfl) _ ?_) _ ?_) _ ?_
  · decide +kernel
  · decide +kernel
  · decide +kernel

theorem trading_soldInTwo : Trading 0 soldInTwo := by
  refine .shown (.inParts (.eagerly (.eagerly (trading_selling.inParts _) _ ?_) _ ?_) _) _
  · decide +kernel
  · decide +kernel

/-- The trade of coins that are sold at once is at the price that they were sold at. -/
theorem reports_of_sold :
    ∃ trade, ((selling.shown Paper.narrow).onTick Paper.venue .eager).1 = .ok (some trade) ∧
      ∀ fill ∈ ((selling.shown Paper.narrow).onTick Paper.venue .eager).2.desk.venue.filledSince 0,
        fill.price = if fill.kind.isEnter then trade.entryPrice else trade.exitPrice := by
  have hone : ∀ isEnter,
      Fill.OfOneOrder
        (((selling.shown Paper.narrow).onTick Paper.venue .eager).2.desk.venue.filledSince 0)
        isEnter := by
    decide +kernel
  obtain ⟨trade, hanswer, -⟩ := closes_of_side
    (show ((selling.shown Paper.narrow).onTick Paper.venue .eager).1.toOption.join.map
      ClosedTrade.side = some .long by decide +kernel)
  obtain ⟨-, hentries, hexits⟩ := reports_of_trading (trading_selling.shown Paper.narrow) hanswer
  refine ⟨trade, hanswer, fun fill hfill => ?_⟩
  split
  next henters => exact hentries (hone true) fill hfill henters
  next hexit => exact hexits (hone false) fill hfill (Bool.not_eq_true _ ▸ hexit)

/--
A session that has given up a purchase, which was filled by too little to show in what
is left.
-/
def givenUp : Session Paper Unit :=
  [level 100.0, level 100.0, level 101.0].foldl eagerly
    (atPaper { limits := { enterNotExecuted := 0 } }
      { Paper.new (.ofCurrencies "BTC" "EUR") 0.0 1e-18 0.005 with
        balances := ⟨[("EUR", 1000.0)]⟩
        partialFill := some 1e-17 })

/-- The coins are bought after all, and sold again. -/
def boughtTwice : Session Paper Unit :=
  ([level 101.0, level 101.0, level 101.0].foldl eagerly (givenUp.inParts none)).shown (level 101.0)

theorem trading_givenUp : Trading 0 givenUp := by
  refine .eagerly (.eagerly (.eagerly (trading_atPaper _ rfl rfl) _ ?_) _ ?_) _ ?_
  · decide +kernel
  · decide +kernel
  · decide +kernel

theorem trading_boughtTwice : Trading 0 boughtTwice := by
  refine .shown (.eagerly (.eagerly (.eagerly (trading_givenUp.inParts _) _ ?_) _ ?_) _ ?_) _
  · decide +kernel
  · decide +kernel
  · decide +kernel

/-- The next tick closes a trade that does not tell the price of some fill since the last trade. -/
def Untold (session : Session Paper Unit) (mark : Nat) (isEnter : Bool) : Prop :=
  ∃ trade ∈ (session.onTick Paper.venue .eager).1.toOption.join,
    ∃ fill ∈ (session.onTick Paper.venue .eager).2.desk.venue.filledSince mark,
      fill.kind.isEnter = isEnter ∧
        fill.price ≠ if isEnter then trade.entryPrice else trade.exitPrice

/--
A trade does not tell what was sold before its exit was moved, nor what was bought
before its entry was placed anew. Almost twenty is told to be gained where less
than five is.
-/
theorem untold_of_trading :
    (Trading 0 soldInTwo ∧ soldInTwo.Untold 0 false ∧
      (∃ trade ∈ (soldInTwo.onTick Paper.venue .eager).1.toOption.join, 19.0 < trade.gain) ∧
        (soldInTwo.onTick Paper.venue .eager).2.desk.venue.balance "EUR" < 1000.0 + 5.0) ∧
      Trading 0 boughtTwice ∧ boughtTwice.Untold 0 true := by
  refine ⟨⟨trading_soldInTwo, ?_, ?_, ?_⟩, trading_boughtTwice, ?_⟩
  · unfold Untold
    decide +kernel
  · decide +kernel
  · decide +kernel
  · unfold Untold
    decide +kernel

end Session

end SwingTrader
