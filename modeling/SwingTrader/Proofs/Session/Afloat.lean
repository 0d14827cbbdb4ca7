import SwingTrader.Proofs.Double.Monotone
import SwingTrader.Proofs.Paper.Connected
import SwingTrader.Proofs.Session.Stocked
import SwingTrader.Proofs.Tracker.Offers

/-!
# SwingTrader — a paper venue that is afloat

At a paper venue where no call is set to fail and every fill is whole, longs are
bought with what is there and sold as a whole. No balance ever falls below zero then,
also where both currencies of the market are the same one; and what there is to sell,
once a purchase was filled or a sale was taken off the book, is at least the least
volume of an order.

* `Paper.Afloat` — nothing fails, nothing is owed, and every order is still entire;
* `Paper.Afloat.bought`, `Paper.Afloat.sold` — an order goes on the book;
* `Paper.Afloat.withdrawn`, `Paper.Afloat.filled` — it comes off again, or is filled;
* `Tracker.Sustains` — what the stage of a long says of the venue, which tickers keep.
-/

namespace SwingTrader

open Tracker

/-- Nothing was filled of an order, which is for at least a volume, at a price that can be used. -/
structure OpenOrder.Entire (order : OpenOrder) (least : Float) : Prop where
  whole : order.quantity = order.ordered
  ample : ¬order.quantity < least
  usable : PriceRule.isUsable order.price = true

namespace Paper

/-- No call fails, fills are whole, nothing is owed, and what is on the book is entire. -/
structure Afloat (paper : Paper) : Prop where
  connected : paper.Connected
  cancels_eq : paper.failingCancels = 0
  whole : paper.partialFill = none
  fee : ¬paper.terms.fees.buy < 0.0
  share : ¬1.0 - paper.terms.fees.sell < 0.0
  positive : 0.0 < paper.terms.minimumVolume
  balance : ∀ currency, ¬paper.balance currency < 0.0
  orders : ∀ order ∈ paper.orders, order.Entire paper.terms.minimumVolume

section Funds

variable {paper : Paper} {order : OpenOrder} {quantity price amount : Float}

theorem not_negative_of_ample (h : paper.Afloat) (hample : ¬quantity < paper.terms.minimumVolume) :
    ¬quantity < 0.0 :=
  fun hlt => hample (Double.lt_trans hlt h.positive)

theorem Afloat.cost (h : paper.Afloat) (hample : ¬quantity < paper.terms.minimumVolume)
    (husable : PriceRule.isUsable price = true) :
    ¬Paper.cost paper.terms quantity price < 0.0 := by
  have hquantity := not_negative_of_ample h hample
  have hone : ¬(1.0 : Float) < 0.0 := by decide +kernel
  exact Double.not_mul_lt_zero
    (Double.not_mul_lt_zero hquantity (PriceRule.not_lt_zero husable))
      (Double.not_add_lt_zero hone h.fee)

theorem Afloat.proceeds (h : paper.Afloat) (hample : ¬quantity < paper.terms.minimumVolume)
    (husable : PriceRule.isUsable price = true) :
    ¬Paper.proceeds paper.terms quantity price < 0.0 := by
  have hquantity := not_negative_of_ample h hample
  exact Double.not_mul_lt_zero
    (Double.not_mul_lt_zero hquantity (PriceRule.not_lt_zero husable)) h.share

/-- A credit changes one balance, which may be that of either currency. -/
theorem not_negative_creditCounter (h : ∀ currency, ¬paper.balance currency < 0.0)
    (hcredit : ¬paper.balance paper.terms.market.counter + amount < 0.0) (currency : String) :
    ¬(paper.creditCounter amount).balance currency < 0.0 := by
  show ¬(paper.balances.credit paper.terms.market.counter amount).get currency < 0.0
  rw [Balances.get_credit]
  split
  · exact hcredit
  · exact h currency

/-- Crediting the base currency leaves no balance negative, if it does not leave that one so. -/
theorem not_negative_creditBase (h : ∀ currency, ¬paper.balance currency < 0.0)
    (hcredit : ¬paper.held + amount < 0.0) (currency : String) :
    ¬(paper.creditBase amount).balance currency < 0.0 := by
  show ¬(paper.balances.credit paper.terms.market.base amount).get currency < 0.0
  rw [Balances.get_credit]
  split
  · exact hcredit
  · exact h currency

/-! ## Orders that go on the book -/

/-- An ample order at a usable price, for which the funds are there, keeps the venue afloat. -/
theorem Afloat.placed {kind : OrderKind} (h : paper.Afloat)
    (hample : ¬quantity < paper.terms.minimumVolume) (husable : PriceRule.isUsable price = true)
    (hfunds : ∀ currency, ¬(paper.lock kind quantity price).balance currency < 0.0) :
    ((paper.lock kind quantity price).insertOpenOrder kind quantity price).2.Afloat := by
  obtain ⟨balances, hlock⟩ := lock_eq paper kind quantity price
  rw [hlock] at hfunds ⊢
  refine ⟨⟨h.connected.calls_eq, h.connected.afterCancel_eq⟩, h.cancels_eq, h.whole, h.fee, h.share,
    h.positive, hfunds, ?_⟩
  intro order horder
  obtain hold | hnew := List.mem_append.mp horder
  · exact h.orders order hold
  · obtain rfl := List.mem_singleton.mp hnew
    exact ⟨rfl, hample, husable⟩

/--
An order at a usable price, for no less than the least volume, is refused for its funds
alone.
-/
theorem checkOrder_of_funded {kind : OrderKind} (hample : ¬quantity < paper.terms.minimumVolume)
    (husable : PriceRule.isUsable price = true)
    (hbuy : kind = .buy → ¬paper.balance paper.terms.market.counter + Arithmetic.dust <
      Paper.cost paper.terms quantity price)
    (hsell : kind = .sell → ¬paper.held + Arithmetic.dust < quantity) :
    paper.checkOrder kind quantity price = .ok () := by
  obtain ⟨hfinite, hpositive⟩ := PriceRule.isUsable_iff.mp husable
  have hprice : (!Arithmetic.isFinite price || decide (price ≤ 0)) = false := by
    show (!price.isFinite || decide (price ≤ 0.0)) = false
    rw [hfinite, decide_eq_false hpositive]
    rfl
  unfold checkOrder
  rw [if_neg (Bool.not_eq_true _ ▸ hprice),
    if_neg (not_and_of_not_right (kind ≠ .shortExit) hample)]
  cases kind with
  | buy => exact if_neg (hbuy rfl)
  | sell => exact if_neg (hsell rfl)
  | shortEnter | shortExit => rfl

/-- A purchase that leaves a reserve is taken. -/
theorem Afloat.bought {reserve : Float} (h : paper.Afloat)
    (hample : ¬quantity < paper.terms.minimumVolume) (husable : PriceRule.isUsable price = true)
    (hreserve : 0.0 ≤ reserve)
    (hleft : ¬paper.balance paper.terms.market.counter - Paper.cost paper.terms quantity price <
      reserve) :
    paper.checkOrder .buy quantity price = .ok () ∧
      ((paper.lock .buy quantity price).insertOpenOrder .buy quantity price).2.Afloat := by
  have hdust : ¬(Arithmetic.dust : Float) < 0.0 := by decide +kernel
  refine ⟨checkOrder_of_funded hample husable (fun _ => ?_) nofun,
    h.placed hample husable (not_negative_creditCounter h.balance ?_)⟩
  · exact Double.not_add_lt_of_sub hdust hreserve hleft
  · exact Double.not_add_neg_lt_of_sub hreserve hleft

/-- A sale of all that is held is taken. -/
theorem Afloat.sold (h : paper.Afloat) (hample : ¬paper.held < paper.terms.minimumVolume)
    (husable : PriceRule.isUsable price = true) :
    paper.checkOrder .sell paper.held price = .ok () ∧
      ((paper.lock .sell paper.held price).insertOpenOrder .sell paper.held price).2.Afloat := by
  have hdust : ¬(Arithmetic.dust : Float) < 0.0 := by decide +kernel
  -- what is held less itself is zero, or not a number if it is infinite
  refine ⟨checkOrder_of_funded hample husable nofun fun _ => ?_,
    h.placed hample husable (not_negative_creditBase h.balance ?_)⟩
  · exact Double.not_add_lt_left hdust
  · exact Double.not_add_neg_lt _

/-! ## Orders that come off it -/

/-- What is released of an order on the book leaves no balance below zero. -/
theorem Afloat.released (h : paper.Afloat) (hmem : order ∈ paper.orders) (currency : String) :
    ¬(paper.release order).balance currency < 0.0 := by
  obtain ⟨-, hample, husable⟩ := h.orders order hmem
  have hquantity := not_negative_of_ample h hample
  unfold release
  cases order.kind with
  | buy =>
    refine not_negative_creditCounter h.balance ?_ currency
    exact Double.not_add_lt_zero (h.balance _) (h.cost hample husable)
  | sell =>
    refine not_negative_creditBase h.balance ?_ currency
    exact Double.not_add_lt_zero (h.balance _) hquantity
  | shortEnter | shortExit => exact h.balance currency

/-- The only order of a book is taken off it by its id. -/
theorem withdraw_of_singleton (hcancels : paper.failingCancels = 0)
    (hbook : paper.orders = [order]) :
    paper.withdraw order.id = (true, { paper.release order with
      orders := []
      failingCalls := paper.failingCalls + paper.failingAfterCancel
      failingAfterCancel := 0 }) := by
  simp [withdraw, hcancels, hbook]

/-- A cancel is confirmed, and what was to be sold can be sold again. -/
theorem Afloat.withdrawn (h : paper.Afloat) (hbook : paper.orders = [order]) :
    (paper.withdraw order.id).1 = true ∧ (paper.withdraw order.id).2.Afloat ∧
      (paper.withdraw order.id).2.orders = [] ∧
        (order.kind = .sell → ¬(paper.withdraw order.id).2.held < paper.terms.minimumVolume) := by
  have hmem : order ∈ paper.orders := hbook ▸ List.mem_singleton_self _
  have hbalance := h.released hmem
  have hheld : order.kind = .sell → ¬(paper.release order).held < paper.terms.minimumVolume := by
    intro hsell
    rw [release, hsell, held_creditBase]
    exact Double.not_add_lt (h.balance _) h.positive (h.orders order hmem).ample
  obtain ⟨balances, hrelease⟩ := release_eq paper order
  rw [withdraw_of_singleton h.cancels_eq hbook, hrelease]
  rw [hrelease] at hbalance hheld
  refine ⟨rfl, ⟨⟨?_, rfl⟩, h.cancels_eq, h.whole, h.fee, h.share, h.positive, hbalance, nofun⟩, rfl,
    hheld⟩
  show paper.failingCalls + paper.failingAfterCancel = 0
  rw [h.connected.calls_eq, h.connected.afterCancel_eq]

/-! ## Orders that are filled -/

/-- A ticker leaves an order alone, or fills it as a whole. -/
theorem Afloat.setTicker_of_singleton (h : paper.Afloat) (hbook : paper.orders = [order])
    (ticker : Ticker) :
    paper.setTicker ticker = { paper with ticker := some ticker } ∨
      paper.setTicker ticker =
        { ({ paper with ticker := some ticker }).settle order order.quantity with
          orders := [] } := by
  have hfilled : paper.fillQuantity order = order.quantity := by
    rw [fillQuantity, h.whole]
    cases order.kind <;> rfl
  -- what is left of an order that is filled as a whole is no more than dust
  have hrest : remainder order order.quantity = [] := by
    refine if_neg fun hopen => ?_
    have hdust : ¬(Arithmetic.dust : Float) < 0.0 := by decide +kernel
    exact Double.not_lt_sub_self hdust _ (of_decide_eq_true (Bool.and_eq_true_iff.mp hopen).2)
  rw [Paper.setTicker_of_singleton hbook, hfilled, hrest]
  split
  · exact .inr rfl
  · exact .inl rfl

/-- The fill of an entire order leaves no balance below zero, and a purchase enough to sell. -/
theorem Afloat.settled (h : paper.Afloat) (hmem : order ∈ paper.orders)
    (hkind : order.kind = .buy ∨ order.kind = .sell) :
    (∀ currency, ¬(paper.settle order order.quantity).balance currency < 0.0) ∧
      (order.kind = .buy →
      ¬(paper.settle order order.quantity).held < paper.terms.minimumVolume) := by
  obtain ⟨-, hample, husable⟩ := h.orders order hmem
  have hquantity := not_negative_of_ample h hample
  unfold settle
  obtain hbuy | hsell := hkind
  · rw [hbuy]
    constructor
    · exact not_negative_creditBase h.balance (Double.not_add_lt_zero (h.balance _) hquantity)
    · intro _
      show ¬(paper.creditBase order.quantity).held < _
      rw [held_creditBase]
      exact Double.not_add_lt (h.balance _) h.positive hample
  · rw [hsell]
    refine ⟨?_, nofun⟩
    exact not_negative_creditCounter h.balance
      (Double.not_add_lt_zero (h.balance _) (h.proceeds hample husable))

theorem Afloat.shown (h : paper.Afloat) (ticker : Ticker) :
    { paper with ticker := some ticker }.Afloat :=
  ⟨⟨h.connected.calls_eq, h.connected.afterCancel_eq⟩, h.cancels_eq, h.whole, h.fee, h.share,
    h.positive, h.balance, h.orders⟩

/-- A ticker that fills the only order of a book. -/
theorem Afloat.filled (h : paper.Afloat) (hmem : order ∈ paper.orders)
    (hkind : order.kind = .buy ∨ order.kind = .sell) :
    { paper.settle order order.quantity with orders := [] }.Afloat := by
  obtain ⟨hbalance, -⟩ := h.settled hmem hkind
  obtain ⟨balances, shortDebt, fills, hsettle⟩ := settle_eq paper order order.quantity
  rw [hsettle] at hbalance ⊢
  exact ⟨⟨h.connected.calls_eq, h.connected.afterCancel_eq⟩, h.cancels_eq, h.whole, h.fee, h.share,
    h.positive, hbalance, nofun⟩

end Funds

end Paper

/-! ## What the stage says -/

namespace Tracker

/-- What the stage of a long says of the venue, and what is needed to go on from there. -/
def Sustains (paper : Paper) : Option Stage → Prop
  | none | some .needEnter => paper.orders = []
  | some (.waitForEnter entry) => entry.kind = .buy ∧ paper.KeepsOnly entry ∧
      (paper.orders = [] → ¬paper.held < paper.terms.minimumVolume)
  | some (.needExit entry ratchet?) => entry.side = .long ∧ ratchet? = none ∧ paper.orders = [] ∧
      ¬paper.held < paper.terms.minimumVolume
  | some (.waitForExit entry exit ratchet) => entry.side = .long ∧ exit.kind = .sell ∧
      paper.KeepsOnly exit ∧ ratchet.side = .long ∧
        ∃ level, ratchet.level = some level ∧ PriceRule.isUsable level = true

variable {paper : Paper} {stage? : Option Stage} {placed : PlacedOrder}

/-- A ticker leaves the venue afloat, and of a purchase that it fills there is enough to sell. -/
theorem setTicker_afloat (h : paper.Afloat) (hbook : paper.KeepsOnly placed)
    (hkind : placed.kind = .buy ∨ placed.kind = .sell) (ticker : Ticker) :
    (paper.setTicker ticker).Afloat ∧ (placed.kind = .buy →
      (paper.orders = [] → ¬paper.held < paper.terms.minimumVolume) →
        (paper.setTicker ticker).orders = [] →
          ¬(paper.setTicker ticker).held < paper.terms.minimumVolume) := by
  obtain hempty | ⟨order, hbook, horder⟩ := hbook
  · rw [Paper.setTicker_of_nil hempty]
    exact ⟨h.shown ticker, fun _ hheld hempty => hheld hempty⟩
  obtain hsame | hfilled := h.setTicker_of_singleton hbook ticker
  · rw [hsame]
    exact ⟨h.shown ticker, fun _ hheld hempty => hheld hempty⟩
  · rw [hfilled]
    have hmem : order ∈ paper.orders := hbook ▸ List.mem_singleton_self _
    rw [← horder.kind_eq] at hkind ⊢
    exact ⟨(h.shown ticker).filled hmem hkind,
      fun hbuy _ _ => ((h.shown ticker).settled hmem hkind).2 hbuy⟩

/-- What the stage says stays true when a ticker is published. -/
theorem Sustains.setTicker (h : Sustains paper stage?) (hafloat : paper.Afloat) (ticker : Ticker) :
    (paper.setTicker ticker).Afloat ∧ Sustains (paper.setTicker ticker) stage? := by
  have hnil (hempty : paper.orders = []) : (paper.setTicker ticker).Afloat := by
    rw [Paper.setTicker_of_nil hempty]
    exact hafloat.shown ticker
  -- only the two stages that wait for an order have one on the book
  rcases stage? with _ | _ | entry | ⟨entry, ratchet?⟩ | ⟨entry, exit, ratchet⟩
  · refine ⟨hnil h, ?_⟩
    rw [Paper.setTicker_of_nil h]
    exact h
  · refine ⟨hnil h, ?_⟩
    rw [Paper.setTicker_of_nil h]
    exact h
  · obtain ⟨hkind, hbook, hheld⟩ := h
    obtain ⟨hafloat, hbought⟩ := setTicker_afloat hafloat hbook (.inl hkind) ticker
    refine ⟨hafloat, hkind, hbook.setTicker, ?_⟩
    rw [Paper.setTicker_terms]
    exact hbought hkind hheld
  · refine ⟨hnil h.2.2.1, ?_⟩
    rw [Paper.setTicker_of_nil h.2.2.1]
    exact h
  · obtain ⟨hside, hkind, hbook, hratchet⟩ := h
    obtain ⟨hafloat, -⟩ := setTicker_afloat hafloat hbook (.inr hkind) ticker
    exact ⟨hafloat, hside, hkind, hbook.setTicker, hratchet⟩

end Tracker

end SwingTrader
