import SwingTrader.Proofs.Double.Rounding
import SwingTrader.Proofs.Session.Telling

/-!
# SwingTrader — what is held when a long is to be left

An exit sells all that is available of a long. A purchase that is filled at once
brings at least the least volume of an order, as it was not refused for less, and
what is held is never negative, so nothing is taken from that. A sale that was put on
the book and is taken off it again gives back what was not sold. Only a purchase or a
sale that is filled in parts can leave less than the least volume to sell.

* `OpenOrder.Sizable`, `Paper.Solvent` — what no order and no balance falls below;
* `Paper.FallsShort`, `Paper.CompletesAmply` — when the parts of an order come to too little;
* `Tracker.Stocked` — a long that needs an exit is at least the least volume of an
  order; a turn keeps this unless it takes an order off the book that falls short.
-/

namespace SwingTrader

open Desk Tracker

/-! ## Orders -/

/--
An order was submitted for at least a volume, and what is left of it is not
negative. Where the volume that was ordered is not a number, neither is what is left.
-/
structure OpenOrder.Sizable (order : OpenOrder) (least : Float) : Prop where
  ordered : ¬order.ordered < least
  not_negative : ¬order.quantity < 0.0
  isNaN : order.ordered.isNaN = true → order.quantity.isNaN = true

section Sizable

variable {order : OpenOrder} {least : Float}

/-- Of an order that is not seen to be filled at least the least volume is left. -/
theorem OpenOrder.Sizable.whole (h : order.Sizable least)
    (hwhole : order.isPartiallyFilled = false) :
    ¬order.quantity < least := by
  intro hlt
  cases hordered : order.ordered.isNaN with
  | true => cases (h.isNaN hordered).symm.trans (Double.lt_iff_rank.mp hlt).1
  | false =>
    -- the volume that was ordered is between what is left and the least volume
    obtain hpart | hbelow := Double.lt_or_lt hlt hordered
    · exact of_decide_eq_false hwhole hpart
    · exact h.ordered hbelow

/-- An order that was just placed is sizable if it is ample. -/
theorem OpenOrder.Sizable.placed {id : OrderId} {kind : OrderKind} {price quantity : Float}
    (hpositive : 0.0 < least) (hquantity : ¬quantity < least) :
    OpenOrder.Sizable ⟨id, kind, price, quantity, quantity⟩ least :=
  ⟨hquantity, fun hlt => hquantity (Double.lt_trans hlt hpositive), fun h => h⟩

/-- What stays open of an order is not negative. -/
theorem OpenOrder.Sizable.remainder {filled : Float} (h : order.Sizable least)
    (hopen : Paper.staysOpen { order with quantity := order.quantity - filled } = true) :
    OpenOrder.Sizable { order with quantity := order.quantity - filled } least where
  ordered := h.ordered
  not_negative := by
    have hdust : Arithmetic.dust < order.quantity - filled :=
      of_decide_eq_true (Bool.and_eq_true_iff.mp hopen).2
    have hzero : 0.0 < (Arithmetic.dust : Float) := by decide +kernel
    exact fun hlt => Double.lt_irrefl (Double.lt_trans (Double.lt_trans hlt hzero) hdust)
  isNaN := fun hordered => Double.isNaN_sub (h.isNaN hordered) filled

end Sizable

/-! ## Balances -/

namespace Paper

/--
What is held is not negative, orders are filled whole or in parts that are not, and all
are sizable.
-/
structure Solvent (paper : Paper) : Prop where
  held : ¬paper.held < 0.0
  parts : ∀ part ∈ paper.partialFill, ¬part < 0.0
  orders : ∀ order ∈ paper.orders, order.kind ≠ .shortExit → order.Sizable paper.terms.minimumVolume

section Solvent

variable {paper after : Paper} {order : OpenOrder} {placed : PlacedOrder} {ticker : Ticker}

theorem Solvent.spares (h : paper.Solvent) (hspares : paper.Spares after) : after.Solvent := by
  obtain ⟨_, _, _, rfl⟩ := hspares
  exact ⟨h.held, h.parts, h.orders⟩

theorem Places.partialFill_eq (h : paper.Places placed after) :
    after.partialFill = paper.partialFill := by
  obtain ⟨-, -, _, _, _, rfl⟩ := h
  obtain ⟨balances, hlock⟩ := lock_eq paper placed.kind placed.quantity placed.price
  rw [hlock]
  rfl

theorem TakesOff.partialFill_eq (h : paper.TakesOff order after) :
    after.partialFill = paper.partialFill := by
  obtain ⟨-, _, _, _, rfl⟩ := h
  obtain ⟨balances, hrelease⟩ := release_eq paper order
  rw [hrelease]
  rfl

/-- An order that is placed has at least the least volume, unless it covers a debt. -/
theorem Places.not_lt (h : paper.Places placed after) (hkind : placed.kind ≠ .shortExit) :
    ¬placed.quantity < paper.terms.minimumVolume := by
  intro hlt
  have hcheck := h.1
  unfold checkOrder at hcheck
  split at hcheck
  · cases hcheck
  · rw [if_pos ⟨hkind, hlt⟩] at hcheck
    cases hcheck

/-- An order to sell is for all that is held, and leaves nothing. -/
theorem Solvent.places (h : paper.Solvent) (hplaces : paper.Places placed after)
    (hempty : paper.orders = []) (hdiffer : paper.terms.market.base ≠ paper.terms.market.counter)
    (hpositive : 0.0 < paper.terms.minimumVolume)
    (hwhole : placed.kind = .sell → placed.quantity = paper.held) : after.Solvent where
  held := by
    rw [hplaces.held_eq hdiffer]
    split
    next hsell =>
      rw [hwhole hsell]
      exact Double.not_add_neg_lt _
    next => exact h.held
  parts := by
    rw [hplaces.partialFill_eq]
    exact h.parts
  orders := by
    rw [hplaces.orders_eq, hempty, hplaces.terms_eq]
    intro order horder hkind
    obtain rfl := List.mem_singleton.mp horder
    exact .placed hpositive (hplaces.not_lt hkind)

/-- An order to sell gives back what was not sold. -/
theorem Solvent.takesOff (h : paper.Solvent) (hbook : paper.KeepsOnly placed)
    (htakes : paper.TakesOff order after)
    (hdiffer : paper.terms.market.base ≠ paper.terms.market.counter) : after.Solvent := by
  obtain ⟨horders, hempty⟩ := htakes.orders_eq hbook.atMostOne
  refine ⟨?_, ?_, ?_⟩
  · rw [htakes.held_eq hdiffer]
    split
    next hsell =>
      have hsizable := h.orders order (horders ▸ List.mem_singleton_self _) (hsell ▸ nofun)
      exact Double.not_add_lt_zero h.held hsizable.not_negative
    next => exact h.held
  · rw [htakes.partialFill_eq]
    exact h.parts
  · rw [hempty]
    exact nofun

end Solvent

/-! ## Tickers -/

section Tickers

variable {paper : Paper} {order : OpenOrder} {placed : PlacedOrder} {ticker : Ticker}

/-- What a ticker fills of an order is not negative. -/
theorem Solvent.fill (h : paper.Solvent) (hmem : order ∈ paper.orders)
    (hkind : order.kind ≠ .shortExit) : ¬paper.fillQuantity order < 0.0 := by
  have hquantity := (h.orders order hmem hkind).not_negative
  cases hparts : paper.partialFill with
  | none => cases hcase : order.kind <;> simpa [fillQuantity, hparts, hcase] using hquantity
  | some part =>
    have hpart := Double.not_mul_lt_zero hquantity (h.parts part hparts)
    cases hcase : order.kind with
    | shortExit => exact absurd hcase hkind
    | buy | sell | shortEnter => simpa [fillQuantity, hparts, hcase] using hpart

/-- A ticker leaves the only order of a book alone, or fills a quantity of it. -/
theorem KeepsOnly.setTicker_cases (h : paper.KeepsOnly placed) (ticker : Ticker) :
    paper.setTicker ticker = { paper with ticker := some ticker } ∨
      ∃ order, paper.orders = [order] ∧ order.IsOf placed ∧ paper.setTicker ticker =
        { ({ paper with ticker := some ticker }).settle order (paper.fillQuantity order) with
          orders := remainder order (paper.fillQuantity order) } := by
  obtain hempty | ⟨order, horders, horder⟩ := h
  · exact .inl (setTicker_of_nil hempty)
  · rw [setTicker_of_singleton horders]
    split
    · exact .inr ⟨order, horders, horder, rfl⟩
    · exact .inl rfl

/-- What remains of an order is the order with less of it, and stays open. -/
theorem mem_remainder {rest : OpenOrder} {filled : Float} (h : rest ∈ remainder order filled) :
    rest = { order with quantity := order.quantity - filled } ∧
      staysOpen { order with quantity := order.quantity - filled } = true := by
  unfold remainder at h
  dsimp only at h
  split at h
  next hopen => exact ⟨List.mem_singleton.mp h, hopen⟩
  next => cases h

/-- What a fill moves: to what is held it adds a purchase, and nothing else. -/
theorem held_filled (paper : Paper) (order : OpenOrder) (filled : Float) (orders : List OpenOrder)
    (hdiffer : paper.terms.market.base ≠ paper.terms.market.counter) :
    held { ({ paper with ticker := some ticker }).settle order filled with orders } =
      if order.kind = .buy then paper.held + filled else paper.held := by
  let shown : Paper := { paper with ticker := some ticker }
  exact held_settle (show shown.terms.market.base ≠ shown.terms.market.counter from hdiffer)

/-- A ticker that fills what is on the book leaves the venue solvent. -/
theorem Solvent.setTicker (h : paper.Solvent) (hbook : paper.KeepsOnly placed)
    (hdiffer : paper.terms.market.base ≠ paper.terms.market.counter) (ticker : Ticker) :
    (paper.setTicker ticker).Solvent := by
  obtain hsame | ⟨order, horders, -, hfilled⟩ := hbook.setTicker_cases ticker
  · rw [hsame]
    exact ⟨h.held, h.parts, h.orders⟩
  have hmem : order ∈ paper.orders := horders ▸ List.mem_singleton_self _
  have hterms := setTicker_terms paper ticker
  rw [hfilled] at hterms ⊢
  refine ⟨?_, ?_, ?_⟩
  · rw [held_filled paper order _ _ hdiffer]
    split
    next hbuy => exact Double.not_add_lt_zero h.held (h.fill hmem (hbuy ▸ nofun))
    next => exact h.held
  · obtain ⟨_, _, _, hsettle⟩ := settle_eq { paper with ticker := some ticker } order
      (paper.fillQuantity order)
    rw [hsettle]
    exact h.parts
  · rw [hterms]
    intro rest hrest hkind
    obtain ⟨rfl, hopen⟩ := mem_remainder hrest
    exact (h.orders order hmem hkind).remainder hopen

end Tickers

/-! ## Orders that are filled in parts -/

/-- The rest of an order is filled at once, and nothing is seen to have been filled before. -/
def FillsAtOnce (paper : Paper) (order : OpenOrder) : Prop :=
  order.isPartiallyFilled = false ∧ paper.fillQuantity order = order.quantity

/--
A purchase that is not filled at once comes to the least volume once the last of it is
filled.
-/
def CompletesAmply (paper : Paper) (ticker : Ticker) : Prop :=
  ∀ order ∈ paper.orders, order.kind = .buy → ¬paper.FillsAtOnce order →
    (paper.setTicker ticker).orders = [] →
      ¬(paper.setTicker ticker).held < paper.terms.minimumVolume

/--
An order on the book that is filled in part falls short of the least volume: too
little is held of what was to be bought, or too little is left of what is to be sold.
-/
def FallsShort (paper : Paper) : Prop :=
  ∃ order ∈ paper.orders, order.isPartiallyFilled = true ∧
    (order.kind = .buy ∧ paper.held < paper.terms.minimumVolume ∨
      order.kind = .sell ∧ order.quantity < paper.terms.minimumVolume)

instance (paper : Paper) (order : OpenOrder) : Decidable (paper.FillsAtOnce order) :=
  inferInstanceAs (Decidable (_ ∧ _))

instance (paper : Paper) (ticker : Ticker) : Decidable (paper.CompletesAmply ticker) :=
  inferInstanceAs (Decidable (∀ order ∈ paper.orders, order.kind = .buy → ¬paper.FillsAtOnce order →
    (paper.setTicker ticker).orders = [] →
      ¬(paper.setTicker ticker).held < paper.terms.minimumVolume))

instance (paper : Paper) : Decidable paper.FallsShort :=
  inferInstanceAs (Decidable (∃ order ∈ paper.orders, order.isPartiallyFilled = true ∧
    (order.kind = .buy ∧ paper.held < paper.terms.minimumVolume ∨
      order.kind = .sell ∧ order.quantity < paper.terms.minimumVolume)))

section Parts

variable {paper after : Paper} {placed : PlacedOrder}

theorem FallsShort.of_spares (hspares : paper.Spares after) (h : after.FallsShort) :
    paper.FallsShort := by
  obtain ⟨_, _, _, rfl⟩ := hspares
  exact h

/-- Nothing falls short of an order that was just placed. -/
theorem Places.not_fallsShort (h : paper.Places placed after) (hempty : paper.orders = []) :
    ¬after.FallsShort := by
  rintro ⟨order, horder, hpart, -⟩
  rw [h.orders_eq, hempty] at horder
  obtain rfl := List.mem_singleton.mp horder
  exact Double.lt_irrefl (of_decide_eq_true hpart)

theorem not_fallsShort_of_nil (hempty : paper.orders = []) : ¬paper.FallsShort := by
  rintro ⟨order, horder, -⟩
  rw [hempty] at horder
  cases horder

/-- Once the last of a purchase is filled, at least the least volume is held. -/
theorem Solvent.bought (h : paper.Solvent) (hbook : paper.KeepsOnly placed)
    (hkind : placed.kind = .buy) (hdiffer : paper.terms.market.base ≠ paper.terms.market.counter)
    (hpositive : 0.0 < paper.terms.minimumVolume) {ticker : Ticker}
    (hamply : paper.CompletesAmply ticker)
    (hheld : paper.orders = [] → ¬paper.held < paper.terms.minimumVolume)
    (hempty : (paper.setTicker ticker).orders = []) :
    ¬(paper.setTicker ticker).held < paper.terms.minimumVolume := by
  obtain hsame | ⟨order, horders, horder, hfilled⟩ := hbook.setTicker_cases ticker
  · rw [hsame] at hempty ⊢
    exact hheld hempty
  have hmem : order ∈ paper.orders := horders ▸ List.mem_singleton_self _
  have hbuy : order.kind = .buy := horder.kind_eq.trans hkind
  by_cases honce : paper.FillsAtOnce order
  · rw [hfilled, held_filled paper order _ _ hdiffer, if_pos hbuy, honce.2]
    have hsizable := h.orders order hmem (hbuy ▸ nofun)
    exact Double.not_add_lt h.held hpositive (hsizable.whole honce.1)
  · exact hamply order hmem hbuy honce hempty

end Parts

end Paper

namespace Tracker

/-! ## What a stage needs -/

/--
A long that was bought is at least the least volume of an order, while there is no order
to sell it.
-/
def Covered (paper : Paper) : Option Stage → Prop
  | some (.waitForEnter entry) => entry.side = .long →
      entry.kind = .buy ∧ (paper.orders = [] → ¬paper.held < paper.terms.minimumVolume)
  | some (.needExit entry _) => entry.side = .long → ¬paper.held < paper.terms.minimumVolume
  | _ => True

/-- A venue has in stock what the stage needs to sell. -/
structure Stocked (market : Market) (paper : Paper) (stage? : Option Stage) : Prop where
  inStep : InStep market paper stage?
  market_eq : market = paper.terms.market
  differ : market.base ≠ market.counter
  positive : 0.0 < paper.terms.minimumVolume
  solvent : paper.Solvent
  covered : Covered paper stage?

section Turns

variable {market : Market} {paper after : Paper} {stage? stage?' : Option Stage}

theorem Stocked.spares (h : Stocked market paper stage?) (hspares : paper.Spares after) :
    Stocked market after stage? := by
  obtain ⟨hstep, hmarket, hdiffer, hpositive, hsolvent, hcovered⟩ := h
  refine ⟨hstep.spares hspares, ?_, hdiffer, ?_, hsolvent.spares hspares, ?_⟩
  · rw [hspares.terms_eq, hmarket]
  · rwa [hspares.terms_eq]
  · obtain ⟨_, _, _, rfl⟩ := hspares
    rcases stage? with _ | _ | _ | _ | _ <;> exact hcovered

/-- A turn leaves the venue solvent. -/
theorem Turn.solvent (h : Turn market paper stage? after stage?')
    (hstocked : Stocked market paper stage?) :
    after.Solvent := by
  obtain ⟨hstep, rfl, hdiffer, hpositive, hsolvent, -⟩ := hstocked
  cases h with
  | spare spares | fill _ spares | flat _ _ spares | held _ _ _ spares | adoptEntry _ _ spares
  | adoptExit _ _ spares => exact hsolvent.spares spares
  | waitEnter | waitExit => exact hsolvent
  | enter enters places =>
    refine hsolvent.places places hstep hdiffer hpositive fun hsell => ?_
    exact absurd hsell (ne_sell_of_isEnter enters)
  | @leave _ entry _ _ _ leaves whole places =>
    refine hsolvent.places places hstep hdiffer hpositive fun hsell => whole ?_
    -- only the exit of a long is a sale
    cases hside : entry.side with
    | long => rfl
    | short =>
      rw [leaves, hside] at hsell
      cases hsell
  | giveUp _ _ takesOff | takePart _ _ _ _ _ takesOff =>
    exact hsolvent.takesOff hstep takesOff hdiffer
  | withdraw _ takesOff => exact hsolvent.takesOff hstep.1 takesOff hdiffer

/-- A book whose orders stay does not lose its only order. -/
theorem not_fallsShort_of_takesOff {order : OpenOrder} {placed : PlacedOrder}
    (hbook : paper.KeepsOnly placed) (htakes : paper.TakesOff order after)
    (hkept : paper.FallsShort → paper.orders <+: after.orders) : ¬paper.FallsShort := by
  intro hshort
  obtain ⟨horders, hempty⟩ := htakes.orders_eq hbook.atMostOne
  have hprefix := hkept hshort
  rw [horders, hempty] at hprefix
  cases List.prefix_nil.mp hprefix

/--
A purchase that is filled in part and taken off the book leaves enough, unless it falls
short.
-/
theorem held_of_part {order : OpenOrder} {entry : PlacedOrder} (hbook : paper.KeepsOnly entry)
    (hbuy : entry.kind = .buy) (hdiffer : paper.terms.market.base ≠ paper.terms.market.counter)
    (hpart : order.isPartiallyFilled = true) (htakes : paper.TakesOff order after)
    (hkept : paper.FallsShort → paper.orders <+: after.orders) :
    ¬after.held < after.terms.minimumVolume := by
  have hshort := not_fallsShort_of_takesOff hbook htakes hkept
  obtain ⟨horders, -⟩ := htakes.orders_eq hbook.atMostOne
  have hkind : order.kind = .buy := (hbook.isOf horders).kind_eq.trans hbuy
  rw [htakes.held_eq hdiffer, if_neg (hkind ▸ nofun), htakes.terms_eq]
  exact fun hlt => hshort ⟨order, horders ▸ List.mem_singleton_self _, hpart,
    .inl ⟨hkind, hlt⟩⟩

/-- A sale that is taken off the book gives back enough, unless it falls short. -/
theorem held_of_withdrawn {order : OpenOrder} {exit : PlacedOrder} (hbook : paper.KeepsOnly exit)
    (hsell : exit.kind = .sell) (hdiffer : paper.terms.market.base ≠ paper.terms.market.counter)
    (hpositive : 0.0 < paper.terms.minimumVolume) (hsolvent : paper.Solvent)
    (htakes : paper.TakesOff order after)
    (hkept : paper.FallsShort → paper.orders <+: after.orders) :
    ¬after.held < after.terms.minimumVolume := by
  have hshort := not_fallsShort_of_takesOff hbook htakes hkept
  obtain ⟨horders, -⟩ := htakes.orders_eq hbook.atMostOne
  have hmem : order ∈ paper.orders := horders ▸ List.mem_singleton_self _
  have hkind : order.kind = .sell := (hbook.isOf horders).kind_eq.trans hsell
  rw [htakes.held_eq hdiffer, if_pos hkind, htakes.terms_eq]
  refine Double.not_add_lt hsolvent.held hpositive ?_
  cases hpart : order.isPartiallyFilled with
  | false => exact (hsolvent.orders order hmem (hkind ▸ nofun)).whole hpart
  | true => exact fun hlt => hshort ⟨order, hmem, hpart, .inr ⟨hkind, hlt⟩⟩

theorem buy_of_isEnter {kind : OrderKind} (h : kind.isEnter = true) (hlong : kind.side = .long) :
    kind = .buy := by
  cases kind with
  | buy => rfl
  | shortEnter => cases hlong
  | sell | shortExit => cases h

/-- A turn that cancels nothing that falls short leaves a long that covers an order. -/
theorem Turn.covered (h : Turn market paper stage? after stage?')
    (hstocked : Stocked market paper stage?)
    (hkept : paper.FallsShort → paper.orders <+: after.orders) : Covered after stage?' := by
  obtain ⟨hstep, rfl, hdiffer, hpositive, hsolvent, hcovered⟩ := id hstocked
  cases h with
  | spare spares => exact (hstocked.spares spares).covered
  | enter enters places =>
    -- the purchase that was just placed is on the book
    refine fun hlong => ⟨buy_of_isEnter enters hlong, fun hempty => ?_⟩
    rw [places.orders_eq] at hempty
    simp at hempty
  | leave | waitExit | giveUp | flat => trivial
  | waitEnter counted =>
    intro hlong
    rw [counted.side_eq] at hlong
    rw [counted.kind_eq]
    exact hcovered hlong
  | fill missing spares =>
    intro hlong
    -- a purchase that is missing from the book was filled, and so it covers an order
    have hempty := Paper.KeepsOnly.orders_eq_nil hstep missing
    obtain ⟨_, _, _, rfl⟩ := spares
    exact (hcovered hlong).2 hempty
  | takePart _ part side_eq _ _ takesOff =>
    intro hlong
    -- only a part that does not fall short may be cut off
    obtain ⟨hbuy, -⟩ := hcovered (side_eq.symm.trans hlong)
    exact held_of_part hstep hbuy hdiffer part takesOff hkept
  | withdraw _ takesOff =>
    intro hlong
    have hsell := hstep.2.1
    rw [hlong] at hsell
    exact held_of_withdrawn hstep.1 hsell hdiffer hpositive hsolvent takesOff hkept
  | held _ above _ spares =>
    intro _
    obtain ⟨_, _, _, rfl⟩ := spares
    -- what is found is above the least volume
    exact fun hlt => above (Double.le_of_lt hlt)
  | adoptEntry alone | adoptExit alone => cases hstep.symm.trans alone

/-- A turn keeps what is in stock, unless it takes an order off the book that falls short. -/
theorem Turn.stocked (h : Turn market paper stage? after stage?')
    (hstocked : Stocked market paper stage?)
    (hkept : paper.FallsShort → paper.orders <+: after.orders) :
    Stocked market after stage?' where
  inStep := inStep_keptByTurns h hstocked.inStep
  market_eq := by rw [h.terms_eq, hstocked.market_eq]
  differ := hstocked.differ
  positive := by
    rw [h.terms_eq]
    exact hstocked.positive
  solvent := h.solvent hstocked
  covered := h.covered hstocked hkept

/-- An order that falls short does so before the turn. -/
theorem Turn.fallsShort (h : Turn market paper stage? after stage?')
    (hstep : InStep market paper stage?)
    (hshort : after.FallsShort) : paper.FallsShort := by
  cases h with
  | spare spares | fill _ spares | flat _ _ spares | held _ _ _ spares | adoptEntry _ _ spares
  | adoptExit _ _ spares => exact .of_spares spares hshort
  | waitEnter | waitExit => exact hshort
  | enter _ places | leave _ _ places => exact absurd hshort (places.not_fallsShort hstep)
  | giveUp _ _ takesOff | takePart _ _ _ _ _ takesOff =>
    have hempty := (takesOff.orders_eq (Paper.KeepsOnly.atMostOne hstep)).2
    exact absurd hshort (Paper.not_fallsShort_of_nil hempty)
  | withdraw _ takesOff =>
    have hempty := (takesOff.orders_eq (Paper.KeepsOnly.atMostOne hstep.1)).2
    exact absurd hshort (Paper.not_fallsShort_of_nil hempty)

/-- An entry that is cut off leaves enough in stock, unless it fell short. -/
theorem Stocked.cutOff {entry : PlacedOrder} {order : OpenOrder} (hid : order.id = entry.id)
    (hpart : order.isPartiallyFilled = true) (htakes : paper.TakesOff order after)
    (hkept : paper.FallsShort → paper.orders <+: after.orders)
    (h : Stocked market paper (some (.waitForEnter entry))) :
    Stocked market after (some (.waitForEnter entry)) := by
  obtain ⟨hstep, rfl, hdiffer, hpositive, hsolvent, hcovered⟩ := h
  refine ⟨inStep_kept.cutOff hid hpart htakes hstep, ?_, hdiffer, ?_,
    hsolvent.takesOff hstep htakes hdiffer, fun hlong => ⟨(hcovered hlong).1, fun _ => ?_⟩⟩
  · rw [htakes.terms_eq]
  · rwa [htakes.terms_eq]
  · exact held_of_part hstep (hcovered hlong).1 hdiffer hpart htakes hkept

/-- A position that is closed needs nothing in stock. -/
theorem Stocked.close {entry exit : PlacedOrder} {ratchet : Ratchet}
    (hmissing : paper.orders.find? (fun order => order.id = exit.id) = none)
    (hspares : paper.Spares after)
    (h : Stocked market paper (some (.waitForExit entry exit ratchet))) :
    Stocked market after (some .needEnter) := by
  obtain ⟨hstep, rfl, hdiffer, hpositive, hsolvent, -⟩ := h
  refine ⟨inStep_kept.close hmissing hspares hstep, ?_, hdiffer, ?_, hsolvent.spares hspares,
    trivial⟩
  · rw [hspares.terms_eq]
  · rwa [hspares.terms_eq]

end Turns

/-! ## Between two ticks -/

section Meanwhile

variable {market : Market} {paper : Paper} {stage? : Option Stage}

/-- The only order on a book that is in step, if there is one, was placed by the tracker. -/
theorem InStep.keepsOnly (h : InStep market paper stage?) : ∃ placed, paper.KeepsOnly placed := by
  obtain hempty | ⟨order, placed, horders, -, horder⟩ := h.keepsBook
  · exact ⟨⟨.synthetic, .buy, 0.0, 0.0, 0, 0⟩, .inl hempty⟩
  · exact ⟨placed, .inr ⟨order, horders, horder⟩⟩

/-- A ticker on which purchases complete amply leaves enough in stock. -/
theorem Stocked.setTicker {ticker : Ticker} (h : Stocked market paper stage?)
    (hamply : paper.CompletesAmply ticker) : Stocked market (paper.setTicker ticker) stage? := by
  obtain ⟨hstep, rfl, hdiffer, hpositive, hsolvent, hcovered⟩ := h
  have hterms := paper.setTicker_terms ticker
  obtain ⟨placed, hbook⟩ := hstep.keepsOnly
  refine ⟨hstep.setTicker, by rw [hterms], hdiffer, by rwa [hterms],
    hsolvent.setTicker hbook hdiffer ticker, ?_⟩
  rcases stage? with _ | _ | entry | _ | _
  · trivial
  · trivial
  · intro hlong
    obtain ⟨hbuy, hheld⟩ := hcovered hlong
    refine ⟨hbuy, fun hempty => ?_⟩
    rw [hterms]
    exact hsolvent.bought hstep hbuy hdiffer hpositive hamply hheld hempty
  · rw [Paper.setTicker_of_nil hstep]
    exact hcovered
  · trivial

/-- How orders are filled may be changed, if not to a negative part. -/
theorem Stocked.partialFill {fraction : Option Float} (h : Stocked market paper stage?)
    (hparts : ∀ part ∈ fraction, ¬part < 0.0) :
    Stocked market { paper with partialFill := fraction } stage? := by
  obtain ⟨hstep, hmarket, hdiffer, hpositive, hsolvent, hcovered⟩ := h
  refine ⟨hstep.meanwhile (.partialFill fraction), hmarket, hdiffer, hpositive,
    ⟨hsolvent.held, hparts, hsolvent.orders⟩, ?_⟩
  rcases stage? with _ | _ | _ | _ | _ <;> exact hcovered

end Meanwhile

end Tracker

end SwingTrader
