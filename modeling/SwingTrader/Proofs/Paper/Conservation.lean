import SwingTrader.Proofs.Paper

/-!
# SwingTrader — no funds are made or lost at the paper venue

Read in exact rationals, whatever is ordered, cancelled and filled, in whatever
order: what is available, together with what open orders have locked away and less
what is owed, changes by the fills on record and by nothing else. The record is in
amounts of the base and of the counter currency, which may be one currency; what
they come to in a currency is `Paper.worth`.

* `Paper.locked`, `Paper.moved` — what an order locks away, and what a fill moves;
* `Paper.stake` — all that is at stake in a currency;
* `Paper.Conserves` — nothing but fills has changed any stake, and
  `Paper.conserves_setTicker` for a ticker, after which nothing is left unfilled;
* `Paper.Step` — what may be done to a venue;
* `Paper.funds_of_steps` — the two sums of a market, after any steps.
-/

namespace SwingTrader.Paper

/-! ## Amounts -/

/-- What amounts of the base and of the counter currency come to in one currency. -/
def worth (market : Market) (currency : String) : Rat × Rat →+ Rat :=
  (if currency = market.base then AddMonoidHom.fst Rat Rat else 0) +
    (if currency = market.counter then AddMonoidHom.snd Rat Rat else 0)

/-- What a quantity of an order locks away. -/
def locked (terms : PaperTerms Rat) (kind : OrderKind) (quantity price : Rat) : Rat × Rat :=
  match kind with
  | .buy => (0, cost terms quantity price)
  | .sell => (quantity, 0)
  | .shortEnter | .shortExit => 0

/-- What a fill moves: the base currency one way and the counter currency the other. -/
def moved (terms : PaperTerms Rat) (fill : Fill Rat) : Rat × Rat :=
  match fill.kind with
  | .buy | .shortExit => (fill.quantity, -cost terms fill.quantity fill.price)
  | .sell | .shortEnter => (-fill.quantity, proceeds terms fill.quantity fill.price)

/-- What orders have locked away. -/
def lockedBy (terms : PaperTerms Rat) (orders : List (OpenOrder Rat)) : Rat × Rat :=
  (orders.map fun order => locked terms order.kind order.quantity order.price).sum

/-- What fills have moved. -/
def movedBy (terms : PaperTerms Rat) (fills : List (Fill Rat)) : Rat × Rat :=
  (fills.map (moved terms)).sum

/-- What is available in a currency, less what is owed. -/
def funds (paper : Paper Rat) (currency : String) : Rat :=
  paper.balance currency + worth paper.terms.market currency (-paper.shortDebt, 0)

/-- All that is at stake in a currency. -/
def stake (paper : Paper Rat) (currency : String) : Rat :=
  paper.funds currency + worth paper.terms.market currency (lockedBy paper.terms paper.orders)

section Amounts

variable {paper : Paper Rat} {market : Market} {terms : PaperTerms Rat} {kind : OrderKind}
  {order : OpenOrder Rat} {currency : String} {quantity price : Rat}

theorem cost_eq : cost terms quantity price = quantity * price * (1 + terms.fees.buy) := rfl

/-- What is locked away is in proportion to the quantity. -/
theorem locked_sub (filled : Rat) :
    locked terms kind (quantity - filled) price =
      locked terms kind quantity price - locked terms kind filled price := by
  cases kind with
  | buy =>
    simp only [locked, cost_eq, Prod.mk_sub_mk, sub_zero]
    ring_nf
  | sell => simp [locked]
  | shortEnter | shortExit => simp [locked]

theorem locked_zero : locked terms kind 0 price = 0 := by
  cases kind with
  | buy => simp [locked, cost_eq]
  | sell | shortEnter | shortExit => rfl

/-- In each currency of the market, the amounts of that currency count. -/
theorem worth_apply (amounts : Rat × Rat) :
    worth market currency amounts =
      (if currency = market.base then amounts.1 else 0) +
        if currency = market.counter then amounts.2 else 0 := by
  rw [worth, AddMonoidHom.add_apply]
  split_ifs <;> rfl

/-- Crediting the base currency adds to what is available in it. -/
theorem balance_creditBase (amount : Rat) :
    (paper.creditBase amount).balance currency =
      paper.balance currency + worth paper.terms.market currency (amount, 0) := by
  rw [worth_apply, ite_self, add_zero]
  refine (Balances.get_credit paper.balances _ currency amount).trans ?_
  split_ifs with h
  · rw [h]
    rfl
  · exact (add_zero _).symm

/-- Crediting the counter currency adds to what is available in it. -/
theorem balance_creditCounter (amount : Rat) :
    (paper.creditCounter amount).balance currency =
      paper.balance currency + worth paper.terms.market currency (0, amount) := by
  rw [worth_apply, ite_self, zero_add]
  refine (Balances.get_credit paper.balances _ currency amount).trans ?_
  split_ifs with h
  · rw [h]
    rfl
  · exact (add_zero _).symm

/-- Placing an order locks its amounts away. -/
theorem balance_lock (paper : Paper Rat) (kind : OrderKind) (quantity price : Rat)
    (currency : String) :
    (paper.lock kind quantity price).balance currency =
      paper.balance currency -
        worth paper.terms.market currency (locked paper.terms kind quantity price) := by
  cases kind with
  | buy =>
    rw [sub_eq_add_neg, ← map_neg, locked, Prod.neg_mk, neg_zero]
    exact balance_creditCounter _
  | sell =>
    rw [sub_eq_add_neg, ← map_neg, locked, Prod.neg_mk, neg_zero]
    exact balance_creditBase _
  | shortEnter | shortExit =>
    rw [locked, map_zero, sub_zero]
    rfl

/-- Taking an order off the book gives back what is left of them. -/
theorem balance_release (paper : Paper Rat) (order : OpenOrder Rat) (currency : String) :
    (paper.release order).balance currency =
      paper.balance currency + worth paper.terms.market currency
        (locked paper.terms order.kind order.quantity order.price) := by
  obtain ⟨id, kind, price, quantity, ordered⟩ := order
  cases kind with
  | buy => exact balance_creditCounter _
  | sell => exact balance_creditBase _
  | shortEnter | shortExit =>
    rw [locked, map_zero, add_zero]
    rfl

/-- A fill uses up what is locked away for it, and what it moves is all that changes. -/
theorem funds_settle (paper : Paper Rat) (order : OpenOrder Rat) (quantity : Rat) :
    ∃ fill, (paper.settle order quantity).fills = paper.fills ++ [fill] ∧
      ∀ currency, (paper.settle order quantity).funds currency =
        paper.funds currency + worth paper.terms.market currency (moved paper.terms fill) +
          worth paper.terms.market currency
            (locked paper.terms order.kind quantity order.price) := by
  obtain ⟨id, kind, price, rest, ordered⟩ := order
  cases kind with
  | buy =>
    refine ⟨_, rfl, fun currency => ?_⟩
    show (paper.creditBase quantity).balance currency +
      worth paper.terms.market currency (-paper.shortDebt, 0) = _
    rw [balance_creditBase]
    simp only [funds, moved, locked, worth_apply]
    split_ifs <;> ring
  | sell =>
    refine ⟨_, rfl, fun currency => ?_⟩
    show (paper.creditCounter (proceeds paper.terms quantity price)).balance currency +
      worth paper.terms.market currency (-paper.shortDebt, 0) = _
    rw [balance_creditCounter]
    simp only [funds, moved, locked, worth_apply]
    split_ifs <;> ring
  | shortEnter =>
    refine ⟨_, rfl, fun currency => ?_⟩
    show (paper.creditCounter (proceeds paper.terms quantity price)).balance currency +
      worth paper.terms.market currency (-(paper.shortDebt + quantity), 0) = _
    rw [balance_creditCounter]
    simp only [funds, moved, locked, map_zero, worth_apply]
    split_ifs <;> ring
  | shortExit =>
    refine ⟨_, rfl, fun currency => ?_⟩
    -- the whole debt is bought back at the price of the order, whatever its quantity
    show (paper.creditCounter (-paper.shortDebt * price * (1 + paper.terms.fees.buy))).balance
      currency + worth paper.terms.market currency (-0, 0) = _
    rw [balance_creditCounter]
    simp only [funds, moved, locked, map_zero, worth_apply, cost_eq]
    split_ifs <;> ring

end Amounts

/-! ## Conservation -/

/-- Nothing but the fills that were put on record has changed what is at stake. -/
structure Conserves (paper after : Paper Rat) (filled : List (Fill Rat)) : Prop where
  terms_eq : after.terms = paper.terms
  fills_eq : after.fills = paper.fills ++ filled
  stake_eq : ∀ currency, after.stake currency =
    paper.stake currency + worth paper.terms.market currency (movedBy paper.terms filled)

section Conservation

variable {paper mid after : Paper Rat} {filled filled' : List (Fill Rat)}

theorem movedBy_nil (terms : PaperTerms Rat) : movedBy terms [] = 0 := rfl

/-- Fills move what each of them moves. -/
theorem movedBy_cons (terms : PaperTerms Rat) (fill : Fill Rat) (rest : List (Fill Rat)) :
    movedBy terms (fill :: rest) = moved terms fill + movedBy terms rest := by
  rw [movedBy, List.map_cons, List.sum_cons, movedBy]

/-- Where the stakes are as before, the record of fills may be so too. -/
theorem conserves_of_stake_eq (hterms : after.terms = paper.terms)
    (hfills : after.fills = paper.fills)
    (hstake : ∀ currency, after.stake currency = paper.stake currency) :
    Conserves paper after [] where
  terms_eq := hterms
  fills_eq := hfills.trans (List.append_nil _).symm
  stake_eq currency := by rw [hstake, movedBy_nil, map_zero, add_zero]

theorem Conserves.trans (h : Conserves paper mid filled) (h' : Conserves mid after filled') :
    Conserves paper after (filled ++ filled') where
  terms_eq := h'.terms_eq.trans h.terms_eq
  fills_eq := by rw [h'.fills_eq, h.fills_eq, List.append_assoc]
  stake_eq currency := by
    rw [h'.stake_eq, h.stake_eq, h.terms_eq, movedBy, movedBy, movedBy, List.map_append,
      List.sum_append, map_add, add_assoc]

theorem conserves_of_spares (h : paper.Spares after) : Conserves paper after [] := by
  obtain ⟨_, _, _, rfl⟩ := h
  exact conserves_of_stake_eq rfl rfl fun _ => rfl

/-! ## Orders -/

/-- Orders have locked away what each of them has. -/
theorem lockedBy_cons (terms : PaperTerms Rat) (order : OpenOrder Rat)
    (rest : List (OpenOrder Rat)) :
    lockedBy terms (order :: rest) =
      locked terms order.kind order.quantity order.price + lockedBy terms rest := by
  rw [lockedBy, List.map_cons, List.sum_cons]
  rfl

/-- An order that goes on the book adds what it locks away. -/
theorem lockedBy_concat (terms : PaperTerms Rat) (orders : List (OpenOrder Rat))
    (order : OpenOrder Rat) :
    lockedBy terms (orders ++ [order]) =
      lockedBy terms orders + locked terms order.kind order.quantity order.price := by
  rw [lockedBy, List.map_append, List.sum_append, List.map_singleton, List.sum_singleton, lockedBy]

/-- What an order has locked away goes with it. -/
theorem lockedBy_eraseP {terms : PaperTerms Rat} {orders : List (OpenOrder Rat)}
    {order : OpenOrder Rat} {p : OpenOrder Rat → Bool} (h : orders.find? p = some order) :
    lockedBy terms orders =
      locked terms order.kind order.quantity order.price + lockedBy terms (orders.eraseP p) := by
  induction orders with
  | nil => cases h
  | cons first rest ih =>
    rw [List.find?_cons] at h
    rw [List.eraseP_cons, lockedBy_cons]
    cases hp : p first with
    | true =>
      rw [hp] at h
      cases h
      rfl
    | false =>
      rw [hp] at h
      rw [ih h, cond_false, lockedBy_cons]
      exact add_left_comm _ _ _

/-- What is available makes up for what the orders on the book have locked away. -/
theorem conserves_of_orders {balances : Balances Rat} {orders : List (OpenOrder Rat)} {nextId : Nat}
    (h : ∀ currency, balances.get currency +
        worth paper.terms.market currency (lockedBy paper.terms orders) =
      paper.balance currency +
        worth paper.terms.market currency (lockedBy paper.terms paper.orders)) :
    Conserves paper { paper with balances, orders, nextId } [] := by
  refine conserves_of_stake_eq rfl rfl fun currency => ?_
  show balances.get currency + worth paper.terms.market currency (-paper.shortDebt, 0) +
    worth paper.terms.market currency (lockedBy paper.terms orders) = _
  rw [stake, funds, add_right_comm, h currency, add_right_comm]

/-- What a new order takes from a balance is locked away in the order. -/
theorem conserves_insertOpenOrder (paper : Paper Rat) (kind : OrderKind) (quantity price : Rat) :
    Conserves paper ((paper.lock kind quantity price).insertOpenOrder kind quantity price).2
      [] := by
  have hbalance := balance_lock paper kind quantity price
  obtain ⟨balances, hlock⟩ := lock_eq paper kind quantity price
  rw [hlock] at hbalance ⊢
  refine conserves_of_orders fun currency => ?_
  rw [lockedBy_concat, map_add, show balances.get currency = _ from hbalance currency]
  ring

/-- What comes back from an order was locked away in it. -/
theorem conserves_release {order : OpenOrder Rat} {p : OpenOrder Rat → Bool}
    (h : paper.orders.find? p = some order) :
    Conserves paper { paper.release order with orders := paper.orders.eraseP p } [] := by
  have hbalance := balance_release paper order
  obtain ⟨balances, hrelease⟩ := release_eq paper order
  rw [hrelease] at hbalance ⊢
  refine conserves_of_orders fun currency => ?_
  rw [lockedBy_eraseP h, map_add, ← add_assoc, ← hbalance currency]
  rfl

/-! ## Tickers -/

/-- What is left of an order once a ticker has filled it. -/
def left (paper : Paper Rat) (order : OpenOrder Rat) : OpenOrder Rat :=
  { order with quantity := order.quantity - paper.fillQuantity order }

/-- Every order that a ticker reaches stays on the book, or has nothing left to fill. -/
def FillsOut (paper : Paper Rat) (ticker : Ticker Rat) (orders : List (OpenOrder Rat)) : Prop :=
  ∀ order ∈ orders, reaches paper.terms ticker order = true →
    staysOpen (paper.left order) = true ∨ (paper.left order).quantity = 0

/-- A fill changes neither what is reached nor how much of it is filled. -/
theorem FillsOut.settle {ticker : Ticker Rat} {orders : List (OpenOrder Rat)}
    (h : paper.FillsOut ticker orders) (order : OpenOrder Rat) (quantity : Rat) :
    (paper.settle order quantity).terms = paper.terms ∧
      (paper.settle order quantity).FillsOut ticker orders := by
  obtain ⟨balances, shortDebt, fills, hsettle⟩ := settle_eq paper order quantity
  rw [hsettle]
  exact ⟨rfl, h⟩

/-- An order that a ticker reaches is filled, and stays if something is left of it. -/
theorem executeAll_of_reached {ticker : Ticker Rat} {order : OpenOrder Rat}
    (h : reaches paper.terms ticker order = true) (rest : List (OpenOrder Rat)) :
    executeAll ticker (order :: rest) paper =
      let executed := executeAll ticker rest (paper.settle order (paper.fillQuantity order))
      (if staysOpen (paper.left order) then paper.left order :: executed.1 else executed.1,
        executed.2) := by
  rw [executeAll, if_pos h]
  rfl

/-- What an order has locked away is what is left of it, and what its fill has used up. -/
theorem lockedBy_left {order : OpenOrder Rat}
    (h : staysOpen (paper.left order) = true ∨ (paper.left order).quantity = 0)
    (stillOpen : List (OpenOrder Rat)) :
    lockedBy paper.terms
        (if staysOpen (paper.left order) then paper.left order :: stillOpen else stillOpen) =
      locked paper.terms order.kind order.quantity order.price -
        locked paper.terms order.kind (paper.fillQuantity order) order.price +
          lockedBy paper.terms stillOpen := by
  have hlocked : locked paper.terms order.kind (paper.left order).quantity order.price =
      locked paper.terms order.kind order.quantity order.price -
        locked paper.terms order.kind (paper.fillQuantity order) order.price := locked_sub _
  rw [← hlocked]
  split_ifs with hstays
  · exact lockedBy_cons _ _ _
  · rw [h.resolve_left hstays, locked_zero, zero_add]

/--
A ticker takes from what is locked away, and adds to what is available, what its fills
move.
-/
theorem funds_executeAll {ticker : Ticker Rat} {orders : List (OpenOrder Rat)}
    (h : paper.FillsOut ticker orders) :
    (executeAll ticker orders paper).2.terms = paper.terms ∧
    ∃ filled, (executeAll ticker orders paper).2.fills = paper.fills ++ filled ∧
      ∀ currency, (executeAll ticker orders paper).2.funds currency +
        worth paper.terms.market currency
          (lockedBy paper.terms (executeAll ticker orders paper).1) =
        paper.funds currency + worth paper.terms.market currency (lockedBy paper.terms orders) +
          worth paper.terms.market currency (movedBy paper.terms filled) := by
  -- the fill of one order changes the venue that the next one is filled at
  induction orders generalizing paper with
  | nil =>
    refine ⟨rfl, [], (List.append_nil _).symm, fun currency => ?_⟩
    rw [executeAll, movedBy_nil, map_zero, add_zero]
  | cons order rest ih =>
    obtain ⟨horder, hrest⟩ := List.forall_mem_cons.mp h
    by_cases hreaches : reaches paper.terms ticker order = true
    · rw [executeAll_of_reached hreaches]
      dsimp only
      obtain ⟨fill, hfill, hsettled⟩ := funds_settle paper order (paper.fillQuantity order)
      obtain ⟨hsame, hfillsOut⟩ :=
        FillsOut.settle (show paper.FillsOut ticker rest from hrest) order
          (paper.fillQuantity order)
      obtain ⟨hterms, filled, hfills, hfunds⟩ := ih hfillsOut
      rw [hsame] at hterms hfunds
      refine ⟨hterms, fill :: filled, ?_, fun currency => ?_⟩
      · rw [hfills, hfill, List.append_assoc, List.singleton_append]
      -- what the fill moves is what the order no longer locks away, and what it brings
      · have hrun := hfunds currency
        rw [hsettled] at hrun
        rw [lockedBy_left (horder hreaches), lockedBy_cons, movedBy_cons, map_add, map_add, map_add,
          map_sub]
        linarith
    · rw [executeAll, if_neg hreaches]
      obtain ⟨hterms, filled, hfills, hfunds⟩ := ih hrest
      refine ⟨hterms, filled, hfills, fun currency => ?_⟩
      dsimp only
      rw [lockedBy_cons, lockedBy_cons, map_add, map_add]
      linarith [hfunds currency]

/--
A ticker that leaves nothing unfilled of what it takes off changes the stakes by its
fills only.
-/
theorem conserves_setTicker {ticker : Ticker Rat} (h : paper.FillsOut ticker paper.orders) :
    ∃ filled, Conserves paper (paper.setTicker ticker) filled := by
  obtain ⟨hterms, filled, hfills, hfunds⟩ :=
    funds_executeAll (show FillsOut { paper with ticker := some ticker } ticker paper.orders from h)
  refine ⟨filled, hterms, hfills, fun currency => ?_⟩
  have hstake (ran : List (OpenOrder Rat) × Paper Rat) :
      { ran.2 with orders := ran.1 }.stake currency =
        ran.2.funds currency + worth ran.2.terms.market currency (lockedBy ran.2.terms ran.1) := rfl
  refine (hstake (executeAll ticker paper.orders { paper with ticker := some ticker })).trans ?_
  rw [hterms]
  exact hfunds currency

/-! ## Steps -/

/--
What may be done to a venue: a trader calls it to place or cancel an order, and behind
the trader's back a ticker is published that leaves nothing unfilled of an order it
takes off the book, the fraction that tickers fill is set, or calls are set to fail.
-/
inductive Step : Paper Rat → Paper Rat → Prop where
  | create {paper after : Paper Rat} {market : Market} {kind : OrderKind} {quantity price : Rat}
      {reply : Except (PaperError Rat) OrderId} :
      outcome (callCreateOrder market kind quantity price) paper = (reply, after) → Step paper after
  | cancel {paper after : Paper Rat} {market : Market} {id : OrderId}
      {reply : Except (PaperError Rat) Bool} :
      outcome (callCancelOrder market id) paper = (reply, after) → Step paper after
  | publish {paper : Paper Rat} {ticker : Ticker Rat} :
      paper.FillsOut ticker paper.orders → Step paper (paper.setTicker ticker)
  | fillInPart {paper : Paper Rat} (fraction : Option Rat) :
      Step paper { paper with partialFill := fraction }
  | fail {paper : Paper Rat} (cancels calls afterCancel : Nat) :
      Step paper (paper.failing cancels calls afterCancel)

/-- Any number of steps. -/
abbrev Steps : Paper Rat → Paper Rat → Prop :=
  Relation.ReflTransGen Step

/-- **One step.** Nothing but its fills changes what is at stake. -/
theorem Step.conserves (h : Step paper after) : ∃ filled, Conserves paper after filled := by
  cases h with
  | @create _ market kind quantity price _ hcall =>
    obtain ⟨-, hspares⟩ | ⟨id, -, -, hplaced⟩ := createOrder_inv hcall
    · exact ⟨[], conserves_of_spares hspares⟩
    · have hafter := conserves_insertOpenOrder paper kind quantity price
      rw [hplaced] at hafter
      exact ⟨[], hafter⟩
  | cancel hcall =>
    obtain ⟨-, hspares⟩ | ⟨-, order, -, hfind, hspares⟩ := cancelOrder_inv hcall
    · exact ⟨[], conserves_of_spares hspares⟩
    · exact ⟨[], (conserves_release hfind).trans (conserves_of_spares hspares)⟩
  | publish hfills => exact conserves_setTicker hfills
  | fillInPart fraction => exact ⟨[], conserves_of_stake_eq rfl rfl fun _ => rfl⟩
  | fail => exact ⟨[], conserves_of_spares ⟨_, _, _, rfl⟩⟩

/-- **Many steps.** -/
theorem conserves_of_steps (h : Steps paper after) : ∃ filled, Conserves paper after filled := by
  induction h with
  | refl => exact ⟨[], conserves_of_stake_eq rfl rfl fun _ => rfl⟩
  | tail _ hstep ih =>
    obtain ⟨filled, hrun⟩ := ih
    obtain ⟨filled', hlast⟩ := hstep.conserves
    exact ⟨filled ++ filled', hrun.trans hlast⟩

end Conservation

/-! ## The two sums of a market -/

/-- The quantities that open sells still offer. -/
def openSells (orders : List (OpenOrder Rat)) : Rat :=
  ((orders.filter fun order => order.kind = .sell).map OpenOrder.quantity).sum

/-- What open buys still cost. -/
def openBuys (terms : PaperTerms Rat) (orders : List (OpenOrder Rat)) : Rat :=
  ((orders.filter fun order => order.kind = .buy).map fun order =>
    cost terms order.quantity order.price).sum

/-- The fills that bring the base currency in: of buys and of short exits. -/
def purchases (fills : List (Fill Rat)) : List (Fill Rat) :=
  fills.filter fun fill => fill.kind = .buy ∨ fill.kind = .shortExit

/-- The fills that give the base currency away: of sells and of short entries. -/
def sales (fills : List (Fill Rat)) : List (Fill Rat) :=
  fills.filter fun fill => fill.kind = .sell ∨ fill.kind = .shortEnter

/-- The quantity of some fills. -/
def traded (fills : List (Fill Rat)) : Rat :=
  (fills.map Fill.quantity).sum

/-- What purchases cost. -/
def spent (terms : PaperTerms Rat) (fills : List (Fill Rat)) : Rat :=
  (fills.map fun fill => cost terms fill.quantity fill.price).sum

/-- What sales bring. -/
def earned (terms : PaperTerms Rat) (fills : List (Fill Rat)) : Rat :=
  (fills.map fun fill => proceeds terms fill.quantity fill.price).sum

/-- What is available in the base currency and what open sells offer of it, less what is owed. -/
def baseSum (paper : Paper Rat) : Rat :=
  paper.balance paper.terms.market.base + openSells paper.orders - paper.shortDebt

/-- What is available in the counter currency, and what open buys still cost. -/
def counterSum (paper : Paper Rat) : Rat :=
  paper.balance paper.terms.market.counter + openBuys paper.terms paper.orders

section Sums

variable {paper after : Paper Rat} {filled : List (Fill Rat)}

/-- Sells lock the base currency away, and buys the counter currency. -/
theorem lockedBy_eq (terms : PaperTerms Rat) (orders : List (OpenOrder Rat)) :
    lockedBy terms orders = (openSells orders, openBuys terms orders) := by
  induction orders with
  | nil => rfl
  | cons order rest ih =>
    rw [lockedBy_cons, ih]
    obtain ⟨id, kind, price, quantity, ordered⟩ := order
    cases kind <;> simp [locked, openSells, openBuys]

/--
Purchases bring the base currency in for what they cost, and sales give it away for
what they bring.
-/
theorem movedBy_eq (terms : PaperTerms Rat) (fills : List (Fill Rat)) :
    movedBy terms fills =
      (traded (purchases fills) - traded (sales fills),
        earned terms (sales fills) - spent terms (purchases fills)) := by
  induction fills with
  | nil => refine Prod.ext ?_ ?_ <;> simp [movedBy_nil, purchases, sales, traded, spent, earned]
  | cons fill rest ih =>
    rw [movedBy_cons, ih]
    obtain ⟨id, kind, quantity, price⟩ := fill
    cases kind <;> refine Prod.ext ?_ ?_ <;>
      simp [moved, purchases, sales, traded, spent, earned] <;> ring

/--
What is at stake in a currency is what is available, what orders hold of it, and less
what is owed.
-/
theorem stake_eq_parts (paper : Paper Rat) (currency : String) :
    paper.stake currency = paper.balance currency +
      (if currency = paper.terms.market.base then openSells paper.orders - paper.shortDebt else 0) +
      if currency = paper.terms.market.counter then openBuys paper.terms paper.orders else 0 := by
  rw [stake, funds, worth_apply, worth_apply, lockedBy_eq]
  split_ifs <;> ring

/-- The funds of a market, after the fills `filled`, and whatever other currencies there are. -/
structure KeepsFunds (paper after : Paper Rat) (filled : List (Fill Rat)) : Prop where
  fills_eq : after.fills = paper.fills ++ filled
  base : paper.terms.market.base ≠ paper.terms.market.counter →
    after.baseSum = paper.baseSum + traded (purchases filled) - traded (sales filled)
  counter : paper.terms.market.base ≠ paper.terms.market.counter →
    after.counterSum = paper.counterSum - spent paper.terms (purchases filled) +
      earned paper.terms (sales filled)
  both : paper.terms.market.base = paper.terms.market.counter →
    after.baseSum + openBuys after.terms after.orders =
      paper.baseSum + openBuys paper.terms paper.orders +
        traded (purchases filled) - traded (sales filled) -
        spent paper.terms (purchases filled) + earned paper.terms (sales filled)
  other : ∀ currency, currency ≠ paper.terms.market.base → currency ≠ paper.terms.market.counter →
    after.balance currency = paper.balance currency

theorem Conserves.keepsFunds (h : Conserves paper after filled) :
    KeepsFunds paper after filled := by
  obtain ⟨hterms, hfills, hstake⟩ := h
  have hbalance (currency : String) := hstake currency
  simp only [stake_eq_parts, movedBy_eq, worth_apply, hterms] at hbalance
  refine ⟨hfills, fun hne => ?_, fun hne => ?_, fun heq => ?_,
    fun currency hbase hcounter => ?_⟩
  · have hbase := hbalance paper.terms.market.base
    rw [baseSum, baseSum, hterms]
    simp only [if_true, if_neg hne] at hbase
    linarith
  · have hcounter := hbalance paper.terms.market.counter
    rw [counterSum, counterSum, hterms]
    simp only [if_true, if_neg hne.symm] at hcounter
    linarith
  · have hboth := hbalance paper.terms.market.base
    rw [baseSum, baseSum, hterms]
    simp only [if_true, if_pos heq] at hboth
    linarith
  · simpa only [if_neg hbase, if_neg hcounter, add_zero] using hbalance currency

/-! ## Cancels -/

/--
What a cancel does that takes an order off the book: what is left of the order comes
back, and to lock it away once more would take exactly that.
-/
structure GivesBack (paper after : Paper Rat) (order : OpenOrder Rat) : Prop where
  listed : order ∈ paper.orders
  conserves : Conserves paper after []
  balance_eq : ∀ currency, after.balance currency = paper.balance currency +
    worth paper.terms.market currency
      (locked paper.terms order.kind order.quantity order.price)
  lock_eq : ∀ currency,
    (after.lock order.kind order.quantity order.price).balance currency = paper.balance currency

/-- A cancel that succeeds gives back what was locked away for its order. -/
theorem givesBack_of_cancel {market : Market} {id : OrderId}
    (h : outcome (callCancelOrder market id) paper = (.ok true, after)) :
    ∃ order, order.id = id ∧ GivesBack paper after order := by
  obtain ⟨hrefused, -⟩ | ⟨-, order, hid, hfind, hspares⟩ := cancelOrder_inv h
  · exact absurd rfl hrefused
  · have hconserves := (conserves_release hfind).trans (conserves_of_spares hspares)
    have hbalance (currency : String) : after.balance currency = paper.balance currency +
        worth paper.terms.market currency
          (locked paper.terms order.kind order.quantity order.price) :=
      (hspares.balance_eq currency).trans (balance_release paper order currency)
    refine ⟨order, hid, List.mem_of_find?_eq_some hfind, hconserves, hbalance,
      fun currency => ?_⟩
    rw [balance_lock, hbalance, hconserves.terms_eq, add_sub_cancel_right]

/--
**Funds are conserved.** Whatever was ordered, cancelled and filled: in a market of two
currencies, what is available of the base currency and offered by open sells, less what
is owed, has grown by the purchases on record and shrunk by the sales; and what is
available of the counter currency and locked away by open buys has shrunk by what the
purchases cost and grown by what the sales brought. Where both are one currency, the two
changes come together in it. A cancel gives back what is left of its order.
-/
theorem funds_of_steps (h : Steps paper after) :
    (∃ filled, KeepsFunds paper after filled) ∧
      ∀ market id next, outcome (callCancelOrder market id) after = (.ok true, next) →
        ∃ order, order.id = id ∧ GivesBack after next order := by
  obtain ⟨filled, hconserves⟩ := conserves_of_steps h
  exact ⟨⟨filled, hconserves.keepsFunds⟩,
    fun market id next hcall => givesBack_of_cancel hcall⟩

end Sums

/-- A venue that takes a hundredth of what is traded, with a thousand in the counter currency. -/
def funded : Paper Rat :=
  { Paper.new (.ofCurrencies "BTC" "EUR") (1 / 100) 1 (1 / 200) with
    balances := ⟨[("EUR", 1000)]⟩ }

/-- Two coins are ordered there, and tickers fill one half of what they reach. -/
def halfFilling : Paper Rat :=
  { (outcome (callCreateOrder (.ofCurrencies "BTC" "EUR") .buy 2 100) funded).2 with
    partialFill := some (1 / 2) }

/-- A ticker reaches the order. -/
def halfBought : Paper Rat :=
  halfFilling.setTicker { last := 100, ask := 100, bid := 99, time := ⟨0, 0⟩ }

theorem steps_halfBought : Steps funded halfBought := by
  have hcreate : Step funded
      (outcome (callCreateOrder (.ofCurrencies "BTC" "EUR") .buy 2 100) funded).2 :=
    .create Prod.mk.eta.symm
  have hpublish : Step halfFilling halfBought := .publish (by unfold FillsOut; decide +kernel)
  exact ((Relation.ReflTransGen.single hcreate).tail (.fillInPart (some (1 / 2)))).tail hpublish

theorem cancel_halfBought :
    outcome (callCancelOrder (.ofCurrencies "BTC" "EUR") (.ofNat 1)) halfBought =
      (.ok true, (halfBought.withdraw (.ofNat 1)).2) := by
  have hcalls : ¬0 < halfBought.failingCalls := by decide +kernel
  have hmarket : (Market.ofCurrencies "BTC" "EUR").id = halfBought.terms.market.id := by
    decide +kernel
  have hcancelled : (halfBought.withdraw (.ofNat 1)).1 = true := by decide +kernel
  rw [callCancelOrder, outcome_connectFor_bind hcalls hmarket, outcome_get_bind, ← hcancelled]
  rfl

/-- One of two coins is bought, and a cancel gives back what the other would have cost. -/
theorem funds_of_halfBought :
    Steps funded halfBought ∧ KeepsFunds funded halfBought halfBought.fills ∧
      halfBought.baseSum = 1 ∧ halfBought.counterSum = 899 ∧
      ∃ next order, outcome (callCancelOrder (.ofCurrencies "BTC" "EUR") (.ofNat 1)) halfBought =
        (.ok true, next) ∧ GivesBack halfBought next order ∧ next.balance "EUR" = 899 := by
  obtain ⟨⟨filled, hkeeps⟩, hcancel⟩ := funds_of_steps steps_halfBought
  obtain rfl : halfBought.fills = filled := hkeeps.fills_eq.trans (List.nil_append _)
  obtain ⟨order, -, hgives⟩ := hcancel _ _ _ cancel_halfBought
  exact ⟨steps_halfBought, hkeeps, by decide +kernel, by decide +kernel, _, order,
    cancel_halfBought, hgives, by decide +kernel⟩

/-- Ten coins, in a market of one currency and without fees. -/
def oneCurrency : Paper Rat :=
  { Paper.new (.ofCurrencies "BTC" "BTC") 0 1 (1 / 200) with balances := ⟨[("BTC", 10)]⟩ }

/-- In a market of one currency, what a buy locks away is missing from what is available to sell. -/
theorem baseSum_of_oneCurrency :
    ∃ after, Steps oneCurrency after ∧ oneCurrency.orders = [] ∧ after.fills = oneCurrency.fills ∧
      oneCurrency.baseSum = 10 ∧ after.baseSum ≠ 10 := by
  refine ⟨(outcome (callCreateOrder (.ofCurrencies "BTC" "BTC") .buy 1 2) oneCurrency).2,
    .single (.create Prod.mk.eta.symm), rfl, ?_, by decide +kernel, by decide +kernel⟩
  exact List.eq_nil_of_length_eq_zero (by decide +kernel)

end SwingTrader.Paper
