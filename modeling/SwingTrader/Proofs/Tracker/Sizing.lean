import SwingTrader.Proofs.Session.Afloat

/-!
# SwingTrader — the size of an entry is one the venue takes

A tracker sizes an entry, raises it to the least volume and leaves it out where too
little would remain; the paper venue then checks price, volume and funds with formulas
of its own. The two agree on every double: an amount that is permitted passes the check,
whatever the balance, the fees and the percentage are, infinities and missing numbers
included. So an entry is left out or accepted, and never refused.

* `permittedAmount_eq_some` — which amount is permitted;
* `Tracker.ends_enterAmount` — the amount that a paper venue's answers lead to;
* `Tracker.AcceptsEntry` — an entry is on the book, and what it leaves of the balance;
* `Tracker.placeEnter_accepted` — a paper venue refuses no entry.
-/

namespace SwingTrader

open Desk

variable {κ : Type}

/-! ## The amount -/

section Amount

variable {amount minimum price fee counterBalance emergencyStop permitted : Float}

theorem permittedAmount_eq_some :
    permittedAmount amount minimum price fee counterBalance emergencyStop = some permitted ↔
      permitted = (if amount < minimum then minimum else amount) ∧ permitted.isFinite = true ∧
        ¬counterBalance - permitted * price * (1.0 + fee) < emergencyStop := by
  unfold permittedAmount
  dsimp only
  generalize (if amount < minimum then minimum else amount) = raised
  split_ifs with h
  · rw [Bool.or_eq_true, Bool.not_eq_true', decide_eq_true_eq] at h
    constructor
    · exact nofun
    · rintro ⟨rfl, hfinite, hleft⟩
      exact absurd h (not_or_intro (by simp [hfinite]) hleft)
  · rw [Bool.or_eq_true, Bool.not_eq_true', decide_eq_true_eq, not_or, Bool.not_eq_false] at h
    constructor
    · rintro ⟨⟩
      exact ⟨rfl, h⟩
    · rintro ⟨rfl, -⟩
      rfl

/-- What is permitted is never below the least volume. -/
theorem not_lt_of_permitted
    (h : permittedAmount amount minimum price fee counterBalance emergencyStop = some permitted) :
    ¬permitted < minimum := by
  obtain ⟨rfl, -, -⟩ := permittedAmount_eq_some.mp h
  split_ifs with hless
  · exact Double.lt_irrefl
  · exact hless

end Amount

namespace Tracker

variable {desk after : Desk Paper κ} {side : Side} {price : Float} {entry : PlacedOrder}

/-- What a position would leave of the counter balance, with its fee paid. -/
def spare (paper : Paper) (side : Side) (quantity price : Float) : Float :=
  paper.balance paper.terms.market.counter -
    quantity * price * (1.0 + paper.terms.fees.enter side)

/-- The amount that an entry is sized to, at a paper venue. -/
def sized (desk : Desk Paper κ) (side : Side) (price : Float) : Option Float :=
  let counter := desk.venue.balance desk.venue.terms.market.counter
  permittedAmount (entryAmount counter desk.tracker.settings.balancePercentage price)
    desk.venue.terms.minimumVolume price (desk.venue.terms.fees.enter side) counter
    desk.tracker.settings.emergencyStop

/-- A paper venue answers every question that an entry is sized by. -/
theorem ends_enterAmount (hconnected : desk.venue.Connected)
    (hmarket : desk.market = desk.venue.terms.market) (side : Side) (price : Float) :
    Ends (enterAmount Paper.venue side price) desk (.ok (sized desk side price)) desk := by
  have hid : desk.market.id = desk.venue.terms.market.id := congrArg Market.id hmarket
  have hcounter : desk.market.counter = desk.venue.terms.market.counter :=
    congrArg Market.counter hmarket
  rw [enterAmount, ends_settings_bind]
  refine ends_bind.mpr (.inr ⟨desk.venue.balance desk.venue.terms.market.counter, desk, ?_, ?_⟩)
  · exact ends_call_ok.mpr ⟨desk.venue, hcounter ▸ hconnected.replies_balance _, rfl⟩
  refine ends_bind.mpr (.inr ⟨desk.venue.terms.minimumVolume, desk, ?_, ?_⟩)
  · exact ends_call_ok.mpr ⟨desk.venue, hconnected.replies_term hid _, rfl⟩
  cases side with
  | long =>
    refine ends_bind.mpr (.inr ⟨desk.venue.terms.fees.buy, desk, ?_,
      ends_pure.mpr ⟨rfl, rfl⟩⟩)
    exact ends_call_ok.mpr ⟨desk.venue, hconnected.replies_term hid _, rfl⟩
  | short =>
    refine ends_bind.mpr (.inr ⟨desk.venue.terms.fees.sell, desk, ?_,
      ends_pure.mpr ⟨rfl, rfl⟩⟩)
    exact ends_call_ok.mpr ⟨desk.venue, hconnected.replies_term hid _, rfl⟩

/--
An entry is on the book, for a finite amount at a finite price above zero. It is not
below the least volume, and leaves no less of the counter balance than the reserve.
-/
structure AcceptsEntry (desk : Desk Paper κ) (side : Side) (price : Float) (entry : PlacedOrder)
    (after : Desk Paper κ) : Prop where
  tracker_eq : after.tracker = { desk.tracker with stage := some (.waitForEnter entry) }
  ledgers_eq : after.ledgers = desk.ledgers
  fresh : entry.notExecuted = 0 ∧ entry.partiallyExecuted = 0
  kind_eq : entry.kind = side.enterKind
  price_eq : entry.price = price
  price_finite : price.isFinite = true
  price_pos : 0.0 < price
  finite : entry.quantity.isFinite = true
  ample : ¬entry.quantity < desk.venue.terms.minimumVolume
  left : ¬spare desk.venue side entry.quantity price < desk.tracker.settings.emergencyStop
  places : desk.venue.Places entry after.venue
  orders_eq : after.venue.orders = desk.venue.orders ++
    [⟨entry.id, entry.kind, entry.price, entry.quantity, entry.quantity⟩]
  /-- A long is paid for at once, a short is not. -/
  counter_eq : after.venue.balance desk.venue.terms.market.counter =
    match side with
    | .long => spare desk.venue .long entry.quantity price
    | .short => desk.venue.balance desk.venue.terms.market.counter

/-- The entry of an amount, as the venue takes it. -/
def entryOf (paper : Paper) (side : Side) (amount price : Float) : PlacedOrder :=
  { id := .ofNat paper.nextId, kind := side.enterKind, quantity := amount, price }

/-- The venue with the entry on its book. -/
def withEntry (paper : Paper) (side : Side) (amount price : Float) : Paper :=
  ((paper.lock side.enterKind amount price).insertOpenOrder side.enterKind amount price).2

section Permitted

variable {amount : Float} (husable : PriceRule.isUsable price = true)
  (hsized : sized desk side price = some amount)
include husable hsized

/-- An amount that leaves a reserve passes the check of the venue. -/
theorem checkOrder_of_sized (hreserve : 0.0 ≤ desk.tracker.settings.emergencyStop) :
    desk.venue.checkOrder side.enterKind amount price = .ok () := by
  obtain ⟨-, -, hleft⟩ := permittedAmount_eq_some.mp hsized
  have hdust : ¬(Arithmetic.dust : Float) < 0.0 := by decide +kernel
  refine Paper.checkOrder_of_funded (not_lt_of_permitted hsized) husable (fun hbuy => ?_)
    fun hsell => ?_
  · cases side with
    | long => exact Double.not_add_lt_of_sub hdust hreserve hleft
    | short => cases hbuy
  · cases side <;> cases hsell

/-- An entry of a permitted amount is accepted, and leaves the reserve. -/
theorem acceptsEntry_of_sized (hreserve : 0.0 ≤ desk.tracker.settings.emergencyStop)
    (htracker : after.tracker =
      { desk.tracker with stage := some (.waitForEnter (entryOf desk.venue side amount price)) })
    (hledgers : after.ledgers = desk.ledgers)
    (hvenue : after.venue = withEntry desk.venue side amount price) :
    AcceptsEntry desk side price (entryOf desk.venue side amount price) after := by
  obtain ⟨-, hfinite, hleft⟩ := permittedAmount_eq_some.mp hsized
  obtain ⟨hprice, hpositive⟩ := PriceRule.isUsable_iff.mp husable
  -- the order passes the check of the venue, because it was sized to
  have hplaces : desk.venue.Places (entryOf desk.venue side amount price) after.venue := by
    obtain ⟨balances, hlock⟩ := Paper.lock_eq desk.venue side.enterKind amount price
    refine ⟨checkOrder_of_sized husable hsized hreserve, ?_, hvenue ▸ .refl _⟩
    show _ =
      ((desk.venue.lock side.enterKind amount price).insertOpenOrder side.enterKind amount price).1
    rw [hlock]
    rfl
  exact {
    tracker_eq := htracker
    ledgers_eq := hledgers
    fresh := ⟨rfl, rfl⟩
    kind_eq := rfl
    price_eq := rfl
    price_finite := hprice
    price_pos := Double.lt_of_not_le rfl (Double.isNaN_of_isFinite hprice) hpositive
    finite := hfinite
    ample := not_lt_of_permitted hsized
    left := hleft
    places := hplaces
    orders_eq := hplaces.orders_eq
    counter_eq := by
      rw [hvenue]
      cases side with
      | long =>
        show (desk.venue.balances.credit _ (-Paper.cost desk.venue.terms amount price)).get _ = _
        rw [Balances.get_credit, if_pos rfl, ← Double.sub_eq]
        rfl
      | short => rfl }

end Permitted

/--
**A paper venue refuses no entry.** Whatever a rule answers and whatever is held, an entry
is left out, with nothing changed but what the rule remembers, or it is on the book and
the reserve is kept.
-/
theorem placeEnter_accepted (hstage : desk.tracker.stage = some .needEnter)
    (hmarket : desk.market = desk.venue.terms.market) (hconnected : desk.venue.Connected)
    (hreserve : 0.0 ≤ desk.tracker.settings.emergencyStop) (rule : PriceRule κ) (side : Side) :
    ∃ after, Ends (placeEnter Paper.venue rule side) desk (.ok ()) after ∧
      (after = { desk with rules := ((rule desk.view side).run desk.rules).2 } ∨
        ∃ entry, AcceptsEntry desk side ((rule desk.view side).run desk.rules).1 entry after) := by
  set price := ((rule desk.view side).run desk.rules).1 with hprice
  set asked : Desk Paper κ := { desk with rules := ((rule desk.view side).run desk.rules).2 }
  have hid : desk.market.id = desk.venue.terms.market.id := congrArg Market.id hmarket
  have hamount :
      Ends (enterAmount Paper.venue side price) asked (.ok (sized desk side price)) asked :=
    ends_enterAmount (show asked.venue.Connected from hconnected) hmarket side price
  -- the entry is left out where the price cannot be used or no amount is permitted
  cases husable : PriceRule.isUsable price with
  | false =>
    refine ⟨asked, ?_, .inl rfl⟩
    rw [placeEnter, ends_resume_bind hstage]
    refine ends_askPrice_bind.mpr ?_
    rw [← hprice, husable]
    exact ends_pure.mpr ⟨rfl, rfl⟩
  | true =>
    cases hsized : sized desk side price with
    | none =>
      refine ⟨asked, ?_, .inl rfl⟩
      rw [placeEnter, ends_resume_bind hstage]
      refine ends_askPrice_bind.mpr ?_
      rw [← hprice, if_pos husable]
      exact ends_bind.mpr (.inr ⟨none, asked, hsized ▸ hamount, ends_pure.mpr ⟨rfl, rfl⟩⟩)
    | some amount =>
      -- what is permitted passes the check of the venue
      have hreply :=
        hconnected.replies_createOrder hid (checkOrder_of_sized husable hsized hreserve)
      let submitted := { asked with venue := withEntry desk.venue side amount price }.forgetting
      refine ⟨submitted.withStage (.waitForEnter (entryOf desk.venue side amount price)), ?_,
        .inr ⟨_, acceptsEntry_of_sized husable hsized hreserve rfl rfl rfl⟩⟩
      rw [placeEnter, ends_resume_bind hstage]
      refine ends_askPrice_bind.mpr ?_
      rw [← hprice, if_pos husable]
      refine ends_bind.mpr (.inr ⟨some amount, asked, hsized ▸ hamount, ?_⟩)
      refine ends_bind.mpr (.inr ⟨entryOf desk.venue side amount price, submitted, ?_, ?_⟩)
      · exact ends_submit_ok.mpr ⟨_, _, hreply, rfl, rfl⟩
      · exact ends_setStage.mpr ⟨rfl, rfl⟩

/-- A tracker that may spend half of a thousand, and is to leave a hundred. -/
def spendingHalf : Desk Paper Unit where
  venue := .holding (.ofCurrencies "BTC" "EUR") [("EUR", 1000.0)]
  prices := { market := .ofCurrencies "BTC" "EUR" }
  ledgers := LedgerBook.empty.create.2
  tracker :=
    { settings :=
        { market := .ofCurrencies "BTC" "EUR", ledger := ⟨0⟩, balancePercentage := 50.0,
          emergencyStop := 100.0 }
      stage := some .needEnter }
  rules := ()

/-- Its entry is accepted. -/
theorem placeEnter_accepted_half :
    ∃ after entry, Ends (placeEnter Paper.venue (.fixed 100.0) .long) spendingHalf (.ok ()) after ∧
      AcceptsEntry spendingHalf .long 100.0 entry after := by
  obtain ⟨after, hends, rfl | ⟨entry, haccepts⟩⟩ :=
    placeEnter_accepted (show spendingHalf.tracker.stage = some .needEnter from rfl) rfl ⟨rfl, rfl⟩
      (by decide +kernel) (.fixed 100.0) .long
  · -- an entry that is left out would leave the phase as it is
    have hphase :
        (outcome (placeEnter Paper.venue (.fixed 100.0) .long) spendingHalf).2.tracker.phase =
        .waitForEnter := by decide +kernel
    rw [hends] at hphase
    cases hphase
  · exact ⟨after, entry, hends, haccepts⟩

end Tracker

end SwingTrader
