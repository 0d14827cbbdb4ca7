import SwingTrader.Proofs.Session.Restart
import SwingTrader.Proofs.Session.Stocked
import SwingTrader.Proofs.Session.Watched

/-!
# SwingTrader — what a session sells

A long is always sold whole, and a venue refuses what is below its least volume.
That a session never offers less is told by the journal of its venue: what the stage
needs to sell is in stock before every tick and after it, unless the tick cancels an
order of which too little was filled, or of which too little is left.

* `Desk.KeepsShort` — such an order is not cancelled;
* `Desk.Passes` — what a part of a tick keeps and sells, and `Course.passes` — that
  every course does;
* `Session.Watched` — the sessions whose paper venue is watched;
* `Session.amount_of_sale` — no sale in the journal is below the least volume;
* `Session.sellsLess_of_watched` — what is sold where fills in parts leave too little.
-/

namespace SwingTrader

variable {κ : Type}

open Desk Tracker

/-! ## What is refused -/

namespace Paper

section Refusals

variable {paper after : Paper} {market : Market} {kind : OrderKind} {quantity price : Float}

/-- An order that is not below the least volume is refused for another reason, if at all. -/
theorem checkOrder_ne_belowMinimum (h : ¬quantity < paper.terms.minimumVolume)
    (amount least : Float) :
    paper.checkOrder kind quantity price ≠ .error (.belowMinimum amount least) := by
  unfold checkOrder
  rw [if_neg (not_and_of_not_right (kind ≠ .shortExit) h)]
  split
  · exact nofun
  · cases kind with
    | buy | sell =>
      dsimp only
      split <;> exact nofun
    | shortEnter | shortExit => exact nofun

/-- Errors of other kinds are told apart by their text. -/
theorem toVenueError_ne_belowMinimum {error : PaperError}
    (h : ∀ amount least, error ≠ .belowMinimum amount least) (amount least : Float) :
    error.toVenueError ≠ (PaperError.belowMinimum amount least).toVenueError := by
  -- no other text begins with this letter
  have htext : ∀ text : String, text.toList.head? ≠ some 'v' →
      VenueError.tradingApi text ≠ (PaperError.belowMinimum amount least).toVenueError := by
    intro text htext heq
    rw [VenueError.tradingApi.inj heq] at htext
    simp [String.toList_append, toString] at htext
  cases error with
  | connectionReset | noTicker => exact nofun
  | unknownMarket id => exact htext _ (by simp [String.toList_append, toString])
  | invalidPrice price => exact htext _ (by simp [String.toList_append, toString])
  | insufficientFunds => exact htext _ (by decide)
  | belowMinimum => exact absurd rfl (h _ _)

/-- An order of at least the least volume is not refused as below it. -/
theorem replies_ne_belowMinimum {reply : Answer OrderId} (h : ¬quantity < paper.terms.minimumVolume)
    (hreply : Replies (venue.createOrder market kind quantity price) paper reply after)
    (amount least : Float) :
    reply ≠ .error (PaperError.belowMinimum amount least).toVenueError := by
  obtain ⟨_ | _, hcall, rfl⟩ := replies_visible.mp hreply
  · refine fun heq => toVenueError_ne_belowMinimum ?_ amount least (Except.error.inj heq)
    rintro amount least rfl
    obtain hunconnected | hcheck := createOrder_error hcall
    · cases hunconnected
    · exact checkOrder_ne_belowMinimum h amount least hcheck
  · exact nofun

end Refusals

end Paper

theorem Paper.Spares.keepsOrders {paper after : Paper} (h : paper.Spares after) :
    paper.orders <+: after.orders := by
  rw [h.orders_eq]

/-- A call to sell is for at least a volume, and is not refused as below the least one. -/
def VenueCall.SellsAmply (least : Float) : VenueCall → Prop
  | .createOrder _ .sell quantity _ answer => ¬quantity < least ∧
      ∀ amount least, answer ≠ .error (PaperError.belowMinimum amount least).toVenueError
  | _ => True

theorem VenueCall.sellsAmply_of_not_sells {least : Float} {call : VenueCall} (h : ¬call.Sells) :
    call.SellsAmply least := by
  cases call with
  | createOrder market kind =>
    cases kind with
    | sell => exact absurd trivial h
    | _ => trivial
  | _ => trivial

/-- What was to be sold, and the answer to it. -/
def VenueCall.sale? : VenueCall → Option (Float × Answer OrderId)
  | .createOrder _ .sell quantity _ answer => some (quantity, answer)
  | _ => none

/-- What is sold amply is at least the least volume, and is not refused as below it. -/
theorem VenueCall.SellsAmply.of_sale {least quantity : Float} {call : VenueCall}
    {answer : Answer OrderId} (h : call.SellsAmply least)
    (hsale : call.sale? = some (quantity, answer)) :
    ¬quantity < least ∧
      ∀ amount least, answer ≠ .error (PaperError.belowMinimum amount least).toVenueError := by
  cases call with
  | createOrder market kind =>
    cases kind with
    | sell =>
      cases hsale
      exact h
    | _ => cases hsale
  | _ => cases hsale

/-! ## Parts of a tick -/

namespace Desk

variable {desk mid after : Desk (Journaled Paper) κ}

theorem Calls.amply (h : Calls (fun call => ¬call.Sells) desk after) (least : Float) :
    Calls (·.SellsAmply least) desk after :=
  h.mono fun _ => VenueCall.sellsAmply_of_not_sells

/-- The venue has in stock what the stage of its tracker needs to sell. -/
def InStock (desk : Desk (Journaled Paper) κ) : Prop :=
  Stocked desk.market desk.venue.venue desk.tracker.stage

/-- An order that falls short is not cancelled on the way. -/
def KeepsShort (desk after : Desk (Journaled Paper) κ) : Prop :=
  desk.venue.venue.FallsShort → Calls (fun call => ¬call.Cancels) desk after

/-- What a part of a tick keeps and sells. -/
structure Passes (desk after : Desk (Journaled Paper) κ) : Prop where
  settings_eq : after.tracker.settings = desk.tracker.settings
  terms_eq : after.venue.venue.terms = desk.venue.venue.terms
  fresh : after.unwatched.Fresh
  calls : Calls (fun _ => True) desk after
  inStock : desk.InStock → desk.KeepsShort after → after.InStock ∧
    (after.venue.venue.FallsShort → desk.venue.venue.FallsShort) ∧
      Calls (·.SellsAmply desk.venue.venue.terms.minimumVolume) desk after

theorem Passes.refl (hfresh : desk.unwatched.Fresh) : desk.Passes desk where
  settings_eq := rfl
  terms_eq := rfl
  fresh := hfresh
  calls := .of_eq rfl
  inStock := fun hstocked _ => ⟨hstocked, id, .of_eq rfl⟩

theorem Passes.trans (h : desk.Passes mid) (h' : mid.Passes after) : desk.Passes after where
  settings_eq := h'.settings_eq.trans h.settings_eq
  terms_eq := h'.terms_eq.trans h.terms_eq
  fresh := h'.fresh
  calls := h.calls.trans h'.calls
  inStock := by
    intro hstocked hkeeps
    -- what falls short at the second part has done so at the first, and is kept in both
    obtain ⟨hmid, hshort, hsells⟩ := h.inStock hstocked fun hshort =>
      ((hkeeps hshort).split h.calls h'.calls).1
    obtain ⟨hafter, hshort', hsells'⟩ := h'.inStock hmid fun hshort' =>
      ((hkeeps (hshort hshort')).split h.calls h'.calls).2
    rw [h.terms_eq] at hsells'
    exact ⟨hafter, fun hafter => hshort (hshort' hafter), hsells.trans hsells'⟩

/-- Turns that sell amply, and cancel nothing that falls short, may be part of a tick. -/
theorem Passes.of_turns (h : Turns desk.unwatched after.unwatched)
    (hbook : desk.InStock → Calls (fun call => ¬call.Cancels) desk after →
      desk.venue.venue.orders <+: after.venue.venue.orders)
    (hsells : Calls (fun call => desk.InStock →
      call.SellsAmply desk.venue.venue.terms.minimumVolume) desk after) : desk.Passes after where
  settings_eq := h.settings_eq
  terms_eq := h.turn.terms_eq
  fresh := h.fresh
  calls := hsells.mono fun _ _ => trivial
  inStock := by
    intro hstocked hkeeps
    refine ⟨?_, h.turn.fallsShort hstocked.inStep, hsells.mono fun _ hcall => hcall hstocked⟩
    have hmarket : after.market = desk.market := congrArg TrackerSettings.market h.settings_eq
    rw [InStock, hmarket]
    exact h.turn.stocked hstocked fun hshort => hbook hstocked (hkeeps hshort)

end Desk

namespace Tracker

variable {desk after : Desk (Journaled Paper) κ}

/-- A move that cancels nothing takes no order off the book. -/
theorem Move.book (h : Move Paper.venue.journaled desk after)
    (hkeeps : Calls (fun call => ¬call.Cancels) desk after) :
    desk.venue.venue.orders <+: after.venue.venue.orders := by
  cases h with
  | remember | waitEnter | waitExit => exact List.prefix_rfl
  | ask asks => exact (Looked.ask asks.unwatched).spares.keepsOrders
  | list lists => exact (Looked.listOrders (ends_listOrders_unwatched lists)).spares.keepsOrders
  | refuseEntry _ _ replies =>
    obtain ⟨-, hspares⟩ | ⟨_, hok, -⟩ :=
      Paper.replies_createOrder (replies_unwatched replies)
    · exact hspares.keepsOrders
    · cases hok
  | refuseExit _ holds replies =>
    obtain ⟨hlooked, -⟩ := looked_of_holds holds.unwatched
    obtain ⟨-, hspares⟩ | ⟨_, hok, -⟩ :=
      Paper.replies_createOrder (replies_unwatched replies)
    · exact (hlooked.spares.trans hspares).keepsOrders
    · cases hok
  | enter _ submits =>
    obtain ⟨hplaces, -⟩ := places_of_submit (ends_submit_unwatched submits)
    exact ⟨_, hplaces.orders_eq.symm⟩
  | leave _ _ holds submits =>
    obtain ⟨hlooked, -⟩ := looked_of_holds holds.unwatched
    obtain ⟨hplaces, -⟩ := places_of_submit (ends_submit_unwatched submits)
    exact ⟨_, (hlooked.spares.places hplaces).orders_eq.symm⟩
  | keep _ _ cancels => exact (looked_of_cancel (ends_cancel_unwatched cancels)).spares.keepsOrders
  | fill _ finds _ =>
    obtain ⟨orders, hlist, -⟩ := ends_findOrder_ok.mp (ends_findOrder_unwatched finds)
    exact (Looked.listOrders hlist).spares.keepsOrders
  -- a cancel that was confirmed would be in the journal
  | giveUp _ finds _ cancels =>
    have hfind := calls_of_find finds
    exact (false_of_cancel cancels hfind hkeeps).elim
  | takePart _ _ finds _ holds cancels _ =>
    exact (false_of_cancel cancels ((calls_of_find finds).trans holds.calls) hkeeps).elim
  | withdraw _ _ finds cancels =>
    have hfind := calls_of_find finds
    exact (false_of_cancel cancels hfind hkeeps).elim

/-- What is offered for sale is what is held, and that is in stock. -/
theorem Offers.calls (h : Offers Paper.venue.journaled desk after) :
    Calls (fun call => desk.InStock → call.SellsAmply desk.venue.venue.terms.minimumVolume)
      desk after := by
  cases h with
  | @exit asked _ entry ratchet? quantity price answer stage_eq side_eq holds replies =>
    have hlooks := Asking.calls (onlyAsks_call (.balance _) rfl holds)
    obtain ⟨hlooked, hquantity⟩ := Looked.balance (ends_call_unwatched holds)
    have hterms : asked.venue.venue.terms = desk.venue.venue.terms := hlooked.spares.terms_eq
    refine (hlooks.no_sale.mono fun _ hcall _ => VenueCall.sellsAmply_of_not_sells hcall).trans
      (.of_replies replies rfl fun hstocked => ?_)
    have hheld : quantity = desk.venue.venue.held :=
      hquantity.trans (congrArg (fun market : Market => desk.venue.venue.balance market.base)
        hstocked.market_eq)
    have hcovered := hstocked.covered
    rw [stage_eq] at hcovered
    have hamount : ¬quantity < desk.venue.venue.terms.minimumVolume := by
      rw [hheld]
      exact hcovered side_eq
    refine ⟨hamount, Paper.replies_ne_belowMinimum ?_ (replies_unwatched replies)⟩
    rw [hterms]
    exact hamount

/-- A move sells amply what is in stock. -/
theorem Move.sells (h : Move Paper.venue.journaled desk after) :
    Calls (fun call => desk.InStock → call.SellsAmply desk.venue.venue.terms.minimumVolume)
      desk after := by
  obtain hnone | hoffers := h.offers
  · exact hnone.mono fun _ hcall _ => VenueCall.sellsAmply_of_not_sells hcall
  · exact hoffers.calls

/-- A move may be part of a tick. -/
theorem Move.passes (h : Move Paper.venue.journaled desk after) (hfresh : desk.unwatched.Fresh) :
    desk.Passes after :=
  .of_turns (h.unwatched.turn hfresh) (fun _ => h.book) h.sells

/-- Any number of moves may be part of a tick. -/
theorem Moves.passes (h : Moves Paper.venue.journaled desk after) (hfresh : desk.unwatched.Fresh) :
    desk.Passes after := by
  induction h with
  | refl => exact .refl hfresh
  | tail _ hmove ih => exact ih.trans (hmove.passes ih.fresh)

/-- A stage is found while there is no order on the book, so none falls short. -/
theorem Finding.passes (h : Finding Paper.venue.journaled desk after)
    (hfresh : desk.unwatched.Fresh) : desk.Passes after := by
  refine .of_turns (h.unwatched.turn hfresh) (fun hstocked _ => ?_)
    (h.calls.no_sale.mono fun _ hcall _ => VenueCall.sellsAmply_of_not_sells hcall)
  have hnone : desk.tracker.stage = none := by
    cases h with
    | flat stage_eq | held stage_eq | enter stage_eq | leave stage_eq => exact stage_eq
  have hstep := hstocked.inStep
  rw [hnone] at hstep
  rw [show desk.venue.venue.orders = [] from hstep]
  exact List.nil_prefix

theorem Found.passes (h : Found Paper.venue.journaled desk after)
    (hfresh : desk.unwatched.Fresh) : desk.Passes after := by
  cases h with
  | known _ => exact .refl hfresh
  | finds finding => exact finding.passes hfresh

/-- Closing a trade only looks. -/
theorem Closing.calls {σ : Type} {venue : Venue σ} {desk after : Desk (Journaled σ) κ}
    {trade : ClosedTrade} (h : Closing venue.journaled desk trade after) :
    Calls VenueCall.Looks desk after := by
  obtain ⟨stage_eq, finds, values, takes⟩ := h
  have hvalues := Asking.calls (closedTrade_onlyAsks _ _ _ rfl values)
  exact (calls_of_find finds).trans hvalues

/-- Closing a trade sells nothing. -/
theorem Closing.passes {trade : ClosedTrade} (h : Closing Paper.venue.journaled desk trade after)
    (hfresh : desk.unwatched.Fresh) : desk.Passes after := by
  obtain ⟨entry, exit, hclosed⟩ := h.unwatched.closed hfresh
  have hsells := h.calls.no_sale
  refine ⟨hclosed.settings_eq, hclosed.spares.terms_eq, hclosed.fresh,
    hsells.mono fun _ _ => trivial,
    fun hstocked _ => ⟨?_, .of_spares hclosed.spares, hsells.amply _⟩⟩
  obtain ⟨ratchet, hstage⟩ := hclosed.awaits
  have hmarket : after.market = desk.market := congrArg TrackerSettings.market hclosed.settings_eq
  have hafter : after.tracker.stage = some .needEnter := hclosed.stage_eq
  rw [InStock, hmarket, hafter]
  rw [InStock, show desk.tracker.stage = _ from hstage] at hstocked
  exact hstocked.close hclosed.missing hclosed.spares

/-- An operation that is cut off has cancelled a purchase that does not fall short. -/
theorem Proceeds.passes {α : Type} {answer : Except TradingError α}
    (h : Proceeds Paper.venue.journaled desk answer after) (hfresh : desk.unwatched.Fresh) :
    desk.Passes after := by
  cases h with
  | moves moves => exact moves.passes hfresh
  | @cutOff _ _ _ _ entry order held stage_eq finds part holds cancels =>
    obtain ⟨hseen, hfound⟩ := hfresh.found_eq (ends_findOrder_unwatched finds)
    have hasked := hseen.trans (looked_of_holds holds.unwatched).1
    obtain ⟨hid, htakes, hafter⟩ := takesOff_of_found hasked hfound (ends_cancel_unwatched cancels)
    have hsame := undisturbed_of_part finds holds cancels
    have hlooks := (calls_of_find finds).trans holds.calls
    have hsells := hlooks.no_sale.trans (no_sale_of_cancel cancels)
    refine ⟨by rw [hsame.tracker_eq], htakes.terms_eq, hafter (hasked.fresh hfresh),
      hsells.mono fun _ _ => trivial, fun hstocked hkeeps => ?_⟩
    have hstep := hstocked.inStep
    rw [InStock, stage_eq] at hstocked
    rw [stage_eq] at hstep
    refine ⟨?_, fun hshort => ?_, hsells.amply _⟩
    · rw [InStock, hsame.market_eq, hsame.tracker_eq, stage_eq]
      refine hstocked.cutOff hid part htakes fun hshort => ?_
      exact (false_of_cancel cancels hlooks (hkeeps hshort)).elim
    · obtain ⟨-, hempty⟩ := htakes.orders_eq (Paper.KeepsOnly.atMostOne hstep)
      exact absurd hshort (Paper.not_fallsShort_of_nil hempty)

end Tracker

/-- Whatever course a tick takes, it sells amply what is in stock. -/
theorem Course.passes {desk after : Desk (Journaled Paper) κ}
    {answer : Except TradingError (Option ClosedTrade)}
    (h : Course Paper.venue.journaled desk answer after) (hfresh : desk.unwatched.Fresh) :
    desk.Passes after := by
  cases h with
  | unfound _ moves => exact moves.passes hfresh
  | goesOn found proceeds _ _ =>
    have hfound := found.passes hfresh
    exact hfound.trans (proceeds.passes hfound.fresh)
  | closes found closing =>
    have hfound := found.passes hfresh
    have hpasses := hfound.trans (closing.passes hfound.fresh)
    -- the rules that are told of the trade touch nothing else
    exact ⟨hpasses.settings_eq, hpasses.terms_eq, ⟨hpasses.fresh.upTo, hpasses.fresh.listed⟩,
      hpasses.calls, hpasses.inStock⟩

/-! ## Ticks -/

namespace Session

/-- A tick asks for a ticker, and passes from there, or fails without it. -/
theorem tick_passes {strategy : Strategy κ} {desk after : Desk (Journaled Paper) κ}
    {answer : Except TradingError (Option ClosedTrade)}
    (h : Ends (tick Paper.venue.journaled strategy) desk answer after)
    (hupTo : desk.openOrders.UpTo desk.tick) :
    ∃ begun : Desk (Journaled Paper) κ, desk.venue.venue.Spares begun.venue.venue ∧
      begun.tracker = desk.tracker ∧ Calls (fun call => ¬call.Sells) desk begun ∧
        (begun.Passes after ∨ after = begun ∧ after.openOrders.UpTo after.tick) := by
  obtain ⟨reply, state, hreply, hcourse⟩ := tick_inv h
  have hspares := Paper.replies_ticker (replies_unwatched hreply)
  obtain ⟨-, hafter⟩ | ⟨ticker, prices, -, -, hcourse⟩ := hcourse
  · exact ⟨{ desk with venue := state }, hspares, rfl, .of_replies hreply rfl not_false,
      .inr ⟨hafter, hafter ▸ hupTo⟩⟩
  · refine ⟨{ desk with venue := state, prices, tick := desk.tick + 1 }, hspares, rfl,
      .of_replies hreply rfl not_false, .inl (hcourse.passes ?_)⟩
    refine ⟨hupTo.mono (Nat.le_succ _), fun orders hlisted => ?_⟩
    -- a new tick has no list yet
    have hnone : desk.openOrders.at? (desk.tick + 1) = none := hupTo.at?_of_lt (Nat.lt_succ_self _)
    cases hnone.symm.trans hlisted

section Ticks

variable {session : Session (Journaled Paper) κ}

/-- A tick leaves no list for the next one, and keeps the market and the terms of the venue. -/
theorem onTick_same (hupTo : session.desk.openOrders.UpTo session.desk.tick)
    (strategy : Strategy κ) :
    (session.onTick Paper.venue.journaled strategy).2.desk.openOrders.UpTo
        (session.onTick Paper.venue.journaled strategy).2.desk.tick ∧
      (session.onTick Paper.venue.journaled strategy).2.desk.market = session.desk.market ∧
        (session.onTick Paper.venue.journaled strategy).2.desk.venue.venue.terms =
          session.desk.venue.venue.terms := by
  obtain ⟨begun, hspares, htracker, -, hpasses⟩ :=
    tick_passes (ends_onTick Paper.venue.journaled strategy session) hupTo
  have hbegun : begun.market = session.desk.market := by rw [market, market, htracker]
  obtain hpasses | ⟨rfl, hafter⟩ := hpasses
  · have hmarket := congrArg TrackerSettings.market hpasses.settings_eq
    exact ⟨hpasses.fresh.upTo, hmarket.trans hbegun, hpasses.terms_eq.trans hspares.terms_eq⟩
  · exact ⟨hafter, hbegun, hspares.terms_eq⟩

/-- A tick leaves all in stock that is needed, and sells nothing below the least volume. -/
theorem onTick_inStock (hupTo : session.desk.openOrders.UpTo session.desk.tick)
    (hstocked : session.desk.InStock) (strategy : Strategy κ)
    (hkeeps : session.desk.KeepsShort (session.onTick Paper.venue.journaled strategy).2.desk) :
    (session.onTick Paper.venue.journaled strategy).2.desk.InStock ∧
      Calls (·.SellsAmply session.desk.venue.venue.terms.minimumVolume) session.desk
        (session.onTick Paper.venue.journaled strategy).2.desk := by
  obtain ⟨begun, hspares, htracker, hcalls, hpasses⟩ :=
    tick_passes (ends_onTick Paper.venue.journaled strategy session) hupTo
  have hbegun : begun.InStock := by
    rw [InStock, market, htracker]
    exact hstocked.spares hspares
  have hsells := hcalls.amply session.desk.venue.venue.terms.minimumVolume
  obtain hpasses | ⟨rfl, -⟩ := hpasses
  · obtain ⟨hafter, -, hsells'⟩ := hpasses.inStock hbegun fun hshort =>
      ((hkeeps (.of_spares hspares hshort)).split hcalls hpasses.calls).2
    rw [hspares.terms_eq] at hsells'
    exact ⟨hafter, hsells.trans hsells'⟩
  · exact ⟨hbegun, hsells⟩

end Ticks

/-! ## Runs -/

end Session

/--
What may happen at a paper venue between two ticks: one of the tickers that there may
be is published, orders are filled whole or by a fraction of what is left, and calls
fail that have not been made yet.
-/
inductive Paper.Varies (tickers : Paper → Ticker → Prop) (paper : Paper) : Paper → Prop where
  | ticker (ticker : Ticker) (may : tickers paper ticker) :
      Varies tickers paper (paper.setTicker ticker)
  | partialFill (fraction : Option Float) (proper : ∀ part ∈ fraction, 0.0 < part ∧ part ≤ 1.0) :
      Varies tickers paper { paper with partialFill := fraction }
  | failing (cancels calls afterCancel : Nat) :
      Varies tickers paper (paper.failing cancels calls afterCancel)

theorem Paper.Varies.terms_eq {tickers : Paper → Ticker → Prop} {paper after : Paper}
    (h : paper.Varies tickers after) : after.terms = paper.terms := by
  cases h with
  | ticker ticker => exact paper.setTicker_terms ticker
  | partialFill | failing => rfl

/--
Where purchases complete amply, the stock is there after whatever happens between two
ticks.
-/
theorem Tracker.Stocked.varies {market : Market} {paper after : Paper} {stage? : Option Stage}
    (h : Stocked market paper stage?) (hchange : paper.Varies Paper.CompletesAmply after) :
    Stocked market after stage? := by
  cases hchange with
  | ticker ticker amply => exact h.setTicker amply
  | partialFill fraction proper =>
    refine h.partialFill fun part hpart => ?_
    exact fun hlt => Double.lt_irrefl (Double.lt_trans hlt (proper part hpart).1)
  | failing cancels calls afterCancel => exact h.spares ⟨_, _, _, rfl⟩

namespace Session

/-- The venue of a session has become another one, beside its journal. -/
def withPaper (session : Session (Journaled Paper) κ) (paper : Paper) :
    Session (Journaled Paper) κ :=
  { session with desk := { session.desk with venue := { session.desk.venue with venue := paper } } }

/-- All that the session has offered for sale so far, with the answers. -/
def sales (session : Session (Journaled Paper) κ) : List (Float × Answer OrderId) :=
  session.desk.venue.calls.filterMap VenueCall.sale?

-- a search by `==` would never find what is not a number
instance (session : Session (Journaled Paper) κ) (quantity : Float) (answer : Answer OrderId) :
    Decidable ((quantity, answer) ∈ session.sales) :=
  decidable_of_iff (∃ sale ∈ session.sales, sale = (quantity, answer))
    ⟨fun ⟨_, hmem, heq⟩ => heq ▸ hmem, fun hmem => ⟨_, hmem, rfl⟩⟩

/--
The sessions that trade at a paper venue for their market, whose calls are written down,
from a beginning without orders. Between two ticks the venue varies, with the tickers
that there may be, and every tick is one that may be.
-/
inductive Watched (tickers : Paper → Ticker → Prop)
    (ticks : Desk (Journaled Paper) κ → Desk (Journaled Paper) κ → Prop) :
    Session (Journaled Paper) κ → Prop where
  | start (config : StrategyConfig) {paper : Paper} (empty : paper.orders = [])
      (not_negative : ¬paper.held < 0.0) (positive : 0.0 < paper.terms.minimumVolume)
      (whole : paper.partialFill = none) (rules : κ) :
      Watched tickers ticks (start paper.terms.market config ⟨paper, []⟩ rules)
  | meanwhile {session : Session (Journaled Paper) κ} (run : Watched tickers ticks session)
      {paper : Paper} (change : session.desk.venue.venue.Varies tickers paper) :
      Watched tickers ticks (session.withPaper paper)
  | tick {session : Session (Journaled Paper) κ} (run : Watched tickers ticks session)
      (strategy : Strategy κ)
      (may : ticks session.desk (session.onTick Paper.venue.journaled strategy).2.desk) :
      Watched tickers ticks (session.onTick Paper.venue.journaled strategy).2

section Watched

variable {session : Session (Journaled Paper) κ} {tickers : Paper → Ticker → Prop}
  {ticks : Desk (Journaled Paper) κ → Desk (Journaled Paper) κ → Prop}

/-- No list is kept for a tick still to come. -/
theorem Watched.upTo (run : Watched tickers ticks session) :
    session.desk.openOrders.UpTo session.desk.tick := by
  induction run with
  | start => exact nofun
  | meanwhile _ _ ih => exact ih
  | tick _ strategy _ ih => exact (onTick_same ih strategy).1

/-- All is in stock along the run, and all that was sold was at least the least volume. -/
theorem Watched.inStock (run : Watched Paper.CompletesAmply KeepsShort session)
    (hdiffer : session.desk.market.base ≠ session.desk.market.counter) :
    session.desk.InStock ∧ ∀ call ∈ session.desk.venue.calls,
      call.SellsAmply session.desk.venue.venue.terms.minimumVolume := by
  induction run with
  | @start config paper empty not_negative positive whole rules =>
    have hsolvent : paper.Solvent :=
      ⟨not_negative, by rw [whole]; exact nofun, by rw [empty]; exact nofun⟩
    exact ⟨⟨empty, rfl, hdiffer, positive, hsolvent, trivial⟩, nofun⟩
  | meanwhile _ change ih =>
    obtain ⟨hstocked, hcalls⟩ := ih hdiffer
    refine ⟨hstocked.varies change, ?_⟩
    rw [withPaper, change.terms_eq]
    exact hcalls
  | @tick session run strategy keeps ih =>
    -- the market and the terms are the same before the tick and after it
    obtain ⟨-, hmarket, hterms⟩ := onTick_same run.upTo strategy
    rw [hmarket] at hdiffer
    obtain ⟨hstocked, hcalls⟩ := ih hdiffer
    obtain ⟨hafter, calls, hcons, hsells⟩ := onTick_inStock run.upTo hstocked strategy keeps
    refine ⟨hafter, ?_⟩
    rw [hterms, hcons]
    exact List.forall_mem_append.mpr ⟨hsells, hcalls⟩

/--
**No sale is below the least volume of the venue, whether an exit is first placed,
moved or forced**, and none is refused as such, where the currencies of the market
differ, no purchase comes to less once it is filled in parts, and no tick cancels an
order that falls short.
-/
theorem amount_of_sale (run : Watched Paper.CompletesAmply KeepsShort session)
    (hdiffer : session.desk.market.base ≠ session.desk.market.counter) {quantity : Float}
    {answer : Answer OrderId} (hsale : (quantity, answer) ∈ session.sales) :
    ¬quantity < session.desk.venue.venue.terms.minimumVolume ∧
      (quantity.isNaN = false → session.desk.venue.venue.terms.minimumVolume ≤ quantity) ∧
        ∀ amount least, answer ≠ .error (PaperError.belowMinimum amount least).toVenueError := by
  obtain ⟨hstocked, hcalls⟩ := run.inStock hdiffer
  obtain ⟨call, hcall, hsale⟩ := List.mem_filterMap.mp hsale
  obtain ⟨hquantity, hanswer⟩ := VenueCall.SellsAmply.of_sale (hcalls call hcall) hsale
  obtain ⟨-, hleast, -⟩ := Double.lt_iff_rank.mp hstocked.positive
  exact ⟨hquantity, fun hnumber => Double.le_of_not_lt hleast hnumber hquantity, hanswer⟩

end Watched

/-! ### A sale that is moved -/

/-- A session that has had no tick, at a venue for its market whose calls are written down. -/
def watchedAt (config : StrategyConfig) (paper : Paper) : Session (Journaled Paper) Unit :=
  start paper.terms.market config ⟨paper, []⟩ ()

/-- The venue of a session fills a fraction of each order, and publishes one more ticker. -/
def showing (session : Session (Journaled Paper) Unit) (step : Option Float × Float) :
    Session (Journaled Paper) Unit :=
  (session.withPaper { session.desk.venue.venue with partialFill := step.1 }).withPaper
    (({ session.desk.venue.venue with partialFill := step.1 }).setTicker (level step.2))

/-- A tick after that, of a session that is always for trading. -/
def partly (session : Session (Journaled Paper) Unit) (step : Option Float × Float) :
    Session (Journaled Paper) Unit :=
  ((session.showing step).onTick Paper.venue.journaled .eager).2

/-- A watched session may be shown one more ticker, with a fraction to fill. -/
theorem Watched.partly {session : Session (Journaled Paper) Unit} {tickers : Paper → Ticker → Prop}
    {ticks : Desk (Journaled Paper) Unit → Desk (Journaled Paper) Unit → Prop}
    (run : Watched tickers ticks session) (step : Option Float × Float)
    (hproper : ∀ part ∈ step.1, 0.0 < part ∧ part ≤ 1.0)
    (hticker : tickers { session.desk.venue.venue with partialFill := step.1 } (level step.2))
    (htick : ticks (session.showing step).desk (session.partly step).desk) :
    Watched tickers ticks (session.partly step) :=
  .tick (.meanwhile (.meanwhile run (.partialFill step.1 hproper)) (.ticker (level step.2) hticker))
    .eager htick

/-- A tick at a venue where nothing falls short. -/
theorem Watched.amply {session : Session (Journaled Paper) Unit}
    (run : Watched Paper.CompletesAmply KeepsShort session) (step : Option Float × Float)
    (h : (∀ part ∈ step.1, 0.0 < part ∧ part ≤ 1.0) ∧
      ({ session.desk.venue.venue with partialFill := step.1 }).CompletesAmply (level step.2) ∧
        ¬(session.showing step).desk.venue.venue.FallsShort) :
    Watched Paper.CompletesAmply KeepsShort (session.partly step) :=
  run.partly step h.1 h.2.1 fun hshort => absurd hshort h.2.2

/--
Half of five coins are bought and are to be sold. Once half of these are sold, the
exit is moved, and the rest is offered anew.
-/
def movedAmply : Session (Journaled Paper) Unit :=
  [(none, 100.0), (some 0.5, 100.0), (some 0.5, 100.0), (some 0.5, 100.0),
    (none, 105.0)].foldl partly
    (watchedAt { limits := { enterPartiallyExecuted := 0 } }
      (.holding (.ofCurrencies "BTC" "EUR") [("EUR", 1000.0)]))

theorem amount_of_movedAmply :
    (1.25, .ok (.ofNat 3)) ∈ movedAmply.sales ∧
      movedAmply.desk.venue.venue.terms.minimumVolume ≤ 1.25 := by
  have run : Watched Paper.CompletesAmply KeepsShort movedAmply := by
    refine .amply (.amply (.amply (.amply (.amply
      (.start _ rfl ?_ ?_ rfl ()) _ ?_) _ ?_) _ ?_) _ ?_) _ ?_
    · decide +kernel
    · decide +kernel
    · decide +kernel
    · decide +kernel
    · decide +kernel
    · decide +kernel
    · decide +kernel
  have hsale : (1.25, .ok (.ofNat 3)) ∈ movedAmply.sales := by decide +kernel
  exact ⟨hsale, (amount_of_sale run (by decide +kernel) hsale).2.1 (by decide +kernel)⟩

/-! ### Sales that come to too little -/

end Session

/-- The prices of a ticker are finite and positive. -/
def Ticker.Priced (ticker : Ticker) : Prop :=
  ∀ price ∈ [ticker.last, ticker.ask, ticker.bid], price.isFinite = true ∧ 0.0 < price

instance (ticker : Ticker) : Decidable ticker.Priced :=
  inferInstanceAs (Decidable (∀ price ∈ [ticker.last, ticker.ask, ticker.bid],
    price.isFinite = true ∧ 0.0 < price))

namespace Session

/-- Sessions that are watched, whatever is left by what is filled in parts. -/
abbrev Loosely : Session (Journaled Paper) κ → Prop :=
  Watched (fun _ => Ticker.Priced) (fun _ _ => True)

/-- A session that has offered less than the least volume for sale. -/
structure SellsLess (session : Session (Journaled Paper) κ) (quantity : Float)
    (answer : Answer OrderId) :
    Prop where
  run : session.Loosely
  sale : (quantity, answer) ∈ session.sales
  less : ¬session.desk.venue.venue.terms.minimumVolume ≤ quantity

/-- A watched session may be shown any tickers, each with a fraction to fill. -/
theorem Watched.foldl_partly {session : Session (Journaled Paper) Unit} (run : session.Loosely)
    (steps : List (Option Float × Float))
    (h : ∀ step ∈ steps, (∀ part ∈ step.1, 0.0 < part ∧ part ≤ 1.0) ∧ (level step.2).Priced) :
    (steps.foldl Session.partly session).Loosely := by
  induction steps generalizing session with
  | nil => exact run
  | cons step steps ih =>
    obtain ⟨⟨hproper, hpriced⟩, hrest⟩ := List.forall_mem_cons.mp h
    exact ih (run.partly step hproper hpriced trivial) hrest

/--
A session has sold less than the least volume if a run of tickers shows it a sale that
small.
-/
theorem sellsLess_of_partly {config : StrategyConfig} {paper : Paper}
    {steps : List (Option Float × Float)} {quantity : Float} {answer : Answer OrderId}
    (hempty : paper.orders = []) (hwhole : paper.partialFill = none)
    (hflat : ¬paper.held < 0.0 ∧ 0.0 < paper.terms.minimumVolume)
    (hsteps : ∀ step ∈ steps, (∀ part ∈ step.1, 0.0 < part ∧ part ≤ 1.0) ∧ (level step.2).Priced)
    (hends : let session := steps.foldl partly (watchedAt config paper)
      (quantity, answer) ∈ session.sales ∧
        ¬session.desk.venue.venue.terms.minimumVolume ≤ quantity) :
    (steps.foldl partly (watchedAt config paper)).SellsLess quantity answer where
  run := .foldl_partly (.start config hempty hflat.1 hflat.2 hwhole ()) steps hsteps
  sale := hends.1
  less := hends.2

/--
Too little is sold, and that is refused, where half of a purchase was taken, where the
exit of a half-sold long is moved or forced to the market, where a purchase is
complete but for some dust, and where a currency is traded for itself. Where more is
held than a double can say, what is sold is not a number.
-/
theorem sellsLess_of_watched :
    let market := Market.ofCurrencies "BTC" "EUR"
    let coins := Paper.holding market [("EUR", 300.0)]
    let taken := [(none, 100.0), (some 0.5, 100.0), (none, 100.0)].foldl partly
      (watchedAt { limits := { enterPartiallyExecuted := 0 } } coins)
    let selling := [(none, 100.0), (none, 100.0), (none, 100.0), (some 0.5, 100.0)]
    let moved := (selling ++ [(none, 105.0)]).foldl partly (watchedAt {} coins)
    let forced := (selling ++ [(none, 90.0)]).foldl partly
      (watchedAt { limits := { exitCrossed := 0 } } coins)
    let dusty := [(none, 100.0), (some 0.9999999999995, 100.0), (none, 100.0)].foldl partly
      (watchedAt {} (.holding market [("EUR", 150.0)]))
    let same := [(none, 0.6), (none, 0.6), (none, 0.6)].foldl partly
      (watchedAt { balancePercentage := 100.0, emergencyStop := -1.0 }
        { Paper.new (.ofCurrencies "BTC" "BTC") 0.0 4.666666666666667 0.005 with
          balances := ⟨[("BTC", 2.8)]⟩ })
    let vast := [(none, 1e-300), (none, 1e-300), (none, 1e-300), (none, 2e-300)].foldl partly
      (watchedAt {}
        { Paper.new market 0.0 1e308 0.005 with
          balances := ⟨[("EUR", 2e8), ("BTC", 1e308)]⟩ })
    let refusal := fun text : String => Except.error (VenueError.tradingApi text)
    taken.SellsLess 0.75 (refusal "volume 0.75 below minimum 1") ∧
      moved.SellsLess 0.75 (refusal "volume 0.75 below minimum 1") ∧
        forced.SellsLess 0.75 (refusal "volume 0.75 below minimum 1") ∧
          dusty.SellsLess 0.9999999999995 (refusal "volume 0.9999999999995 below minimum 1") ∧
            same.SellsLess 4.666666666666666
                (refusal "volume 4.666666666666666 below minimum 4.666666666666667") ∧
              vast.SellsLess (0.0 / 0.0) (.ok (.ofNat 3)) := by
  -- each run is evaluated: what is held before it, the tickers that it is shown, and the
  -- sale that it ends with
  refine ⟨sellsLess_of_partly rfl rfl ?_ ?_ ?_, sellsLess_of_partly rfl rfl ?_ ?_ ?_,
    sellsLess_of_partly rfl rfl ?_ ?_ ?_, sellsLess_of_partly rfl rfl ?_ ?_ ?_,
    sellsLess_of_partly rfl rfl ?_ ?_ ?_, sellsLess_of_partly rfl rfl ?_ ?_ ?_⟩
  · decide +kernel
  · decide +kernel
  · decide +kernel
  · decide +kernel
  · decide +kernel
  · decide +kernel
  · decide +kernel
  · decide +kernel
  · decide +kernel
  · decide +kernel
  · decide +kernel
  · decide +kernel
  · decide +kernel
  · decide +kernel
  · decide +kernel
  · decide +kernel
  · decide +kernel
  · decide +kernel

end Session

end SwingTrader
