import SwingTrader.Proofs.Session.Books
import SwingTrader.Proofs.Session.Watched
import SwingTrader.Proofs.Tracker.Likeness

/-!
# SwingTrader — sessions whose venue is watched

Writing down the calls of a venue changes nothing: a tick of a session whose venue is
watched ends like the tick of the session itself, and leaves the same session behind
but for the journal.

* `Strategy.mimics_execute`, `Session.mimics_tick` — venues that are alike make for
  ticks that are;
* `Desk.likeness_journaled` — a venue is like itself when it is watched;
* `Session.onTick_watched` — what a tick does, and the calls it makes.
-/

namespace SwingTrader

variable {σ τ κ : Type} {venue : Venue σ} {venue' : Venue τ}

open Desk Tracker

/-! ## Ticks at desks that are alike -/

section Alike

variable {S : Market → Nat → σ → OpenOrderCache → τ → OpenOrderCache → Prop}

/-- Changes that keep two desks alike mimic each other. -/
theorem Desk.mimics_modify {R : Desk σ κ → Desk τ κ → Prop} {change : Desk σ κ → Desk σ κ}
    {change' : Desk τ κ → Desk τ κ}
    (h : ∀ desk other, R desk other → R (change desk) (change' other)) :
    Mimics R (modify change : DeskM σ κ PUnit) (modify change') :=
  .of_ends fun desk other hrelated =>
    ⟨_, _, _, ends_modify.mpr ⟨rfl, rfl⟩, ends_modify.mpr ⟨rfl, rfl⟩,
      h desk other hrelated⟩

namespace Strategy

variable (strategy : Strategy κ)

/-- To decide for a position and open it goes alike at venues that are alike. -/
theorem mimics_enter (h : Likeness κ S venue venue') :
    Mimics (Alike κ S) (strategy.enter venue) (strategy.enter venue') := by
  refine (mimics_decide _).bind fun decided => .ite decided ?_ (.pure _)
  refine .get fun desk other hrelated => ?_
  rw [hrelated.rules_eq]
  exact mimics_placeEnter h _ _

/-- To decide for closing a position and close it goes alike at venues that are alike. -/
theorem mimics_leave (h : Likeness κ S venue venue') :
    Mimics (Alike κ S) (strategy.leave venue) (strategy.leave venue') :=
  (mimics_decide _).bind fun decided => .ite decided (mimics_placeExit h _) (.pure _)

/-- To watch an exit goes alike at venues that are alike. -/
theorem mimics_watchExit (h : Likeness κ S venue venue') :
    Mimics (Alike κ S) (strategy.watchExit venue) (strategy.watchExit venue') := by
  refine (mimics_trackExit h _).bind fun closed? => ?_
  cases closed? with
  | none => exact .pure none
  | some trade =>
    refine Mimics.bind (mimics_modify fun desk other hrelated => ?_) fun _ => .pure (some trade)
    exact { hrelated with rules_eq := by rw [hrelated.rules_eq] }

/-- In every phase a strategy goes alike at venues that are alike. -/
theorem mimics_execute (h : Likeness κ S venue venue') :
    Mimics (Alike κ S) (strategy.execute venue) (strategy.execute venue') := by
  rw [execute, execute, currentState_bind, currentState_bind]
  refine (mimics_resume h).bind fun stage => ?_
  cases stage with
  | needEnter => exact (strategy.mimics_enter h).bind fun _ => .pure none
  | waitForEnter => exact (mimics_trackEnter h _).bind fun _ => .pure none
  | needExit => exact (strategy.mimics_leave h).bind fun _ => .pure none
  | waitForExit => exact strategy.mimics_watchExit h

end Strategy

/-- Venues that are alike have the same tickers. -/
def SameTickers (κ : Type) (S : Market → Nat → σ → OpenOrderCache → τ → OpenOrderCache → Prop)
    (venue : Venue σ) (venue' : Venue τ) : Prop :=
  ∀ market, Mimics (Alike κ S) (call (venue.ticker market)) (call (venue'.ticker market))

/-- A ticker is taken in alike at venues with the same tickers. -/
theorem Desk.mimics_update (h : SameTickers κ S venue venue') :
    Mimics (Alike κ S) (update venue) (update venue') := by
  refine .get fun desk other hrelated => ?_
  rw [hrelated.prices_eq]
  refine (h desk.prices.market).bind fun ticker => .get fun desk other hrelated => ?_
  rw [hrelated.prices_eq]
  cases desk.prices.record ticker with
  | error error => exact (Mimics.throw _).bind fun _ => mimics_newestBar
  | ok prices =>
    refine (Mimics.set ?_).bind fun _ => mimics_newestBar
    exact { hrelated with prices_eq := rfl }

/-- Ticks are alike where a new tick leaves alike what the desks keep. -/
theorem Session.mimics_tick (strategy : Strategy κ) (h : Likeness κ S venue venue')
    (htickers : SameTickers κ S venue venue')
    (hnext : ∀ market tick state openOrders state' openOrders',
      S market tick state openOrders state' openOrders' →
        S market (tick + 1) state openOrders state' openOrders') :
    Mimics (Alike κ S) (tick venue strategy) (tick venue' strategy) := by
  refine (mimics_update htickers).bind fun _ =>
    Mimics.bind (mimics_modify fun desk other hrelated => ?_)
    fun _ => strategy.mimics_execute h
  exact { hrelated with
    tick_eq := by rw [hrelated.tick_eq]
    related := hnext _ _ _ _ _ _ hrelated.related }

end Alike

/-! ## A venue that is watched -/

namespace Desk

/-- The venue that is watched remembers the same, and the same lists are kept. -/
def SameVenue (_ : Market) (_ : Nat) (state : σ) (openOrders : OpenOrderCache)
    (state' : Journaled σ) (openOrders' : OpenOrderCache) : Prop :=
  state'.venue = state ∧ openOrders' = openOrders

theorem alike_unwatched (desk : Desk (Journaled σ) κ) : Alike κ SameVenue desk.unwatched desk :=
  ⟨rfl, rfl, rfl, rfl, rfl, rfl, rfl⟩

theorem Alike.unwatched_eq {desk : Desk σ κ} {other : Desk (Journaled σ) κ}
    (h : Alike κ SameVenue desk other) : other.unwatched = desk := by
  obtain ⟨hprices, htick, hledgers, htracker, hrules, hvenue, hcache⟩ := h
  rw [unwatched, hprices, htick, hledgers, htracker, hrules, hvenue, hcache]

/-- It is enough that what is done at the desk that is watched is done at the desk itself. -/
theorem mimics_of_unwatched {α : Type} {op : DeskM σ κ α} {op' : DeskM (Journaled σ) κ α}
    (h : ∀ desk answer after, Ends op' desk answer after →
      Ends op desk.unwatched answer after.unwatched) :
    Mimics (Alike κ SameVenue) op op' := by
  refine .of_ends fun desk other hrelated => ?_
  have hends := ends_outcome op' other
  refine ⟨_, _, _, ?_, hends, alike_unwatched _⟩
  rw [← hrelated.unwatched_eq]
  exact h _ _ _ hends

/-- An order that cannot be submitted while the venue is watched cannot be submitted unwatched. -/
theorem ends_submit_unwatched_of_error {desk after : Desk (Journaled σ) κ} {kind : OrderKind}
    {quantity price : Float} {error : TradingError}
    (h : Ends (submit venue.journaled kind quantity price) desk (.error error) after) :
    Ends (submit venue kind quantity price) desk.unwatched (.error error) after.unwatched := by
  obtain ⟨reason, state, hreply, herror, rfl⟩ := ends_submit_error.mp h
  exact ends_submit_error.mpr ⟨reason, state.venue, replies_unwatched hreply, herror, rfl⟩

/-- A venue does the same whether or not it is watched. -/
theorem likeness_journaled (venue : Venue σ) : Likeness κ SameVenue venue venue.journaled where
  balance _ := mimics_of_unwatched fun _ _ _ h => ends_call_unwatched h
  minimum _ := mimics_of_unwatched fun _ _ _ h => ends_call_unwatched h
  buyFee _ := mimics_of_unwatched fun _ _ _ h => ends_call_unwatched h
  sellFee _ := mimics_of_unwatched fun _ _ _ h => ends_call_unwatched h
  lists := mimics_of_unwatched fun _ _ _ h => ends_listOrders_unwatched h
  submits _ _ _ := mimics_of_unwatched fun _ answer _ h => by
    cases answer with
    | ok order => exact ends_submit_unwatched h
    | error error => exact ends_submit_unwatched_of_error h
  cancels _ := mimics_of_unwatched fun _ _ _ h => ends_cancel_unwatched h

end Desk

namespace Session

/-- The same session, whose venue is watched from now on. -/
def watched (session : Session σ κ) : Session (Journaled σ) κ where
  desk :=
    { venue := ⟨session.desk.venue, []⟩
      prices := session.desk.prices
      tick := session.desk.tick
      openOrders := session.desk.openOrders
      ledgers := session.desk.ledgers
      tracker := session.desk.tracker
      rules := session.desk.rules }
  closedTrades := session.closedTrades

/-- The session itself, of which no journal is kept. -/
def unwatched (session : Session (Journaled σ) κ) : Session σ κ where
  desk := session.desk.unwatched
  closedTrades := session.closedTrades

/-- A tick of a session that is watched is the tick of the session itself. -/
theorem onTick_watched (session : Session σ κ) (strategy : Strategy κ) :
    session.onTick venue strategy =
      ((session.watched.onTick venue.journaled strategy).1,
        (session.watched.onTick venue.journaled strategy).2.unwatched) := by
  have htickers : SameTickers κ SameVenue venue venue.journaled := fun _ =>
    mimics_of_unwatched fun _ _ _ h => ends_call_unwatched h
  obtain ⟨hanswer, hafter⟩ := mimics_tick strategy (likeness_journaled venue) htickers
    (fun _ _ _ _ _ _ h => h) session.desk session.watched.desk
      (alike_unwatched session.watched.desk)
  have hanswer : (session.onTick venue strategy).1 =
      (session.watched.onTick venue.journaled strategy).1 := hanswer
  have hdesk : (session.watched.onTick venue.journaled strategy).2.desk.unwatched =
      (session.onTick venue strategy).2.desk := hafter.unwatched_eq
  -- the trades that were closed before are the same, and so is the answer
  have htrades : (session.watched.onTick venue.journaled strategy).2.closedTrades =
      (session.onTick venue strategy).2.closedTrades := by
    rw [closedTrades_onTick, closedTrades_onTick, hanswer]
    rfl
  refine Prod.ext hanswer ?_
  rw [unwatched, hdesk, htrades]

end Session

end SwingTrader
