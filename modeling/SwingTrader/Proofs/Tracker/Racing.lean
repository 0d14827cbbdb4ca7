import SwingTrader.Proofs.Session.Watched
import SwingTrader.Proofs.Tracker.Evidence

/-!
# SwingTrader — a market that does not wait

A tracker decides on a list of open orders and then acts on it by another call, and the
market may move in between. An entry that was open when the orders were listed can be
filled, in part or all of it, before its cancel arrives; the cancel takes the rest off the
book and is confirmed.

Such a venue is one whose state moves before every call, in any way. What a tracker can
then be sure of is what its list tells: an entry is only given up when it was listed as
whole, and an entry that is filled by then is never let go of. What is executed after the
list is answered goes unseen, which `Tracker.unseen_of_raced` shows at a paper venue.

* `Racing`, `Venue.racing` — a venue that moves between calls;
* `Tracker.Fate` — what becomes of an entry that is waited for;
* `Tracker.fate_of_run` — no operation leaves it another fate.
-/

namespace SwingTrader

variable {σ κ α : Type}

open Desk

/-! ## Venues that move -/

/--
A venue with the moves that are still to come, one before each call. The lists of open
orders that it has answered are remembered, newest first, with the state each was true of.
-/
structure Racing (σ : Type) where
  venue : σ
  ahead : List (σ → σ) := []
  seen : List (List OpenOrder × σ) := []

namespace Racing

/-- The venue moves, if it is to. -/
def move (state : Racing σ) : Racing σ :=
  match state.ahead with
  | [] => state
  | next :: ahead => { state with venue := next state.venue, ahead }

theorem seen_move (state : Racing σ) : state.move.seen = state.seen := by
  unfold move
  split <;> rfl

/-- A list that is answered is remembered with the state at which it is. -/
def remember (state : Racing σ) : Answer (List OpenOrder) → Racing σ
  | .ok orders => { state with seen := (orders, state.venue) :: state.seen }
  | .error _ => state

end Racing

namespace Venue

/-- Makes a call after the venue has moved. -/
def race (call : VenueM σ α) : VenueM (Racing σ) α := fun state =>
  let moved := state.move
  let (answer, venue) := call.run moved.venue
  (answer, { moved with venue })

/-- Lists the open orders after the venue has moved, and remembers the answer. -/
def raceList (call : VenueM σ (List OpenOrder)) :
    VenueM (Racing σ) (List OpenOrder) := fun state =>
  let (answer, listed) := (race call).run state
  (answer, listed.remember answer)

/-- A venue that moves before every call. -/
def racing (venue : Venue σ) : Venue (Racing σ) where
  ticker market := race (venue.ticker market)
  openOrders market := raceList (venue.openOrders market)
  createOrder market kind quantity price := race (venue.createOrder market kind quantity price)
  cancelOrder market id := race (venue.cancelOrder market id)
  availableBalance currency := race (venue.availableBalance currency)
  minimumOrderVolume market := race (venue.minimumOrderVolume market)
  buyFee market := race (venue.buyFee market)
  sellFee market := race (venue.sellFee market)

section Racing

variable {venue : Venue σ} {describe : Answer α → VenueCall} {call : VenueM σ α}

theorem replies_race {state after : Racing σ} {reply : Answer α}
    (h : Replies (race call) state reply after) :
    ∃ venue, Replies call state.move.venue reply venue ∧ after = { state.move with venue } := by
  obtain ⟨hreply, hafter⟩ := Prod.mk.inj h
  exact ⟨(call.run state.move.venue).2, Prod.ext hreply rfl, hafter.symm⟩

/-- A list that is answered is remembered. -/
theorem replies_raceList {call : VenueM σ (List OpenOrder)} {state after : Racing σ}
    {reply : Answer (List OpenOrder)} (h : Replies (raceList call) state reply after) :
    ∃ listed, Replies (race call) state reply listed ∧ after = listed.remember reply := by
  obtain ⟨hreply, hafter⟩ := Prod.mk.inj h
  refine ⟨((race call).run state).2, Prod.ext hreply rfl, ?_⟩
  rw [← hreply, ← hafter]
  rfl

/-- No call but a list of open orders adds to what was seen. -/
theorem seen_of_race {state after : Journaled (Racing σ)} {reply : Answer α}
    (h : Replies (journal describe (race call)) state reply after) :
    after.venue.seen = state.venue.seen := by
  obtain ⟨venue, -, hafter⟩ := replies_race (replies_unwatched h)
  rw [hafter]
  exact Racing.seen_move state.venue

/--
The lists remembered are those answered, the newest first, whether or not the venue is
watched.
-/
theorem seen_of_raceList {describe : Answer (List OpenOrder) → VenueCall}
    {call : VenueM σ (List OpenOrder)} {state after : Journaled (Racing σ)}
    {reply : Answer (List OpenOrder)}
    (h : Replies (journal describe (raceList call)) state reply after) :
    after.venue.seen = match reply with
      | .ok orders => (orders, after.venue.venue) :: state.venue.seen
      | .error _ => state.venue.seen := by
  obtain ⟨listed, hlisted, hafter⟩ := replies_raceList (replies_unwatched h)
  obtain ⟨venue, -, rfl⟩ := replies_race hlisted
  rw [hafter]
  cases reply with
  | ok orders => exact congrArg _ (Racing.seen_move state.venue)
  | error _ => exact Racing.seen_move state.venue

end Racing

end Venue

/-- The lists that a venue remembers while it is watched. -/
def Journaled.seen (state : Journaled (Racing σ)) : List (List OpenOrder × σ) :=
  state.venue.seen

/-- The latest of the lists that are remembered. -/
def latestSeen (seen : List (List OpenOrder × σ)) : Option (List OpenOrder) :=
  seen.head?.map Prod.fst

/-- What a venue that moves remembers tells which list is the latest. -/
theorem hears_racing (venue : Venue σ) :
    Hears venue.racing.journaled (latestSeen ∘ Journaled.seen) where
  lists replies := by
    rw [Function.comp_apply, Journaled.seen, Venue.seen_of_raceList replies]
    rfl
  fails replies := by
    rw [Function.comp_apply, Journaled.seen, Venue.seen_of_raceList replies]
    rfl
  asks asks replies := by
    cases asks with
    | balance | minimum | buyFee | sellFee =>
      rw [Function.comp_apply, Journaled.seen, Venue.seen_of_race replies]
      rfl
  creates replies := by
    rw [Function.comp_apply, Journaled.seen, Venue.seen_of_race replies]
    rfl
  cancels replies := by
    rw [Function.comp_apply, Journaled.seen, Venue.seen_of_race replies]
    rfl

namespace Tracker

/-! ## The fate of an entry -/

/--
What a list says of its orders is true: one that has been executed in part is not listed
as whole.
-/
def Truthful (executed : σ → OrderId → Prop) (answer : List OpenOrder × σ) : Prop :=
  ∀ order ∈ answer.1, executed answer.2 order.id → order.isPartiallyFilled = true

/--
What becomes of an entry that is waited for: it still is, or it is entered into the
ledger, or it is given up. It is given up only by a cancel that is confirmed, and when
nothing of it was executed at the latest list of open orders.
-/
inductive Fate (executed : σ → OrderId → Prop) (entry : PlacedOrder)
    (looked after : Desk (Journaled (Racing σ)) κ) : Prop where
  | held {entry' : PlacedOrder} (stage_eq : after.tracker.stage = some (.waitForEnter entry'))
      (id_eq : entry'.id = entry.id) (ledgers_eq : after.ledgers = looked.ledgers) :
      Fate executed entry looked after
  | entered {entry' : PlacedOrder} (stage_eq : after.tracker.stage = some (.needExit entry' none))
      (id_eq : entry'.id = entry.id) (adds : looked.AddsEntry entry.side after.ledgers) :
      Fate executed entry looked after
  | givenUp {orders : List OpenOrder} {state : σ} {order : OpenOrder}
      (stage_eq : after.tracker.stage = some .needEnter)
      (cancelled_eq : cancelled looked after = [entry.id])
      (latest : after.venue.seen.head? = some (orders, state))
      (listed : orders.find? (fun order => order.id = entry.id) = some order)
      (unexecuted : ¬executed state entry.id) : Fate executed entry looked after

section Fate

variable {venue : Venue σ} {executed : σ → OrderId → Prop}
  {desk looked after : Desk (Journaled (Racing σ)) κ} {entry : PlacedOrder}

/-- An entry that is given up was listed, as whole, by the latest list of open orders. -/
theorem latest_of_giveUp {seen : Desk (Journaled (Racing σ)) κ} {order : OpenOrder} {rules : κ}
    (hkeeps : Keeps (latestSeen ∘ Journaled.seen) looked)
    (finds : Ends (findOrder venue.racing.journaled entry.id) looked (.ok (some order)) seen)
    (cancels : Ends (cancel venue.racing.journaled entry.id) { seen with rules } (.ok true) after) :
    ∃ orders state, after.venue.seen.head? = some (orders, state) ∧
      orders.find? (fun order => order.id = entry.id) = some order := by
  obtain ⟨orders, hlist, hfind⟩ := ends_findOrder_ok.mp finds
  have hheard := heard_of_listOrders (hears_racing venue) hkeeps hlist
  -- the cancel comes after the list, and tells nothing of the other orders
  have hafter := (heard_of_cancel (hears_racing venue) cancels).trans hheard
  obtain ⟨⟨listed, state⟩, hhead, rfl⟩ := Option.map_eq_some_iff.mp hafter
  exact ⟨listed, state, hhead, hfind.symm⟩

/-- What one operation does with an entry is one of its fates. -/
theorem Deed.fate {op : Operation κ} {trade? : Option ClosedTrade}
    (hstage : looked.tracker.stage = some (.waitForEnter entry))
    (hkeeps : Keeps (latestSeen ∘ Journaled.seen) looked)
    (htruthful : ∀ answer ∈ after.venue.seen, Truthful executed answer)
    (h : Deed venue.racing.journaled op looked trade? after) :
    Fate executed entry looked after := by
  cases h with
  -- the entry is let go of by a single deed; by all others it is held on to, or entered
  | tend tending =>
    have hsame := tending.undisturbed
    exact .held (by rw [hsame.tracker_eq, hstage]) rfl hsame.ledgers_eq
  | waitEnter stage_eq tending counted =>
    cases hstage.symm.trans stage_eq
    exact .held rfl counted.id_eq tending.undisturbed.ledgers_eq
  | cutOff stage_eq finds _ holds cancels _ =>
    have hsame := undisturbed_of_part finds holds cancels
    exact .held (by rw [hsame.tracker_eq, hstage]) rfl hsame.ledgers_eq
  | fill stage_eq finds takes =>
    cases hstage.symm.trans stage_eq
    exact .entered rfl rfl ((Undisturbed.findOrder finds).takesEntry_iff.mp takes).adds
  | takePart stage_eq finds _ _ holds cancels takes =>
    cases hstage.symm.trans stage_eq
    exact .entered rfl rfl ((undisturbed_of_part finds holds cancels).takesEntry_iff.mp takes).adds
  | @giveUp seen mid _ order rules stage_eq finds whole cancels =>
    cases hstage.symm.trans stage_eq
    obtain ⟨orders, state, hhead, hfind⟩ := latest_of_giveUp hkeeps finds cancels
    obtain ⟨-, hcalls⟩ := journals_of_cancelFound finds cancels
    refine .givenUp rfl hcalls.cancelled_eq hhead hfind fun hexecuted => ?_
    -- an order that is listed as whole is one that nothing was executed of
    have hid : order.id = entry.id := by simpa using List.find?_some hfind
    have hpart := htruthful _ (List.mem_of_head? hhead) order (List.mem_of_find?_eq_some hfind)
      (hid ▸ hexecuted)
    rw [hpart] at whole
    cases whole
  | waitExit stage_eq | missEntry stage_eq | missExit stage_eq | enter stage_eq | leave stage_eq
  | withdraw stage_eq | replace stage_eq => cases hstage.symm.trans stage_eq
  | close closing =>
    obtain ⟨stage_eq, -, -, -⟩ := closing
    cases hstage.symm.trans stage_eq

/--
**Nothing that was executed when the orders were listed is forgotten**, however the venue
moves between the calls of an operation: an entry that is waited for stays so, or is
entered into the ledger, unless nothing of it was executed at the latest list of open
orders and its cancel is confirmed.
-/
theorem fate_of_run (listening : Listening venue.racing.journaled Journaled.seen desk)
    (op : Operation κ)
    (looks : Ends (resume venue.racing.journaled) desk (.ok (.waitForEnter entry)) looked)
    (truthful : ∀ answer ∈ (outcome (op.run venue.racing.journaled) desk).2.venue.seen,
      Truthful executed answer) :
    Fate executed entry looked (outcome (op.run venue.racing.journaled) desk).2 := by
  have hlook : Ends (Operation.look.run venue.racing.journaled) desk (.ok ()) looked :=
    ends_bind.mpr (.inr ⟨_, looked, looks, ends_pure.mpr ⟨rfl, rfl⟩⟩)
  -- looking is an operation of its own
  have hkeeps := ((listening.operate .look).kept (hears_racing venue)).2
  rw [hlook] at hkeeps
  have hends := ends_outcome (op.run venue.racing.journaled) desk
  obtain ⟨_, hresume, -⟩ | ⟨_, _, hresume, hop⟩ := run_inv op hends
  · cases looks.symm.trans hresume
  · cases looks.symm.trans hresume
    have hstage := (found_of_resume looks).2
    exact (deed_of_run op hstage hop).fate hstage hkeeps truthful

end Fate

/-! ### An entry that is filled behind the list -/

/-- Something of an order has been executed at a paper venue. -/
def Executed (paper : Paper) (id : OrderId) : Prop :=
  ∃ fill ∈ paper.fills, fill.orderId = id

instance (paper : Paper) (id : OrderId) : Decidable (Executed paper id) :=
  inferInstanceAs (Decidable (∃ fill ∈ paper.fills, fill.orderId = id))

/-- The market falls to below an entry, and half of the entry is filled. -/
def falls (paper : Paper) : Paper :=
  { paper with partialFill := some 0.5 }.setTicker
    { last := 90.0, ask := 90.0, bid := 89.0, time := ⟨1, 0⟩ }

/--
A tracker that is to give up an entry at once, at a paper venue with an entry for two
coins. The market falls after the orders are listed, and before the next call.
-/
def raced : Desk (Journaled (Racing Paper)) Unit :=
  let config : StrategyConfig := { limits := { enterNotExecuted := 0 } }
  let settings := (Session.start (.ofCurrencies "BTC" "EUR") config () ()).desk.tracker.settings
  let paper := Paper.holding (.ofCurrencies "BTC" "EUR") [("EUR", 820.0)]
  let ordered := (paper.insertOpenOrder .buy 2.0 90.0).2
  .open settings ⟨{ venue := ordered, ahead := [id, falls] }, []⟩ ()

/-- What the tracker takes up, and the desk at which it has. -/
theorem looks_raced : ∃ entry looked,
    Ends (resume Paper.venue.racing.journaled) raced (.ok (.waitForEnter entry)) looked ∧
      entry.id = .ofNat 1 := by
  have hid : (outcome (resume Paper.venue.racing.journaled) raced).1.toOption.bind
      (fun stage => (awaited stage).map PlacedOrder.id) = some (.ofNat 1) := by decide +kernel
  have hphase : (outcome (resume Paper.venue.racing.journaled) raced).1.toOption.map Stage.phase =
      some .waitForEnter := by decide +kernel
  have hends := ends_outcome (resume Paper.venue.racing.journaled) raced
  generalize hanswer : (outcome (resume Paper.venue.racing.journaled) raced).1 = answer at *
  match answer, hphase with
  | .ok (.waitForEnter entry), _ => exact ⟨entry, _, hends, Option.some.inj hid⟩

/-- The entry is tracked, and the market has left it behind. -/
def trackStale : Operation Unit :=
  .trackEnter (.fixed 100.0)

/-- The lists that the venue of the race answers are true. -/
theorem truthful_of_raced :
    ∀ answer ∈ (outcome (trackStale.run Paper.venue.racing.journaled) raced).2.venue.seen,
      Truthful Executed answer := by
  unfold Truthful
  decide +kernel

/-- The entry is given up, and nothing of it was executed when it was listed. -/
theorem fate_of_raced :
    ∃ entry looked, Ends (resume Paper.venue.racing.journaled) raced (.ok (.waitForEnter entry))
      looked ∧
      Fate Executed entry looked
        (outcome (trackStale.run Paper.venue.racing.journaled) raced).2 := by
  obtain ⟨entry, looked, hlooks, -⟩ := looks_raced
  exact ⟨entry, looked, hlooks, fate_of_run (.begin rfl rfl) trackStale hlooks truthful_of_raced⟩

/--
Half of the entry is bought all the same, between the list and the cancel. The cancel is
confirmed, and the coin is neither held by the tracker nor entered into the ledger.
-/
theorem unseen_of_raced :
    let after := (outcome (trackStale.run Paper.venue.racing.journaled) raced).2
    Listening Paper.venue.racing.journaled Journaled.seen raced ∧
      (∀ answer ∈ after.venue.seen, Truthful Executed answer) ∧
        (∃ entry looked,
          Ends (resume Paper.venue.racing.journaled) raced (.ok (.waitForEnter entry)) looked ∧
            cancelled raced after = [entry.id] ∧ Executed after.venue.venue.venue entry.id) ∧
          after.tracker.phase = .needEnter ∧ after.ledgers.read ⟨0⟩ = .empty := by
  obtain ⟨entry, looked, hlooks, hid⟩ := looks_raced
  refine ⟨.begin rfl rfl, truthful_of_raced, ⟨entry, looked, hlooks, ?_, ?_⟩, ?_, ?_⟩
  · rw [hid]
    decide +kernel
  · rw [hid]
    decide +kernel
  · decide +kernel
  · decide +kernel

end Tracker

end SwingTrader
