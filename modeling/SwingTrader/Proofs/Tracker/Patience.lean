import SwingTrader.Proofs.Tracker.Tightening

/-!
# SwingTrader — how long a tracker waits for an order

An order that stays open tries the patience of its tracker: an entry that the market
leaves behind, an entry that is filled in part, an exit that the market is past. Each of
these is counted for as long as the order is held, by every call that has found it so and
not failed. An order is cancelled once it was found so more often than the limit allows, or
to move an exit to a better stop, and for no other reason; and as long as a cancel is not
confirmed the order is waited for on.

* `Trial`, `Note`, `since?` — what an order was found in, and how often since it was taken;
* `Tracker.trial?` — what a call finds the order in that it tracks;
* `Tracker.Noting` — the desks of a tracker, with the notes on its orders;
* `Tracker.Minds` — how one operation treats the order that is waited for;
* `Tracker.Patient`, `Tracker.patience_of_run` — every order is counted exactly.
-/

namespace SwingTrader

variable {σ κ α : Type}

open Desk

/-! ## Trials -/

/--
What tries the patience with an order that is open: an entry that is whole while a fresh
price would be worse, an entry that is filled in part, an exit that the market is past.
-/
inductive Trial where
  | outrun
  | partly
  | crossed
  deriving DecidableEq

namespace Trial

/-- Whether it is an entry that is tried. -/
def isEnter : Trial → Bool
  | outrun | partly => true
  | crossed => false

/-- How often an order may be found so before it is cancelled. -/
def limit (limits : RetryLimits) : Trial → Nat
  | outrun => limits.enterNotExecuted
  | partly => limits.enterPartiallyExecuted
  | crossed => limits.exitCrossed

/-- The order of a stage that is tried. -/
def subject : Trial → Stage → Option PlacedOrder
  | outrun | partly => Stage.enterOrder
  | crossed => Stage.exitOrder

/-- How often an order was found so, as it says itself. -/
def counter : Trial → PlacedOrder → Nat
  | outrun | crossed => PlacedOrder.notExecuted
  | partly => PlacedOrder.partiallyExecuted

end Trial

/-- What happens to the orders of a position, as far as patience goes. -/
inductive Note where
  | taken (order : PlacedOrder)
  | tried (trial : Trial)

/-- The order that was last taken, to enter or to exit, and the trials since then; newest first. -/
def since? (isEnter : Bool) : List Note → Option (PlacedOrder × List Trial)
  | [] => none
  | .taken order :: older =>
    if order.kind.isEnter = isEnter then some (order, []) else since? isEnter older
  | .tried trial :: older =>
    (since? isEnter older).map fun (order, trials) => (order, trial :: trials)

namespace Tracker

/-! ## What a call finds -/

/-- The order that a look for it finds at the venue. -/
def found? (venue : Venue σ) (desk : Desk σ κ) (id : OrderId) : Option OpenOrder :=
  (outcome (findOrder venue id) desk).1.toOption.join

/-- The price that a rule proposes at a desk. -/
def proposal (rule : PriceRule κ) (desk : Desk σ κ) (side : Side) : Float :=
  ((rule desk.view side).run desk.rules).1

/-- What a call that tracks an order finds it in. -/
def trial? (venue : Venue σ) (op : Operation κ) (desk : Desk σ κ) : Option Trial :=
  match op, desk.tracker.stage with
  | .trackEnter rule, some (.waitForEnter entry) =>
    (found? venue desk entry.id).bind fun order =>
      if order.isPartiallyFilled then some .partly
      else if hasRunAway entry.side (proposal rule desk entry.side) entry.price then some .outrun
      else none
  | .trackExit _, some (.waitForExit entry exit _) =>
    (found? venue desk exit.id).bind fun _ => desk.prices.ticker.bind fun ticker =>
      if isCrossed entry.side ticker exit.price then some .crossed else none
  | _, _ => none

/-- The orders that a tracker without a stage has taken up by looking. -/
def adopted (desk looked : Desk σ κ) : List Note :=
  if desk.tracker.stage.isSome then []
  else (looked.tracker.exitOrder.toList ++ looked.tracker.enterOrder.toList).map .taken

/--
What is noted of an operation: what it has found, unless it fails, and the orders that
it creates.
-/
def noted (created : List PlacedOrder) (ok : Bool) (trial? : Option Trial) : List Note :=
  created.map .taken ++ if ok then trial?.toList.map .tried else []

/-- What an operation adds to the notes, from its look on. -/
def notes (venue : Venue σ) (op : Operation κ) (desk : Desk (Journaled σ) κ) : List Note :=
  let looked := (outcome (resume venue.journaled) desk).2
  let result := outcome (op.run venue.journaled) desk
  noted (created looked result.2) result.1.toOption.isSome (trial? venue.journaled op looked) ++
    adopted desk looked

/--
The desks of a tracker, with the notes on its orders. Between two operations everything may
change but the tracker.
-/
inductive Noting (venue : Venue σ) : Desk (Journaled σ) κ → List Note → Prop where
  | begin {desk : Desk (Journaled σ) κ} (unresumed : desk.tracker.stage = none) :
      Noting venue desk []
  | meanwhile {desk next : Desk (Journaled σ) κ} {history : List Note}
      (noting : Noting venue desk history) (tracker_eq : next.tracker = desk.tracker) :
      Noting venue next history
  | operate {desk : Desk (Journaled σ) κ} {history : List Note}
      (noting : Noting venue desk history) (op : Operation κ) :
      Noting venue (outcome (op.run venue.journaled) desk).2 (notes venue op desk ++ history)

section Finding

variable {venue : Venue σ} {rule : PriceRule κ} {desk seen : Desk σ κ} {entry exit : PlacedOrder}
  {order : OpenOrder} {ratchet : Ratchet} {ticker : Ticker}

theorem found?_eq {id : OrderId} {found : Option OpenOrder}
    (h : Ends (findOrder venue id) desk (.ok found) seen) : found? venue desk id = found := by
  rw [found?, h]
  rfl

/-- An entry that is missing is not tried. -/
theorem trial?_of_missing (hstage : desk.tracker.stage = some (.waitForEnter entry))
    (hfind : Ends (findOrder venue entry.id) desk (.ok none) seen) :
    trial? venue (.trackEnter rule) desk = none := by
  simp only [trial?, hstage, found?_eq hfind, Option.bind_none]

/-- An entry that is filled in part is tried as such. -/
theorem trial?_of_part (hstage : desk.tracker.stage = some (.waitForEnter entry))
    (hfind : Ends (findOrder venue entry.id) desk (.ok (some order)) seen)
    (hpart : order.isPartiallyFilled = true) :
    trial? venue (.trackEnter rule) desk = some .partly := by
  simp only [trial?, hstage, found?_eq hfind, Option.bind_some, hpart, if_true]

/-- An entry that is whole is tried when a fresh price would be worse. -/
theorem trial?_of_whole (hstage : desk.tracker.stage = some (.waitForEnter entry))
    (hfind : Ends (findOrder venue entry.id) desk (.ok (some order)) seen)
    (hwhole : order.isPartiallyFilled = false) :
    trial? venue (.trackEnter rule) desk =
      if hasRunAway entry.side (proposal rule desk entry.side) entry.price then some .outrun
      else none := by
  simp [trial?, hstage, found?_eq hfind, hwhole]

/-- An exit that is missing is not tried. -/
theorem trial?_of_filled (hstage : desk.tracker.stage = some (.waitForExit entry exit ratchet))
    (hfind : Ends (findOrder venue exit.id) desk (.ok none) seen) :
    trial? venue (.trackExit rule) desk = none := by
  simp only [trial?, hstage, found?_eq hfind, Option.bind_none]

/-- An exit that is open is tried when the market is past it. -/
theorem trial?_of_open (hstage : desk.tracker.stage = some (.waitForExit entry exit ratchet))
    (hfind : Ends (findOrder venue exit.id) desk (.ok (some order)) seen)
    (hticker : desk.prices.ticker = some ticker) :
    trial? venue (.trackExit rule) desk =
      if isCrossed entry.side ticker exit.price then some .crossed else none := by
  simp only [trial?, hstage, found?_eq hfind, Option.bind_some, hticker]

end Finding

/-! ## What is counted -/

/-- An order is the one that was last taken, and says itself how often it was tried since then. -/
def Reckoned (trial : Trial) (order : PlacedOrder) (history : List Note) : Prop :=
  ∃ taken trials, since? trial.isEnter history = some (taken, trials) ∧
    (order.id = taken.id ∧ order.kind = taken.kind ∧ order.price = taken.price) ∧
      trial.counter order = trials.count trial

/-- The orders of a stage are reckoned by every trial. -/
def Patient (stage : Stage) (history : List Note) : Prop :=
  ∀ trial order, Trial.subject trial stage = some order → Reckoned trial order history

/-- A trial, if there is one, is counted for the order that is waited for. -/
inductive Counts : Option Trial → Stage → Stage → Prop where
  | untried (stage : Stage) : Counts none stage stage
  | outrun (entry : PlacedOrder) :
      Counts (some .outrun) (.waitForEnter entry) (.waitForEnter entry.countNotExecuted)
  | partly (entry : PlacedOrder) :
      Counts (some .partly) (.waitForEnter entry) (.waitForEnter entry.countPartiallyExecuted)
  | crossed (entry exit : PlacedOrder) (ratchet : Ratchet) :
      Counts (some .crossed) (.waitForExit entry exit ratchet)
        (.waitForExit entry exit.countNotExecuted ratchet)

/-- What an operation comes to: the orders that it creates, whether it succeeds, and the stage. -/
inductive Comes (trial? : Option Trial) :
    Stage → List PlacedOrder → Bool → Stage → Prop where
  | waits {stage stage' : Stage} (counts : Counts trial? stage stage') :
      Comes trial? stage [] true stage'
  | fails (stage : Stage) : Comes trial? stage [] false stage
  -- an order that is not listed any more was filled
  | fills {entry : PlacedOrder} (untried : trial? = none) :
      Comes trial? (.waitForEnter entry) [] true (.needExit entry none)
  | closes {entry exit : PlacedOrder} {ratchet : Ratchet} (untried : trial? = none) :
      Comes trial? (.waitForExit entry exit ratchet) [] true .needEnter
  -- an entry is cancelled, and taken as far as it was filled
  | takesPart {entry : PlacedOrder} {held : Float} (tried : trial? = some .partly) :
      Comes trial? (.waitForEnter entry) [] true
        (.needExit (entry.countPartiallyExecuted.withQuantity held) none)
  | givesUp {entry : PlacedOrder} : Comes trial? (.waitForEnter entry) [] true .needEnter
  -- an exit is cancelled, and replaced if it can be
  | withdraws {entry exit : PlacedOrder} {ratchet ratchet' : Ratchet} :
      Comes trial? (.waitForExit entry exit ratchet) [] false (.needExit entry (some ratchet'))
  | replaces {entry exit exit₂ exit' : PlacedOrder} {ratchet ratchet' : Ratchet}
      (counts : Counts trial? (.waitForExit entry exit ratchet) (.waitForExit entry exit₂ ratchet))
      (fresh : exit'.notExecuted = 0) (leaves : exit'.kind.isEnter = false) :
      Comes trial? (.waitForExit entry exit ratchet) [exit'] true
        (.waitForExit entry exit' ratchet')
  -- an order is placed
  | enters {order : PlacedOrder} (untried : trial? = none)
      (fresh : order.notExecuted = 0 ∧ order.partiallyExecuted = 0)
      (enters : order.kind.isEnter = true) :
      Comes trial? .needEnter [order] true (.waitForEnter order)
  | leaves {entry order : PlacedOrder} {ratchet? : Option Ratchet} {ratchet : Ratchet}
      (untried : trial? = none) (fresh : order.notExecuted = 0)
      (leaves : order.kind.isEnter = false) :
      Comes trial? (.needExit entry ratchet?) [order] true (.waitForExit entry order ratchet)

section Patient

variable {stage stage' : Stage} {history : List Note} {order : PlacedOrder} {trial?' : Option Trial}

theorem Patient.congr (h : Patient stage history)
    (hsubject : ∀ trial order, Trial.subject trial stage' = some order →
      trial.subject stage = some order) :
    Patient stage' history :=
  fun trial order horder => h trial order (hsubject trial order horder)

theorem patient_needEnter (history : List Note) : Patient .needEnter history := by
  intro trial order horder
  cases trial <;> cases horder

/-- An order that is taken begins with no trials. -/
theorem Patient.take (h : Patient stage history)
    (hfresh : ∀ trial : Trial, trial.isEnter = order.kind.isEnter → trial.counter order = 0)
    (hsubject : ∀ trial, Trial.subject trial stage' =
      if order.kind.isEnter = trial.isEnter then some order else trial.subject stage) :
    Patient stage' (.taken order :: history) := by
  intro trial subject horder
  rw [hsubject] at horder
  rw [Reckoned, since?]
  split at horder
  case isTrue hkind =>
    cases horder
    rw [if_pos hkind]
    exact ⟨order, [], rfl, ⟨rfl, rfl, rfl⟩, hfresh trial hkind.symm⟩
  case isFalse hkind =>
    rw [if_neg hkind]
    exact h trial subject horder

/-- An exit that was just placed was never tried. -/
theorem fresh_of_exit (hfresh : order.notExecuted = 0) (hleaves : order.kind.isEnter = false)
    (trial : Trial) (htrial : trial.isEnter = order.kind.isEnter) : trial.counter order = 0 := by
  rw [hleaves] at htrial
  cases trial with
  | outrun | partly => cases htrial
  | crossed => exact hfresh

/-- One trial more is one more in the count of its order, and leaves the other counts alone. -/
theorem Reckoned.tried {trial trial' : Trial} {order' : PlacedOrder}
    (h : Reckoned trial' order history)
    (hsame : order'.id = order.id ∧ order'.kind = order.kind ∧ order'.price = order.price)
    (hcounter : trial'.counter order' = trial'.counter order + [trial].count trial') :
    Reckoned trial' order' (.tried trial :: history) := by
  obtain ⟨taken, trials, hsince, hof, hcount⟩ := h
  refine ⟨taken, trial :: trials, ?_, ?_, ?_⟩
  · rw [since?, hsince]
    rfl
  · rw [hsame.1, hsame.2.1, hsame.2.2]
    exact hof
  · show _ = ([trial] ++ trials).count trial'
    rw [hcounter, hcount, List.count_append, Nat.add_comm]

/-- A trial that is counted is reckoned. -/
theorem Patient.counts {trial : Trial} (h : Patient stage history)
    (hcounts : Counts (some trial) stage stage') : Patient stage' (.tried trial :: history) := by
  intro trial' subject hsubject
  cases hcounts with
  | outrun entry | partly entry =>
    have hentry := fun trial' hsubject => h trial' entry hsubject
    cases trial' with
    | outrun | partly =>
      cases hsubject
      exact (hentry _ rfl).tried ⟨rfl, rfl, rfl⟩ rfl
    | crossed => cases hsubject
  | crossed entry exit ratchet =>
    cases trial' with
    | outrun | partly =>
      cases hsubject
      exact (h _ _ rfl).tried ⟨rfl, rfl, rfl⟩ rfl
    | crossed =>
      cases hsubject
      exact (h .crossed exit rfl).tried ⟨rfl, rfl, rfl⟩ rfl

/-- Whatever an operation comes to, it is noted exactly. -/
theorem Comes.patient {created : List PlacedOrder} {ok : Bool} {found? : Option Trial}
    (hcomes : Comes found? stage created ok stage') (h : Patient stage history) :
    Patient stage' (noted created ok found? ++ history) := by
  have hcounts : ∀ {counted : Stage}, Counts found? stage counted →
      Patient counted (noted [] true found? ++ history) := by
    intro counted hcounts
    cases found? with
    | none =>
      cases hcounts
      exact h
    | some trial => exact h.counts hcounts
  cases hcomes with
  | waits counts => exact hcounts counts
  | fails => exact h
  | fills untried =>
    subst untried
    refine h.congr fun trial order horder => ?_
    cases trial <;> exact horder
  | closes => exact patient_needEnter _
  | @takesPart entry held tried =>
    subst tried
    intro trial order horder
    cases trial with
    | outrun | partly =>
      cases horder
      -- the quantity that is taken makes no other order of it
      exact hcounts (.partly entry) _ entry.countPartiallyExecuted rfl
    | crossed => cases horder
  | givesUp => exact patient_needEnter _
  | withdraws =>
    refine h.congr fun trial order horder => ?_
    cases trial with
    | outrun | partly => exact horder
    | crossed => cases horder
  | replaces counts fresh leaves =>
    refine (hcounts counts).take (fresh_of_exit fresh leaves) fun trial => ?_
    rw [leaves]
    cases trial <;> rfl
  | enters untried fresh enters =>
    subst untried
    refine h.take (fun trial _ => ?_) fun trial => ?_
    · cases trial with
      | outrun | crossed => exact fresh.1
      | partly => exact fresh.2
    · rw [enters]
      cases trial <;> rfl
  | leaves untried fresh leaves =>
    subst untried
    refine h.take (fresh_of_exit fresh leaves) fun trial => ?_
    rw [leaves]
    cases trial <;> rfl

end Patient

/-! ## Why an order is cancelled -/

/-- What an order may be cancelled for. -/
inductive Warrant (venue : Venue σ) (op : Operation κ) (desk : Desk σ κ) (history : List Note)
    (id : OrderId) : Prop where
  -- it was tried more often than it may be since it was taken, this time included
  | overdue {trial : Trial} {taken : PlacedOrder} {trials : List Trial}
      (tried : trial? venue op desk = some trial)
      (since_eq : since? trial.isEnter history = some (taken, trials)) (id_eq : taken.id = id)
      (exceeds : trial.limit desk.tracker.settings.limits < trials.count trial + 1) :
      Warrant venue op desk history id
  -- the market is not past an exit, and the rule offers a stop that is strictly better
  | improved {rule : PriceRule κ} {entry exit : PlacedOrder} {ratchet : Ratchet} {ticker : Ticker}
      (op_eq : op = .trackExit rule)
      (stage_eq : desk.tracker.stage = some (.waitForExit entry exit ratchet))
      (id_eq : exit.id = id)
      (listed : (found? venue desk exit.id).isSome) (ticker_eq : desk.prices.ticker = some ticker)
      (ahead : isCrossed entry.side ticker exit.price = false)
      (finite : (proposal rule desk entry.side).isFinite = true)
      (better : entry.side.isBetterExit (proposal rule desk entry.side) exit.price = true) :
      Warrant venue op desk history id

end Tracker

/--
A call goes with the cancel of an order: an order is created only after one that is
confirmed.
-/
def VenueCall.Withdraws (id : OrderId) (confirmed : Bool) : VenueCall → Prop
  | cancelOrder _ cancelled answer => cancelled = id ∧ (answer = .ok true ↔ confirmed = true)
  | createOrder .. => confirmed = true
  | _ => True

theorem VenueCall.Looks.withdraws {call : VenueCall} (h : call.Looks) (id : OrderId)
    (confirmed : Bool) :
    call.Withdraws id confirmed := by
  cases call with
  | createOrder | cancelOrder => exact h.elim
  | _ => trivial

theorem VenueCall.Looks.not_cancels {call : VenueCall} (h : call.Looks) :
    call.method ≠ .cancelOrder := by
  cases call with
  | createOrder | cancelOrder => exact h.elim
  | _ => exact nofun

theorem VenueCall.RefusedAt.not_cancels {call : VenueCall} {price : Float}
    (h : call.RefusedAt price) :
    call.method ≠ .cancelOrder := by
  cases call with
  | createOrder => exact nofun
  | _ => exact h.elim

namespace Tracker

/-- How one operation treats the order that is waited for, and what it comes to. -/
inductive Minds (venue : Venue σ) (op : Operation κ) (desk after : Desk (Journaled σ) κ)
    (history : List Note) (stage : Stage) (ok : Bool) (stage' : Stage) : Prop where
  | looks (calls : Calls VenueCall.Looks desk after)
      (comes : Comes (trial? venue.journaled op desk) stage [] ok stage')
  | places {created : List PlacedOrder} (idle : awaited stage = none)
      (calls : Calls (fun call => call.method ≠ .cancelOrder) desk after)
      (journals : Journals created [] desk after)
      (comes : Comes (trial? venue.journaled op desk) stage created ok stage')
  | refused {order : PlacedOrder} (awaits : awaited stage = some order)
      (warrant : Warrant venue.journaled op desk history order.id)
      (calls : Calls (VenueCall.Withdraws order.id false) desk after)
      (counts : Counts (trial? venue.journaled op desk) stage stage') (ok_eq : ok = true)
  | confirmed {order : PlacedOrder} {created : List PlacedOrder}
      (awaits : awaited stage = some order)
      (warrant : Warrant venue.journaled op desk history order.id)
      (calls : Calls (VenueCall.Withdraws order.id true) desk after)
      (journals : Journals created [order.id] desk after)
      (comes : Comes (trial? venue.journaled op desk) stage created ok stage')

/--
An operation leaves the tracker at a stage, and treats the order that is waited for in
some way.
-/
def Minded (venue : Venue σ) (op : Operation κ) (desk after : Desk (Journaled σ) κ)
    (history : List Note) (stage : Stage) (ok : Bool) : Prop :=
  ∃ stage', StandsAt desk after stage' ∧ Minds venue op desk after history stage ok stage'

section Minded

variable {venue : Venue σ} {rule : PriceRule κ} {op : Operation κ}
  {desk seen mid after : Desk (Journaled σ) κ} {history : List Note} {stage : Stage}

/-- An order that was tried more often than its limit may be cancelled. -/
theorem warrant_of_counter {trial : Trial} {order : PlacedOrder} (hpatient : Patient stage history)
    (hsubject : trial.subject stage = some order)
    (htried : trial? venue.journaled op desk = some trial)
    (hexceeds : trial.limit desk.tracker.settings.limits < trial.counter order + 1) :
    Warrant venue.journaled op desk history order.id := by
  obtain ⟨taken, trials, hsince, ⟨hid, -, -⟩, hcount⟩ := hpatient trial order hsubject
  exact .overdue htried hsince hid.symm (hcount ▸ hexceeds)

theorem calls_of_attempt {id : OrderId} {confirmed : Bool}
    (h : Ends (cancel venue.journaled id) desk (.ok confirmed) after) :
    Calls (VenueCall.Withdraws id confirmed) desk after := by
  obtain ⟨reply | cancelled, state, hreply, hanswer, rfl⟩ := ends_cancel.mp h
  · cases hanswer
    exact .of_replies hreply rfl ⟨rfl, by simp⟩
  · cases hanswer
    exact .of_replies hreply rfl ⟨rfl, by simp⟩

/-- Calls that look may come before a cancel. -/
theorem attempt_of_looks {id : OrderId} {confirmed : Bool} (h : Calls VenueCall.Looks desk mid)
    (hcancel : Ends (cancel venue.journaled id) mid (.ok confirmed) after) :
    Calls (VenueCall.Withdraws id confirmed) desk after :=
  (h.mono fun _ hlooks => hlooks.withdraws id confirmed).trans (calls_of_attempt hcancel)

/-- An order is found and then cancelled, whatever a rule was asked in between. -/
theorem attempt_of_find {id : OrderId} {found : Option OpenOrder} {rules : κ} {confirmed : Bool}
    (hfind : Ends (findOrder venue.journaled id) desk (.ok found) seen)
    (hcancel : Ends (cancel venue.journaled id) { seen with rules } (.ok confirmed) after) :
    Calls (VenueCall.Withdraws id confirmed) desk after := by
  have hseen : Calls VenueCall.Looks desk { seen with rules } := (find_seeks hfind).calls
  exact attempt_of_looks hseen hcancel

/-! ### Entering -/

/-- An entry that is filled in part is cancelled only with a warrant, and otherwise counted. -/
theorem trackPartialEntry_minds {entry : PlacedOrder} {order : OpenOrder}
    {answer : Except TradingError Unit} (hstage : desk.tracker.stage = some (.waitForEnter entry))
    (hpatient : Patient (.waitForEnter entry) history)
    (hfind : Ends (findOrder venue.journaled entry.id) desk (.ok (some order)) seen)
    (hpart : order.isPartiallyFilled = true)
    (h : Ends (trackPartialEntry venue.journaled entry order) seen answer after) :
    Minded venue (.trackEnter rule) desk after history (.waitForEnter entry)
      answer.toOption.isSome := by
  have htrial : trial? venue.journaled (.trackEnter rule) desk = some .partly :=
    trial?_of_part hstage hfind hpart
  have hcounts : Counts (trial? venue.journaled (.trackEnter rule) desk) (.waitForEnter entry)
      (.waitForEnter entry.countPartiallyExecuted) := htrial ▸ .partly entry
  have hsame := Undisturbed.findOrder hfind
  have hseen := (find_seeks hfind).calls
  simp only [trackPartialEntry, ends_settings_bind] at h
  split at h
  case isTrue =>
    -- the count is still within its limit
    obtain ⟨rfl, rfl⟩ := ends_setStage.mp h
    exact ⟨_, standsAt_withStage hsame _, .looks hseen (.waits hcounts)⟩
  case isFalse hoverdue =>
    -- the trial takes the count beyond its limit, which is the warrant for a cancel
    rw [hsame.tracker_eq] at hoverdue
    obtain ⟨hasking, _, rfl⟩ | ⟨held, asked, hholds, h⟩ := holds_inv h
    · exact ⟨_, standsAt_of_stage (hsame.trans hasking.undisturbed) hstage,
        .looks (hseen.trans (Asking.calls hasking)) (.fails _)⟩
    have hsame' := hsame.trans hholds.undisturbed
    have hasked := hseen.trans (Asking.calls (holds_asking hholds))
    have hwarrant : Warrant venue.journaled (.trackEnter rule) desk history entry.id :=
      warrant_of_counter hpatient rfl htrial (Nat.lt_of_not_le hoverdue)
    obtain ⟨cancelled, mid, hcancel, h⟩ := cancel_inv h
    have hcancel : Ends (cancel venue.journaled entry.id) asked (.ok cancelled) mid := hcancel
    have hcalls := attempt_of_looks hasked hcancel
    have hmid := hsame'.trans (.cancel hcancel)
    cases cancelled with
    | false =>
      obtain ⟨rfl, rfl⟩ := ends_setStage.mp h
      exact ⟨_, standsAt_withStage hmid _, .refused rfl hwarrant hcalls hcounts rfl⟩
    | true =>
      have hjournals := (shows_of_part hfind hholds hcancel).2
      -- the cancel is confirmed, whether or not the ledger takes what was filled
      obtain ⟨rfl, ⟨_, rfl⟩, -⟩ | ⟨ledgers, -, h⟩ := recordEntry_inv h
      · exact ⟨_, standsAt_of_stage hmid hstage,
          .confirmed rfl hwarrant hcalls hjournals (.fails _)⟩
      · obtain ⟨rfl, rfl⟩ := ends_setStage.mp h
        exact ⟨_, standsAt_withStage hmid _,
          .confirmed rfl hwarrant hcalls hjournals (.takesPart htrial)⟩

/-- An entry that is open is cancelled only with a warrant, and otherwise counted. -/
theorem trackOpenEntry_minds {entry : PlacedOrder} {order : OpenOrder}
    {answer : Except TradingError Unit} (hstage : desk.tracker.stage = some (.waitForEnter entry))
    (hpatient : Patient (.waitForEnter entry) history)
    (hfind : Ends (findOrder venue.journaled entry.id) desk (.ok (some order)) seen)
    (hwhole : order.isPartiallyFilled = false)
    (h : Ends (trackOpenEntry venue.journaled rule entry) seen answer after) :
    Minded venue (.trackEnter rule) desk after history (.waitForEnter entry)
      answer.toOption.isSome := by
  have htrial : trial? venue.journaled (.trackEnter rule) desk =
      if hasRunAway entry.side (proposal rule desk entry.side) entry.price then some .outrun
      else none :=
    trial?_of_whole hstage hfind hwhole
  have hsame := (Undisturbed.findOrder hfind).trans
    (.remember seen ((rule desk.view entry.side).run desk.rules).2)
  have hseen := (find_seeks hfind).calls
  rw [trackOpenEntry, ends_askPrice_bind, (sees_of_findOrder hfind).1,
    (sees_of_findOrder hfind).2] at h
  split at h
  case isFalse hnot =>
    -- a fresh price would be no worse, so this is no trial
    obtain ⟨rfl, rfl⟩ := ends_pure.mp h
    rw [proposal, if_neg hnot] at htrial
    exact ⟨_, standsAt_of_stage hsame hstage, .looks hseen (.waits (htrial ▸ .untried _))⟩
  case isTrue haway =>
    -- a trial is counted, and beyond the limit it is the warrant for a cancel
    rw [proposal, if_pos haway] at htrial
    have hcounts : Counts (trial? venue.journaled (.trackEnter rule) desk) (.waitForEnter entry)
        (.waitForEnter entry.countNotExecuted) := htrial ▸ .outrun entry
    rw [ends_settings_bind] at h
    split at h
    case isTrue =>
      obtain ⟨rfl, rfl⟩ := ends_setStage.mp h
      exact ⟨_, standsAt_withStage hsame _, .looks hseen (.waits hcounts)⟩
    case isFalse hoverdue =>
      rw [hsame.tracker_eq] at hoverdue
      have hwarrant : Warrant venue.journaled (.trackEnter rule) desk history entry.id :=
        warrant_of_counter hpatient rfl htrial (Nat.lt_of_not_le hoverdue)
      obtain ⟨cancelled, mid, hcancel, h⟩ := cancel_inv h
      have hcalls : Calls (VenueCall.Withdraws entry.id cancelled) desk mid :=
        attempt_of_find hfind hcancel
      have hmid := hsame.trans (.cancel hcancel)
      cases cancelled with
      | false =>
        obtain ⟨rfl, rfl⟩ := ends_setStage.mp h
        exact ⟨_, standsAt_withStage hmid _, .refused rfl hwarrant hcalls hcounts rfl⟩
      | true =>
        obtain ⟨rfl, rfl⟩ := ends_setStage.mp h
        have hjournals := (journals_of_cancelFound hfind hcancel).2
        exact ⟨_, standsAt_withStage hmid _, .confirmed rfl hwarrant hcalls hjournals .givesUp⟩

/-- To watch an entry cancels it only with a warrant. -/
theorem trackEnter_minds {entry : PlacedOrder} {answer : Except TradingError Unit}
    (hstage : desk.tracker.stage = some (.waitForEnter entry))
    (hpatient : Patient (.waitForEnter entry) history)
    (h : Ends (trackEnter venue.journaled rule) desk answer after) :
    Minded venue (.trackEnter rule) desk after history (.waitForEnter entry)
      answer.toOption.isSome := by
  rw [trackEnter, ends_resume_bind hstage] at h
  obtain ⟨_, hlook, rfl⟩ | ⟨found, seen, hfind, h⟩ := ends_bind.mp h
  · exact ⟨_, standsAt_of_stage (find_seeks hlook).undisturbed hstage,
      .looks (find_seeks hlook).calls (.fails _)⟩
  have hsame := Undisturbed.findOrder hfind
  have hseen := (find_seeks hfind).calls
  cases found with
  | none =>
    -- an entry that is not listed any more was filled, and the ledger may refuse it
    obtain ⟨rfl, ⟨_, rfl⟩, -⟩ | ⟨ledgers, -, h⟩ := recordEntry_inv h
    · exact ⟨_, standsAt_of_stage hsame hstage, .looks hseen (.fails _)⟩
    · obtain ⟨rfl, rfl⟩ := ends_setStage.mp h
      exact ⟨_, standsAt_withStage hsame _,
        .looks hseen (.fills (trial?_of_missing hstage hfind))⟩
  | some order =>
    dsimp only at h
    split at h
    case isTrue hpart => exact trackPartialEntry_minds hstage hpatient hfind hpart h
    case isFalse hpart =>
      exact trackOpenEntry_minds hstage hpatient hfind (Bool.not_eq_true _ ▸ hpart) h

/-! ### Leaving -/

/-- An exit that was cancelled is replaced, or the position is left without one. -/
theorem resubmitExit_comes {entry : PlacedOrder} {ratchet : Ratchet} {price : Float} {id : OrderId}
    {answer : Except TradingError Unit}
    (h : Ends (resubmitExit venue.journaled entry ratchet price) mid answer after) :
    ∃ created stage', StandsAt mid after stage' ∧ Journals created [] mid after ∧
      Calls (VenueCall.Withdraws id true) mid after ∧
        ∀ {found? : Option Trial} {exit exit₂ : PlacedOrder} {ratchet₀ : Ratchet},
          Counts found? (.waitForExit entry exit ratchet₀) (.waitForExit entry exit₂ ratchet₀) →
            Comes found? (.waitForExit entry exit ratchet₀) created answer.toOption.isSome
              stage' := by
  rw [resubmitExit, ends_setStage_bind] at h
  -- an exit that cannot be placed leaves the position open, without an exit
  obtain ⟨_, hmissed, rfl⟩ | ⟨exit', placed, hexit, h⟩ := ends_bind.mp h
  · have hunplaced := (unplaced_of_submitExit hmissed).1
    refine ⟨[], .needExit entry (some ratchet), ?_, hunplaced.journals, ?_, fun _ => .withdraws⟩
    · rw [StandsAt, hunplaced.undisturbed.tracker_eq, withStage]
    · refine Calls.mono hunplaced.calls fun call hcall => ?_
      obtain hlooks | hrefused := hcall
      · exact hlooks.withdraws id true
      · cases call with
        | createOrder => rfl
        | _ => exact hrefused.elim
  · obtain ⟨quantity, asked, hholds, hsubmit⟩ := submitExit_ok hexit
    obtain ⟨rfl, rfl⟩ := ends_setStage.mp h
    have hasked := Asking.calls (holds_asking hholds)
    have hsame := hholds.undisturbed.trans (.submit hsubmit)
    have hjournals : Journals [exit'] [] mid placed :=
      (Tending.journals (Asking.tending (holds_asking hholds))).trans (journals_of_submit hsubmit)
    obtain ⟨_, state, hreply, rfl, rfl⟩ := ends_submit_ok.mp hsubmit
    refine ⟨[_], .waitForExit entry _ ratchet, ?_, hjournals, ?_, fun hcounts =>
      .replaces hcounts rfl (Side.isEnter_exitKind entry.side)⟩
    · rw [StandsAt, withStage, hsame.tracker_eq, withStage]
    · refine (hasked.mono fun _ hlooks => hlooks.withdraws id true).trans
        (.of_replies hreply rfl ?_)
      rfl

/-- An exit whose cancel is confirmed is replaced, or the position is left without one. -/
theorem minded_of_resubmit {entry exit exit₂ : PlacedOrder} {order : OpenOrder}
    {ratchet ratchet' : Ratchet} {price : Float} {rules : κ} {answer : Except TradingError Unit}
    (hfind : Ends (findOrder venue.journaled exit.id) desk (.ok (some order)) seen)
    (hcancel : Ends (cancel venue.journaled exit.id) { seen with rules } (.ok true) mid)
    (hwarrant : Warrant venue.journaled op desk history exit.id)
    (hcounts : Counts (trial? venue.journaled op desk) (.waitForExit entry exit ratchet)
      (.waitForExit entry exit₂ ratchet))
    (h : Ends (resubmitExit venue.journaled entry ratchet' price) mid answer after) :
    Minded venue op desk after history (.waitForExit entry exit ratchet)
      answer.toOption.isSome := by
  obtain ⟨created, stage', hstands, hjournals, hcalls, hcomes⟩ := resubmitExit_comes h
  have hsame := Undisturbed.cancelFound hfind hcancel
  have hcancelled := (journals_of_cancelFound hfind hcancel).2
  refine ⟨stage', ?_, .confirmed rfl hwarrant ((attempt_of_find hfind hcancel).trans hcalls) ?_
    (hcomes hcounts)⟩
  · rw [StandsAt, hstands, hsame.tracker_eq]
  · simpa using hcancelled.trans hjournals

/-- An exit that the market is past is cancelled only with a warrant, and otherwise counted. -/
theorem trackCrossedExit_minds {entry exit : PlacedOrder} {order : OpenOrder} {ratchet : Ratchet}
    {ticker : Ticker} {answer : Except TradingError Unit}
    (hstage : desk.tracker.stage = some (.waitForExit entry exit ratchet))
    (hpatient : Patient (.waitForExit entry exit ratchet) history)
    (hfind : Ends (findOrder venue.journaled exit.id) desk (.ok (some order)) seen)
    (hticker : desk.prices.ticker = some ticker)
    (hcrossed : isCrossed entry.side ticker exit.price = true)
    (h : Ends (trackCrossedExit venue.journaled entry exit ratchet) seen answer after) :
    Minded venue (.trackExit rule) desk after history (.waitForExit entry exit ratchet)
      answer.toOption.isSome := by
  have htrial : trial? venue.journaled (.trackExit rule) desk = some .crossed := by
    rw [trial?_of_open hstage hfind hticker, if_pos hcrossed]
  have hcounts : Counts (trial? venue.journaled (.trackExit rule) desk)
      (.waitForExit entry exit ratchet) (.waitForExit entry exit.countNotExecuted ratchet) :=
    htrial ▸ .crossed entry exit ratchet
  have hsame := Undisturbed.findOrder hfind
  simp only [trackCrossedExit, ends_settings_bind] at h
  split at h
  case isTrue =>
    -- the count is still within its limit
    obtain ⟨rfl, rfl⟩ := ends_setStage.mp h
    exact ⟨_, standsAt_withStage hsame _, .looks (find_seeks hfind).calls (.waits hcounts)⟩
  case isFalse hoverdue =>
    rw [hsame.tracker_eq] at hoverdue
    have hwarrant : Warrant venue.journaled (.trackExit rule) desk history exit.id :=
      warrant_of_counter hpatient rfl htrial (Nat.lt_of_not_le hoverdue)
    -- the exit is cancelled, to be placed again where the market is
    rw [ends_get_bind] at h
    obtain ⟨cancelled, mid, hcancel, h⟩ := cancel_inv h
    have hcancel : Ends (cancel venue.journaled exit.id) { seen with rules := seen.rules }
        (.ok cancelled) mid := hcancel
    have hcalls := attempt_of_find hfind hcancel
    cases cancelled with
    | false =>
      obtain ⟨rfl, rfl⟩ := ends_setStage.mp h
      exact ⟨_, standsAt_withStage (hsame.trans (.cancel hcancel)) _,
        .refused rfl hwarrant hcalls hcounts rfl⟩
    | true => exact minded_of_resubmit hfind hcancel hwarrant hcounts h

/-- A stop that improves on the ratchet of an exit is strictly better than the exit. -/
theorem trackStop_minds {entry exit : PlacedOrder} {order : OpenOrder} {ratchet : Ratchet}
    {ticker : Ticker} {marks : List Mark} {answer : Except TradingError Unit}
    (hstage : desk.tracker.stage = some (.waitForExit entry exit ratchet))
    (hbraced : Braced (some (.waitForExit entry exit ratchet)) marks)
    (hfind : Ends (findOrder venue.journaled exit.id) desk (.ok (some order)) seen)
    (hticker : desk.prices.ticker = some ticker)
    (hahead : isCrossed entry.side ticker exit.price = false)
    (h : Ends (trackStop venue.journaled rule entry exit ratchet) seen answer after) :
    Minded venue (.trackExit rule) desk after history (.waitForExit entry exit ratchet)
      answer.toOption.isSome := by
  -- the market is not past the exit, so nothing is tried here
  have htrial : trial? venue.journaled (.trackExit rule) desk = none := by
    rw [trial?_of_open hstage hfind hticker, hahead]
    rfl
  have hcounts : ∀ stage, Counts (trial? venue.journaled (.trackExit rule) desk) stage stage :=
    fun stage => htrial ▸ .untried stage
  have hsame := (Undisturbed.findOrder hfind).trans
    (.remember seen ((rule desk.view entry.side).run desk.rules).2)
  rw [trackStop, ends_askPrice_bind, (sees_of_findOrder hfind).1, (sees_of_findOrder hfind).2] at h
  split at h
  case isFalse =>
    obtain ⟨rfl, rfl⟩ := ends_pure.mp h
    exact ⟨_, standsAt_of_stage hsame hstage,
      .looks (find_seeks hfind).calls (.waits (hcounts _))⟩
  case isTrue himproves =>
    -- the ratchet is at the price of the exit, so what improves on the one is better than the other
    have hbetter := Ratchet.isBetterExit_of_improves himproves hbraced.2.1
    rw [hbraced.1] at hbetter
    have hwarrant : Warrant venue.journaled (.trackExit rule) desk history exit.id :=
      .improved rfl hstage rfl (by rw [found?_eq hfind]; rfl) hticker hahead
        (Ratchet.isFinite_of_improves himproves) hbetter
    obtain ⟨cancelled, mid, hcancel, h⟩ := cancel_inv h
    cases cancelled with
    | false =>
      obtain ⟨rfl, rfl⟩ := ends_pure.mp h
      exact ⟨_, standsAt_of_stage (hsame.trans (.cancel hcancel)) hstage,
        .refused rfl hwarrant (attempt_of_find hfind hcancel) (hcounts _) rfl⟩
    | true => exact minded_of_resubmit hfind hcancel hwarrant (hcounts _) h

/-- To watch an exit cancels it only with a warrant, or for a stop that improves on it. -/
theorem trackExit_minds {entry exit : PlacedOrder} {ratchet : Ratchet} {marks : List Mark}
    {answer : Except TradingError (Option ClosedTrade)}
    (hstage : desk.tracker.stage = some (.waitForExit entry exit ratchet))
    (hpatient : Patient (.waitForExit entry exit ratchet) history)
    (hbraced : Braced (some (.waitForExit entry exit ratchet)) marks)
    (h : Ends (trackExit venue.journaled rule) desk answer after) :
    Minded venue (.trackExit rule) desk after history (.waitForExit entry exit ratchet)
      answer.toOption.isSome := by
  rw [trackExit, ends_resume_bind hstage] at h
  obtain ⟨_, hlook, rfl⟩ | ⟨found, seen, hfind, h⟩ := ends_bind.mp h
  · exact ⟨_, standsAt_of_stage (find_seeks hlook).undisturbed hstage,
      .looks (find_seeks hlook).calls (.fails _)⟩
  have hsame := Undisturbed.findOrder hfind
  have hseen := (find_seeks hfind).calls
  cases found with
  | none =>
    -- the exit is filled, and the trade is closed
    have htrial : trial? venue.journaled (.trackExit rule) desk = none :=
      trial?_of_filled hstage hfind
    obtain ⟨_, hleave, rfl⟩ | ⟨trade, closed, hleave, h⟩ := ends_bind.mp h
    · obtain ⟨_, -, hseeks, -⟩ | ⟨_, hok, -⟩ := leavePosition_inv hstage hfind hleave
      · exact ⟨_, standsAt_of_stage hseeks.undisturbed hstage, .looks hseeks.calls (.fails _)⟩
      · cases hok
    · obtain ⟨rfl, rfl⟩ := ends_pure.mp h
      obtain ⟨_, herror, -⟩ | ⟨_, hok, hclosing⟩ := leavePosition_inv hstage hfind hleave
      · cases herror
      · obtain ⟨stage_eq, finds, values, takes⟩ := hclosing
        cases hstage.symm.trans stage_eq
        have hsame := (Undisturbed.findOrder finds).trans (undisturbed_of_closedTrade values)
        have hvalued := Asking.calls (closedTrade_onlyAsks _ _ _ rfl values)
        exact ⟨_, standsAt_withStage hsame _,
          .looks ((find_seeks finds).calls.trans hvalued) (.closes htrial)⟩
  | some order =>
    -- the exit is open, and what is done about it depends on where the market is
    obtain ⟨_, hticker, rfl⟩ | ⟨ticker, quoted, hticker, hopen⟩ := ends_bind.mp h
    · obtain ⟨-, rfl⟩ := ends_newestTicker.mp hticker
      exact ⟨_, standsAt_of_stage hsame hstage, .looks hseen (.fails _)⟩
    rw [ends_newestTicker, hsame.prices_eq] at hticker
    cases hquote : desk.prices.ticker with
    | none =>
      rw [hquote] at hticker
      cases hticker.1
    | some newest =>
      rw [hquote] at hticker
      obtain ⟨⟨⟩, rfl⟩ := hticker
      dsimp only at hopen
      split at hopen
      case isTrue hcrossed =>
        obtain ⟨_, rfl, hcrossing⟩ | ⟨rfl, hcrossing⟩ := noTrade_inv hopen
        · exact trackCrossedExit_minds hstage hpatient hfind hquote hcrossed hcrossing
        · exact trackCrossedExit_minds hstage hpatient hfind hquote hcrossed hcrossing
      case isFalse hahead =>
        have hahead := Bool.not_eq_true _ ▸ hahead
        obtain ⟨_, rfl, hstop⟩ | ⟨rfl, hstop⟩ := noTrade_inv hopen
        · exact trackStop_minds hstage hbraced hfind hquote hahead hstop
        · exact trackStop_minds hstage hbraced hfind hquote hahead hstop

/-! ### Placing -/

theorem not_cancels_of_unplaced {kind : OrderKind} {price : Float}
    (h : Unplaced venue.journaled kind price desk after) :
    Calls (fun call => call.method ≠ .cancelOrder) desk after := by
  refine h.calls.mono fun call hcall => ?_
  obtain hlooks | hrefused := hcall
  · exact hlooks.not_cancels
  · exact hrefused.not_cancels

/-- An order that is submitted cancels none. -/
theorem not_cancels_of_submit {kind : OrderKind} {quantity price : Float} {order : PlacedOrder}
    (hlooks : Calls VenueCall.Looks desk mid)
    (h : Ends (submit venue.journaled kind quantity price) mid (.ok order) after) :
    Calls (fun call => call.method ≠ .cancelOrder) desk after ∧ Journals [order] [] desk after := by
  have hjournals := hlooks.journals_of_looks.trans (journals_of_submit h)
  obtain ⟨_, _, hreply, rfl, rfl⟩ := ends_submit_ok.mp h
  exact ⟨(hlooks.mono fun _ => VenueCall.Looks.not_cancels).trans (.of_replies hreply rfl nofun),
    hjournals⟩

/-- To open a position cancels nothing. -/
theorem placeEnter_minds {side : Side} {answer : Except TradingError Unit}
    (hstage : desk.tracker.stage = some .needEnter)
    (h : Ends (placeEnter venue.journaled rule side) desk answer after) :
    Minded venue (.placeEnter rule side) desk after history .needEnter answer.toOption.isSome := by
  have hsame := Undisturbed.remember desk ((rule desk.view side).run desk.rules).2
  have hlooks : Calls VenueCall.Looks desk
      { desk with rules := ((rule desk.view side).run desk.rules).2 } := .of_eq rfl
  rw [placeEnter, ends_resume_bind hstage] at h
  simp only [ends_askPrice_bind] at h
  split at h
  case isFalse =>
    -- the price cannot be used
    obtain ⟨rfl, rfl⟩ := ends_pure.mp h
    exact ⟨_, standsAt_of_stage hsame hstage, .looks hlooks (.waits (.untried _))⟩
  case isTrue =>
    obtain ⟨_, hamount, rfl⟩ | ⟨amount?, sized, hamount, h⟩ := ends_bind.mp h
    · have hasking := enterAmount_onlyAsks _ side _ rfl hamount
      exact ⟨_, standsAt_of_stage (hsame.trans hasking.undisturbed) hstage,
        .looks (hlooks.trans (Asking.calls hasking)) (.fails _)⟩
    have hasking := enterAmount_onlyAsks _ side _ rfl hamount
    have hsized := hsame.trans hasking.undisturbed
    have hasked := hlooks.trans (Asking.calls hasking)
    cases amount? with
    | none =>
      -- no amount is permitted at that price
      obtain ⟨rfl, rfl⟩ := ends_pure.mp h
      exact ⟨_, standsAt_of_stage hsized hstage, .looks hasked (.waits (.untried _))⟩
    | some amount =>
      obtain ⟨_, hsubmit, rfl⟩ | ⟨order, placed, hsubmit, h⟩ := ends_bind.mp h
      -- the venue refuses the entry
      · have hunplaced := (unplaced_of_submit .refl hsubmit).1
        have hcalls := (hasked.mono fun _ => VenueCall.Looks.not_cancels).trans
          (not_cancels_of_unplaced hunplaced)
        have hjournals := hasked.journals_of_looks.trans hunplaced.journals
        exact ⟨_, standsAt_of_stage (hsized.trans hunplaced.undisturbed) hstage,
          .places rfl hcalls hjournals (.fails _)⟩
      · obtain ⟨rfl, rfl⟩ := ends_setStage.mp h
        obtain ⟨hcalls, hjournals⟩ := not_cancels_of_submit hasked hsubmit
        have hplaced := hsized.trans (.submit hsubmit)
        obtain ⟨_, _, -, rfl, -⟩ := ends_submit_ok.mp hsubmit
        exact ⟨_, standsAt_withStage hplaced _, .places rfl hcalls hjournals
          (.enters rfl ⟨rfl, rfl⟩ (Side.isEnter_enterKind side))⟩

/-- To close a position cancels nothing. -/
theorem placeExit_minds {entry : PlacedOrder} {ratchet? : Option Ratchet}
    {answer : Except TradingError Unit}
    (hstage : desk.tracker.stage = some (.needExit entry ratchet?))
    (h : Ends (placeExit venue.journaled rule) desk answer after) :
    Minded venue (.placeExit rule) desk after history (.needExit entry ratchet?)
      answer.toOption.isSome := by
  have hsame := Undisturbed.remember desk ((rule desk.view entry.side).run desk.rules).2
  have hlooks : Calls VenueCall.Looks desk
      { desk with rules := ((rule desk.view entry.side).run desk.rules).2 } := .of_eq rfl
  rw [placeExit, ends_resume_bind hstage] at h
  simp only [ends_askPrice_bind] at h
  split at h
  -- the rule asks for no price that an order can have
  case isFalse =>
    obtain ⟨rfl, rfl⟩ := ends_pure.mp h
    exact ⟨_, standsAt_of_stage hsame hstage, .looks hlooks (.waits (.untried _))⟩
  case isTrue =>
    obtain ⟨_, hmissed, rfl⟩ | ⟨exit, placed, hexit, h⟩ := ends_bind.mp h
    · have hunplaced := (unplaced_of_submitExit hmissed).1
      have hcalls := (hlooks.mono fun _ => VenueCall.Looks.not_cancels).trans
        (not_cancels_of_unplaced hunplaced)
      exact ⟨_, standsAt_of_stage (hsame.trans hunplaced.undisturbed) hstage,
        .places rfl hcalls (hlooks.journals_of_looks.trans hunplaced.journals) (.fails _)⟩
    · obtain ⟨quantity, asked, hholds, hsubmit⟩ := submitExit_ok hexit
      obtain ⟨rfl, rfl⟩ := ends_setStage.mp h
      have hasked := hlooks.trans (Asking.calls (holds_asking hholds))
      obtain ⟨hcalls, hjournals⟩ := not_cancels_of_submit hasked hsubmit
      have hplaced := (hsame.trans hholds.undisturbed).trans (.submit hsubmit)
      obtain ⟨_, _, -, rfl, -⟩ := ends_submit_ok.mp hsubmit
      exact ⟨_, standsAt_withStage hplaced _, .places rfl hcalls hjournals
        (.leaves rfl rfl (Side.isEnter_exitKind entry.side))⟩

/-! ### Any operation -/

/--
**The step.** Every operation of a tracker that has a stage minds the order that is
waited for.
-/
theorem minds_of_run (op : Operation κ) {marks : List Mark} {answer : Except TradingError Unit}
    (hstage : desk.tracker.stage = some stage) (hpatient : Patient stage history)
    (hbraced : Braced (some stage) marks) (h : Ends (op.run venue.journaled) desk answer after) :
    Minded venue op desk after history stage answer.toOption.isSome := by
  by_cases hphase : ∃ phase, op.phase? = some phase ∧ stage.phase ≠ phase
  · obtain ⟨phase, hphase, hmisplaced⟩ := hphase
    obtain ⟨rfl, rfl⟩ := Prod.mk.inj (h.symm.trans (ends_of_misplaced op hstage hphase hmisplaced))
    exact ⟨_, standsAt_of_stage (.refl _) hstage, .looks (.of_eq rfl) (.fails _)⟩
  -- the operation belongs to the phase
  have hphase : ∀ phase, op.phase? = some phase → stage.phase = phase := fun phase heq =>
    Decidable.byContradiction fun hne => hphase ⟨phase, heq, hne⟩
  cases op with
  | look =>
    rw [Operation.run, ends_resume_bind hstage] at h
    obtain ⟨rfl, rfl⟩ := ends_pure.mp h
    exact ⟨_, standsAt_of_stage (.refl _) hstage, .looks (.of_eq rfl) (.waits (.untried _))⟩
  | placeEnter rule side =>
    cases stage with
    | needEnter => exact placeEnter_minds hstage h
    | waitForEnter | needExit | waitForExit => cases hphase _ rfl
  | trackEnter rule =>
    cases stage with
    | waitForEnter entry => exact trackEnter_minds hstage hpatient h
    | needEnter | needExit | waitForExit => cases hphase _ rfl
  | placeExit rule =>
    cases stage with
    | needExit entry ratchet? => exact placeExit_minds hstage h
    | needEnter | waitForEnter | waitForExit => cases hphase _ rfl
  | trackExit rule =>
    cases stage with
    | waitForExit entry exit ratchet =>
      -- the trade is dropped, but not whether there was a failure
      obtain ⟨_, htrack, rfl⟩ | ⟨_, mid, htrack, h⟩ := ends_bind.mp h
      · exact trackExit_minds hstage hpatient hbraced htrack
      · obtain ⟨rfl, rfl⟩ := ends_pure.mp h
        exact trackExit_minds hstage hpatient hbraced htrack
    | needEnter | waitForEnter | needExit => cases hphase _ rfl

/-- However an operation treats its order, it comes to a stage that counts what it found. -/
theorem Minds.comes {ok : Bool} {stage' : Stage}
    (h : Minds venue op desk after history stage ok stage') :
    Comes (trial? venue.journaled op desk) stage (created desk after) ok stage' := by
  cases h with
  | looks calls comes => exact calls.journals_of_looks.created_eq ▸ comes
  | places _ _ journals comes => exact journals.created_eq ▸ comes
  | confirmed _ _ _ journals comes => exact journals.created_eq ▸ comes
  | refused _ _ calls counts ok_eq =>
    have hnone : created desk after = [] := by
      refine List.filterMap_eq_nil_iff.mpr fun call hmem => ?_
      have hcall := calls.of_made hmem
      cases call with
      | createOrder => cases hcall
      | _ => rfl
    rw [hnone, ok_eq]
    exact .waits counts

end Minded

/-! ## Runs -/

section Runs

variable {venue : Venue σ} {op : Operation κ} {desk looked after : Desk (Journaled σ) κ}
  {history : List Note}

/-- A stage that counts a trial differs in nothing but that count. -/
theorem Counts.recounts {trial?' : Option Trial} {stage stage' : Stage}
    (h : Counts trial?' stage stage') : Recounts stage stage' := by
  cases h with
  | untried => exact .same stage
  | outrun => exact .entry (.inl rfl)
  | partly => exact .entry (.inr rfl)
  | crossed => exact .exit (.inl rfl)

theorem adopted_of_stage {stage : Stage} (hstage : desk.tracker.stage = some stage) :
    adopted desk looked = [] := by
  rw [adopted, hstage]
  rfl

/-- A tracker without a stage adopts the orders of the stage it finds. -/
theorem adopted_of_none {stage : Stage} (hstage : desk.tracker.stage = none)
    (hlooked : looked.tracker.stage = some stage) :
    adopted desk looked = (stage.exitOrder.toList ++ stage.enterOrder.toList).map .taken := by
  rw [adopted, hstage, Tracker.exitOrder, Tracker.enterOrder, hlooked]
  rfl

/-- An order that is adopted is taken then, and was not tried before. -/
theorem Found.patient (h : Found venue.journaled desk looked)
    (hpatient : ∀ stage, desk.tracker.stage = some stage → Patient stage history) (stage : Stage)
    (hlooked : looked.tracker.stage = some stage) :
    Patient stage (adopted desk looked ++ history) := by
  cases h with
  | known stage_eq =>
    rw [adopted_of_stage stage_eq]
    exact hpatient stage hlooked
  | finds finding =>
    have hnone : desk.tracker.stage = none := by cases finding <;> assumption
    rw [adopted_of_none hnone hlooked]
    have hfresh : ∀ (order : PlacedOrder), order.notExecuted = 0 → order.partiallyExecuted = 0 →
        ∀ trial : Trial, trial.counter order = 0 := by
      intro order hnot hpart trial
      cases trial <;> assumption
    cases finding with
    | flat =>
      cases hlooked
      exact patient_needEnter _
    | held =>
      cases hlooked
      refine (patient_needEnter history).take (fun trial _ => hfresh _ rfl rfl trial)
        fun trial => ?_
      cases trial <;> rfl
    | enter _ _ enters =>
      cases hlooked
      refine (patient_needEnter history).take (fun trial _ => hfresh _ rfl rfl trial)
        fun trial => ?_
      rw [adopt, enters]
      cases trial <;> rfl
    | @leave _ order quantity price _ _ _ leaves =>
      cases hlooked
      -- the entry of the position is taken with its exit, and before it
      have hentry : Patient
          (.needExit { id := .synthetic, kind := order.kind.side.enterKind, quantity, price } none)
          (.taken { id := .synthetic, kind := order.kind.side.enterKind, quantity, price } ::
            history) := by
        refine (patient_needEnter history).take (fun trial _ => hfresh _ rfl rfl trial)
          fun trial => ?_
        rw [Side.isEnter_enterKind]
        cases trial <;> rfl
      refine hentry.take (fun trial _ => hfresh _ rfl rfl trial) fun trial => ?_
      rw [adopt, leaves]
      cases trial <;> rfl

/-- The notes of a run go with the marks on its exits. -/
theorem Noting.marking (noting : Noting venue desk history) :
    ∃ marks, Marking venue desk marks := by
  induction noting with
  | begin unresumed => exact ⟨_, .begin unresumed⟩
  | meanwhile _ tracker_eq ih =>
    obtain ⟨marks, hmarking⟩ := ih
    exact ⟨marks, hmarking.meanwhile tracker_eq⟩
  | operate _ op ih =>
    obtain ⟨marks, hmarking⟩ := ih
    exact ⟨_, hmarking.operate op⟩

/--
How an operation treats the order that is waited for, seen from the desk that it has
looked from.
-/
theorem minds_of_looked (op : Operation κ) {answer : Except TradingError Unit} {stage : Stage}
    (noting : Noting venue desk history)
    (hpatient : ∀ stage, desk.tracker.stage = some stage → Patient stage history)
    (hresume : Ends (resume venue.journaled) desk (.ok stage) looked)
    (h : Ends (op.run venue.journaled) looked answer after) :
    Patient stage (adopted desk looked ++ history) ∧
      Minded venue op looked after (adopted desk looked ++ history) stage
        answer.toOption.isSome := by
  obtain ⟨hfound, hstage⟩ := found_of_resume hresume
  obtain ⟨marks, hmarking⟩ := noting.marking
  have hlooked := hfound.patient hpatient stage hstage
  obtain ⟨htightening, hbraced⟩ := hmarking.braced
  have hbraced := (hfound.braced hbraced htightening).2
  rw [hstage] at hbraced
  exact ⟨hlooked, minds_of_run op hstage hlooked hbraced h⟩

/-- The orders of every run are reckoned by every trial. -/
theorem Noting.patient (noting : Noting venue desk history) :
    ∀ stage, desk.tracker.stage = some stage → Patient stage history := by
  induction noting with
  | begin unresumed =>
    intro stage hstage
    cases unresumed.symm.trans hstage
  | meanwhile _ tracker_eq ih =>
    rw [tracker_eq]
    exact ih
  | @operate desk history noting op ih =>
    have hends := ends_outcome (op.run venue.journaled) desk
    intro stage' hstage'
    obtain ⟨error, hresume, -⟩ | ⟨stage, looked, hresume, hop⟩ := run_inv op hends
    · obtain ⟨hnone, hseeks, -⟩ := seeks_of_resume_error hresume
      rw [hseeks.undisturbed.tracker_eq, hnone] at hstage'
      cases hstage'
    · obtain ⟨hpatient, stage'', hstands, hminds⟩ := minds_of_looked op noting ih hresume hop
      rw [StandsAt] at hstands
      rw [hstands] at hstage'
      cases hstage'
      rw [notes, hresume, List.append_assoc]
      exact hminds.comes.patient hpatient

/-! ### What is done to an order -/

/-- What an operation may do to the order that is waited for. -/
structure Restrained (venue : Venue σ) (op : Operation κ) (desk looked after : Desk (Journaled σ) κ)
    (history : List Note) : Prop where
  /-- It cancels no other order, and it cancels this one for a reason. -/
  warranted : ∀ market id answer, .cancelOrder market id answer ∈ made desk after →
    (∃ order, looked.tracker.stage.bind awaited = some order ∧ order.id = id) ∧
      Warrant venue.journaled op looked history id
  /-- An order whose cancel is not confirmed is waited for on, and nothing is placed. -/
  retained : ∀ market id answer, .cancelOrder market id answer ∈ made desk after →
    answer ≠ .ok true → (∀ call ∈ made desk after, call.method ≠ .createOrder) ∧
      ∃ stage stage', looked.tracker.stage = some stage ∧ after.tracker.stage = some stage' ∧
        Recounts stage stage'
  /-- An order is placed only when none is waited for, or once the cancel of that one is
  confirmed. -/
  exclusive : ∀ order, looked.tracker.stage.bind awaited = some order →
    ∀ call ∈ made desk after, call.method = .createOrder → cancelled desk after = [order.id]

/-- An operation that only looks cancels nothing. -/
theorem restrained_of_looks (h : Calls VenueCall.Looks desk after) :
    Restrained venue op desk looked after history where
  warranted _ _ _ hmem := (h.of_made hmem).elim
  retained _ _ _ hmem := (h.of_made hmem).elim
  exclusive order _ call hmem hmethod := by
    have hlooks := h.of_made hmem
    cases call with
    | createOrder => exact hlooks.elim
    | _ => cases hmethod

/-- However an operation treats the order that is waited for, it is restrained. -/
theorem Minds.restrained {stage stage' : Stage} {ok : Bool}
    (h : Minds venue op looked after history stage ok stage')
    (hlooks : Calls VenueCall.Looks desk looked)
    (hstage : looked.tracker.stage = some stage) (hstage' : after.tracker.stage = some stage') :
    Restrained venue op desk looked after history := by
  have hawaited : looked.tracker.stage.bind awaited = awaited stage := by rw [hstage]; rfl
  cases h with
  | looks calls => exact restrained_of_looks (hlooks.trans calls)
  | places idle calls =>
    -- where an order is placed none is cancelled, and none was waited for
    have hcalls := (hlooks.mono fun _ => VenueCall.Looks.not_cancels).trans calls
    refine ⟨fun _ _ _ hmem => (hcalls.of_made hmem rfl).elim, fun _ _ _ hmem =>
      (hcalls.of_made hmem rfl).elim, fun order horder => ?_⟩
    cases idle.symm.trans (hawaited.symm.trans horder)
  | refused awaits warrant calls counts =>
    have hcalls := (hlooks.mono fun _ hlooks => hlooks.withdraws _ false).trans calls
    -- a cancel that is refused lets no order be created
    have huncreated : ∀ call ∈ made desk after, call.method ≠ .createOrder := by
      intro call hmem
      have hcall := hcalls.of_made hmem
      cases call with
      | createOrder => cases hcall
      | _ => exact nofun
    refine ⟨fun _ _ _ hmem => ?_, fun _ _ _ _ _ => ?_, fun order _ call hmem hmethod => ?_⟩
    · obtain rfl := (hcalls.of_made hmem).1
      exact ⟨⟨_, hawaited.trans awaits, rfl⟩, warrant⟩
    · exact ⟨huncreated, stage, stage', hstage, hstage', counts.recounts⟩
    · exact (huncreated call hmem hmethod).elim
  | @confirmed order _ awaits warrant calls journals =>
    have hcalls := (hlooks.mono fun _ hlooks => hlooks.withdraws order.id true).trans calls
    refine ⟨fun _ _ _ hmem => ?_, fun _ _ _ hmem hanswer => ?_, fun order' horder' _ _ _ => ?_⟩
    · obtain rfl := (hcalls.of_made hmem).1
      exact ⟨⟨_, hawaited.trans awaits, rfl⟩, warrant⟩
    · exact (hanswer ((hcalls.of_made hmem).2.mpr rfl)).elim
    -- the order that was waited for is the one that was cancelled
    · rw [(hlooks.journals_of_looks.trans journals).cancelled_eq]
      cases awaits.symm.trans (hawaited.symm.trans horder')
      rfl

/-- The next operation of a run is restrained. -/
theorem Noting.restrained (noting : Noting venue desk history) (op : Operation κ) :
    let looked := (outcome (resume venue.journaled) desk).2
    let after := (outcome (op.run venue.journaled) desk).2
    Restrained venue op desk looked after (adopted desk looked ++ history) := by
  intro looked after
  have hends : Ends (op.run venue.journaled) desk _ after := ends_outcome _ desk
  obtain ⟨error, hresume, -⟩ | ⟨stage, mid, hresume, hop⟩ := run_inv op hends
  · exact restrained_of_looks (seeks_of_resume_error hresume).2.1.calls
  · obtain ⟨hfound, hstage⟩ := found_of_resume hresume
    obtain ⟨-, stage', hstands, hminds⟩ := minds_of_looked op noting noting.patient hresume hop
    have hlooked : looked = mid := congrArg Prod.snd hresume
    rw [hlooked]
    exact hminds.restrained hfound.calls hstage (by rw [hstands])

/--
**Patience is counted exactly.** Whatever the limits are, whatever the rules and the venue
answer and whatever fails, the orders that a tracker holds say themselves how often they
were tried since they were taken, by calls that have not failed. The order that is waited
for is cancelled only once it was tried more often than the limit allows, or to move an
exit to a better stop; and unless the cancel is confirmed it stays, and no order is placed.
-/
theorem patience_of_run (noting : Noting venue desk history) :
    (∀ stage, desk.tracker.stage = some stage → Patient stage history) ∧
      ∀ op : Operation κ,
        let looked := (outcome (resume venue.journaled) desk).2
        let after := (outcome (op.run venue.journaled) desk).2
        Restrained venue op desk looked after (adopted desk looked ++ history) :=
  ⟨noting.patient, noting.restrained⟩

end Runs

/-! ### An entry that the market leaves behind -/

/-- The next tick, with nothing else that is new. -/
def ticked (desk : Desk σ κ) : Desk σ κ :=
  { desk with tick := desk.tick + 1 }

theorem Noting.ticked {venue : Venue σ} {desk : Desk (Journaled σ) κ} {history : List Note}
    (noting : Noting venue desk history) : Noting venue (ticked desk) history :=
  noting.meanwhile rfl

/-- An entry at 99 that may be outrun once; at the next tick the rule is at 100. -/
def leftBehind : Desk (Journaled Paper) Unit :=
  let placed := (outcome ((Operation.placeEnter (.fixed 99.0) .long).run Paper.venue.journaled)
    (spending { limits := { enterNotExecuted := 1 } })).2
  (outcome ((Operation.trackEnter (.fixed 100.0)).run Paper.venue.journaled) (ticked placed)).2

theorem noting_leftBehind : ∃ history, Noting Paper.venue leftBehind history :=
  ⟨_, (Noting.begin rfl).operate (.placeEnter (.fixed 99.0) .long) |>.ticked
    |>.operate (.trackEnter (.fixed 100.0))⟩

/-- The entry was tried once, as it says, and with the second trial it is cancelled. -/
theorem patience_of_leftBehind :
    let track := Operation.trackEnter (.fixed 100.0)
    let looked := (outcome (resume Paper.venue.journaled) leftBehind).2
    let after := (outcome (track.run Paper.venue.journaled) leftBehind).2
    leftBehind.tracker.enterOrder.map PlacedOrder.notExecuted = some 1 ∧
      cancelled leftBehind after = (leftBehind.tracker.enterOrder.map PlacedOrder.id).toList ∧
        ∃ history, Noting Paper.venue leftBehind history ∧
          (∃ taken trials, since? true history = some (taken, trials) ∧ trials.count .outrun = 1) ∧
            Restrained Paper.venue track leftBehind looked after
              (adopted leftBehind looked ++ history) := by
  intro track looked after
  have htried : leftBehind.tracker.enterOrder.map PlacedOrder.notExecuted = some 1 := by
    decide +kernel
  obtain ⟨history, hnoting⟩ := noting_leftBehind
  obtain ⟨hpatient, hrestrained⟩ := patience_of_run hnoting
  refine ⟨htried, by decide +kernel, history, hnoting, ?_, hrestrained track⟩
  obtain ⟨entry, hentry, hcount⟩ := Option.map_eq_some_iff.mp htried
  obtain ⟨stage, hstage, hsubject⟩ := Option.bind_eq_some_iff.mp hentry
  obtain ⟨taken, trials, hsince, -, hreckoned⟩ := hpatient stage hstage .outrun entry hsubject
  exact ⟨taken, trials, hsince, hreckoned.symm.trans hcount⟩

end Tracker

end SwingTrader
