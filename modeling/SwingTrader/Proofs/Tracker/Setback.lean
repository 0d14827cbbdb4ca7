import SwingTrader.Proofs.Tracker.Failure
import SwingTrader.Proofs.Tracker.History

/-!
# SwingTrader — the position after an operation that fails

An operation that fails may be tried again on the next tick, and the tracker must
then still know its position. What a failed operation leaves is the position as it
was when the operation began, or as the look at its start has found it. The one
exception is an exit that was cancelled and could not be replaced, after which the
position needs an exit at the very price that the replacement was to have.

* `Operation.phase?`, `Operation.name` — where an operation belongs;
* `Desk.Calls` — the calls made on the way from one desk to another;
* `Tracker.Attained` — the trackers there are;
* `Tracker.Setback` — what an operation that fails leaves;
* `Tracker.setback_of_error` — every operation that fails leaves that.
-/

namespace SwingTrader

variable {σ κ α : Type}

open Desk

/-! ## Where operations belong -/

namespace Operation

/-- The phase that an operation belongs to; looking belongs to all of them. -/
def phase? : Operation κ → Option Phase
  | look => none
  | placeEnter _ _ => some .needEnter
  | trackEnter _ => some .waitForEnter
  | placeExit _ => some .needExit
  | trackExit _ => some .waitForExit

/-- What a failure calls the operation by. -/
def name : Operation κ → String
  | look => "resume"
  | placeEnter _ _ => "place_enter_order"
  | trackEnter _ => "track_running_enter_order"
  | placeExit _ => "place_exit_order"
  | trackExit _ => "track_running_exit_order"

/-- The operation is to place an order. -/
def Places : Operation κ → Prop
  | placeEnter _ _ | placeExit _ => True
  | look | trackEnter _ | trackExit _ => False

end Operation

namespace Tracker

/-- An operation of another phase fails at once. -/
theorem ends_of_misplaced {venue : Venue σ} {desk : Desk σ κ} (op : Operation κ) {stage : Stage}
    {phase : Phase} (hstage : desk.tracker.stage = some stage) (hphase : op.phase? = some phase)
    (hmisplaced : stage.phase ≠ phase) :
    Ends (op.run venue) desk (.error (.strategy (.wrongState op.name phase stage.phase))) desk := by
  cases op with
  | look => cases hphase
  | placeEnter rule side =>
    cases hphase
    rw [Operation.run, placeEnter, ends_resume_bind hstage]
    cases stage with
    | needEnter => exact absurd rfl hmisplaced
    | waitForEnter | needExit | waitForExit => exact ends_throw.mpr ⟨rfl, rfl⟩
  | trackEnter rule =>
    cases hphase
    rw [Operation.run, trackEnter, ends_resume_bind hstage]
    cases stage with
    | waitForEnter => exact absurd rfl hmisplaced
    | needEnter | needExit | waitForExit => exact ends_throw.mpr ⟨rfl, rfl⟩
  | placeExit rule =>
    cases hphase
    rw [Operation.run, placeExit, ends_resume_bind hstage]
    cases stage with
    | needExit => exact absurd rfl hmisplaced
    | needEnter | waitForEnter | waitForExit => exact ends_throw.mpr ⟨rfl, rfl⟩
  | trackExit rule =>
    cases hphase
    -- to track an exit is the one operation with a trade to hand on, which it does not get to
    refine ends_bind.mpr (.inl ⟨_, ?_, rfl⟩)
    rw [trackExit, ends_resume_bind hstage]
    cases stage with
    | waitForExit => exact absurd rfl hmisplaced
    | needEnter | waitForEnter | needExit => exact ends_throw.mpr ⟨rfl, rfl⟩

end Tracker

/-! ## Calls -/

namespace VenueCall

/-- The call asks or looks: it neither creates an order nor cancels one. -/
def Looks : VenueCall → Prop
  | createOrder .. | cancelOrder .. => False
  | _ => True

/-- The call created an order. -/
def Creates : VenueCall → Prop
  | createOrder _ _ _ _ (.ok _) => True
  | _ => False

/-- The call was to create an order at a price, and was refused. -/
def RefusedAt (price : Float) : VenueCall → Prop
  | createOrder _ _ _ offered (.error _) => offered = price
  | _ => False

/-- A call that looks creates no order. -/
theorem Looks.not_creates {call : VenueCall} (h : call.Looks) : ¬call.Creates := by
  cases call with
  | createOrder => exact h.elim
  | _ => exact not_false

/-- A call that is refused creates no order. -/
theorem RefusedAt.not_creates {call : VenueCall} {price : Float} (h : call.RefusedAt price) :
    ¬call.Creates := by
  cases call with
  | createOrder _ _ _ _ answer =>
    cases answer with
    | ok => exact h.elim
    | error => exact not_false
  | _ => exact not_false

end VenueCall

namespace Desk

/-- Every call made on the way from one desk to another is of some kind. -/
def Calls (P : VenueCall → Prop) (desk after : Desk (Journaled σ) κ) : Prop :=
  ∃ calls, after.venue.calls = calls ++ desk.venue.calls ∧ ∀ call ∈ calls, P call

section Calls

variable {P Q : VenueCall → Prop} {venue : Venue σ} {desk mid after : Desk (Journaled σ) κ}

theorem Calls.of_eq (h : after.venue = desk.venue) : Calls P desk after :=
  ⟨[], by rw [h, List.nil_append], fun _ hmem => (List.not_mem_nil hmem).elim⟩

theorem Calls.trans (h : Calls P desk mid) (h' : Calls P mid after) : Calls P desk after := by
  obtain ⟨calls, hcalls, hall⟩ := h
  obtain ⟨calls', hcalls', hall'⟩ := h'
  refine ⟨calls' ++ calls, by rw [hcalls', hcalls, List.append_assoc], fun call hmem => ?_⟩
  obtain hmem | hmem := List.mem_append.mp hmem
  · exact hall' call hmem
  · exact hall call hmem

/-- Calls of one kind are of any kind that covers it. -/
theorem Calls.mono (h : Calls P desk after) (himp : ∀ call, P call → Q call) :
    Calls Q desk after := by
  obtain ⟨calls, hcalls, hall⟩ := h
  exact ⟨calls, hcalls, fun call hmem => himp call (hall call hmem)⟩

/-- A call that is answered is the only one on the way. -/
theorem Calls.of_replies {describe : Answer α → VenueCall} {request : VenueM σ α}
    {state : Journaled σ} {reply : Answer α}
    (h : Replies (Venue.journal describe request) desk.venue reply state)
    (hafter : after.venue = state)
    (hcall : P (describe reply)) : Calls P desk after := by
  refine ⟨[describe reply], by rw [hafter, Tracker.calls_of_replies h]; rfl, fun call hmem => ?_⟩
  rw [List.mem_singleton.mp hmem]
  exact hcall

end Calls

end Desk

namespace Tracker

section Looking

variable {venue : Venue σ} {desk after : Desk (Journaled σ) κ}

theorem Ask.calls (h : Ask venue.journaled desk after) : Calls VenueCall.Looks desk after := by
  obtain ⟨asks, replies⟩ := h
  cases asks with
  | balance => exact .of_replies replies rfl trivial
  | minimum => exact .of_replies replies rfl trivial
  | buyFee => exact .of_replies replies rfl trivial
  | sellFee => exact .of_replies replies rfl trivial

theorem Asking.calls (h : Asking venue.journaled desk after) :
    Calls VenueCall.Looks desk after := by
  induction h with
  | refl => exact .of_eq rfl
  | tail _ hask ih => exact ih.trans hask.calls

/-- To list the orders makes only calls that look. -/
theorem calls_of_listOrders {answer : Except TradingError (List OpenOrder)}
    (h : Ends (listOrders venue.journaled) desk answer after) :
    Calls VenueCall.Looks desk after := by
  cases answer with
  | error error =>
    obtain ⟨-, reason, state, hreply, -, rfl⟩ := ends_listOrders_error.mp h
    exact .of_replies hreply rfl trivial
  | ok orders =>
    obtain ⟨-, rfl⟩ | ⟨-, state, hreply, rfl⟩ := ends_listOrders_ok.mp h
    · exact .of_eq rfl
    · exact .of_replies hreply rfl trivial

theorem Seeks.calls (h : Seeks venue.journaled desk after) : Calls VenueCall.Looks desk after := by
  obtain ⟨answer, seen, hlist, hasking⟩ := h
  exact (calls_of_listOrders hlist).trans (Asking.calls hasking)

/-- A stage is found by looking alone. -/
theorem Finding.calls (h : Finding venue.journaled desk after) :
    Calls VenueCall.Looks desk after := by
  cases h with
  | flat _ lists holds least _ | held _ lists holds least _ _ =>
    have hseen := (Undisturbed.listOrders lists).market_eq
    have hasked := ((Undisturbed.listOrders lists).trans (.call holds)).market_eq
    have hbalance := (onlyAsks_call (.balance _) hseen holds).calls
    have hminimum := (onlyAsks_call .minimum hasked least).calls
    exact ((calls_of_listOrders lists).trans hbalance).trans hminimum
  | enter _ lists _ | leave _ lists _ _ =>
    have hlist := calls_of_listOrders lists
    exact hlist

theorem Found.calls (h : Found venue.journaled desk after) : Calls VenueCall.Looks desk after := by
  cases h with
  | known _ => exact .of_eq rfl
  | finds finding => exact finding.calls

/-- An order that is not placed was refused at its price, if it was submitted at all. -/
theorem Unplaced.calls {kind : OrderKind} {price : Float}
    (h : Unplaced venue.journaled kind price desk after) :
    Calls (fun call => call.Looks ∨ call.RefusedAt price) desk after := by
  cases h with
  | unsized asking => exact (Asking.calls asking).mono fun _ => .inl
  | refused asking replies =>
    refine ((Asking.calls asking).mono fun _ => .inl).trans (.of_replies replies rfl ?_)
    exact .inr rfl

/-- Where an order is not placed, no call creates one. -/
theorem Unplaced.not_creates {kind : OrderKind} {price : Float}
    (h : Unplaced venue.journaled kind price desk after) :
    Calls (fun call => ¬call.Creates) desk after := by
  refine h.calls.mono fun call hcall => ?_
  obtain hlooks | hrefused := hcall
  · exact hlooks.not_creates
  · exact hrefused.not_creates

/-- A cancel that is confirmed is one call. -/
theorem calls_of_cancel {id : OrderId}
    (h : Ends (cancel venue.journaled id) desk (.ok true) after) :
    after.venue.calls = .cancelOrder desk.market id (.ok true) :: desk.venue.calls := by
  obtain ⟨reply | cancelled, state, hreply, hanswer, rfl⟩ := ends_cancel.mp h
  · cases hanswer
  · cases hanswer
    exact calls_of_replies hreply

end Looking

/-! ## The trackers there are -/

/-- The trackers that operations lead to, one after the other, each at any desk and any venue. -/
inductive Attained : Tracker → Prop where
  | fresh (settings : TrackerSettings) : Attained { settings, stage := none }
  | operate {σ κ : Type} {venue : Venue σ} {desk : Desk σ κ} (attained : Attained desk.tracker)
      (op : Operation κ) : Attained (outcome (op.run venue) desk).2.tracker

/-- The ratchet of a position has the direction of the position. -/
def Aimed : Option Stage → Prop
  | some (.needExit entry (some ratchet)) | some (.waitForExit entry _ ratchet) =>
    ratchet.side = entry.side
  | _ => True

section Aimed

variable {venue : Venue σ} {desk after : Desk σ κ}

/-- A move keeps the direction of a ratchet that of its position. -/
theorem Move.aimed (h : Move venue desk after) (haimed : Aimed desk.tracker.stage) :
    Aimed after.tracker.stage := by
  cases h with
  | remember => exact haimed
  | ask asks =>
    cases asks
    exact haimed
  | list lists => rwa [(Undisturbed.listOrders lists).tracker_eq]
  | refuseEntry => exact haimed
  | refuseExit _ holds _ => rwa [← holds.undisturbed.tracker_eq] at haimed
  | enter => trivial
  | @leave _ _ _ _ ratchet? _ _ _ stage_eq aims _ _ =>
    rw [stage_eq] at haimed
    -- an exit that follows an earlier one keeps its ratchet, and a first one starts its own
    cases ratchet? with
    | none => exact aims
    | some ratchet => exact aims.trans haimed
  | waitEnter => trivial
  | waitExit stage_eq _ => rwa [stage_eq] at haimed
  | keep _ _ cancels => rwa [(Undisturbed.cancel cancels).tracker_eq]
  | fill => trivial
  | giveUp => trivial
  | takePart => trivial
  | withdraw stage_eq aims _ _ =>
    rw [stage_eq] at haimed
    exact aims.trans haimed

/-- However an operation proceeds, a ratchet has the direction of its position. -/
theorem Proceeds.aimed {answer : Except TradingError α} (h : Proceeds venue desk answer after)
    (haimed : Aimed desk.tracker.stage) : Aimed after.tracker.stage := by
  cases h with
  | moves moves =>
    induction moves with
    | refl => exact haimed
    | tail _ hmove ih => exact hmove.aimed ih
  | cutOff _ finds _ holds cancels =>
    rwa [(undisturbed_of_part finds holds cancels).tracker_eq]

/-- A tracker finds its ratchet in the direction of the position it finds. -/
theorem Found.aimed (h : Found venue desk after) (haimed : Aimed desk.tracker.stage) :
    Aimed after.tracker.stage := by
  cases h with
  | known _ => exact haimed
  | finds finding =>
    cases finding with
    | flat => trivial
    | held => trivial
    | enter => trivial
    -- the entry that an exit tells of is made up on the side of the exit
    | leave => exact (Side.side_enterKind _).symm

/-- A tracker without a position has no ratchet in a wrong direction. -/
theorem Closing.aimed {trade : ClosedTrade} (h : Closing venue desk trade after) :
    Aimed after.tracker.stage := by
  cases h
  trivial

/-- Every operation keeps the ratchet in the direction of the position. -/
theorem Attained.aimed {tracker : Tracker} (h : Attained tracker) : Aimed tracker.stage := by
  induction h with
  | fresh settings => trivial
  | @operate _ _ venue desk _ op ih =>
    have hends := ends_outcome (op.run venue) desk
    obtain ⟨error, hresume, -⟩ | ⟨stage, mid, hresume, hop⟩ := run_inv op hends
    · rwa [(seeks_of_resume_error hresume).2.1.undisturbed.tracker_eq]
    · obtain ⟨hfound, hstage⟩ := found_of_resume hresume
      have hmid := hfound.aimed ih
      obtain hproceeds | ⟨trade, hclosing⟩ := run_proceeds op hstage hop
      · exact hproceeds.aimed hmid
      · exact hclosing.aimed

end Aimed

/-! ## Setbacks -/

/-- What an operation that fails leaves of a position that was known. -/
inductive Remains (op : Operation κ) (looked after : Desk (Journaled σ) κ) : Prop where
  | unchanged (tracker_eq : after.tracker = looked.tracker)
      (looks : ∀ rule, op = .trackExit rule → Calls VenueCall.Looks looked after)
  | withdrawn {rule : PriceRule κ} {entry exit : PlacedOrder} {ratchet ratchet' : Ratchet}
      {ticker : Ticker} {tries looks : List VenueCall} (op_eq : op = .trackExit rule)
      (stage_eq : looked.tracker.stage = some (.waitForExit entry exit ratchet))
      (tracker_eq : after.tracker =
        { looked.tracker with stage := some (.needExit entry (some ratchet')) })
      (aims : ratchet'.side = entry.side) (ticker_eq : looked.prices.ticker = some ticker)
      (level_eq : ratchet'.level = some (movedPrice rule looked entry exit ticker))
      (calls_eq : after.venue.calls =
        tries ++ .cancelOrder looked.market exit.id (.ok true) :: looks ++ looked.venue.calls)
      (looked_only : ∀ call ∈ looks, call.Looks)
      (refused : ∀ call ∈ tries,
        call.Looks ∨ call.RefusedAt (movedPrice rule looked entry exit ticker)) :
      Remains op looked after

/--
What an operation that fails leaves: an unresumed tracker where it cannot find its stage,
and otherwise the position that was known or found, along with its entry in the ledger. An
order that was to be placed is not.
-/
structure Setback (venue : Venue σ) (op : Operation κ) (desk : Desk (Journaled σ) κ)
    (error : TradingError) (after : Desk (Journaled σ) κ) : Prop where
  unresumed : ∀ failure failed, Ends (resume venue.journaled) desk (.error failure) failed →
    error = failure ∧ after.tracker = desk.tracker ∧ after.tracker.stage = none ∧
      after.ledgers = desk.ledgers
  resumed : ∀ stage looked, Ends (resume venue.journaled) desk (.ok stage) looked →
    after.ledgers = looked.ledgers ∧ Remains op looked after ∧
      (looked = desk ∨ desk.tracker.stage = none ∧
        (looked.ledgers = desk.ledgers ∨ ∃ side, desk.TakesEntry side looked.ledgers))
  not_created : op.Places → Calls (fun call => ¬call.Creates) desk after

section Setbacks

variable {venue : Venue σ} {desk looked after : Desk (Journaled σ) κ} {error : TradingError}

/-- An operation that an error comes from as it comes in the wrong phase has done nothing. -/
theorem eq_of_misplaced {op : Operation κ} {stage : Stage} {phase : Phase}
    (hstage : looked.tracker.stage = some stage) (hphase : op.phase? = some phase)
    (hmisplaced : stage.phase ≠ phase)
    (h : Ends (op.run venue.journaled) looked (.error error) after) : after = looked :=
  congrArg Prod.snd (h.symm.trans (ends_of_misplaced op hstage hphase hmisplaced))

/-- Whatever else fails, a position that an operation belongs to is left as it was. -/
theorem remains_of_undisturbed {op : Operation κ} (h : Undisturbed looked after)
    (hop : ∀ rule, op ≠ .trackExit rule) :
    after.ledgers = looked.ledgers ∧ Remains op looked after :=
  ⟨h.ledgers_eq, .unchanged h.tracker_eq fun rule heq => absurd heq (hop rule)⟩

/--
An exit that is cancelled and not replaced leaves the ratchet at the price that it was
to move to.
-/
theorem Withdrawn.remains {rule : PriceRule κ} {entry exit : PlacedOrder} {ratchet : Ratchet}
    {ticker : Ticker} (hstage : looked.tracker.stage = some (.waitForExit entry exit ratchet))
    (haimed : Aimed looked.tracker.stage) (hticker : looked.prices.ticker = some ticker)
    (h : Withdrawn venue.journaled entry exit ratchet (movedPrice rule looked entry exit ticker)
      looked after) :
    after.ledgers = looked.ledgers ∧ Remains (.trackExit rule) looked after := by
  obtain ⟨finds, cancels, unplaced, aims, level_eq⟩ := h
  have hsame := Undisturbed.cancelFound finds cancels
  have hafter := unplaced.undisturbed
  obtain ⟨looks, hlooks, hlooked⟩ := (find_seeks finds).calls
  obtain ⟨tries, htries, hrefused⟩ := unplaced.calls
  have hcancel := calls_of_cancel cancels
  have hmarket := (Undisturbed.findOrder finds).market_eq
  rw [hstage] at haimed
  refine ⟨?_, .withdrawn rfl hstage ?_ (aims.trans haimed) hticker level_eq ?_ hlooked hrefused⟩
  · exact hafter.ledgers_eq.trans hsame.ledgers_eq
  · rw [hafter.tracker_eq, withStage, hsame.tracker_eq]
  · rw [htries, withStage, hcancel, hlooks, List.append_assoc, List.cons_append, ← hmarket]
    rfl

/-- An operation that fails once the stage is known leaves the position, or withdraws its exit. -/
theorem remains_of_error (op : Operation κ) {stage : Stage}
    (hstage : looked.tracker.stage = some stage) (haimed : Aimed looked.tracker.stage)
    (h : Ends (op.run venue.journaled) looked (.error error) after) :
    (after.ledgers = looked.ledgers ∧ Remains op looked after) ∧
      (op.Places → Calls (fun call => ¬call.Creates) looked after) := by
  by_cases hphase : ∃ phase, op.phase? = some phase ∧ stage.phase ≠ phase
  · obtain ⟨phase, hphase, hmisplaced⟩ := hphase
    obtain rfl := eq_of_misplaced hstage hphase hmisplaced h
    exact ⟨⟨rfl, .unchanged rfl fun _ _ => .of_eq rfl⟩, fun _ => .of_eq rfl⟩
  -- the operation belongs to the phase
  have hphase : ∀ phase, op.phase? = some phase → stage.phase = phase := fun phase heq =>
    Decidable.byContradiction fun hne => hphase ⟨phase, heq, hne⟩
  cases op with
  | look =>
    rw [Operation.run, ends_resume_bind hstage] at h
    cases (ends_pure.mp h).1
  | placeEnter rule side =>
    cases stage with
    | needEnter =>
      obtain ⟨⟨rules, price, hunplaced⟩, -⟩ := placeEnter_error hstage h
      have hsame := (Undisturbed.remember looked rules).trans hunplaced.undisturbed
      exact ⟨remains_of_undisturbed hsame (by simp), fun _ => hunplaced.not_creates⟩
    | waitForEnter | needExit | waitForExit => cases hphase _ rfl
  | trackEnter rule =>
    cases stage with
    | waitForEnter entry =>
      obtain ⟨hsame, -⟩ := trackEnter_error hstage h
      exact ⟨remains_of_undisturbed hsame (by simp), False.elim⟩
    | needEnter | needExit | waitForExit => cases hphase _ rfl
  | placeExit rule =>
    cases stage with
    | needExit entry ratchet? =>
      obtain ⟨⟨rules, price, hunplaced⟩, -⟩ := placeExit_error hstage h
      have hsame := (Undisturbed.remember looked rules).trans hunplaced.undisturbed
      exact ⟨remains_of_undisturbed hsame (by simp), fun _ => hunplaced.not_creates⟩
    | needEnter | waitForEnter | waitForExit => cases hphase _ rfl
  | trackExit rule =>
    cases stage with
    | waitForExit entry exit ratchet =>
      refine ⟨?_, False.elim⟩
      obtain ⟨_, h, ⟨⟩⟩ | ⟨_, mid, -, h⟩ := ends_bind.mp h
      · obtain ⟨hseeks, -⟩ | ⟨⟨ticker, hticker, hwithdrawn⟩, -⟩ :=
          trackExit_error hstage h
        · have hsame := hseeks.undisturbed
          exact ⟨hsame.ledgers_eq, .unchanged hsame.tracker_eq fun _ _ => hseeks.calls⟩
        · exact hwithdrawn.remains hstage haimed hticker
      · cases (ends_pure.mp h).1
    | needEnter | waitForEnter | needExit => cases hphase _ rfl

/-- A look that succeeds leaves the ledger, or has one entry written into it. -/
theorem ledgers_of_found (h : Found venue.journaled desk looked) :
    looked = desk ∨ desk.tracker.stage = none ∧
      (looked.ledgers = desk.ledgers ∨ ∃ side, desk.TakesEntry side looked.ledgers) := by
  cases h with
  | known _ => exact .inl rfl
  | finds finding =>
    cases finding with
    | flat stage_eq lists holds least _ =>
      exact .inr ⟨stage_eq, .inl (Undisturbed.callListed lists holds least).ledgers_eq⟩
    | held stage_eq lists holds least _ takes =>
      have hsame := Undisturbed.callListed lists holds least
      exact .inr ⟨stage_eq, .inr ⟨_, hsame.takesEntry_iff.mp takes⟩⟩
    | enter stage_eq lists _ =>
      exact .inr ⟨stage_eq, .inl (Undisturbed.listOrders lists).ledgers_eq⟩
    | leave stage_eq lists _ takes =>
      have hsame := Undisturbed.listOrders lists
      exact .inr ⟨stage_eq, .inr ⟨_, hsame.takesEntry_iff.mp takes⟩⟩

/--
**An operation that fails leaves the position as it stood.** A tracker with a stage refuses
an operation of another phase without a call. Any other operation that fails leaves what
`Setback` says, whatever the venue has answered.
-/
theorem setback_of_error (hattained : Attained desk.tracker) (op : Operation κ) :
    (∀ stage phase, desk.tracker.stage = some stage → op.phase? = some phase →
      stage.phase ≠ phase →
        Ends (op.run venue.journaled) desk
          (.error (.strategy (.wrongState op.name phase stage.phase))) desk) ∧
      ∀ error after, Ends (op.run venue.journaled) desk (.error error) after →
        Setback venue op desk error after := by
  refine ⟨fun stage phase hstage hphase => ends_of_misplaced op hstage hphase, ?_⟩
  intro error after h
  -- either the look fails, before anything else is done, or the operation does at the stage found
  obtain ⟨failure, hresume, herror⟩ | ⟨stage, looked, hresume, hop⟩ := run_inv op h
  · obtain ⟨hnone, hseeks, -⟩ := seeks_of_resume_error hresume
    have hsame := hseeks.undisturbed
    refine ⟨?_, ?_, fun _ => hseeks.calls.mono fun _ => VenueCall.Looks.not_creates⟩
    · intro failure' failed h'
      cases herror
      cases hresume.symm.trans h'
      exact ⟨rfl, hsame.tracker_eq, by rw [hsame.tracker_eq, hnone], hsame.ledgers_eq⟩
    · intro stage looked h'
      cases hresume.symm.trans h'
  · obtain ⟨hfound, hstage⟩ := found_of_resume hresume
    obtain ⟨⟨hledgers, hremains⟩, hcreated⟩ :=
      remains_of_error op hstage (hfound.aimed hattained.aimed) hop
    refine ⟨?_, ?_, fun hplaces => ?_⟩
    · intro failure failed h'
      cases hresume.symm.trans h'
    · intro stage' looked' h'
      cases hresume.symm.trans h'
      exact ⟨hledgers, hremains, ledgers_of_found hfound⟩
    · have hfound := hfound.calls.mono fun _ => VenueCall.Looks.not_creates
      exact hfound.trans (hcreated hplaces)

end Setbacks

/-! ### An exit that cannot be replaced -/

/-- A tracker whose exit is placed, at a venue that breaks off the call after the next cancel. -/
def stranded : Desk (Journaled Paper) Unit :=
  let place := Operation.placeExit (.fixed 98.0)
  let placed := (outcome (place.run Paper.venue.journaled) watched).2
  { placed with venue := { placed.venue with venue := placed.venue.venue.failing 0 0 1 } }

/--
The exit is cancelled and not replaced, and the ratchet is at the stop that it was to
move to.
-/
theorem setback_of_stranded :
    let track := Operation.trackExit (.fixed 99.0)
    ∃ error after, Ends (track.run Paper.venue.journaled) stranded (.error error) after ∧
      Setback Paper.venue track stranded error after ∧
        after.tracker.phase = .needExit ∧ after.tracker.ratchet.bind Ratchet.level = some 99.0 := by
  intro track
  have hattained : Attained stranded.tracker :=
    .operate (.fresh watched.tracker.settings) (.placeExit (.fixed 98.0))
  have hfails : (outcome (track.run Paper.venue.journaled) stranded).1.toOption.isNone := by
    decide +kernel
  have hends := ends_outcome (track.run Paper.venue.journaled) stranded
  cases hanswer : (outcome (track.run Paper.venue.journaled) stranded).1 with
  | ok _ =>
    rw [hanswer] at hfails
    cases hfails
  | error error =>
    rw [hanswer] at hends
    refine ⟨error, _, hends, (setback_of_error hattained track).2 _ _ hends, ?_, ?_⟩
    · decide +kernel
    · decide +kernel

end Tracker

end SwingTrader
