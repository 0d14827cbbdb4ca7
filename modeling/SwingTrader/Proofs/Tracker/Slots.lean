import SwingTrader.Proofs.Tracker.Blind
import SwingTrader.Proofs.Tracker.Operation
import SwingTrader.Tracker.Slots

/-!
# SwingTrader — slots that fit

The slots of a tracker are set one by one, and could be set to anything. They never
are: an operation that finds them as a stage fills them leaves them as a stage fills
them, and on the way it passes every check of its own. So a tracker that keeps slots
does what one that keeps a stage does, and no order is ever missing or in the way.

* `Slots.ofStage` — the slots as a stage fills them;
* `Slots.Fits` — the slots are in accord, which `Slots.fits_iff` says to be just that;
* `Slots.Mirrors` — an operation on slots that ends as one on the stage does;
* `Slots.mirrors_placeEnter` and its siblings — every operation of a tracker does.
-/

namespace SwingTrader

variable {σ κ α β : Type}

namespace Slots

/-- The slots as a stage fills them; without one they are as at the beginning. -/
def ofStage : Option Stage → Slots
  | none => {}
  | some stage =>
    { resumed := true
      state := stage.phase
      enterOrder := stage.enterOrder
      exitOrder := stage.exitOrder
      ratchet := stage.ratchet }

/-! ## Slots in accord -/

/--
The slots are in accord. Nothing is filled before the tracker has looked; an entry is held
in every state but the first, an exit in the last one alone, and there with its ratchet,
which may be kept while an exit is needed.
-/
structure Fits (slots : Slots) : Prop where
  unresumed : slots.resumed = false → slots = {}
  enterOrder_iff : slots.enterOrder.isSome ↔ slots.state ≠ .needEnter
  exitOrder_iff : slots.exitOrder.isSome ↔ slots.state = .waitForExit
  ratchet_isSome : slots.state = .waitForExit → slots.ratchet.isSome
  state_of_ratchet : slots.ratchet.isSome → slots.state = .needExit ∨ slots.state = .waitForExit

/-- The slots that a stage fills are in accord. -/
theorem fits_ofStage (stage? : Option Stage) : (ofStage stage?).Fits := by
  obtain _ | stage := stage?
  · exact ⟨fun _ => rfl, by simp [ofStage], by simp [ofStage], by simp [ofStage], by simp [ofStage]⟩
  · cases stage <;>
      exact ⟨by simp [ofStage], by simp [ofStage, Stage.enterOrder, Stage.phase],
        by simp [ofStage, Stage.exitOrder, Stage.phase],
        by simp [ofStage, Stage.ratchet, Stage.phase],
        by simp [ofStage, Stage.ratchet, Stage.phase]⟩

/-- Slots that are in accord are filled by a stage. -/
theorem exists_stage_of_fits {slots : Slots} (h : slots.Fits) :
    ∃ stage?, ofStage stage? = slots := by
  obtain ⟨resumed, state, enterOrder, exitOrder, ratchet⟩ := slots
  obtain ⟨hunresumed, henter, hexit, hratchet, hstate⟩ := h
  cases resumed with
  | false => exact ⟨none, (hunresumed rfl).symm⟩
  | true =>
    -- the state says which slots are filled, so that each state has one stage to offer
    cases state with
    | needEnter =>
      obtain rfl : enterOrder = none := by simpa using henter
      obtain rfl : exitOrder = none := by simpa using hexit
      obtain rfl : ratchet = none := by simpa using hstate
      exact ⟨some .needEnter, rfl⟩
    | waitForEnter =>
      obtain ⟨entry, rfl⟩ := Option.isSome_iff_exists.mp (henter.mpr nofun)
      obtain rfl : exitOrder = none := by simpa using hexit
      obtain rfl : ratchet = none := by simpa using hstate
      exact ⟨some (.waitForEnter entry), rfl⟩
    | needExit =>
      obtain ⟨entry, rfl⟩ := Option.isSome_iff_exists.mp (henter.mpr nofun)
      obtain rfl : exitOrder = none := by simpa using hexit
      exact ⟨some (.needExit entry ratchet), rfl⟩
    | waitForExit =>
      obtain ⟨entry, rfl⟩ := Option.isSome_iff_exists.mp (henter.mpr nofun)
      obtain ⟨exit, rfl⟩ := Option.isSome_iff_exists.mp (hexit.mpr rfl)
      obtain ⟨ratchet, rfl⟩ := Option.isSome_iff_exists.mp (hratchet rfl)
      exact ⟨some (.waitForExit entry exit ratchet), rfl⟩

/-- The slots are in accord just when a stage fills them, or nothing is looked for yet. -/
theorem fits_iff {slots : Slots} : slots.Fits ↔ ∃ stage?, ofStage stage? = slots := by
  constructor
  · exact exists_stage_of_fits
  · rintro ⟨stage?, rfl⟩
    exact fits_ofStage stage?

end Slots

open Desk

/-- The desk when its tracker keeps its stage in slots. -/
def Desk.inSlots (desk : Desk σ κ) : Desk σ κ Slots :=
  desk.keeping (Slots.ofStage desk.tracker.stage)

namespace Slots

/-! ## Operations that mirror one another -/

/-- The operation on slots ends as the one on the stage does, from a desk and its stage in slots. -/
def Mirrors (op : DeskM σ κ α) (slotOp : SlotM σ κ α) (desk : Desk σ κ) : Prop :=
  ∀ answer after, Ends op desk answer after → Ends slotOp desk.inSlots answer after.inSlots

section Mirrors

variable {desk : Desk σ κ} {op : DeskM σ κ α} {slotOp : SlotM σ κ α}

theorem mirrors_pure (value : α) : Mirrors (pure value) (pure value) desk := by
  intro answer after h
  obtain ⟨rfl, rfl⟩ := ends_pure.mp h
  exact ends_pure.mpr ⟨rfl, rfl⟩

theorem mirrors_throw (error : TradingError) :
    Mirrors (throw error : DeskM σ κ α) (throw error) desk := by
  intro answer after h
  obtain ⟨rfl, rfl⟩ := ends_throw.mp h
  exact ends_throw.mpr ⟨rfl, rfl⟩

/--
An operation goes alike in slots if its first part does, and the second does wherever
the first ends.
-/
theorem Mirrors.bind {next : α → DeskM σ κ β} {slotNext : α → SlotM σ κ β}
    (h : Mirrors op slotOp desk)
    (hnext : ∀ value mid, Ends op desk (.ok value) mid →
      Mirrors (next value) (slotNext value) mid) :
    Mirrors (op >>= next) (slotOp >>= slotNext) desk := by
  intro answer after hends
  obtain ⟨error, hop, rfl⟩ | ⟨value, mid, hop, hrest⟩ := ends_bind.mp hends
  · exact ends_bind.mpr (.inl ⟨error, h _ _ hop, rfl⟩)
  · exact ends_bind.mpr (.inr ⟨value, _, h _ _ hop, hnext value mid hop _ _ hrest⟩)

/-- A part that is blind to the position is the same at both, and leaves the stage as it is. -/
theorem mirrors_blind_bind {blind : (τ : Type) → TradeM σ κ τ α} {next : α → DeskM σ κ β}
    {slotNext : α → SlotM σ κ β} {stage? : Option Stage} (h : Blind blind)
    (hstage : desk.tracker.stage = stage?)
    (hnext : ∀ value mid, mid.tracker.stage = stage? → Mirrors (next value) (slotNext value) mid) :
    Mirrors (blind _ >>= next) (blind _ >>= slotNext) desk := by
  refine Mirrors.bind (fun answer after hends => ?_) fun value mid hends =>
    hnext value mid ((h.stage_eq hends).trans hstage)
  show Ends (blind Slots) (desk.keeping _) answer (after.keeping (ofStage after.tracker.stage))
  rw [h.stage_eq hends]
  exact h.ends _ hends

theorem mirrors_get_bind {next : Desk σ κ → DeskM σ κ α} {slotNext : Desk σ κ Slots → SlotM σ κ α}
    (h : Mirrors (next desk) (slotNext desk.inSlots) desk) :
    Mirrors (get >>= next) (get >>= slotNext) desk := by
  intro answer after hends
  rw [ends_get_bind] at hends ⊢
  exact h _ _ hends

/-- A choice goes alike in slots if both of its branches do. -/
theorem mirrors_ite {condition : Bool} {first second : DeskM σ κ α} {first' second' : SlotM σ κ α}
    (hfirst : Mirrors first first' desk) (hsecond : Mirrors second second' desk) :
    Mirrors (if condition then first else second) (if condition then first' else second') desk := by
  cases condition
  · exact hsecond
  · exact hfirst

/-- Setting the slots mirrors moving to the stage that fills them so. -/
theorem mirrors_keep {change : Slots → Slots} {stage? : Option Stage} {stage : Stage}
    (hstage : desk.tracker.stage = stage?) (h : change (ofStage stage?) = ofStage (some stage)) :
    Mirrors (setStage stage) (keep change) desk := by
  intro answer after hends
  obtain ⟨rfl, rfl⟩ := ends_setStage.mp hends
  refine ends_modify.mpr ⟨rfl, ?_⟩
  show (desk.withStage stage).inSlots = desk.keeping (change (ofStage desk.tracker.stage))
  rw [hstage, h]
  rfl

end Mirrors

/-! ## Steps that only go by the slots -/

section Steps

variable {desk : Desk σ κ} {op : DeskM σ κ β} {stage : Stage}

/-- What the tracker keeps is read off its slots. -/
theorem mirrors_kept_bind {next : Slots → SlotM σ κ β}
    (h : Mirrors op (next (ofStage desk.tracker.stage)) desk) :
    Mirrors op (kept >>= next) desk := by
  intro answer after hends
  have hkept : Ends (kept : SlotM σ κ Slots) desk.inSlots
      (.ok (ofStage desk.tracker.stage)) desk.inSlots := rfl
  exact ends_bind.mpr (.inr ⟨_, _, hkept, h _ _ hends⟩)

/-- Slots that are set to what they are already are not changed. -/
theorem mirrors_keep_same {change : Slots → Slots} {next : Unit → SlotM σ κ β}
    (hsame : change (ofStage desk.tracker.stage) = ofStage desk.tracker.stage)
    (h : Mirrors op (next ()) desk) : Mirrors op (keep change >>= next) desk := by
  intro answer after hends
  have hkeep : Ends (keep change) desk.inSlots (.ok ()) desk.inSlots := by
    refine ends_modify.mpr ⟨rfl, ?_⟩
    show _ = desk.keeping (change (ofStage desk.tracker.stage))
    rw [hsame]
    rfl
  exact ends_bind.mpr (.inr ⟨_, _, hkeep, h _ _ hends⟩)

/-- The slots are set twice in a row. -/
theorem keep_bind_keep (first second : Slots → Slots) :
    (keep first >>= fun _ => keep second : SlotM σ κ Unit) = keep (second ∘ first) :=
  rfl

/-- Where the check of the state is passed, an operation goes on. -/
theorem mirrors_expectState_bind {operation : String} {next : Unit → SlotM σ κ β}
    (hstage : desk.tracker.stage = some stage) (h : Mirrors op (next ()) desk) :
    Mirrors op (expectState operation stage.phase >>= next) desk := by
  rw [expectState, bind_assoc]
  refine mirrors_kept_bind ?_
  rw [hstage, if_neg (by simp [ofStage])]
  exact h

/-- An operation that belongs to another state fails as it does on the stage. -/
theorem mirrors_wrongState {operation : String} {expected : Phase} {next : Unit → SlotM σ κ β}
    (hstage : desk.tracker.stage = some stage) (hother : stage.phase ≠ expected) :
    Mirrors (Tracker.wrongState operation expected stage)
      (expectState operation expected >>= next) desk := by
  rw [expectState, bind_assoc]
  refine mirrors_kept_bind ?_
  rw [hstage, if_pos (by exact hother)]
  exact mirrors_throw _

/-- Where a slot is empty, nothing is in the way of an order. -/
theorem mirrors_expectEmpty_bind {slot : Slots → Option PlacedOrder} {next : Unit → SlotM σ κ β}
    (hempty : slot (ofStage desk.tracker.stage) = none) (h : Mirrors op (next ()) desk) :
    Mirrors op (expectEmpty slot >>= next) desk := by
  rw [expectEmpty, bind_assoc]
  refine mirrors_kept_bind ?_
  rw [hempty]
  exact h

/-- Where a slot is filled, its order is not missing. -/
theorem mirrors_heldIn_bind {slot : Slots → Option PlacedOrder} {order : PlacedOrder}
    {next : PlacedOrder → SlotM σ κ β} (hheld : slot (ofStage desk.tracker.stage) = some order)
    (h : Mirrors op (next order) desk) : Mirrors op (heldIn slot >>= next) desk := by
  rw [heldIn, bind_assoc]
  refine mirrors_kept_bind ?_
  rw [hheld]
  exact h

end Steps

/-! ## Resuming -/

section Operations

variable {venue : Venue σ} {rule : PriceRule κ} {desk : Desk σ κ}

/-- To find a stage from what is held fills the slots of that stage. -/
theorem mirrors_resumeWithoutOrders (hstage : desk.tracker.stage = none) :
    Mirrors (Tracker.stageFromHoldings venue >>= setStage)
      (resumeWithoutOrders venue >>= fun _ => keep ({ · with resumed := true })) desk := by
  simp only [Tracker.stageFromHoldings, resumeWithoutOrders, bind_assoc]
  refine mirrors_blind_bind blind_settings hstage fun settings mid hmid => ?_
  refine mirrors_blind_bind (blind_call _) hmid fun base mid hmid => ?_
  refine mirrors_blind_bind (blind_call _) hmid fun minimum mid hmid => ?_
  split
  · rw [pure_bind, keep_bind_keep]
    exact mirrors_keep hmid rfl
  · simp only [bind_assoc, pure_bind, keep_bind_keep]
    refine mirrors_blind_bind Tracker.blind_lastPrice hmid fun price mid hmid => ?_
    refine mirrors_blind_bind (blind_recordEntry _) hmid fun _ mid hmid => ?_
    exact mirrors_keep hmid rfl

/-- To find a stage from an exit fills the slots of that stage. -/
theorem mirrors_resumeWithExit (order : OpenOrder) (hstage : desk.tracker.stage = none) :
    Mirrors (Tracker.stageFromExit order >>= setStage)
      (resumeWithExit order >>= fun _ => keep ({ · with resumed := true })) desk := by
  simp only [Tracker.stageFromExit, resumeWithExit, bind_assoc, pure_bind, keep_bind_keep]
  refine mirrors_blind_bind Tracker.blind_lastPrice hstage fun last mid hmid => ?_
  refine mirrors_blind_bind (blind_recordEntry _) hmid fun _ mid hmid => ?_
  exact mirrors_keep hmid rfl

/-- To find a stage from the orders that are listed fills the slots of that stage. -/
theorem mirrors_resumeWithOrders (orders : List OpenOrder) (hstage : desk.tracker.stage = none) :
    Mirrors (Tracker.stageFromOrders venue orders >>= setStage)
      (resumeWithOrders venue orders >>= fun _ => keep ({ · with resumed := true })) desk := by
  match orders with
  | [] => exact mirrors_resumeWithoutOrders hstage
  | [order] =>
    rw [Tracker.stageFromOrders, resumeWithOrders]
    split
    · rw [pure_bind, keep_bind_keep]
      exact mirrors_keep hstage rfl
    · exact mirrors_resumeWithExit order hstage
  | _ :: _ :: _ => exact mirrors_throw _

/-- A stage that is found and moved to, and slots that are filled so, lead on alike. -/
theorem mirrors_found_bind {find : DeskM σ κ Stage} {fill : SlotM σ κ Unit}
    {next : Stage → DeskM σ κ α} {slotNext : Unit → SlotM σ κ α}
    (hfill : Mirrors (find >>= setStage) fill desk)
    (h : ∀ stage mid, mid.tracker.stage = some stage → Mirrors (next stage) (slotNext ()) mid) :
    Mirrors (find >>= fun stage => setStage stage >>= fun _ => next stage) (fill >>= slotNext)
      desk := by
  intro answer after hends
  obtain ⟨error, hfind, rfl⟩ | ⟨stage, mid, hfind, hrest⟩ := ends_bind.mp hends
  · have herror := hfill _ _ (ends_bind.mpr (.inl ⟨error, hfind, rfl⟩))
    exact ends_bind.mpr (.inl ⟨error, herror, rfl⟩)
  · rw [ends_setStage_bind] at hrest
    have hset := ends_bind.mpr (.inr ⟨stage, mid, hfind, ends_setStage.mpr ⟨rfl, rfl⟩⟩)
    exact ends_bind.mpr (.inr ⟨(), _, hfill _ _ hset, h stage _ rfl _ _ hrest⟩)

/-- A tracker finds its slots as it finds its stage, and then goes on. -/
theorem mirrors_ensureResumed_bind {next : Stage → DeskM σ κ α} {slotNext : Unit → SlotM σ κ α}
    (h : ∀ stage mid, mid.tracker.stage = some stage → Mirrors (next stage) (slotNext ()) mid) :
    Mirrors (Tracker.resume venue >>= next) (ensureResumed venue >>= slotNext) desk := by
  rw [ensureResumed, bind_assoc]
  refine mirrors_kept_bind ?_
  cases hstage : desk.tracker.stage with
  | some stage =>
    intro answer after hends
    rw [Tracker.ends_resume_bind hstage] at hends
    exact h stage desk hstage answer after hends
  | none =>
    -- the flag is set last, so that a look that fails leaves the slots unfilled
    have hfind : Mirrors
        (listOrders venue >>= fun orders => Tracker.stageFromOrders venue orders >>= fun stage =>
          setStage stage >>= fun _ => next stage)
        (listOrders venue >>= fun orders =>
          (resumeWithOrders venue orders >>= fun _ => keep ({ · with resumed := true })) >>=
            slotNext)
        desk :=
      mirrors_blind_bind (blind_listOrders venue) hstage fun orders mid hmid =>
        mirrors_found_bind (mirrors_resumeWithOrders orders hmid) h
    intro answer after hends
    simp only [Tracker.resume, bind_assoc, ends_get_bind, hstage, pure_bind] at hends
    have hslots := hfind answer after hends
    simp only [bind_assoc] at hslots
    simpa only [ofStage, Bool.false_eq_true, if_false, bind_assoc] using hslots

/-- The state that is asked for is the phase of the stage. -/
theorem mirrors_currentState :
    Mirrors (TrackerForm.currentState venue) (TrackerForm.currentState venue) desk := by
  refine mirrors_ensureResumed_bind fun stage mid hmid => mirrors_kept_bind ?_
  rw [hmid]
  exact mirrors_pure _

/-! ## Entering -/

/-- While an entry is needed the slot of entries is empty, so the entry takes it. -/
theorem mirrors_placeEnter {side : Side} :
    Mirrors (Tracker.placeEnter venue rule side) (placeEnter venue rule side) desk := by
  refine mirrors_ensureResumed_bind fun stage mid hmid => ?_
  cases stage with
  | needEnter =>
    refine mirrors_expectState_bind hmid (mirrors_expectEmpty_bind (by rw [hmid]; rfl) ?_)
    refine mirrors_blind_bind (blind_askPrice rule side) hmid fun price mid hmid => ?_
    split
    · refine mirrors_blind_bind (Tracker.blind_enterAmount venue side price) hmid
        fun amount? mid hmid => ?_
      cases amount? with
      | none => exact mirrors_pure ()
      | some amount =>
        refine mirrors_blind_bind (blind_submit venue _ _ _) hmid fun order mid hmid => ?_
        exact mirrors_keep hmid rfl
    · exact mirrors_pure ()
  | waitForEnter | needExit | waitForExit => exact mirrors_wrongState hmid nofun

/-- An entry that is filled in part is cancelled for what there is, or waited for. -/
theorem mirrors_cancelPart {entry counted taken : PlacedOrder} {side : Side}
    (hstage : desk.tracker.stage = some (.waitForEnter entry)) (hside : taken.side = side) :
    Mirrors
      (cancel venue counted.id >>= fun cancelled =>
        if cancelled then Tracker.enterPosition taken else setStage (.waitForEnter counted))
      (cancel venue counted.id >>= fun cancelled =>
        if cancelled then
          recordEntry side >>= fun _ =>
            keep ({ · with enterOrder := some taken, state := .needExit })
        else keep ({ · with enterOrder := some counted }))
      desk := by
  subst hside
  refine mirrors_blind_bind (blind_cancel venue _) hstage fun cancelled mid hmid => ?_
  refine mirrors_ite ?_ (mirrors_keep hmid rfl)
  exact mirrors_blind_bind (blind_recordEntry _) hmid fun _ mid hmid => mirrors_keep hmid rfl

/-- An entry that is filled in part is found in its slot, and stays there or is cut off. -/
theorem mirrors_trackPartialEntry {entry : PlacedOrder} {order : OpenOrder}
    (hstage : desk.tracker.stage = some (.waitForEnter entry)) :
    Mirrors (Tracker.trackPartialEntry venue entry order) (trackPartialEntry venue entry order)
      desk := by
  refine mirrors_blind_bind blind_settings hstage fun settings mid hmid => ?_
  dsimp only
  split
  · exact mirrors_keep hmid rfl
  · cases hside : entry.countPartiallyExecuted.side with
    | long =>
      exact mirrors_blind_bind (blind_call _) hmid fun held mid hmid =>
        mirrors_cancelPart hmid hside
    | short =>
      exact mirrors_blind_bind (.pure _) hmid fun held mid hmid => mirrors_cancelPart hmid hside

/-- An entry that is open is found in its slot, and stays there or is given up. -/
theorem mirrors_trackOpenEntry {entry : PlacedOrder}
    (hstage : desk.tracker.stage = some (.waitForEnter entry)) :
    Mirrors (Tracker.trackOpenEntry venue rule entry) (trackOpenEntry venue rule entry) desk := by
  refine mirrors_blind_bind (blind_askPrice rule _) hstage fun fresh mid hmid => ?_
  split
  · refine mirrors_blind_bind blind_settings hmid fun settings mid hmid => ?_
    split
    · exact mirrors_keep hmid rfl
    · exact mirrors_blind_bind (blind_cancel venue _) hmid fun cancelled mid hmid =>
        mirrors_ite (mirrors_keep hmid rfl) (mirrors_keep hmid rfl)
  · exact mirrors_pure ()

/-- While an entry is waited for it is in its slot, and so it is found there. -/
theorem mirrors_trackEnter :
    Mirrors (Tracker.trackEnter venue rule) (trackEnter venue rule) desk := by
  refine mirrors_ensureResumed_bind fun stage mid hmid => ?_
  cases stage with
  | waitForEnter entry =>
    refine mirrors_expectState_bind hmid (mirrors_heldIn_bind (by rw [hmid]; rfl) ?_)
    refine mirrors_blind_bind (blind_findOrder venue _) hmid fun found mid hmid => ?_
    cases found with
    | none =>
      refine mirrors_blind_bind (blind_recordEntry _) hmid fun _ mid hmid => ?_
      exact mirrors_keep hmid rfl
    | some order =>
      dsimp only
      split
      · exact mirrors_trackPartialEntry hmid
      · exact mirrors_trackOpenEntry hmid
  | needEnter | needExit | waitForExit => exact mirrors_wrongState hmid nofun

/-! ## Leaving -/

/-- While an exit is needed the slot of exits is empty, so the exit takes it. -/
theorem mirrors_placeExit :
    Mirrors (Tracker.placeExit venue rule) (placeExit venue rule) desk := by
  refine mirrors_ensureResumed_bind fun stage mid hmid => ?_
  cases stage with
  | needExit entry ratchet? =>
    refine mirrors_expectState_bind hmid (mirrors_expectEmpty_bind (by rw [hmid]; rfl) ?_)
    refine mirrors_heldIn_bind (by rw [hmid]; rfl) ?_
    refine mirrors_blind_bind (blind_askPrice rule _) hmid fun price mid hmid => ?_
    split
    · refine mirrors_kept_bind ?_
      rw [hmid]
      refine mirrors_blind_bind (Tracker.blind_submitExit venue _ _) hmid fun exit mid hmid => ?_
      rw [keep_bind_keep]
      exact mirrors_keep hmid rfl
    · exact mirrors_pure ()
  | needEnter | waitForEnter | waitForExit => exact mirrors_wrongState hmid nofun

/-- A cancelled exit is replaced, once its ratchet has been moved in the slot. -/
theorem mirrors_resubmitExit {entry exit : PlacedOrder} {ratchet ratchet' : Ratchet} {price : Float}
    {change : Slots → Slots} (hstage : desk.tracker.stage = some (.waitForExit entry exit ratchet))
    (hchange : change (ofStage (some (.waitForExit entry exit ratchet))) =
      ofStage (some (.waitForExit entry exit ratchet'))) :
    Mirrors (Tracker.resubmitExit venue entry ratchet' price)
      (keep change >>= fun _ => resubmitExit venue entry.side price) desk := by
  rw [resubmitExit, ← bind_assoc, keep_bind_keep]
  refine Mirrors.bind (mirrors_keep hstage (by rw [Function.comp, hchange]; rfl))
    fun _ mid hends => ?_
  obtain ⟨-, rfl⟩ := ends_setStage.mp hends
  exact mirrors_blind_bind (Tracker.blind_submitExit venue _ _) rfl fun exit mid hmid =>
    mirrors_keep hmid rfl

/-- An exit that the market is past is found in its slot, beside its ratchet. -/
theorem mirrors_trackCrossedExit {entry exit : PlacedOrder} {ratchet : Ratchet}
    (hstage : desk.tracker.stage = some (.waitForExit entry exit ratchet)) :
    Mirrors (Tracker.trackCrossedExit venue entry exit ratchet)
      (trackCrossedExit venue entry.side exit) desk := by
  refine mirrors_blind_bind blind_settings hstage fun settings mid hmid => ?_
  dsimp only
  split
  · exact mirrors_keep hmid rfl
  · refine mirrors_get_bind (mirrors_blind_bind (blind_cancel venue _) hmid
      fun cancelled mid hmid => ?_)
    exact mirrors_ite (mirrors_resubmitExit hmid rfl) (mirrors_keep hmid rfl)

/-- An exit that follows its stop is found in its slot, beside its ratchet. -/
theorem mirrors_trackStop {entry exit : PlacedOrder} {ratchet : Ratchet}
    (hstage : desk.tracker.stage = some (.waitForExit entry exit ratchet)) :
    Mirrors (Tracker.trackStop venue rule entry exit ratchet)
      (trackStop venue rule entry.side exit) desk := by
  refine mirrors_blind_bind (blind_askPrice rule _) hstage fun stop mid hmid => ?_
  -- the ratchet is there, so none is put in its place
  refine mirrors_kept_bind (mirrors_keep_same (by rw [hmid]; rfl) ?_)
  rw [hmid]
  show Mirrors _ (if ratchet.improves stop then _ else _) _
  refine mirrors_ite ?_ (mirrors_pure ())
  refine mirrors_blind_bind (blind_cancel venue _) hmid fun cancelled mid hmid => ?_
  exact mirrors_ite (mirrors_resubmitExit hmid rfl) (mirrors_pure ())

/-- A position that is left leaves all of its slots empty. -/
theorem mirrors_leavePosition {entry exit : PlacedOrder} {ratchet : Ratchet}
    (hstage : desk.tracker.stage = some (.waitForExit entry exit ratchet)) :
    Mirrors (Tracker.leavePosition venue entry exit) (leavePosition venue entry exit) desk := by
  refine mirrors_blind_bind (Tracker.blind_closedTrade venue _ _) hstage fun trade mid hmid => ?_
  refine mirrors_blind_bind blind_recordExit hmid fun _ mid hmid => ?_
  exact (mirrors_keep hmid rfl).bind fun _ _ _ => mirrors_pure _

/-- While an exit is waited for both orders are in their slots, and so they are found there. -/
theorem mirrors_trackExit :
    Mirrors (Tracker.trackExit venue rule) (trackExit venue rule) desk := by
  refine mirrors_ensureResumed_bind fun stage mid hmid => ?_
  cases stage with
  | waitForExit entry exit ratchet =>
    refine mirrors_expectState_bind hmid (mirrors_heldIn_bind (by rw [hmid]; rfl) ?_)
    refine mirrors_heldIn_bind (by rw [hmid]; rfl) ?_
    refine mirrors_blind_bind (blind_findOrder venue _) hmid fun found mid hmid => ?_
    cases found with
    | none => exact (mirrors_leavePosition hmid).bind fun _ _ _ => mirrors_pure _
    | some order =>
      refine mirrors_blind_bind blind_newestTicker hmid fun ticker mid hmid => ?_
      split
      · exact (mirrors_trackCrossedExit hmid).bind fun _ _ _ => mirrors_pure _
      · exact (mirrors_trackStop hmid).bind fun _ _ _ => mirrors_pure _
  | needEnter | waitForEnter | needExit => exact mirrors_wrongState hmid nofun

end Operations

end Slots

end SwingTrader
