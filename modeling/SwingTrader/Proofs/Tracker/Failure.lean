import SwingTrader.Proofs.Tracker.Operation

/-!
# SwingTrader — what an operation that fails has done

Every operation makes several calls, any of which may fail, and what was done
before stays done. In the phase that it belongs to an operation fails before it
has changed anything about the position, with one exception: an exit that is
cancelled, and whose replacement is not placed.

* `Tracker.Unplaced` — an order that was to be placed, and was not;
* `Tracker.Withdrawn` — an exit that is cancelled and not replaced;
* `Tracker.placeEnter_error`, `Tracker.trackEnter_error`, `Tracker.placeExit_error`,
  `Tracker.trackExit_error` — how each operation fails.
-/

namespace SwingTrader.Tracker

variable {σ κ α : Type} {venue : Venue σ} {rule : PriceRule κ} {desk after : Desk σ κ}
  {error : TradingError}

open Desk

/-! ## Orders that are not placed -/

/--
An order of a kind and at a price that is not placed: a number that it takes cannot
be had, or the venue refuses it.
-/
inductive Unplaced (venue : Venue σ) (kind : OrderKind) (price : Float) :
    Desk σ κ → Desk σ κ → Prop where
  | unsized {desk after : Desk σ κ} (asking : Asking venue desk after) :
      Unplaced venue kind price desk after
  | refused {desk asked : Desk σ κ} {quantity : Float} {reason : VenueError} {state : σ}
      (asking : Asking venue desk asked)
      (replies : Replies (venue.createOrder asked.market kind quantity price) asked.venue
        (.error reason) state) :
      Unplaced venue kind price desk { asked with venue := state }

theorem Unplaced.undisturbed {kind : OrderKind} {price : Float}
    (h : Unplaced venue kind price desk after) : Undisturbed desk after := by
  cases h with
  | unsized asking => exact asking.undisturbed
  | refused asking _ => exact asking.undisturbed.trans ⟨rfl, rfl, rfl, rfl, rfl⟩

/-- A submission that fails is an order that is not placed, and it is the venue that says so. -/
theorem unplaced_of_submit {kind : OrderKind} {quantity price : Float} {asked : Desk σ κ}
    (hasking : Asking venue desk asked)
    (h : Ends (submit venue kind quantity price) asked (.error error) after) :
    Unplaced venue kind price desk after ∧ ∃ reason, error = .venue reason := by
  obtain ⟨reason, state, hreply, herror, rfl⟩ := ends_submit_error.mp h
  exact ⟨.refused hasking hreply, reason, herror⟩

/-- An exit that cannot be submitted is not placed, and it is the venue that says so. -/
theorem unplaced_of_submitExit {side : Side} {price : Float}
    (h : Ends (submitExit venue side price) desk (.error error) after) :
    Unplaced venue side.exitKind price desk after ∧ ∃ reason, error = .venue reason := by
  obtain ⟨hasking, reason, ⟨⟩⟩ | ⟨quantity, asked, hholds, h⟩ := submitExit_inv h
  · exact ⟨.unsized hasking, reason, rfl⟩
  · exact unplaced_of_submit (holds_asking hholds) h

/-! ## Entering -/

/-- An entry that cannot be placed is sized and submitted at most. -/
theorem placeEnter_error {side : Side} (hstage : desk.tracker.stage = some .needEnter)
    (h : Ends (placeEnter venue rule side) desk (.error error) after) :
    (∃ rules price, Unplaced venue side.enterKind price { desk with rules } after) ∧
      ∃ reason, error = .venue reason := by
  rw [placeEnter, ends_resume_bind hstage] at h
  simp only [ends_askPrice_bind] at h
  split at h
  · obtain ⟨_, h, ⟨⟩⟩ | ⟨amount?, sized, hamount, h⟩ := ends_bind.mp h
    · have hasking := enterAmount_onlyAsks _ side _ rfl h
      exact ⟨⟨_, 0.0, .unsized hasking⟩, enterAmount_failsByVenue side _ h⟩
    have hasking := enterAmount_onlyAsks _ side _ rfl hamount
    cases amount? with
    | none => cases (ends_pure.mp h).1
    | some amount =>
      obtain ⟨_, h, ⟨⟩⟩ | ⟨order, placed, -, h⟩ := ends_bind.mp h
      · obtain ⟨hunplaced, herror⟩ := unplaced_of_submit hasking h
        exact ⟨⟨_, _, hunplaced⟩, herror⟩
      · cases (ends_setStage.mp h).1
  · cases (ends_pure.mp h).1

/-- A look-up that fails, and the listing that it fails by, fails by the venue. -/
theorem cause_of_findOrder {id : OrderId}
    (h : Ends (findOrder venue id) desk (.error error) after) :
    Seeks venue desk after ∧ Cause venue desk error := by
  obtain ⟨reason, rfl⟩ := failsByVenue_findOrder h
  exact ⟨find_seeks h, .venue reason⟩

/-- An entry that is found filled in part stays as it was where the operation fails. -/
theorem trackPartialEntry_error {entry : PlacedOrder} {order : OpenOrder}
    (h : Ends (trackPartialEntry venue entry order) desk (.error error) after) :
    Undisturbed desk after ∧
      ((∃ reason, error = .venue reason) ∨
        ∀ ledgers, ¬desk.TakesEntry entry.side ledgers) := by
  simp only [trackPartialEntry, ends_settings_bind] at h
  split at h
  · cases (ends_setStage.mp h).1
  obtain ⟨hasking, reason, ⟨⟩⟩ | ⟨held, asked, hholds, h⟩ := holds_inv h
  · exact ⟨hasking.undisturbed, .inl ⟨reason, rfl⟩⟩
  obtain ⟨cancelled, mid, hcancel, h⟩ := cancel_inv h
  have hsame := hholds.undisturbed.trans (.cancel hcancel)
  cases cancelled with
  | false => cases (ends_setStage.mp h).1
  | true =>
    obtain ⟨rfl, -, hrefuses⟩ | ⟨ledgers, -, h⟩ := recordEntry_inv h
    · simp only [hsame.takesEntry_iff] at hrefuses
      exact ⟨hsame, .inr hrefuses⟩
    · cases (ends_setStage.mp h).1

/-- Giving up an entry does not fail. -/
theorem trackOpenEntry_ne_error {entry : PlacedOrder} :
    ¬Ends (trackOpenEntry venue rule entry) desk (.error error) after := by
  intro h
  simp only [trackOpenEntry, ends_askPrice_bind] at h
  split at h
  · rw [ends_settings_bind] at h
    split at h
    · cases (ends_setStage.mp h).1
    · obtain ⟨_ | _, mid, -, h⟩ := cancel_inv h
      · cases (ends_setStage.mp h).1
      · cases (ends_setStage.mp h).1
  · cases (ends_pure.mp h).1

/--
An entry that cannot be tracked leaves the position as it was, whether it is cancelled
or not.
-/
theorem trackEnter_error {entry : PlacedOrder}
    (hstage : desk.tracker.stage = some (.waitForEnter entry))
    (h : Ends (trackEnter venue rule) desk (.error error) after) :
    Undisturbed desk after ∧ Cause venue desk error := by
  rw [trackEnter, ends_resume_bind hstage] at h
  obtain ⟨_, h, ⟨⟩⟩ | ⟨found, seen, hfind, h⟩ := ends_bind.mp h
  · obtain ⟨hseeks, hcause⟩ := cause_of_findOrder h
    exact ⟨hseeks.undisturbed, hcause⟩
  have hseen := Undisturbed.findOrder hfind
  have hunheld : desk.tracker.held = none := by rw [held, hstage]; rfl
  cases found with
  | none =>
    obtain ⟨rfl, -, hrefuses⟩ | ⟨ledgers, -, h⟩ := recordEntry_inv h
    · simp only [hseen.takesEntry_iff] at hrefuses
      exact ⟨hseen, .entry hunheld hrefuses⟩
    · cases (ends_setStage.mp h).1
  | some order =>
    dsimp only at h
    split at h
    · obtain ⟨hsame, ⟨reason, rfl⟩ | hrefuses⟩ := trackPartialEntry_error h
      · exact ⟨hseen.trans hsame, .venue reason⟩
      · simp only [hseen.takesEntry_iff] at hrefuses
        exact ⟨hseen.trans hsame, .entry hunheld hrefuses⟩
    -- a whole order that cannot be cancelled is waited for, and no failure
    · exact (trackOpenEntry_ne_error h).elim

/-! ## Leaving -/

/-- An exit that cannot be placed is sized and submitted at most. -/
theorem placeExit_error {entry : PlacedOrder} {ratchet? : Option Ratchet}
    (hstage : desk.tracker.stage = some (.needExit entry ratchet?))
    (h : Ends (placeExit venue rule) desk (.error error) after) :
    (∃ rules price, Unplaced venue entry.side.exitKind price { desk with rules } after) ∧
      ∃ reason, error = .venue reason := by
  rw [placeExit, ends_resume_bind hstage] at h
  simp only [ends_askPrice_bind] at h
  split at h
  · obtain ⟨_, h, ⟨⟩⟩ | ⟨exit, placed, -, h⟩ := ends_bind.mp h
    · obtain ⟨hunplaced, herror⟩ := unplaced_of_submitExit h
      exact ⟨⟨_, _, hunplaced⟩, herror⟩
    · cases (ends_setStage.mp h).1
  · cases (ends_pure.mp h).1

/--
The price that the exit of a position is moved to: where the market is, when it is past
the exit, and otherwise the stop that the rule offers.
-/
def movedPrice (rule : PriceRule κ) (desk : Desk σ κ) (entry exit : PlacedOrder) (ticker : Ticker) :
    Float :=
  if isCrossed entry.side ticker exit.price then
    PriceRule.ofNewestBar (PriceRule.exitField entry.side) desk.view
  else ((rule desk.view entry.side).run desk.rules).1

/-- The exit of a position is cancelled, and the one to replace it at a price is not placed. -/
inductive Withdrawn (venue : Venue σ) (entry exit : PlacedOrder) (ratchet : Ratchet)
    (price : Float) : Desk σ κ → Desk σ κ → Prop where
  | unreplaced {desk seen cancelled after : Desk σ κ} {order : OpenOrder} {rules : κ}
      {ratchet' : Ratchet} (finds : Ends (findOrder venue exit.id) desk (.ok (some order)) seen)
      (cancels : Ends (cancel venue exit.id) { seen with rules } (.ok true) cancelled)
      (unplaced : Unplaced venue entry.side.exitKind price
        (cancelled.withStage (.needExit entry (some ratchet'))) after)
      (aims : ratchet'.side = ratchet.side) (level_eq : ratchet'.level = some price) :
      Withdrawn venue entry exit ratchet price desk after

theorem unplaced_of_resubmitExit {entry : PlacedOrder} {ratchet : Ratchet} {price : Float}
    (h : Ends (resubmitExit venue entry ratchet price) desk (.error error) after) :
    Unplaced venue entry.side.exitKind price (desk.withStage (.needExit entry (some ratchet)))
        after ∧ ∃ reason, error = .venue reason := by
  rw [resubmitExit, ends_setStage_bind] at h
  obtain ⟨_, h, ⟨⟩⟩ | ⟨exit, placed, -, h⟩ := ends_bind.mp h
  · exact unplaced_of_submitExit h
  · cases (ends_setStage.mp h).1

/-- Forcing an exit fails only once the exit is cancelled. -/
theorem trackCrossedExit_error {entry exit : PlacedOrder} {order : OpenOrder} {ratchet : Ratchet}
    {seen : Desk σ κ} (hfind : Ends (findOrder venue exit.id) desk (.ok (some order)) seen)
    (h : Ends (trackCrossedExit venue entry exit ratchet) seen (.error error) after) :
    Withdrawn venue entry exit ratchet
        (PriceRule.ofNewestBar (PriceRule.exitField entry.side) seen.view) desk after ∧
      ∃ reason, error = .venue reason := by
  simp only [trackCrossedExit, ends_settings_bind] at h
  split at h
  · cases (ends_setStage.mp h).1
  rw [ends_get_bind] at h
  obtain ⟨_ | _, cancelled, hcancel, h⟩ := cancel_inv h
  · cases (ends_setStage.mp h).1
  · obtain ⟨hunplaced, herror⟩ := unplaced_of_resubmitExit h
    exact ⟨.unreplaced hfind hcancel hunplaced rfl rfl, herror⟩

/-- Moving a stop fails only once the exit is cancelled. -/
theorem trackStop_error {entry exit : PlacedOrder} {order : OpenOrder} {ratchet : Ratchet}
    {seen : Desk σ κ} (hfind : Ends (findOrder venue exit.id) desk (.ok (some order)) seen)
    (h : Ends (trackStop venue rule entry exit ratchet) seen (.error error) after) :
    Withdrawn venue entry exit ratchet ((rule seen.view entry.side).run seen.rules).1 desk after ∧
      ∃ reason, error = .venue reason := by
  rw [trackStop, ends_askPrice_bind] at h
  split at h
  · obtain ⟨_ | _, cancelled, hcancel, h⟩ := cancel_inv h
    · cases (ends_pure.mp h).1
    · obtain ⟨hunplaced, herror⟩ := unplaced_of_resubmitExit h
      -- only a stop that is better is moved to, so the ratchet is at it
      exact ⟨.unreplaced hfind hcancel hunplaced (Ratchet.side_apply _ _)
        (Ratchet.level_apply_of_improves ‹_›), herror⟩
  · cases (ends_pure.mp h).1

/-- Finding an order changes neither the rules nor what they see. -/
theorem sees_of_findOrder {id : OrderId} {found : Option OpenOrder}
    (h : Ends (findOrder venue id) desk (.ok found) after) :
    after.rules = desk.rules ∧ after.view = desk.view := by
  obtain ⟨orders, hlist, -⟩ := ends_findOrder_ok.mp h
  obtain ⟨-, rfl⟩ | ⟨-, _, -, rfl⟩ := ends_listOrders_ok.mp hlist
  · exact ⟨rfl, rfl⟩
  · exact ⟨rfl, rfl⟩

/-- An exit that is still listed is forced or moved, and this fails once the exit is cancelled. -/
theorem trackOpenExit_error {entry exit : PlacedOrder} {order : OpenOrder} {ratchet : Ratchet}
    {seen : Desk σ κ} {crossed : Bool}
    (hfind : Ends (findOrder venue exit.id) desk (.ok (some order)) seen)
    (h : Ends (if crossed then trackCrossedExit venue entry exit ratchet >>= fun _ => pure none
      else trackStop venue rule entry exit ratchet >>= fun _ => pure none) seen
        (.error error : Except TradingError (Option ClosedTrade)) after) :
    Withdrawn venue entry exit ratchet
        (if crossed then PriceRule.ofNewestBar (PriceRule.exitField entry.side) desk.view
          else ((rule desk.view entry.side).run desk.rules).1) desk after ∧
      ∃ reason, error = .venue reason := by
  obtain ⟨hrules, hview⟩ := sees_of_findOrder hfind
  rw [← hview, ← hrules]
  cases crossed with
  | true =>
    obtain ⟨_, ⟨⟩, h⟩ | ⟨hok, -⟩ := noTrade_inv h
    · exact trackCrossedExit_error hfind h
    · cases hok
  | false =>
    obtain ⟨_, ⟨⟩, h⟩ | ⟨hok, -⟩ := noTrade_inv h
    · exact trackStop_error hfind h
    · cases hok

/--
An exit that cannot be tracked leaves the position as it was, unless it is cancelled and
not replaced.
-/
theorem trackExit_error {entry exit : PlacedOrder} {ratchet : Ratchet}
    (hstage : desk.tracker.stage = some (.waitForExit entry exit ratchet))
    (h : Ends (trackExit venue rule) desk (.error error) after) :
    (Seeks venue desk after ∧ Cause venue desk error) ∨
      (∃ ticker, desk.prices.ticker = some ticker ∧
        Withdrawn venue entry exit ratchet (movedPrice rule desk entry exit ticker) desk after) ∧
      ∃ reason, error = .venue reason := by
  rw [trackExit, ends_resume_bind hstage] at h
  obtain ⟨_, h, ⟨⟩⟩ | ⟨found, seen, hfind, h⟩ := ends_bind.mp h
  · exact .inl (cause_of_findOrder h)
  cases found with
  | none =>
    -- the exit is filled, and the trade cannot be made up or written down
    obtain ⟨_, h, ⟨⟩⟩ | ⟨trade, closed, -, h⟩ := ends_bind.mp h
    · obtain ⟨_, ⟨⟩, hseeks, hcause⟩ | ⟨_, hok, -⟩ := leavePosition_inv hstage hfind h
      · exact .inl ⟨hseeks, hcause⟩
      · cases hok
    · cases (ends_pure.mp h).1
  | some order =>
    -- the exit is open, and there may be no ticker to compare it with
    have hseen := (Undisturbed.findOrder hfind).prices_eq
    cases hticker : desk.prices.ticker with
    | none =>
      obtain ⟨_, hquote, ⟨⟩⟩ | ⟨_, _, hquote, -⟩ := ends_bind.mp h
      · rw [ends_newestTicker, hseen, hticker] at hquote
        obtain ⟨⟨⟩, rfl⟩ := hquote
        exact .inl ⟨find_seeks hfind, .unpriced hticker⟩
      · rw [ends_newestTicker, hseen, hticker] at hquote
        cases hquote.1
    | some ticker =>
      obtain ⟨_, hquote, ⟨⟩⟩ | ⟨_, _, hquote, hopen⟩ := ends_bind.mp h
      · rw [ends_newestTicker, hseen, hticker] at hquote
        cases hquote.1
      rw [ends_newestTicker, hseen, hticker] at hquote
      obtain ⟨⟨⟩, rfl⟩ := hquote
      obtain ⟨hwithdrawn, herror⟩ := trackOpenExit_error hfind hopen
      exact .inr ⟨⟨ticker, rfl, hwithdrawn⟩, herror⟩

end SwingTrader.Tracker
