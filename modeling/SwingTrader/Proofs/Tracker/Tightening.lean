import SwingTrader.Proofs.Ratchet
import SwingTrader.Proofs.Tracker.Evidence

/-!
# SwingTrader — the exits of a position

A position has one exit at a time, but over its life the exit is moved, given up and
placed anew, and an operation may break off between any two of these. Through all of it
the stop only tightens: each exit is strictly better for the position than the one before
it. A stop is let go of in one case only, when the market has stayed past it for so long
that the exit is forced to where the market is.

What carries this is the ratchet. While an exit is open the level of the ratchet is its
price, and while an exit is missing the level is better than the price of the last one.

* `Mark`, `Tightening` — what happens to exits, and that they are in order;
* `Tracker.Marking` — the desks of a tracker, with what has happened to its exits;
* `Tracker.Braced` — what the ratchet has to do with the last exit;
* `Tracker.tightening_of_run` — the exits of every run are in order.
-/

namespace SwingTrader

variable {σ κ : Type}

open Desk

/-! ## Marks -/

/-- What happens to the exits of a position, as far as it matters for their prices. -/
inductive Mark where
  | placed (side : Side) (price : Float)
  | forced
  | closed
  deriving DecidableEq

/-- The price that the next exit has to improve on; the newest mark comes first. -/
def standing? : List Mark → Option Float
  | .placed _ price :: _ => some price
  | .forced :: _ | .closed :: _ | [] => none

/-- Every exit is strictly better than the one before it, up to one that is forced. -/
def Tightening : List Mark → Prop
  | [] => True
  | .placed side price :: older =>
    (∀ last, standing? older = some last → side.isBetterExit price last = true) ∧ Tightening older
  | .forced :: older | .closed :: older => Tightening older

namespace Tracker

instance (desk : Desk σ κ) (entry exit : PlacedOrder) : Decidable (Overdue desk entry exit) :=
  decidable_of_iff (desk.prices.ticker.any (isCrossed entry.side · exit.price) = true ∧
      desk.tracker.settings.limits.exitCrossed < exit.notExecuted + 1) <| by
    simp [Overdue, Option.any_eq_true]

/-- The exit that a tracker without a stage has taken up by looking. -/
def adopts (desk looked : Desk σ κ) : List Mark :=
  if desk.tracker.stage.isSome then []
  else (looked.tracker.exitOrder.map fun exit => .placed exit.side exit.price).toList

/-- An exit that was waited for too long, and is cancelled, is to be forced. -/
def forces (looked after : Desk (Journaled σ) κ) : List Mark :=
  match looked.tracker.stage with
  | some (.waitForExit entry exit _) =>
    if Overdue looked entry exit ∧ exit.id ∈ cancelled looked after then [.forced] else []
  | _ => []

/-- The exits that were created. -/
def places (looked after : Desk (Journaled σ) κ) : List Mark :=
  ((created looked after).filter fun order => order.kind.isExit).map fun order =>
    .placed order.side order.price

/-- The position is closed with the trade that is reported. -/
def closes (trade? : Option ClosedTrade) : List Mark :=
  (trade?.map fun _ => .closed).toList

/-- What an operation does to exits, from its look to the trade that it reports. -/
def marks (venue : Venue σ) (op : Operation κ) (desk : Desk (Journaled σ) κ) : List Mark :=
  let looked := (outcome (resume venue.journaled) desk).2
  let after := (outcome (op.run venue.journaled) desk).2
  closes (op.trade? venue.journaled desk) ++ places looked after ++ forces looked after ++
    adopts desk looked

/--
The desks of a tracker, with the marks of all its operations. Between two operations
everything may change but the tracker.
-/
inductive Marking (venue : Venue σ) : Desk (Journaled σ) κ → List Mark → Prop where
  | begin {desk : Desk (Journaled σ) κ} (unresumed : desk.tracker.stage = none) :
      Marking venue desk []
  | meanwhile {desk next : Desk (Journaled σ) κ} {history : List Mark}
      (marking : Marking venue desk history) (tracker_eq : next.tracker = desk.tracker) :
      Marking venue next history
  | operate {desk : Desk (Journaled σ) κ} {history : List Mark}
      (marking : Marking venue desk history) (op : Operation κ) :
      Marking venue (outcome (op.run venue.journaled) desk).2 (marks venue op desk ++ history)

/-! ## What the ratchet holds -/

/--
The ratchet is at the price of an exit that is open. Where an exit is missing, the ratchet
is at a level that improves on the last exit, unless that one was forced.
-/
def Braced : Option Stage → List Mark → Prop
  | some (.waitForExit entry exit ratchet), history =>
    ratchet.side = entry.side ∧ ratchet.level = some exit.price ∧
      standing? history = some exit.price
  | some (.needExit entry (some ratchet)), history =>
    ratchet.side = entry.side ∧ ∃ level, ratchet.level = some level ∧
      ∀ last, standing? history = some last → entry.side.isBetterExit level last = true
  | _, history => standing? history = none

section Braced

variable {venue : Venue σ} {op : Operation κ} {desk looked after : Desk (Journaled σ) κ}
  {stage stage' : Stage} {trade? : Option ClosedTrade} {history : List Mark}

/-- A first exit, or one that is placed anew, is held by the ratchet that it is placed with. -/
theorem braced_of_leave {entry : PlacedOrder} {ratchet? : Option Ratchet} {proposed price : Float}
    (husable : PriceRule.isUsable proposed = true) (hprice : price = exitPrice ratchet? proposed)
    (hbraced : Braced (some (.needExit entry ratchet?)) history) :
    (∀ last, standing? history = some last → entry.side.isBetterExit price last = true) ∧
      ((ratchet?.getD { side := entry.side }).apply price).side = entry.side ∧
        ((ratchet?.getD { side := entry.side }).apply price).level = some price := by
  cases ratchet? with
  | none =>
    -- the first exit of the position: there is no level yet, so any usable price improves it
    have hfinite : proposed.isFinite = true := (Bool.and_eq_true_iff.mp husable).1
    have himproves : ({ side := entry.side } : Ratchet).improves price = true := by
      simp [Ratchet.improves, hprice, exitPrice, hfinite]
    have hfirst : standing? history = none := hbraced
    refine ⟨fun last hlast => ?_, Ratchet.side_apply _ _,
      Ratchet.level_apply_of_improves himproves⟩
    cases hfirst.symm.trans hlast
  | some ratchet =>
    obtain ⟨hside, level, hlevel, hbetter⟩ := hbraced
    rw [exitPrice] at hprice
    by_cases himproves : ratchet.improves proposed = true
    · have happlied : (ratchet.apply proposed).level = some proposed :=
        Ratchet.level_apply_of_improves himproves
      obtain rfl : price = proposed := by rw [hprice, Ratchet.levelOr, happlied, Option.getD_some]
      have hproposed := Ratchet.isBetterExit_of_improves himproves hlevel
      rw [hside] at hproposed
      refine ⟨fun last hlast => ?_, (Ratchet.side_apply _ _).trans hside, happlied⟩
      exact Side.isBetterExit_trans (hbetter last hlast) hproposed
    -- a looser stop is not taken, and the exit goes out at the level instead
    · rw [Ratchet.apply_of_not_improves (Bool.not_eq_true _ ▸ himproves),
        Ratchet.levelOr, hlevel,
        Option.getD_some] at hprice
      subst hprice
      rw [Option.getD_some, Ratchet.apply_level hlevel]
      exact ⟨hbetter, hside, hlevel⟩

/-- What a transition does to exits, apart from those that are adopted. -/
def changes (looked after : Desk (Journaled σ) κ) (trade? : Option ClosedTrade) : List Mark :=
  closes trade? ++ places looked after ++ forces looked after

theorem forces_of_no_cancel (h : cancelled looked after = []) : forces looked after = [] := by
  unfold forces
  split
  · rw [h, if_neg (fun h => List.not_mem_nil h.2)]
  · rfl

/-- Where only entries are created no exit is placed. -/
theorem places_of_no_exit (h : ∀ order ∈ created looked after, order.kind.isExit = false) :
    places looked after = [] := by
  rw [places, List.filter_eq_nil_iff.mpr, List.map_nil]
  intro order hmem
  simp [h order hmem]

/-- Where one exit is created it is placed at its price. -/
theorem places_of_exit {order : PlacedOrder} {side : Side} (h : created looked after = [order])
    (hkind : order.kind = side.exitKind) : places looked after = [.placed side order.price] := by
  have hexit : order.kind.isExit = true := by
    rw [hkind, OrderKind.isExit, Side.isEnter_exitKind]; rfl
  have hside : order.side = side := by rw [PlacedOrder.side, hkind, Side.side_exitKind]
  simp [places, h, hexit, hside]

theorem changes_eq_nil (hplaces : places looked after = []) (hforces : forces looked after = []) :
    changes looked after none = [] := by
  rw [changes, hplaces, hforces]
  rfl

/-- An exit that is to be forced is in nobody's way. -/
theorem tightening_forces (h : Tightening history) :
    Tightening (forces looked after ++ history) := by
  unfold forces
  split
  · split
    · exact h
    · exact h
  · exact h

/-- Wherever an exit is moved to, that is better than where it was, or is forced. -/
theorem MovesTo.better {entry exit : PlacedOrder} {ratchet ratchet' : Ratchet} {price last : Float}
    (h : MovesTo op looked entry exit ratchet price ratchet')
    (hstage : looked.tracker.stage = some (.waitForExit entry exit ratchet))
    (hcancelled : cancelled looked after = [exit.id])
    (hbraced : Braced (some (.waitForExit entry exit ratchet)) history)
    (hlast : standing? (forces looked after ++ history) = some last) :
    entry.side.isBetterExit price last = true := by
  obtain ⟨hside, hlevel, hstanding⟩ := hbraced
  cases h with
  | forced overdue _ =>
    have hforces : forces looked after = [.forced] := by
      rw [forces, hstage]
      simp only [overdue, hcancelled, List.mem_singleton, and_self, if_true]
    rw [hforces] at hlast
    cases hlast
  | improved _ _ improves =>
    have hbetter := Ratchet.isBetterExit_of_improves improves hlevel
    rw [hside] at hbetter
    -- a stop that improves stands against the exit itself, if it stands against any
    unfold forces at hlast
    rw [hstage] at hlast
    dsimp only at hlast
    split at hlast
    · cases hlast
    · rw [List.nil_append, hstanding] at hlast
      cases hlast
      exact hbetter

/-- What an operation does to exits leaves them in order, and the ratchet where it has to be. -/
theorem Transition.braced (h : Transition op looked after stage stage' trade?)
    (hstage : looked.tracker.stage = some stage) (hbraced : Braced (some stage) history)
    (htightening : Tightening history) :
    Tightening (changes looked after trade? ++ history) ∧
      Braced (some stage') (changes looked after trade? ++ history) := by
  cases h with
  | stay recounts created_eq cancelled_eq _ =>
    have hplaces : places looked after = [] := by rw [places, created_eq]; rfl
    rw [changes_eq_nil hplaces (forces_of_no_cancel cancelled_eq)]
    refine ⟨htightening, ?_⟩
    cases recounts with
    | same | entry => exact hbraced
    | exit counted =>
      -- a tick that is counted for an exit leaves its price
      rw [Braced, counted.price_eq]
      exact hbraced
  | enter enters created_eq cancelled_eq _ =>
    have hplaces : places looked after = [] := by
      refine places_of_no_exit fun order hmem => ?_
      rw [created_eq, List.mem_singleton] at hmem
      rw [hmem, OrderKind.isExit, enters]
      rfl
    rw [changes_eq_nil hplaces (forces_of_no_cancel cancelled_eq)]
    exact ⟨htightening, hbraced⟩
  | fill _ created_eq _ _ | takePart _ _ _ created_eq _ _ | cutOff _ _ _ created_eq _ _
  | giveUp _ _ created_eq _ _ =>
    have hplaces : places looked after = [] := by rw [places, created_eq]; rfl
    have hforces : forces looked after = [] := by rw [forces, hstage]
    rw [changes_eq_nil hplaces hforces]
    exact ⟨htightening, hbraced⟩
  | @leave entry order ratchet? proposed kind_eq usable price_eq created_eq cancelled_eq _ =>
    obtain ⟨hbetter, hside, hlevel⟩ := braced_of_leave usable price_eq hbraced
    have hchanges : changes looked after none = [.placed entry.side order.price] := by
      rw [changes, places_of_exit created_eq kind_eq, forces_of_no_cancel cancelled_eq]
      rfl
    rw [hchanges]
    exact ⟨⟨hbetter, htightening⟩, hside, hlevel, rfl⟩
  | @withdraw entry exit order ratchet ratchet' price _ moves created_eq cancelled_eq _ =>
    have hchanges : changes looked after none = forces looked after := by
      rw [changes, places, created_eq]
      rfl
    rw [hchanges]
    refine ⟨tightening_forces htightening, moves.side_eq.trans hbraced.1, price,
      moves.level_eq, ?_⟩
    exact fun last hlast => moves.better hstage cancelled_eq hbraced hlast
  | @replace entry exit exit' order ratchet ratchet' _ kind_eq moves created_eq cancelled_eq _ =>
    have hchanges : changes looked after none =
        .placed entry.side exit'.price :: forces looked after := by
      rw [changes, places_of_exit created_eq kind_eq]
      rfl
    rw [hchanges]
    refine ⟨⟨fun last hlast => ?_, tightening_forces htightening⟩, ?_⟩
    · exact moves.better hstage cancelled_eq hbraced hlast
    · exact ⟨moves.side_eq.trans hbraced.1, moves.level_eq, rfl⟩
  | @close _ _ _ trade _ created_eq cancelled_eq _ =>
    have hchanges : changes looked after (some trade) = [.closed] := by
      rw [changes, places, created_eq, forces_of_no_cancel cancelled_eq]
      rfl
    rw [hchanges]
    exact ⟨htightening, rfl⟩

end Braced

/-! ## Runs -/

section Runs

variable {venue : Venue σ} {desk looked after : Desk (Journaled σ) κ} {history : List Mark}

/-- A look at a stage that is there finds it. -/
theorem ends_resume_of_stage {stage : Stage} (hstage : desk.tracker.stage = some stage) :
    Ends (resume venue.journaled) desk (.ok stage) desk := by
  simp [resume, hstage]

/-- The trade that an operation reports is the one that it reports once it has looked. -/
theorem trade?_of_looked (op : Operation κ) {stage : Stage}
    (h : Ends (resume venue.journaled) desk (.ok stage) looked) :
    op.trade? venue.journaled desk = op.trade? venue.journaled looked := by
  have hagain : Ends (resume venue.journaled) looked (.ok stage) looked :=
    ends_resume_of_stage (found_of_resume h).2
  cases op with
  | trackExit rule =>
    rw [Operation.trade?, Operation.trade?, trackExit, outcome_bind, outcome_bind, h, hagain]
  | look | placeEnter | trackEnter | placeExit => rfl

/-- An operation whose look fails closes no trade. -/
theorem trade?_of_error (op : Operation κ) {error : TradingError}
    (h : Ends (resume venue.journaled) desk (.error error) looked) :
    op.trade? venue.journaled desk = none := by
  cases op with
  | trackExit rule =>
    rw [Operation.trade?, trackExit, outcome_bind, h]
    rfl
  | look | placeEnter | trackEnter | placeExit => rfl

theorem adopts_of_no_exit (h : looked.tracker.exitOrder = none) : adopts desk looked = [] := by
  simp [adopts, h]

/-- An exit that is adopted is the first of its position. -/
theorem Found.braced (h : Found venue.journaled desk looked)
    (hbraced : Braced desk.tracker.stage history) (htightening : Tightening history) :
    Tightening (adopts desk looked ++ history) ∧
      Braced looked.tracker.stage (adopts desk looked ++ history) := by
  cases h with
  | known stage_eq =>
    have hnone : adopts desk desk = [] := by simp [adopts, stage_eq]
    rw [hnone]
    exact ⟨htightening, hbraced⟩
  | finds finding =>
    cases finding with
    | flat stage_eq | held stage_eq | enter stage_eq =>
      rw [stage_eq] at hbraced
      rw [adopts_of_no_exit rfl]
      exact ⟨htightening, hbraced⟩
    | @leave seen order quantity price ledgers stage_eq =>
      rw [stage_eq] at hbraced
      have hadopts : ∀ found : Desk (Journaled σ) κ,
          found.tracker.exitOrder = some (adopt order) →
          adopts desk found = [.placed order.kind.side order.price] := by
        intro found hfound
        rw [adopts, stage_eq, hfound]
        rfl
      rw [hadopts _ rfl]
      -- nothing was known of the position, so no exit of it stands to be loosened
      have hfirst : standing? history = none := hbraced
      refine ⟨⟨fun last hlast => ?_, htightening⟩, (Side.side_enterKind _).symm, rfl, rfl⟩
      cases hfirst.symm.trans hlast

/-- Every operation leaves the exits in order, and the ratchet where it has to be. -/
theorem marks_braced (op : Operation κ) (hbraced : Braced desk.tracker.stage history)
    (htightening : Tightening history) :
    Tightening (marks venue op desk ++ history) ∧
      Braced (outcome (op.run venue.journaled) desk).2.tracker.stage
        (marks venue op desk ++ history) := by
  have hends := ends_outcome (op.run venue.journaled) desk
  set after := (outcome (op.run venue.journaled) desk).2 with hafter
  obtain ⟨error, hresume, -⟩ | ⟨stage, looked, hresume, hop⟩ := run_inv op hends
  · -- the look has failed: no stage is known, and nothing was done
    obtain ⟨hstage, hseeks, -⟩ := seeks_of_resume_error hresume
    have hsame := hseeks.undisturbed
    have hnone : after.tracker.stage = none := by rw [hsame.tracker_eq, hstage]
    have hcreated : created after after = [] := by
      rw [created, made_eq (show after.venue.calls = [] ++ after.venue.calls from rfl)]
      rfl
    have hmarks : marks venue op desk = [] := by
      rw [marks, ← hafter, hresume, trade?_of_error op hresume, places, hcreated, forces, hnone,
        adopts_of_no_exit (by rw [Tracker.exitOrder, hnone]; rfl)]
      rfl
    rw [hmarks, hnone]
    rw [hstage] at hbraced
    exact ⟨htightening, hbraced⟩
  · obtain ⟨hfound, hstage⟩ := found_of_resume hresume
    obtain ⟨htightening, hbraced⟩ := hfound.braced hbraced htightening
    obtain ⟨stage', hstands, htransition⟩ := (deed_of_run op hstage hop).transition hstage
    have hmarks : marks venue op desk ++ history =
        changes looked after (op.trade? venue.journaled looked) ++
          (adopts desk looked ++ history) := by
      rw [marks, hresume, trade?_of_looked op hresume, changes, List.append_assoc]
    rw [hstage] at hbraced
    rw [hmarks, show after.tracker.stage = some stage' by rw [hstands]]
    exact htransition.braced hstage hbraced htightening

/-- The marks of a run are in order, and the ratchet is where it has to be. -/
theorem Marking.braced (marking : Marking venue desk history) :
    Tightening history ∧ Braced desk.tracker.stage history := by
  induction marking with
  | begin unresumed =>
    rw [unresumed]
    exact ⟨trivial, rfl⟩
  | meanwhile _ tracker_eq ih =>
    rw [tracker_eq]
    exact ih
  | operate _ op ih => exact marks_braced op ih.2 ih.1

/--
**The exits of a position only ever tighten.** Whatever prices the rules answer and
whatever the venue does, an exit that is placed is strictly better than the one before it,
the one that was adopted included, unless the exit was forced in between or the position
closed. An exit that is open has a ratchet, in the direction of the position and at the
price of the exit.
-/
theorem tightening_of_run (marking : Marking venue desk history) :
    Tightening history ∧
      (desk.tracker.phase = .waitForExit → ∃ entry exit ratchet,
        desk.tracker.enterOrder = some entry ∧ desk.tracker.exitOrder = some exit ∧
          desk.tracker.ratchet = some ratchet ∧ ratchet.side = entry.side ∧
            ratchet.level = some exit.price ∧ standing? history = some exit.price) := by
  obtain ⟨htightening, hbraced⟩ := marking.braced
  refine ⟨htightening, fun hphase => ?_⟩
  match hstage : desk.tracker.stage with
  | some (.waitForExit entry exit ratchet) =>
    rw [hstage] at hbraced
    obtain ⟨hside, hlevel, hstanding⟩ := hbraced
    refine ⟨entry, exit, ratchet, ?_, ?_, ?_, hside, hlevel, hstanding⟩
    · rw [Tracker.enterOrder, hstage]
      rfl
    · rw [Tracker.exitOrder, hstage]
      rfl
    · rw [Tracker.ratchet, hstage]
      rfl
  | none | some .needEnter | some (.waitForEnter _) | some (.needExit _ _) =>
    rw [Tracker.phase, hstage] at hphase
    cases hphase

end Runs

/-! ### A stop that cannot be moved at once -/

/--
An exit at 98 is to be moved to 99. It is cancelled, but its replacement is not placed at
once, and by the next tick the rule has gone back to 97.
-/
def placedAnew : Desk (Journaled Paper) Unit :=
  let tracked :=
    (outcome ((Operation.trackExit (.fixed 99.0)).run Paper.venue.journaled) stranded).2
  (outcome ((Operation.placeExit (.fixed 97.0)).run Paper.venue.journaled) tracked).2

theorem marking_placedAnew : ∃ history, Marking Paper.venue placedAnew history := by
  have hstranded : ∃ history, Marking Paper.venue stranded history :=
    ⟨_, .meanwhile (.operate (.begin rfl) (.placeExit (.fixed 98.0))) rfl⟩
  obtain ⟨history, hmarking⟩ := hstranded
  exact ⟨_, .operate (.operate hmarking (.trackExit (.fixed 99.0))) (.placeExit (.fixed 97.0))⟩

/-- The exit is placed at the stop that it was to move to, and not below it. -/
theorem tightening_of_placedAnew :
    placedAnew.tracker.phase = .waitForExit ∧
      ∃ history, Marking Paper.venue placedAnew history ∧ Tightening history ∧
        standing? history = some 99.0 := by
  have hphase : placedAnew.tracker.phase = .waitForExit := by decide +kernel
  have hlevel : placedAnew.tracker.ratchet.bind Ratchet.level = some 99.0 := by decide +kernel
  obtain ⟨history, hmarking⟩ := marking_placedAnew
  obtain ⟨htightening, hopen⟩ := tightening_of_run hmarking
  obtain ⟨entry, exit, ratchet, -, -, hratchet, -, hprice, hstanding⟩ := hopen hphase
  rw [hratchet, Option.bind_some, hprice] at hlevel
  exact ⟨hphase, history, hmarking, htightening, hstanding.trans hlevel⟩

end Tracker

end SwingTrader
