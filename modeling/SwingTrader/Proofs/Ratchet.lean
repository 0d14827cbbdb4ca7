import SwingTrader.Proofs.Side
import SwingTrader.Stop.Ratchet

/-!
# SwingTrader — what a ratchet comes to

Proposals arrive one at a time, NaN and the infinities among them, and the ratchet takes
what improves on its level. After all of them the level is the best of what there was: the
level it began with and the finite proposals. So it does not matter in which order they
came, except for which of 0 and -0 is kept.

* `Ratchet.applyAll`, `Ratchet.eligible` — some proposals, and the prices that they make
  eligible;
* `Ratchet.isBest_apply` — one proposal;
* `Ratchet.Answers` — what a call of the ratchet does and answers;
* `Ratchet.best_of_applyAll` — any number of proposals.
-/

namespace SwingTrader.Ratchet

variable {ratchet : Ratchet} {prices : List Float}

/-- The ratchet after some proposals, the first of them first. -/
def applyAll (ratchet : Ratchet) (proposals : List Float) : Ratchet :=
  proposals.foldl apply ratchet

/--
What the level can be after some proposals: what it was before, or one of them that is
finite.
-/
def eligible (ratchet : Ratchet) (proposals : List Float) : List Float :=
  ratchet.level.toList ++ proposals.filter Float.isFinite

/-! ## One proposal -/

/-- A level does not improve itself. -/
theorem apply_level {level : Float} (hlevel : ratchet.level = some level) :
    ratchet.apply level = ratchet := by
  have hnot : ratchet.improves level = false := by
    simp [improves, hlevel, Side.isBetterExit_irrefl]
  exact apply_of_not_improves hnot

/-- What improves on the level is no worse than the prices that the level was the best of. -/
theorem noWorse_of_improves {proposed : Float} (h : ratchet.side.IsBest prices ratchet.level)
    (himproves : ratchet.improves proposed = true) :
    ∀ price ∈ prices, ratchet.side.NoWorse proposed price := by
  intro price hprice
  cases hlevel : ratchet.level with
  | none =>
    rw [hlevel] at h
    rw [show prices = [] from h] at hprice
    cases hprice
  | some level =>
    rw [hlevel] at h
    have hbetter := isBetterExit_of_improves himproves hlevel
    exact (h.2 price hprice).trans (Side.noWorse_of_isBetterExit hbetter)

/-- A finite proposal that does not improve on the level is no better than it. -/
theorem noWorse_of_not_improves {proposed : Float} (h : ratchet.side.IsBest prices ratchet.level)
    (hnot : ratchet.improves proposed = false) (hfinite : proposed.isFinite = true) :
    ∃ level, ratchet.level = some level ∧ ratchet.side.NoWorse level proposed := by
  cases hlevel : ratchet.level with
  | none => simp [improves, hlevel, hfinite] at hnot
  | some level =>
    rw [hlevel] at h
    rw [improves, hlevel, hfinite, Bool.true_and] at hnot
    refine ⟨level, rfl, Side.noWorse_of_not_isBetterExit ?_ ?_ hnot⟩
    · exact (h.2 level h.1).isNaN_eq
    · exact Double.isNaN_of_isFinite hfinite

/-- **One proposal.** It joins the prices that the level is the best of, unless it is not finite. -/
theorem isBest_apply (h : ratchet.side.IsBest prices ratchet.level) (proposed : Float) :
    ratchet.side.IsBest (prices ++ [proposed].filter Float.isFinite)
      (ratchet.apply proposed).level := by
  cases himproves : ratchet.improves proposed with
  | true =>
    have hfinite := isFinite_of_improves himproves
    rw [level_apply_of_improves himproves, List.filter_cons_of_pos hfinite, List.filter_nil]
    exact Side.isBest_concat (Double.isNaN_of_isFinite hfinite) (noWorse_of_improves h himproves)
  | false =>
    rw [apply_of_not_improves himproves]
    by_cases hfinite : proposed.isFinite = true
    · obtain ⟨level, hlevel, hnoWorse⟩ := noWorse_of_not_improves h himproves hfinite
      rw [List.filter_cons_of_pos hfinite, List.filter_nil, hlevel]
      exact .concat (hlevel ▸ h) hnoWorse
    · rwa [List.filter_cons_of_neg hfinite, List.filter_nil, List.append_nil]

/-! ## Any number of proposals -/

/-- After any proposals the level is the best of what it was and of those that are finite. -/
theorem isBest_applyAll (proposals : List Float) :
    ∀ {ratchet : Ratchet} {prices : List Float}, ratchet.side.IsBest prices ratchet.level →
      ratchet.side.IsBest (prices ++ proposals.filter Float.isFinite)
        (ratchet.applyAll proposals).level := by
  induction proposals with
  | nil =>
    intro ratchet prices h
    rwa [List.filter_nil, List.append_nil]
  | cons proposed rest ih =>
    intro ratchet prices h
    have hrest := ih (side_apply ratchet proposed ▸ isBest_apply h proposed)
    rw [side_apply, List.append_assoc, ← List.filter_append, List.singleton_append] at hrest
    exact hrest

/-- A level that is a number is the best of what is eligible before any proposal. -/
theorem isBest_start (hnumber : ∀ level, ratchet.level = some level → level.isNaN = false) :
    ratchet.side.IsBest ratchet.level.toList ratchet.level := by
  cases hlevel : ratchet.level with
  | none => rfl
  | some level =>
    exact Side.isBest_concat (hnumber level hlevel) fun _ hprice => (List.not_mem_nil hprice).elim

/--
What a ratchet does with a proposal. The answer of the call is the level after it, or the
proposal where there is still none; and a proposal improves the ratchet when it is what
the level is replaced by.
-/
structure Answers (ratchet : Ratchet) (proposed : Float) : Prop where
  answer : (ratchet.apply proposed).level = some ((ratchet.apply proposed).levelOr proposed) ∨
    (ratchet.apply proposed).level = none ∧ (ratchet.apply proposed).levelOr proposed = proposed
  improves_iff : ratchet.improves proposed = true ↔
    ratchet.level ≠ some proposed ∧ (ratchet.apply proposed).level = some proposed
  settled : (ratchet.apply proposed).improves proposed = false

/-- A ratchet takes a proposal where it is better, and says so. -/
theorem answers (ratchet : Ratchet) (proposed : Float) : ratchet.Answers proposed := by
  have himproves : ratchet.improves proposed = true →
      (ratchet.apply proposed).level = some proposed := level_apply_of_improves
  refine ⟨?_, ⟨fun h => ⟨fun hlevel => ?_, himproves h⟩, fun ⟨hlevel, hafter⟩ => ?_⟩, ?_⟩
  · rw [levelOr]
    cases (ratchet.apply proposed).level with
    | none => exact .inr ⟨rfl, rfl⟩
    | some level => exact .inl rfl
  · have hbetter := isBetterExit_of_improves h hlevel
    rw [Side.isBetterExit_irrefl] at hbetter
    cases hbetter
  · by_contra hnot
    rw [apply_of_not_improves (Bool.not_eq_true _ ▸ hnot)] at hafter
    exact hlevel hafter
  · cases h : ratchet.improves proposed with
    | true =>
      rw [improves, himproves h, side_apply]
      dsimp only
      rw [Side.isBetterExit_irrefl, Bool.and_false]
    | false => rwa [apply_of_not_improves h]

/--
**The level is the best of what was proposed.** From no level, or one that is a number,
and after any proposals, the level is the best of the one before and the finite
proposals; it is the same for any order of these; and every further call answers the
level that it leaves.
-/
theorem best_of_applyAll (hnumber : ∀ level, ratchet.level = some level → level.isNaN = false)
    (proposals : List Float) :
    ratchet.side.IsBest (ratchet.eligible proposals) (ratchet.applyAll proposals).level ∧
      (∀ other, proposals.Perm other →
        Option.Rel (fun level level' => (level == level') = true)
          (ratchet.applyAll proposals).level (ratchet.applyAll other).level) ∧
      ∀ proposed, (ratchet.applyAll proposals).Answers proposed := by
  have hstart := isBest_start hnumber
  refine ⟨isBest_applyAll proposals hstart, fun other hperm => ?_,
    fun proposed => answers _ proposed⟩
  refine (isBest_applyAll proposals hstart).rel (isBest_applyAll other hstart) fun price => ?_
  exact ((hperm.filter _).append_left _).mem_iff

/-- The ratchet of a short with a stop at 105. -/
def shortAt105 : Ratchet := { side := .short, level := some 105.0 }

/-- Stops for it, two of them not finite, and the best not the last. -/
def shortStops : List Float := [notANumber, 103.0, -1.0 / 0.0, 104.0]

/-- The stop falls to 103, in whatever order the proposals come, and from there to 102. -/
theorem best_of_shortStops :
    (∀ level, shortAt105.level = some level → level.isNaN = false) ∧
      Side.short.IsBest [105.0, 103.0, 104.0] (shortAt105.applyAll shortStops).level ∧
      Option.Rel (fun level level' => (level == level') = true) (some 103.0)
        (shortAt105.applyAll shortStops.reverse).level ∧
      (shortAt105.applyAll shortStops).improves 102.0 = true ∧
      (shortAt105.applyAll shortStops).Answers 102.0 := by
  have hnumber : ∀ level, shortAt105.level = some level → level.isNaN = false := by
    rintro level ⟨⟩
    decide
  obtain ⟨hbest, horder, hanswers⟩ := best_of_applyAll hnumber shortStops
  have heligible : shortAt105.eligible shortStops = [105.0, 103.0, 104.0] := by decide +kernel
  have hlevel : (shortAt105.applyAll shortStops).level = some 103.0 := by decide +kernel
  refine ⟨hnumber, heligible ▸ hbest, ?_, by decide +kernel, hanswers 102.0⟩
  exact hlevel ▸ horder shortStops.reverse (List.reverse_perm _).symm

end SwingTrader.Ratchet
