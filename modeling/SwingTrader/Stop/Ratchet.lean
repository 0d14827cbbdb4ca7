import SwingTrader.Order

/-!
# SwingTrader — the stop ratchet

A ratchet holds the best stop that was proposed for one position so far. A long
stop only rises and a short one only falls.

* `Ratchet.improves` — whether a proposal is better than the level;
* `Ratchet.apply` — takes a better proposal as the level, and leaves the level
  to any other;
* `Ratchet.isFinite_of_improves`, `Ratchet.isBetterExit_of_improves` — what a better
  proposal is;
* `Ratchet.apply_of_not_improves`, `Ratchet.level_apply_of_improves` — the two
  cases.
-/

namespace SwingTrader

/-- The best stop of one position so far, if there is one yet. -/
structure Ratchet where
  side : Side
  level : Option Float := none

namespace Ratchet

/-- A proposal improves a level when it is finite and strictly better. -/
def improves (ratchet : Ratchet) (proposed : Float) : Bool :=
  proposed.isFinite
    && match ratchet.level with
      | none => true
      | some level => ratchet.side.isBetterExit proposed level

/-- The ratchet after a proposal. -/
def apply (ratchet : Ratchet) (proposed : Float) : Ratchet :=
  if ratchet.improves proposed then { ratchet with level := some proposed } else ratchet

/-- The level, or a given price where there is none. -/
def levelOr (ratchet : Ratchet) (price : Float) : Float :=
  ratchet.level.getD price

/-- Moves the level to any price, for a stop that was given up. -/
def reset (ratchet : Ratchet) (price : Float) : Ratchet :=
  { ratchet with level := some price }

@[simp] theorem side_apply (ratchet : Ratchet) (proposed : Float) :
    (ratchet.apply proposed).side = ratchet.side := by
  unfold apply
  split <;> rfl

/-- Only a finite price improves on a ratchet. -/
theorem isFinite_of_improves {ratchet : Ratchet} {proposed : Float}
    (h : ratchet.improves proposed = true) : proposed.isFinite = true := by
  rw [improves, Bool.and_eq_true] at h
  exact h.1

/-- What improves on a level is a better exit than the level. -/
theorem isBetterExit_of_improves {ratchet : Ratchet} {proposed level : Float}
    (h : ratchet.improves proposed = true) (hlevel : ratchet.level = some level) :
    ratchet.side.isBetterExit proposed level = true := by
  rw [improves, hlevel, Bool.and_eq_true] at h
  exact h.2

/-- A proposal that does not improve on a ratchet leaves it as it is. -/
theorem apply_of_not_improves {ratchet : Ratchet} {proposed : Float}
    (h : ratchet.improves proposed = false) : ratchet.apply proposed = ratchet := by
  simp [apply, h]

/-- A proposal that improves on a ratchet is its new level. -/
theorem level_apply_of_improves {ratchet : Ratchet} {proposed : Float}
    (h : ratchet.improves proposed = true) : (ratchet.apply proposed).level = some proposed := by
  simp [apply, h]

end Ratchet

end SwingTrader
