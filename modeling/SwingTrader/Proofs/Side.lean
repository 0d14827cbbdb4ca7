import SwingTrader.Order
import SwingTrader.Proofs.Double

/-!
# SwingTrader — prices to leave a position at

A long is left better at a higher price and a short at a lower one. Whichever it is, all
prices but NaN are in a line, and 0 and -0 are at one place of it.

* `Side.NoWorse` — a price is no worse than another to close a position at;
* `Side.noWorse_of_not_isBetterExit` — of two numbers the one is better, or the other is
  no worse;
* `Side.IsBest` — the best of some prices, and `Side.IsBest.rel` why it does not matter in
  which order they are looked at.
-/

namespace SwingTrader

/-- A price is no worse than another to close a position at. -/
def Side.NoWorse (side : Side) (candidate current : Float) : Prop :=
  match side with
  | .long => current ≤ candidate
  | .short => candidate ≤ current

namespace Side

variable {side : Side} {first second third : Float}

/-! ## Better and no worse -/

theorem isBetterExit_irrefl : side.isBetterExit first first = false := by
  cases side with
  | long => exact decide_eq_false Double.lt_irrefl
  | short => exact decide_eq_false Double.lt_irrefl

/-- What is better than a better price is better. -/
theorem isBetterExit_trans (h : side.isBetterExit second first = true)
    (h' : side.isBetterExit third second = true) : side.isBetterExit third first = true := by
  cases side with
  | long => exact decide_eq_true (Double.lt_trans (of_decide_eq_true h) (of_decide_eq_true h'))
  | short => exact decide_eq_true (Double.lt_trans (of_decide_eq_true h') (of_decide_eq_true h))

/-- Every price that is a number is no worse than itself. -/
theorem NoWorse.refl (side : Side) (h : first.isNaN = false) : side.NoWorse first first := by
  cases side <;> exact Double.le_refl h

theorem NoWorse.isNaN_eq (h : side.NoWorse second first) : second.isNaN = false := by
  cases side
  · exact (Double.le_iff_rank.mp h).2.1
  · exact (Double.le_iff_rank.mp h).1

/-- What is no worse than a price that is no worse is no worse. -/
theorem NoWorse.trans (h : side.NoWorse second first) (h' : side.NoWorse third second) :
    side.NoWorse third first := by
  cases side
  · exact Double.le_trans h h'
  · exact Double.le_trans h' h

/-- Prices that are no worse than each other are equal. -/
theorem NoWorse.beq (h : side.NoWorse second first) (h' : side.NoWorse first second) :
    (first == second) = true := by
  cases side
  · exact Double.beq_of_le h h'
  · exact Double.beq_of_le h' h

/-- What is better is no worse. -/
theorem noWorse_of_isBetterExit (h : side.isBetterExit second first = true) :
    side.NoWorse second first := by
  cases side
  · exact Double.le_of_lt (of_decide_eq_true h)
  · exact Double.le_of_lt (of_decide_eq_true h)

/-- A number that another one does not improve on is no worse than it. -/
theorem noWorse_of_not_isBetterExit (hfirst : first.isNaN = false) (hsecond : second.isNaN = false)
    (h : side.isBetterExit second first = false) : side.NoWorse first second := by
  cases side
  · exact Double.le_of_not_lt hsecond hfirst (of_decide_eq_false h)
  · exact Double.le_of_not_lt hfirst hsecond (of_decide_eq_false h)

/-! ## The best of some prices -/

/-- The best of some prices: one that is no worse than any of them, or nothing if there are none. -/
def IsBest (side : Side) (prices : List Float) : Option Float → Prop
  | none => prices = []
  | some best => best ∈ prices ∧ ∀ price ∈ prices, side.NoWorse best price

/-- A number that is no worse than some prices is the best of them and itself. -/
theorem isBest_concat {prices : List Float} (hnumber : first.isNaN = false)
    (hall : ∀ price ∈ prices, side.NoWorse first price) :
    side.IsBest (prices ++ [first]) (some first) := by
  refine ⟨List.mem_concat_self, fun price hprice => ?_⟩
  obtain hprice | hprice := List.mem_append.mp hprice
  · exact hall price hprice
  · rw [List.mem_singleton.mp hprice]
    exact .refl side hnumber

/-- The best stays the best when a price joins that is no better. -/
theorem IsBest.concat {prices : List Float} (h : side.IsBest prices (some first))
    (hnoWorse : side.NoWorse first second) : side.IsBest (prices ++ [second]) (some first) := by
  refine ⟨List.mem_append_left _ h.1, fun price hprice => ?_⟩
  obtain hprice | hprice := List.mem_append.mp hprice
  · exact h.2 price hprice
  · rw [List.mem_singleton.mp hprice]
    exact hnoWorse

/-- The best of the same prices is the same, but for the sign of a zero. -/
theorem IsBest.rel {prices prices' : List Float} {best? best'? : Option Float}
    (h : side.IsBest prices best?) (h' : side.IsBest prices' best'?)
    (hmem : ∀ price, price ∈ prices ↔ price ∈ prices') :
    Option.Rel (fun best best' => (best == best') = true) best? best'? := by
  cases best? with
  | none =>
    cases best'? with
    | none => exact .none
    | some best' =>
      rw [show prices = [] from h] at hmem
      cases (hmem best').mpr h'.1
  | some best =>
    cases best'? with
    | none =>
      rw [show prices' = [] from h'] at hmem
      cases (hmem best).mp h.1
    | some best' =>
      exact .some ((h'.2 best ((hmem best).mp h.1)).beq (h.2 best' ((hmem best').mpr h'.1)))

end Side

end SwingTrader
