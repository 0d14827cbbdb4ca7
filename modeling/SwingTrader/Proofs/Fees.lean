import Mathlib
import SwingTrader.Fees

/-!
# SwingTrader — closing at break-even

Read in exact rationals, a round trip comes to its quantity times its distance from
one exit price, weighed by what the closing fee leaves. That price is the break-even
of every long. The break-even of a short takes the fees the other way round: it is
that price only where both fees are one, and where they differ a short closed at its
break-even is left with a gain or a loss in proportion to the difference of their
squares.

* `Fees.evenExit` — the exit price that pays both fees back and nothing else;
* `realizedGain_long_eq`, `realizedGain_short_eq` — the gain as a distance from it;
* `Fees.NetsZero` — neither gain nor loss at a price, and which of the two off it;
* `netsZero_of_breakEven` — where break-even is such a price, and what a short is left
  with where it is not.
-/

namespace SwingTrader

/-- Fees that take a part of what is traded, and never all of it. -/
structure Fees.Proper (fees : Fees Rat) : Prop where
  buy_nonneg : 0 ≤ fees.buy
  buy_lt_one : fees.buy < 1
  sell_nonneg : 0 ≤ fees.sell
  sell_lt_one : fees.sell < 1

/-- A price is strictly better than another to close a position at. -/
def Side.Improves (side : Side) (candidate current : Rat) : Prop :=
  match side with
  | .long => current < candidate
  | .short => candidate < current

/--
The break-even of a position that pays these fees, the one on opening it and the one on
closing it.
-/
def Fees.breakEven (fees : Fees Rat) (side : Side) (entry : Rat) : Rat :=
  breakEvenPrice entry side (fees.enter side) (fees.exit side)

/-- The exit price at which what comes in for the sale is what goes out for the purchase. -/
def Fees.evenExit (fees : Fees Rat) (side : Side) (entry : Rat) : Rat :=
  match side with
  | .long => entry * (1 + fees.buy) / (1 - fees.sell)
  | .short => entry * (1 - fees.sell) / (1 + fees.buy)

/-! ## The gain as a distance -/

section Distance

variable {fees : Fees Rat} (quantity entry exit : Rat)

/-- A long gains by how far it closes above its even exit. -/
theorem realizedGain_long_eq (hfees : fees.Proper) :
    realizedGain .long quantity entry exit fees =
      quantity * ((1 - fees.sell) * (exit - fees.evenExit .long entry)) := by
  have hsell : 1 - fees.sell ≠ 0 := (sub_pos.mpr hfees.sell_lt_one).ne'
  show quantity * exit * (1 - fees.sell) - quantity * entry * (1 + fees.buy) =
    quantity * ((1 - fees.sell) * (exit - entry * (1 + fees.buy) / (1 - fees.sell)))
  field_simp

/-- A short gains by how far it closes below its even exit. -/
theorem realizedGain_short_eq (hfees : fees.Proper) :
    realizedGain .short quantity entry exit fees =
      quantity * ((1 + fees.buy) * (fees.evenExit .short entry - exit)) := by
  have hbuy : 1 + fees.buy ≠ 0 := (add_pos_of_pos_of_nonneg one_pos hfees.buy_nonneg).ne'
  show quantity * entry * (1 - fees.sell) - quantity * exit * (1 + fees.buy) =
    quantity * ((1 + fees.buy) * (entry * (1 - fees.sell) / (1 + fees.buy) - exit))
  field_simp

end Distance

/-! ## Neither gain nor loss -/

/--
A position entered at one price and closed at another neither gains nor loses,
whatever its quantity; closed at a better price it gains and at a worse one it loses,
where there was anything to close at all.
-/
structure Fees.NetsZero (fees : Fees Rat) (side : Side) (entry price : Rat) : Prop where
  zero : ∀ quantity, realizedGain side quantity entry price fees = 0
  gains : ∀ quantity exit, side.Improves exit price →
    (0 < realizedGain side quantity entry exit fees ↔ 0 < quantity)
  loses : ∀ quantity exit, side.Improves price exit →
    (realizedGain side quantity entry exit fees < 0 ↔ 0 < quantity)

variable {fees : Fees Rat}

theorem Fees.Proper.netsZero_evenExit (hfees : fees.Proper) (side : Side) (entry : Rat) :
    fees.NetsZero side entry (fees.evenExit side entry) := by
  have hsell : 0 < 1 - fees.sell := sub_pos.mpr hfees.sell_lt_one
  have hbuy : 0 < 1 + fees.buy := add_pos_of_pos_of_nonneg one_pos hfees.buy_nonneg
  cases side with
  | long =>
    refine ⟨fun quantity => ?_, fun quantity exit hbetter => ?_, fun quantity exit hworse => ?_⟩
    · rw [realizedGain_long_eq _ _ _ hfees, sub_self, mul_zero, mul_zero]
    · rw [realizedGain_long_eq _ _ _ hfees]
      exact mul_pos_iff_of_pos_right (mul_pos hsell (sub_pos.mpr hbetter))
    · rw [realizedGain_long_eq _ _ _ hfees, ← neg_pos, ← mul_neg, ← mul_neg, neg_sub]
      exact mul_pos_iff_of_pos_right (mul_pos hsell (sub_pos.mpr hworse))
  | short =>
    refine ⟨fun quantity => ?_, fun quantity exit hbetter => ?_, fun quantity exit hworse => ?_⟩
    · rw [realizedGain_short_eq _ _ _ hfees, sub_self, mul_zero, mul_zero]
    · rw [realizedGain_short_eq _ _ _ hfees]
      exact mul_pos_iff_of_pos_right (mul_pos hbuy (sub_pos.mpr hbetter))
    · rw [realizedGain_short_eq _ _ _ hfees, ← neg_pos, ← mul_neg, ← mul_neg, neg_sub]
      exact mul_pos_iff_of_pos_right (mul_pos hbuy (sub_pos.mpr hworse))

/-! ## Break-even -/

theorem Fees.breakEven_long (fees : Fees Rat) (entry : Rat) :
    fees.breakEven .long entry = fees.evenExit .long entry := rfl

/-- What the break-even of a short is off by: both fees are taken, each on the wrong side. -/
theorem Fees.Proper.evenExit_sub_breakEven (hfees : fees.Proper) (entry : Rat) :
    (1 + fees.buy) * (fees.evenExit .short entry - fees.breakEven .short entry) =
      entry * (fees.buy ^ 2 - fees.sell ^ 2) / (1 + fees.sell) := by
  have hbuy : 1 + fees.buy ≠ 0 := (add_pos_of_pos_of_nonneg one_pos hfees.buy_nonneg).ne'
  have hsell : 1 + fees.sell ≠ 0 := (add_pos_of_pos_of_nonneg one_pos hfees.sell_nonneg).ne'
  show (1 + fees.buy) *
      (entry * (1 - fees.sell) / (1 + fees.buy) - entry / (1 + fees.sell) * (1 - fees.buy)) =
    entry * (fees.buy ^ 2 - fees.sell ^ 2) / (1 + fees.sell)
  field_simp
  ring

/-- The break-even of a short is its even exit where both fees are the same. -/
theorem Fees.Proper.breakEven_short (hfees : fees.Proper) (hequal : fees.buy = fees.sell)
    (entry : Rat) : fees.breakEven .short entry = fees.evenExit .short entry := by
  have hoff := hfees.evenExit_sub_breakEven entry
  rw [hequal, sub_self, mul_zero, zero_div, mul_eq_zero, sub_eq_zero] at hoff
  have hsell : 1 + fees.sell ≠ 0 := (add_pos_of_pos_of_nonneg one_pos hfees.sell_nonneg).ne'
  exact (hoff.resolve_left hsell).symm

/--
**Closing at break-even nets zero**, for a long at any fees and for a short where both
fees are one. Where they differ, a short closed at its break-even realizes its
quantity, times its entry price, times the difference of the squares of the fees, over
what its opening fee makes of one.
-/
theorem netsZero_of_breakEven (hfees : fees.Proper) (entry : Rat) :
    (∀ side, side = .long ∨ fees.buy = fees.sell →
      fees.NetsZero side entry (fees.breakEven side entry)) ∧
    ∀ quantity, realizedGain .short quantity entry (fees.breakEven .short entry) fees =
      quantity * (entry * (fees.buy ^ 2 - fees.sell ^ 2) / (1 + fees.sell)) := by
  refine ⟨fun side hside => ?_, fun quantity => ?_⟩
  · have heven : fees.breakEven side entry = fees.evenExit side entry := by
      cases side with
      | long => exact fees.breakEven_long entry
      | short => exact hfees.breakEven_short (hside.resolve_left (by decide)) entry
    rw [heven]
    exact hfees.netsZero_evenExit side entry
  · rw [realizedGain_short_eq _ _ _ hfees, hfees.evenExit_sub_breakEven]

/-- A fifth of what is sold, and nothing of what is bought. -/
def costlySale : Fees Rat where
  buy := 0
  sell := 1 / 5

/-- A quarter of what is bought, and nothing of what is sold. -/
def costlyPurchase : Fees Rat where
  buy := 1 / 4
  sell := 0

/--
Entered at 100, a long breaks even at 125 when the sale is costly, and a short loses at
its break-even.
-/
theorem netsZero_of_costlySale :
    costlySale.Proper ∧ costlySale.breakEven .long 100 = 125 ∧
      realizedGain .long 3 100 125 costlySale = 0 ∧
      realizedGain .short 3 100 (costlySale.breakEven .short 100) costlySale = -10 := by
  have hfees : costlySale.Proper := by constructor <;> decide +kernel
  have hprice : costlySale.breakEven .long 100 = 125 := by decide +kernel
  obtain ⟨hnets, hshort⟩ := netsZero_of_breakEven hfees 100
  refine ⟨hfees, hprice, hprice ▸ (hnets .long (.inl rfl)).zero 3, ?_⟩
  rw [hshort]
  norm_num [costlySale]

/--
Entered at 100, a short breaks even at 75 when the purchase is costly, and closed there
it gains: it would take an exit at 80 to net zero.
-/
theorem gains_of_costlyPurchase :
    costlyPurchase.Proper ∧ costlyPurchase.breakEven .short 100 = 75 ∧
      realizedGain .short 1 100 75 costlyPurchase = 25 / 4 ∧
      realizedGain .short 1 100 80 costlyPurchase = 0 := by
  refine ⟨by constructor <;> decide +kernel, ?_, ?_, ?_⟩ <;> decide +kernel

end SwingTrader
