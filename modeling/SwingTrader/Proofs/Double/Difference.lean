import SwingTrader.Proofs.Double.Rounding

/-!
# SwingTrader — differences of doubles

A double is taken from another by adding its negation. The difference of two doubles
is rounded as well, and yet it is zero only where the two are equal: the exponents of
doubles have a least one, and at that one every mantissa is kept. So the sign of a
difference tells which of the two is the greater.

* `Double.sub_eq` — a difference is a sum;
* `Double.round_canonical` — what is not zero is not rounded to zero;
* `Double.sub_lt_zero`, `Double.zero_lt_sub` — the sign of a difference.
-/

namespace SwingTrader.Double

open Float.Model (Format UnpackedFloat totalExponent)
open Float.Model.UnpackedFloat

/-! ## Subtraction by addition -/

theorem apply_neg (sign : Sign) (n : Int) : (-sign).apply n = -sign.apply n := by
  cases sign
  · exact (Int.neg_neg n).symm
  · rfl

/-- To subtract a number is to add its negation. -/
theorem sub_eq_add_neg (u v : UnpackedFloat) : sub .binary64 u v = add .binary64 u v.neg := by
  cases u with
  | notANumber => cases v <;> rfl
  | infinity sign =>
    cases v with
    | infinity sign' => cases sign <;> cases sign' <;> rfl
    | _ => rfl
  | zero sign =>
    cases v with
    | zero sign' => cases sign <;> cases sign' <;> rfl
    | _ => rfl
  | finite sign m e =>
    cases v with
    | finite sign' m' e' =>
      simp only [UnpackedFloat.sub, UnpackedFloat.add, UnpackedFloat.neg, apply_neg,
        Int.sub_eq_add_neg]
    | _ => rfl

theorem sub_eq (x y : Float) : x - y = x + -y := by
  have hsum : x + -y = .ofModel (.pack (add .binary64 x.toModel.unpack y.toModel.unpack.neg)) := by
    rw [← unpack_neg]
    rfl
  rw [hsum, ← sub_eq_add_neg]
  rfl

/-! ## Rounding what is not zero -/

section Rounding

variable {m m' : Nat} {e e' : Int}

/-- A mantissa at an exponent that doubles have is rounded to a canonical one, and never to zero. -/
theorem round_canonical_of_le (hm : 0 < m) (hleast : -1074 ≤ e) (h : e ≤ target m e) :
    ∃ m' e' hpos, UnpackedFloat.round .binary64 .positive m e = .finite .positive m' e' hpos ∧
      Canonical m' e' := by
  obtain ⟨hlt, hnormal⟩ := quotient_bounds hm h
  -- at the least exponent nothing is cut off
  have hquotient : 0 < m / 2 ^ (target m e - e).toNat := by
    obtain hfull | hexponent := hnormal
    · omega
    · rw [show (target m e - e).toNat = 0 by omega]
      simpa using hm
  obtain ⟨m', e', hpos, hround, hcanonical, -⟩ :=
    round_ge ⟨hlt, hleast.trans h, hnormal⟩ hquotient h (Nat.div_mul_le_self _ _)
  exact ⟨m', e', hpos, hround, hcanonical⟩

/-- A mantissa above zero is rounded to a number that a double keeps as it is. -/
theorem round_canonical (hm : 0 < m) (hleast : -1074 ≤ e) :
    ∃ m' e' hpos, UnpackedFloat.round .binary64 .positive m e = .finite .positive m' e' hpos ∧
      Canonical m' e' := by
  obtain hle | hgt := le_or_gt e (target m e)
  · exact round_canonical_of_le hm hleast hle
  -- a mantissa that is too short is written with more digits, which round to themselves
  rw [round_of_target_lt hm hgt]
  exact round_canonical_of_le (Nat.mul_pos hm (Nat.two_pow_pos _)) (target_least m e)
    (target_scale hm hgt.le).ge

/-- Rounding does not look at the sign. -/
theorem round_negative (m : Nat) (e : Int) :
    UnpackedFloat.round .binary64 .negative m e =
      (UnpackedFloat.round .binary64 .positive m e).neg := by
  unfold UnpackedFloat.round
  dsimp only
  unfold roundWithAccuracy
  dsimp only
  split <;> rfl

/-- Of two canonical numbers the one that is less has less of a mantissa once they are aligned. -/
theorem aligned_lt (h : Canonical m e) (h' : Canonical m' e') (hlt : e < e' ∨ e = e' ∧ m < m') :
    m * 2 ^ (e - min e e').toNat < m' * 2 ^ (e' - min e e').toNat := by
  obtain hexponent | ⟨rfl, hmantissa⟩ := hlt
  · have hnormal : 2 ^ 52 ≤ m' := by
      have hleast := h.least
      exact h'.normal.resolve_right (by omega)
    have htwo : 2 ^ 1 ≤ 2 ^ (e' - min e e').toNat := Nat.pow_le_pow_right (by decide) (by omega)
    have hlt := h.lt
    rw [show (e - min e e').toNat = 0 by omega, Nat.pow_zero, Nat.mul_one]
    calc m < 2 ^ 52 * 2 ^ 1 := hlt
      _ ≤ m' * 2 ^ (e' - min e e').toNat := Nat.mul_le_mul hnormal htwo
  · simpa using hmantissa

end Rounding

/-! ## Differences -/

/-- A number that is not zero, with a sign. -/
inductive Signed (sign : Sign) : UnpackedFloat → Prop where
  | infinity : Signed sign (.infinity sign)
  | finite {m : Nat} {e : Int} (hm : 0 < m) (canonical : Canonical m e) :
      Signed sign (.finite sign m e hm)

section Differences

variable {u v : UnpackedFloat} {m m' : Nat} {e e' : Int} {hm : 0 < m} {hm' : 0 < m'}
    {sign sign' : Sign}

/-- Packing a number that is not zero keeps its sign, and makes no zero of it. -/
theorem Signed.pack (h : Signed sign u) :
    Signed sign (unpack .binary64 (UnpackedFloat.pack .binary64 u)) := by
  cases h with
  | infinity =>
    rw [unpack_infinity]
    exact .infinity
  | finite hm canonical =>
    obtain hkept | hover := unpack_pack canonical hm sign
    · rw [hkept]
      exact .finite hm canonical
    · rw [hover]
      exact .infinity

/--
The mantissas of two finite numbers, with their signs and aligned, are in the order of
the numbers.
-/
theorem aligned_of_compare (h : Canonical m e) (h' : Canonical m' e')
    (hlt : (UnpackedFloat.finite sign m e hm).compare (.finite sign' m' e' hm') = some .lt) :
    sign.apply ((m * 2 ^ (e - min e e').toNat : Nat) : Int) <
      sign'.apply ((m' * 2 ^ (e' - min e e').toNat : Nat) : Int) := by
  have hpos := Nat.mul_pos hm (Nat.two_pow_pos (e - min e e').toNat)
  have hpos' := Nat.mul_pos hm' (Nat.two_pow_pos (e' - min e e').toNat)
  cases sign with
  | negative =>
    cases sign' with
    | negative =>
      -- two negative numbers compare as their magnitudes do the other way round
      have hswap : ((compare e e').then (compare m m')).swap = .lt := Option.some.inj hlt
      rw [Ordering.swap_eq_lt, Ordering.then_eq_gt, compare_gt_iff_gt, compare_gt_iff_gt,
        compare_eq_iff_eq] at hswap
      have haligned := aligned_lt h' h (by omega)
      rw [min_comm] at haligned
      exact Int.neg_lt_neg (Int.ofNat_lt.mpr haligned)
    | positive =>
      exact (Int.neg_neg_of_pos (Int.natCast_pos.mpr hpos)).trans (Int.natCast_pos.mpr hpos')
  | positive =>
    cases sign' with
    | negative => cases hlt
    | positive =>
      have hthen : (compare e e').then (compare m m') = .lt := Option.some.inj hlt
      rw [Ordering.then_eq_lt, compare_lt_iff_lt, compare_lt_iff_lt, compare_eq_iff_eq] at hthen
      exact Int.ofNat_lt.mpr (aligned_lt h h' hthen)

/-- A difference that is not zero is rounded with its sign. -/
theorem normalize_signed {n : Int} (hn : 0 < n) (hleast : -1074 ≤ e) :
    Signed .negative (UnpackedFloat.normalize .binary64 (-n) e .positive) ∧
      Signed .positive (UnpackedFloat.normalize .binary64 n e .positive) := by
  have hneg : compare (-n) 0 = .lt := compare_lt_iff_lt.mpr (by omega)
  have hpos : compare n 0 = .gt := compare_gt_iff_gt.mpr hn
  obtain ⟨m', e', hm', hround, hcanonical⟩ := round_canonical (m := n.toNat) (by omega) hleast
  unfold UnpackedFloat.normalize
  rw [hneg, hpos]
  dsimp only
  rw [Int.neg_neg, round_negative, hround]
  exact ⟨.finite hm' hcanonical, .finite hm' hcanonical⟩

/-- Of two finite numbers one below the other, the difference has the sign that tells so. -/
theorem sub_finite (h : Canonical m e) (h' : Canonical m' e')
    (hlt : (UnpackedFloat.finite sign m e hm).compare (.finite sign' m' e' hm') = some .lt) :
    Signed .negative (sub .binary64 (.finite sign m e hm) (.finite sign' m' e' hm')) ∧
      Signed .positive (sub .binary64 (.finite sign' m' e' hm') (.finite sign m e hm)) := by
  have haligned := aligned_of_compare h h' hlt
  rw [← Nat.shiftLeft_eq, ← Nat.shiftLeft_eq] at haligned
  obtain ⟨hnegative, hpositive⟩ := normalize_signed (Int.sub_pos_of_lt haligned)
    (le_min h.least h'.least)
  rw [Int.neg_sub] at hnegative
  rw [min_comm] at hpositive
  exact ⟨hnegative, hpositive⟩

/-- A number that is finite is kept canonically. -/
def Kept (u : UnpackedFloat) : Prop :=
  ∀ sign m e hm, u = .finite sign m e hm → Canonical m e

/-- Where a number is below another, the difference has the sign that tells so. -/
theorem sub_signed (hu : Kept u) (hv : Kept v) (h : u.compare v = some .lt) :
    Signed .negative (sub .binary64 u v) ∧ Signed .positive (sub .binary64 v u) := by
  match u, v, hu, hv, h with
  | .infinity .negative, .infinity .positive, _, _, _ => exact ⟨.infinity, .infinity⟩
  | .infinity .negative, .zero _, _, _, _ => exact ⟨.infinity, .infinity⟩
  | .infinity .negative, .finite _ _ _ _, _, _, _ => exact ⟨.infinity, .infinity⟩
  | .zero _, .infinity .positive, _, _, _ => exact ⟨.infinity, .infinity⟩
  | .finite _ _ _ _, .infinity .positive, _, _, _ => exact ⟨.infinity, .infinity⟩
  | .zero _, .finite .positive _ _ hm, _, hv, _ =>
    exact ⟨.finite hm (hv _ _ _ _ rfl), .finite hm (hv _ _ _ _ rfl)⟩
  | .finite .negative _ _ hm, .zero _, hu, _, _ =>
    exact ⟨.finite hm (hu _ _ _ _ rfl), .finite hm (hu _ _ _ _ rfl)⟩
  | .finite _ _ _ _, .finite _ _ _ _, hu, hv, h =>
    exact sub_finite (hu _ _ _ _ rfl) (hv _ _ _ _ rfl) h

/-- A negative sign is below zero. -/
theorem Signed.compare_zero (h : Signed .negative u) : u.compare (.zero .positive) = some .lt := by
  cases h <;> rfl

/-- A positive sign is above zero. -/
theorem Signed.zero_compare (h : Signed .positive u) : (zero .positive).compare u = some .lt := by
  cases h <;> rfl

/--
The difference of two doubles is the double that is next to the difference of what
they unpack to.
-/
theorem unpack_sub (x y : Float) : (x - y).toModel.unpack =
    unpack .binary64
      (UnpackedFloat.pack .binary64 (sub .binary64 x.toModel.unpack y.toModel.unpack)) :=
  rfl

theorem kept_unpack (x : Float) : Kept x.toModel.unpack :=
  fun _ _ _ _ h => canonical_of_unpack h

variable {x y : Float}

/-- A number less a greater one is below zero, and is never rounded to it. -/
theorem sub_lt_zero (h : x < y) : x - y < 0.0 := by
  obtain ⟨hnegative, -⟩ := sub_signed (kept_unpack x) (kept_unpack y) (lt_iff_compare.mp h)
  rw [lt_iff_compare, unpack_sub, unpack_zero]
  exact hnegative.pack.compare_zero

/-- A number less a smaller one is above zero, and is never rounded to it. -/
theorem zero_lt_sub (h : x < y) : 0.0 < y - x := by
  obtain ⟨-, hpositive⟩ := sub_signed (kept_unpack x) (kept_unpack y) (lt_iff_compare.mp h)
  rw [lt_iff_compare, unpack_sub, unpack_zero]
  exact hpositive.pack.zero_compare

end Differences

/-! ## What is left -/

section Left

variable {x y z least : Float}

theorem sum_comm (x y : Float) : x + y = y + x := by
  have hsum (x y : Float) :
      x + y = .ofModel (.pack (add .binary64 x.toModel.unpack y.toModel.unpack)) := rfl
  rw [hsum, add_comm, ← hsum]

theorem isNaN_of_le (h : x ≤ y) : y.isNaN = false :=
  (le_iff_rank.mp h).2.1

/-- Nothing is left of a double less itself, unless that is no number at all. -/
theorem not_lt_sub_self (hz : ¬z < 0.0) (x : Float) : ¬z < x - x := by
  rw [lt_iff_compare, unpack_sub, sub_eq_add_neg]
  rw [lt_iff_compare, unpack_zero] at hz
  obtain hnan | hzero := add_neg x.toModel.unpack
  · rw [hnan, show UnpackedFloat.pack .binary64 .notANumber = packedNaN .binary64 from rfl,
      unpack_packedNaN, compare_eq_none (.inr rfl)]
    exact nofun
  · rw [hzero]
    exact hz

/-- What is below zero is below every number that is not negative. -/
theorem lt_of_lt_zero (hx : x < 0.0) (hz : 0.0 ≤ z) : x < z :=
  (lt_or_lt hx (isNaN_of_le hz)).resolve_right fun hnegative => not_le_of_lt hnegative hz

/-- What is left of a balance is not negative, where it is not below a bound that is not. -/
theorem not_add_neg_lt_of_sub (hleast : 0.0 ≤ least) (h : ¬x - z < least) : ¬x + -z < 0.0 := by
  rw [← sub_eq]
  exact fun hnegative => h (lt_of_lt_zero hnegative hleast)

end Left

end SwingTrader.Double
