import SwingTrader.Proofs.Double.Nearest

/-!
# SwingTrader — sums and products in order

A finite double stands for a number, and a sum or a product of finite doubles is the
double nearest to the sum or the product of the numbers. So both keep the order of
what is summed or multiplied, and the infinities, which are at the two ends of the
line, fit in. What is added to a double and is not negative does not bring it down,
whatever it was.

* `Double.value` — the number of a finite double;
* `Double.Rounds` — what comes of rounding a number, and `Double.rounds_add`,
  `Double.rounds_mul` for sums and products;
* `Double.mul_le_mul_of_pos`, `Double.add_le_add_left` — the order they keep;
* `Double.not_add_lt_of_sub` — what is left of a balance shows that it was enough;
* `Double.Fraction` — a fraction, and what is left of one, or one with it on top.
-/

namespace SwingTrader.Double

open Float.Model (Format UnpackedFloat)
open Float.Model.UnpackedFloat

/-! ## Values -/

/-- The number that a finite double stands for. -/
def value : UnpackedFloat → ℚ
  | .finite sign m e _ => sign.apply m * 2 ^ e
  | _ => 0

/-- What comes of rounding a number, up to the sign of a zero. -/
def Rounds (u : UnpackedFloat) (q : ℚ) : Prop :=
  u.isNaN = false ∧ ∃ (n e : Int), (n : ℚ) * 2 ^ e = q ∧ rank u = rank (nearest n e)

section Values

variable {u v : UnpackedFloat} {q r : ℚ} {m m' : Nat} {e e' : Int}

theorem Rounds.rank_le (hu : Rounds u q) (hv : Rounds v r) (h : q ≤ r) : rank u ≤ rank v := by
  obtain ⟨-, n, e, rfl, hrank⟩ := hu
  obtain ⟨-, n', e', rfl, hrank'⟩ := hv
  rw [hrank, hrank']
  exact rank_nearest_le h

/-- A finite double is rounded to itself. -/
theorem keep_finite {sign : Sign} (h : Canonical m e) (hm : 0 < m) :
    keep (.finite sign m e hm) = nearest (sign.apply m) e := by
  rw [nearest, normalize_apply hm]
  cases sign with
  | positive => rw [round_self h hm]
  | negative =>
    rw [round_negative, round_self h hm]
    rfl

theorem rounds_zero (sign : Sign) : Rounds (keep (.zero sign)) 0 :=
  ⟨by cases sign <;> rfl, 0, 0, by rw [Int.cast_zero, zero_mul], by cases sign <;> rfl⟩

theorem rounds_keep (hu : Kept u) (hfinite : u.isFinite) : Rounds (keep u) (value u) := by
  cases u with
  | notANumber | infinity => cases hfinite
  | zero sign => exact rounds_zero sign
  | finite sign m e hm =>
    have h : keep (.finite sign m e hm) = nearest (sign.apply m) e :=
      keep_finite (hu _ _ _ _ rfl) hm
    exact ⟨h ▸ isNaN_nearest _ _, _, _, rfl, by rw [h]⟩

/-- A mantissa that is shifted to a lower exponent stands for the same value. -/
theorem apply_shift (sign : Sign) (m : Nat) {e f : Int} (h : f ≤ e) :
    ((sign.apply (m <<< (e - f).toNat : Nat) : Int) : ℚ) * 2 ^ f = sign.apply m * 2 ^ e := by
  rw [Nat.shiftLeft_eq]
  cases sign with
  | positive => exact value_scale h
  | negative =>
    show ((-(_ : Int) : Int) : ℚ) * _ = ((-(_ : Int) : Int) : ℚ) * _
    rw [Int.cast_neg, Int.cast_neg, neg_mul, neg_mul]
    exact congrArg Neg.neg (value_scale h)

/-- The sum of two finite doubles is their exact sum, rounded. -/
theorem rounds_sum (hu : Kept u) (hv : Kept v) (hfinite : u.isFinite) (hfinite' : v.isFinite) :
    Rounds (sum u v) (value u + value v) := by
  cases u with
  | notANumber | infinity => cases hfinite
  | zero sign =>
    cases v with
    | notANumber | infinity => cases hfinite'
    | zero sign' =>
      rw [show value (.zero sign) = 0 from rfl, zero_add]
      cases sign <;> cases sign' <;> exact rounds_zero _
    | finite sign' m' e' hm' =>
      rw [show value (.zero sign) = 0 from rfl, zero_add]
      exact rounds_keep hv rfl
  | finite sign m e hm =>
    cases v with
    | notANumber | infinity => cases hfinite'
    | zero sign' =>
      rw [show value (.zero sign') = 0 from rfl, add_zero]
      exact rounds_keep hu rfl
    | finite sign' m' e' hm' =>
      -- only here is anything rounded: the integers are added at the lesser exponent
      refine ⟨isNaN_nearest _ _, _, _, ?_, rfl⟩
      rw [Int.cast_add, add_mul, apply_shift _ _ (min_le_left _ _),
        apply_shift _ _ (min_le_right _ _)]
      rfl

/--
The product of two canonical mantissas is long enough for its exponent: no digits need be
added to round it.
-/
theorem le_target_mul (h : Canonical m e) (h' : Canonical m' e') (hm : 0 < m) (hm' : 0 < m') :
    e + e' ≤ target (m * m') (e + e') := by
  have hlog : ∀ n, 2 ^ 52 ≤ n → n ≤ m * m' → 52 ≤ (m * m').log2 := fun n hn hle =>
    (Nat.le_log2 (Nat.mul_pos hm hm').ne').mpr (hn.trans hle)
  have hleast := h.least
  have hleast' := h'.least
  rw [target_eq]
  obtain hnormal | hsubnormal := h.normal
  · have := hlog m hnormal (Nat.le_mul_of_pos_right m hm')
    omega
  obtain hnormal' | hsubnormal' := h'.normal
  · have := hlog m' hnormal' (Nat.le_mul_of_pos_left m' hm)
    omega
  · omega

/-- Signs multiply apart from the mantissas. -/
theorem apply_mul (sign sign' : Sign) (m m' : Nat) :
    (sign * sign').apply ((m * m' : Nat) : Int) = sign.apply m * sign'.apply m' := by
  rw [Nat.cast_mul]
  cases sign <;> cases sign'
  · exact (neg_mul_neg _ _).symm
  · exact (neg_mul _ _).symm
  · exact (mul_neg _ _).symm
  · rfl

/-- The product of two finite doubles is their exact product, rounded. -/
theorem rounds_product (hu : Kept u) (hv : Kept v) (hfinite : u.isFinite) (hfinite' : v.isFinite) :
    Rounds (keep (mul .binary64 u v)) (value u * value v) := by
  cases u with
  | notANumber | infinity => cases hfinite
  | zero sign =>
    cases v with
    | notANumber | infinity => cases hfinite'
    | zero sign' | finite sign' =>
      rw [show value (.zero sign) = 0 from rfl, zero_mul]
      exact rounds_zero _
  | finite sign m e hm =>
    cases v with
    | notANumber | infinity => cases hfinite'
    | zero sign' =>
      rw [show value (.zero sign') = 0 from rfl, mul_zero]
      exact rounds_zero _
    | finite sign' m' e' hm' =>
      -- the exponent of the exact product is low enough for it to be rounded at once
      have hround : mul .binary64 (.finite sign m e hm) (.finite sign' m' e' hm') =
          UnpackedFloat.round .binary64 (sign * sign') (m * m') (e + e') :=
        (round_of_le_target (le_target_mul (hu _ _ _ _ rfl) (hv _ _ _ _ rfl) hm hm')).symm
      rw [hround, ← normalize_apply (Nat.mul_pos hm hm')]
      refine ⟨isNaN_nearest _ _, _, _, ?_, rfl⟩
      rw [apply_mul, Int.cast_mul, zpow_add₀ two_ne_zero]
      exact mul_mul_mul_comm _ _ _ _

/-- Numbers of one rank have one value. -/
theorem value_congr (h : rank u = rank v) : value u = value v := by
  cases u with
  | notANumber | zero =>
    cases v with
    | notANumber | zero | infinity => rfl
    | finite sign' => cases sign' <;> simp [rank] at h
  | infinity sign =>
    cases v with
    | notANumber | zero | infinity => rfl
    | finite sign' => cases sign <;> cases sign' <;> simp [rank] at h
  | finite sign m e hm =>
    cases v with
    | notANumber | zero => cases sign <;> simp [rank] at h
    | infinity sign' => cases sign <;> cases sign' <;> simp [rank] at h
    | finite sign' m' e' hm' =>
      cases sign <;> cases sign' <;> simp [rank] at h
      · rw [value, value, h.1, h.2]
      · rw [value, value, h.1, h.2]

end Values

/-! ## The line of doubles -/

section Line

variable {x y : Float}

/-- A finite double is its own value, rounded. -/
theorem rounds_unpack (h : x.isFinite) : Rounds x.toModel.unpack (value x.toModel.unpack) := by
  have hkeep := rounds_keep (kept_unpack x) h
  rwa [keep, show unpack .binary64 (pack .binary64 x.toModel.unpack) = x.toModel.unpack from
    unpack_pack_unpack _] at hkeep

/-- Doubles that are in order stand for values in order. -/
theorem value_le (hx : x.isFinite) (hy : y.isFinite) (h : x ≤ y) :
    value x.toModel.unpack ≤ value y.toModel.unpack := by
  obtain ⟨-, -, hrank⟩ := le_iff_rank.mp h
  by_contra hlt
  rw [not_le] at hlt
  have hback := (rounds_unpack hy).rank_le (rounds_unpack hx) hlt.le
  exact hlt.ne' (value_congr (hrank.antisymm hback))

/-- Doubles that come of rounding numbers in order are in order. -/
theorem le_of_rounds {q r : ℚ} (hx : Rounds x.toModel.unpack q) (hy : Rounds y.toModel.unpack r)
    (h : q ≤ r) : x ≤ y :=
  le_iff_rank.mpr ⟨hx.1, hy.1, hx.rank_le hy h⟩

/-- Nothing has a place above infinity. -/
theorem eq_infinity_of_rank_ge {u : UnpackedFloat} (h : rank (.infinity .positive) ≤ rank u) :
    u = .infinity .positive := by
  cases u with
  | notANumber | zero => simp [rank, Prod.Lex.toLex_le_toLex] at h
  | infinity sign | finite sign =>
    cases sign <;> simp [rank, Prod.Lex.toLex_le_toLex] at h ⊢

/-- Nothing has a place below minus infinity. -/
theorem eq_infinity_of_rank_le {u : UnpackedFloat} (h : rank u ≤ rank (.infinity .negative)) :
    u = .infinity .negative := by
  cases u with
  | notANumber | zero => simp [rank, Prod.Lex.toLex_le_toLex] at h
  | infinity sign | finite sign =>
    cases sign <;> simp [rank, Prod.Lex.toLex_le_toLex] at h ⊢

/-- A number is finite or one of the two infinities. -/
theorem isFinite_or_infinity (hx : x.isNaN = false) :
    x.isFinite = true ∨ ∃ sign, x.toModel.unpack = .infinity sign := by
  have hfinite : x.isFinite = x.toModel.unpack.isFinite := rfl
  have hnan : x.isNaN = x.toModel.unpack.isNaN := rfl
  rw [hfinite]
  rw [hnan] at hx
  cases h : x.toModel.unpack with
  | notANumber =>
    rw [h] at hx
    cases hx
  | zero | finite => exact .inl rfl
  | infinity sign => exact .inr ⟨sign, rfl⟩

/--
Of two numbers in order, the lesser is lowest of all, the greater highest of all, or
both are finite.
-/
theorem cases_of_le (h : x ≤ y) :
    x.toModel.unpack = .infinity .negative ∨ y.toModel.unpack = .infinity .positive ∨
      x.isFinite = true ∧ y.isFinite = true := by
  obtain ⟨hx, hy, hrank⟩ := le_iff_rank.mp h
  obtain hx | ⟨_ | _, hx⟩ := isFinite_or_infinity hx
  · obtain hy | ⟨_ | _, hy⟩ := isFinite_or_infinity hy
    · exact .inr (.inr ⟨hx, hy⟩)
    · exact .inl (eq_infinity_of_rank_le (hy ▸ hrank))
    · exact .inr (.inl hy)
  · exact .inl hx
  · exact .inr (.inl (eq_infinity_of_rank_ge (hx ▸ hrank)))

/-- Every number is at most infinity. -/
theorem le_of_infinity_right (hx : x.isNaN = false) (hy : y.toModel.unpack = .infinity .positive) :
    x ≤ y := by
  refine le_iff_rank.mpr ⟨hx, ?_, hy ▸ rank_le_infinity _⟩
  show y.toModel.unpack.isNaN = false
  rw [hy]
  rfl

/-- Every number is at least minus infinity. -/
theorem le_of_infinity_left (hx : x.toModel.unpack = .infinity .negative) (hy : y.isNaN = false) :
    x ≤ y := by
  refine le_iff_rank.mpr ⟨?_, hy, ?_⟩
  · show x.toModel.unpack.isNaN = false
    rw [hx]
    rfl
  · rw [hx]
    exact rank_neg_le.mp (rank_le_infinity _)

end Line

/-! ## Products -/

section Products

variable {x y c : Float}

/-- A double that is multiplied by a finite one above zero is not turned round, nor made finite. -/
theorem unpack_mul_infinity {sign : Sign} (hx : x.toModel.unpack = .infinity sign) (hpos : 0.0 < c)
    (hc : c.isFinite) : (x * c).toModel.unpack = .infinity sign := by
  show keep (mul .binary64 x.toModel.unpack c.toModel.unpack) = _
  obtain hinfinity | ⟨m, e, hm, hfinite, -⟩ := positive_of_lt hpos
  · have hc : c.toModel.unpack.isFinite = true := hc
    rw [hinfinity] at hc
    cases hc
  · rw [hx, hfinite]
    cases sign <;> exact unpack_infinity _

/-- The product of two finite doubles is the product of their values, rounded. -/
theorem rounds_mul (hx : x.isFinite) (hc : c.isFinite) :
    Rounds (x * c).toModel.unpack (value x.toModel.unpack * value c.toModel.unpack) :=
  rounds_product (kept_unpack x) (kept_unpack c) hx hc

/-- A number times a finite number above zero is a number. -/
theorem isNaN_mul (hx : x.isNaN = false) (hpos : 0.0 < c) (hc : c.isFinite) :
    (x * c).isNaN = false := by
  obtain hx | ⟨sign, hx⟩ := isFinite_or_infinity hx
  · exact (rounds_mul hx hc).1
  · show (x * c).toModel.unpack.isNaN = false
    rw [unpack_mul_infinity hx hpos hc]
    rfl

/-- **Multiplication by a fixed positive factor keeps the order** of doubles. -/
theorem mul_le_mul_of_pos (h : x ≤ y) (hpos : 0.0 < c) (hc : c.isFinite) : x * c ≤ y * c := by
  obtain ⟨hx, hy, -⟩ := le_iff_rank.mp h
  obtain hlowest | hhighest | ⟨hx, hy⟩ := cases_of_le h
  · exact le_of_infinity_left (unpack_mul_infinity hlowest hpos hc) (isNaN_mul hy hpos hc)
  · exact le_of_infinity_right (isNaN_mul hx hpos hc) (unpack_mul_infinity hhighest hpos hc)
  · have hnonneg : value (0.0 : Float).toModel.unpack ≤ value c.toModel.unpack :=
      value_le (by decide +kernel) hc (le_of_lt hpos)
    rw [unpack_zero] at hnonneg
    refine le_of_rounds (rounds_mul hx hc) (rounds_mul hy hc) ?_
    exact mul_le_mul_of_nonneg_right (value_le hx hy h) hnonneg

end Products

/-! ## Sums -/

section Sums

variable {x y z c least : Float}

/-- The sum of two finite doubles is the sum of their values, rounded. -/
theorem rounds_add (hx : x.isFinite) (hy : y.isFinite) :
    Rounds (x + y).toModel.unpack (value x.toModel.unpack + value y.toModel.unpack) :=
  rounds_sum (kept_unpack x) (kept_unpack y) hx hy

theorem isNaN_of_add (h : (x + y).isNaN = false) : x.isNaN = false ∧ y.isNaN = false := by
  constructor
  · rw [sum_comm] at h
    exact Bool.eq_false_iff.mpr fun hnan => Bool.false_ne_true (h.symm.trans (isNaN_add y hnan))
  · exact Bool.eq_false_iff.mpr fun hnan => Bool.false_ne_true (h.symm.trans (isNaN_add x hnan))

/-- A sum with an infinity is that infinity, if it is a number at all. -/
theorem unpack_add_infinity {sign : Sign} (hy : y.toModel.unpack = .infinity sign)
    (h : (x + y).isNaN = false) : (x + y).toModel.unpack = .infinity sign := by
  have hsum : (x + y).isNaN = (sum x.toModel.unpack y.toModel.unpack).isNaN := rfl
  rw [hsum, hy] at h
  rw [unpack_sum, hy]
  generalize x.toModel.unpack = u at h ⊢
  cases u with
  | notANumber =>
    rw [show sum .notANumber (.infinity sign) = .notANumber from unpack_packedNaN] at h
    cases h
  | zero | finite => exact unpack_infinity sign
  | infinity sign' =>
    cases sign <;> cases sign'
    · exact unpack_infinity _
    · cases h
    · cases h
    · exact unpack_infinity _

/-- **Addition of a fixed term keeps the order** of doubles, where the sums are numbers at all. -/
theorem add_le_add_left (h : x ≤ y) (hx : (c + x).isNaN = false) (hy : (c + y).isNaN = false) :
    c + x ≤ c + y := by
  obtain ⟨hc, -⟩ := isNaN_of_add hx
  obtain hlowest | hhighest | ⟨hfinite, hfinite'⟩ := cases_of_le h
  · exact le_of_infinity_left (unpack_add_infinity hlowest hx) hy
  · exact le_of_infinity_right hx (unpack_add_infinity hhighest hy)
  · obtain hc | ⟨sign, hc⟩ := isFinite_or_infinity hc
    · refine le_of_rounds (rounds_add hc hfinite) (rounds_add hc hfinite') ?_
      exact add_le_add_right (value_le hfinite hfinite' h) _
    · -- an infinity swallows them both
      rw [sum_comm c x, sum_comm c y] at *
      refine le_iff_rank.mpr ⟨hx, hy, ?_⟩
      rw [unpack_add_infinity hc hx, unpack_add_infinity hc hy]

/-- What is added to a number does not bring it below what it was. -/
theorem le_add_of_nonneg (hy : 0.0 ≤ y) (hsum : (x + y).isNaN = false) : x ≤ x + y := by
  obtain ⟨hx, -⟩ := isNaN_of_add hsum
  obtain hlowest | hhighest | ⟨hzero, hfinite⟩ := cases_of_le hy
  · cases hlowest
  · exact le_of_infinity_right hx (unpack_add_infinity hhighest hsum)
  obtain hx | ⟨sign, hinfinity⟩ := isFinite_or_infinity hx
  · exact le_of_rounds (rounds_unpack hx) (rounds_add hx hfinite)
      (le_add_of_nonneg_right (value_le hzero hfinite hy))
  · refine le_iff_rank.mpr ⟨hx, hsum, ?_⟩
    rw [sum_comm] at hsum ⊢
    rw [hinfinity, unpack_add_infinity hinfinity hsum]

theorem not_add_lt_left (hy : ¬y < 0.0) : ¬x + y < x := by
  intro hlt
  have hsum := (lt_iff_rank.mp hlt).1
  exact not_le_of_lt hlt (le_add_of_nonneg (le_of_not_lt rfl (isNaN_of_add hsum).2 hy) hsum)

/-- What is left of a balance shows that it was enough, also with something added to it. -/
theorem not_add_lt_of_sub (hy : ¬y < 0.0) (hleast : 0.0 ≤ least) (h : ¬x - z < least) :
    ¬x + y < z := by
  intro hlt
  obtain ⟨hx, -⟩ := isNaN_of_add (lt_iff_rank.mp hlt).1
  obtain hbelow | hmore := lt_or_lt hlt hx
  · exact not_add_lt_left hy hbelow
  · exact h (lt_of_lt_zero (sub_lt_zero hmore) hleast)

end Sums

/-! ## Fractions -/

section Fractions

variable {x y : Float}

theorem isFinite_of_between (hpos : 0.0 < x) (h : x ≤ y) (hy : y.isFinite) : x.isFinite := by
  obtain hlowest | hhighest | ⟨hx, -⟩ := cases_of_le h
  · obtain hinfinity | ⟨m, e, hm, hfinite, -⟩ := positive_of_lt hpos
    · cases hinfinity.symm.trans hlowest
    · cases hfinite.symm.trans hlowest
  · have hy : y.toModel.unpack.isFinite = true := hy
    rw [hhighest] at hy
    cases hy
  · exact hx

/-- A double from zero to one, without one itself. -/
structure Fraction (x : Float) : Prop where
  nonneg : 0.0 ≤ x
  lt_one : x < 1.0

/-- What a fraction leaves of one is above zero. -/
theorem Fraction.one_sub (h : Fraction x) : 0.0 < 1.0 - x ∧ (1.0 - x).isFinite = true := by
  have hpos := zero_lt_sub h.lt_one
  obtain ⟨-, hnan, -⟩ := lt_iff_rank.mp hpos
  have hneg : -x ≤ 0.0 := by
    obtain ⟨-, hx, hrank⟩ := le_iff_rank.mp h.nonneg
    refine le_iff_rank.mpr ⟨(isNaN_neg x).trans hx, rfl, ?_⟩
    rw [unpack_toModel_neg, rank_neg]
    exact neg_nonpos.mpr hrank
  rw [sub_eq] at hpos hnan ⊢
  exact ⟨hpos, isFinite_of_between hpos (add_le_add_left hneg hnan rfl) rfl⟩

theorem Fraction.one_add (h : Fraction x) : 0.0 < 1.0 + x ∧ (1.0 + x).isFinite = true := by
  have hfinite : x.isFinite := by
    obtain hlowest | hhighest | ⟨hx, -⟩ := cases_of_le (le_of_lt h.lt_one)
    · obtain hzero | hhighest | ⟨-, hx⟩ := cases_of_le h.nonneg
      · cases hzero
      · cases hlowest.symm.trans hhighest
      · exact hx
    · cases hhighest
    · exact hx
  have hnan := (rounds_add (x := 1.0) rfl hfinite).1
  have hpos : 0.0 < 1.0 + x :=
    lt_of_lt_of_le (show (0.0 : Float) < 1.0 by decide) (le_add_of_nonneg h.nonneg hnan)
  exact ⟨hpos, isFinite_of_between hpos (add_le_add_left (le_of_lt h.lt_one) hnan rfl) rfl⟩

end Fractions

end SwingTrader.Double
