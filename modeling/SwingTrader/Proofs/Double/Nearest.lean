import SwingTrader.Proofs.Double.Difference

/-!
# SwingTrader — the double nearest to a number

A number that is no double is rounded: it is cut off at the exponent that doubles of
its size have, and the bits that are cut off decide whether it goes up. Of two numbers
the greater is never rounded below the lesser, whatever they were written with. At one
exponent this can be seen from their mantissas, counted in quarters; the number that is
cut off at the greater exponent fills its mantissa, and any that is cut off at a lesser
one does not get past it.

* `Double.quarters` — how far a number is from one mantissa to the next;
* `Double.round_eq_settle` — a number may be written at any exponent that is low enough;
* `Double.rank_round_le` — rounding keeps the order of numbers above zero;
* `Double.nearest` — the double nearest to a number with a sign, and
  `Double.rank_nearest_le` the order of these.
-/

namespace SwingTrader.Double

open Float.Model (Format UnpackedFloat)
open Float.Model.UnpackedFloat

/-! ## Residual bits -/

/-- Where a number lies from one mantissa to the next, counted in quarters of the way. -/
def quarters (em : ExtendedMantissa) : Nat :=
  4 * em.mantissa + 2 * em.roundBit.toNat + em.stickyBit.toNat

section Residual

variable {em em' : ExtendedMantissa}

/--
One place to the right, what is below the mantissa counts as one quarter if there is
anything of it.
-/
theorem quarters_shiftRightOne (em : ExtendedMantissa) :
    quarters em.shiftRightOne = 2 * em.mantissa + (em.roundBit || em.stickyBit).toNat := by
  have hbit : (em.mantissa % 2 != 0).toNat = em.mantissa % 2 := by
    obtain h | h := Nat.mod_two_eq_zero_or_one em.mantissa <;> rw [h] <;> rfl
  show 4 * (em.mantissa / 2) + 2 * (em.mantissa % 2 != 0).toNat +
    (em.roundBit || em.stickyBit).toNat = _
  omega

/-- One place to the right keeps the order. -/
theorem quarters_shiftRightOne_le (h : quarters em ≤ quarters em') :
    quarters em.shiftRightOne ≤ quarters em'.shiftRightOne := by
  obtain ⟨m, roundBit, stickyBit⟩ := em
  obtain ⟨m', roundBit', stickyBit'⟩ := em'
  rw [quarters_shiftRightOne, quarters_shiftRightOne]
  cases roundBit <;> cases stickyBit <;> cases roundBit' <;> cases stickyBit' <;>
    simp only [quarters, Bool.toNat_true, Bool.toNat_false, Bool.or_true, Bool.or_false] at h ⊢ <;>
    omega

/-- Any number of places to the right keeps the order. -/
theorem quarters_shiftRight_le (h : quarters em ≤ quarters em') (n : Nat) :
    quarters (em >>> n) ≤ quarters (em' >>> n) := by
  show quarters (n.repeat ExtendedMantissa.shiftRightOne em) ≤
    quarters (n.repeat ExtendedMantissa.shiftRightOne em')
  induction n with
  | zero => exact h
  | succ n ih => exact quarters_shiftRightOne_le ih

/-- Of two numbers the greater one is not rounded to the lesser mantissa. -/
theorem roundedMantissa_le (h : quarters em ≤ quarters em') :
    em.roundedMantissa ≤ em'.roundedMantissa := by
  obtain ⟨m, roundBit, stickyBit⟩ := em
  obtain ⟨m', roundBit', stickyBit'⟩ := em'
  cases roundBit <;> cases stickyBit <;> cases roundBit' <;> cases stickyBit' <;>
    simp only [quarters, ExtendedMantissa.roundedMantissa, ExtendedMantissa.accuracy,
      Accuracy.roundToNearestEven, Bool.toNat_true, Bool.toNat_false] at h ⊢ <;>
    omega

end Residual

/-! ## Rounding -/

section Rounding

variable {m m' : Nat} {e e' f : Int}

/-- A mantissa whose last bits are zero loses nothing when they are cut off. -/
theorem shiftRight_exact (m n : Nat) :
    ((⟨m * 2 ^ n, false, false⟩ : ExtendedMantissa) >>> n) = ⟨m, false, false⟩ := by
  show n.repeat ExtendedMantissa.shiftRightOne ⟨m * 2 ^ n, false, false⟩ = _
  induction n generalizing m with
  | zero => simp [Nat.repeat]
  | succ n ih =>
    have hstep := ih (m * 2)
    rw [Nat.mul_assoc, ← Nat.pow_succ'] at hstep
    rw [Nat.repeat, hstep]
    simp [ExtendedMantissa.shiftRightOne]

theorem shiftRight_add (em : ExtendedMantissa) (n k : Nat) : em >>> (n + k) = em >>> n >>> k := by
  show (n + k).repeat ExtendedMantissa.shiftRightOne em =
    k.repeat ExtendedMantissa.shiftRightOne (n.repeat ExtendedMantissa.shiftRightOne em)
  induction k with
  | zero => rfl
  | succ k ih => exact congrArg ExtendedMantissa.shiftRightOne ih

/-- A rounded mantissa at its exponent; one that is a bit too long goes with the exponent above. -/
def settle (mantissa : Nat) (exponent : Int) : UnpackedFloat :=
  if mantissa = 2 ^ 53 then .finite .positive (2 ^ 52) (exponent + 1) (Nat.two_pow_pos 52)
  else if h : 0 < mantissa then .finite .positive mantissa exponent h
  else .zero .positive

/-- A mantissa at an exponent below its target is shifted there, rounded and settled. -/
theorem round_eq_settle_of_le (hm : 0 < m) (h : e ≤ target m e) :
    UnpackedFloat.round .binary64 .positive m e =
      settle ((⟨m, false, false⟩ : ExtendedMantissa) >>> (target m e - e).toNat).roundedMantissa
        (target m e) := by
  set em := (⟨m, false, false⟩ : ExtendedMantissa) >>> (target m e - e).toNat with hem
  have hshift : shiftToTargetExponent .binary64 m e .exact = (em, target m e) := by
    refine Prod.ext rfl ?_
    show e + ((target m e - e).toNat : Int) = target m e
    omega
  have hlt : em.mantissa < 2 ^ 53 := by
    rw [hem, mantissa_shiftRight]
    exact (quotient_bounds hm h).1
  have hleast := target_least m e
  have hceil := (roundedMantissa_bounds em).2
  have hcarry := shift_of_rounded (m := em.roundedMantissa) hleast (by omega)
  rw [round_of_le_target h]
  unfold roundWithAccuracy
  rw [hshift]
  dsimp only
  unfold settle
  -- a mantissa that is rounded up to 2 ^ 53 carries into the exponent
  split at hcarry
  next hfull =>
    obtain ⟨hmant, hexp⟩ := Prod.mk.inj hcarry
    rw [dif_neg (by omega), if_pos hfull]
    exact finite_congr hmant hexp
  next hfull =>
    obtain ⟨hmant, hexp⟩ := Prod.mk.inj hcarry
    rw [if_neg hfull]
    by_cases hpos : 0 < em.roundedMantissa
    · rw [dif_neg (by omega), dif_pos hpos]
      exact finite_congr hmant hexp
    · rw [dif_pos (by omega), dif_neg hpos]

/-- A number may be written at any exponent that is low enough; it is cut off at its target. -/
theorem round_eq_settle (hm : 0 < m) (he : f ≤ e) (htarget : f ≤ target m e) :
    UnpackedFloat.round .binary64 .positive m e =
      settle ((⟨m * 2 ^ (e - f).toNat, false, false⟩ : ExtendedMantissa) >>>
        (target m e - f).toNat).roundedMantissa (target m e) := by
  obtain hle | hlt := le_or_gt e (target m e)
  · rw [round_eq_settle_of_le hm hle, show (target m e - f).toNat =
      (e - f).toNat + (target m e - e).toNat by omega, shiftRight_add, shiftRight_exact]
  · have hlonger : 0 < m * 2 ^ (e - target m e).toNat := Nat.mul_pos hm (Nat.two_pow_pos _)
    have hscale := target_scale hm hlt.le
    rw [round_of_target_lt hm hlt, round_eq_settle_of_le hlonger hscale.ge, hscale,
      show (e - f).toNat = (e - target m e).toNat + (target m e - f).toNat by omega, Nat.pow_add,
      ← Nat.mul_assoc, shiftRight_exact, Int.sub_self]
    rfl

/--
Of two finite numbers the one with the greater exponent is further from zero, or else
the one with the greater mantissa.
-/
theorem rank_finite_le {hm : 0 < m} {hm' : 0 < m'} :
    rank (.finite .positive m e hm) ≤ rank (.finite .positive m' e' hm') ↔
      e < e' ∨ e = e' ∧ m ≤ m' := by
  simp [rank, Prod.Lex.toLex_le_toLex]

/-- What is settled is not below zero. -/
theorem rank_zero_le_settle (m : Nat) (e : Int) : rank (.zero .positive) ≤ rank (settle m e) := by
  unfold settle
  split_ifs <;> simp [rank, Prod.Lex.toLex_le_toLex]

/-- At one exponent the order is that of the mantissas. -/
theorem rank_settle_le (h : m ≤ m') (hfull : m' ≤ 2 ^ 53) (e : Int) :
    rank (settle m e) ≤ rank (settle m' e) := by
  obtain rfl | hm := Nat.eq_zero_or_pos m
  · exact rank_zero_le_settle m' e
  · unfold settle
    rw [dif_pos hm, dif_pos (hm.trans_le h)]
    split_ifs <;> rw [rank_finite_le] <;> omega

/-- At different exponents it is that of the exponents, where the greater mantissa is full. -/
theorem rank_settle_le_of_lt (hm : m ≤ 2 ^ 53) (hm' : 2 ^ 52 ≤ m') (h : e < e') :
    rank (settle m e) ≤ rank (settle m' e') := by
  obtain rfl | hpos := Nat.eq_zero_or_pos m
  · exact rank_zero_le_settle m' e'
  · unfold settle
    rw [dif_pos hpos, dif_pos (by omega)]
    split_ifs <;> rw [rank_finite_le] <;> omega

/-- A mantissa that is long enough for its exponent settles to a number that a double keeps. -/
theorem kept_settle (hm : m ≤ 2 ^ 53) (he : -1074 ≤ e) (hnormal : 2 ^ 52 ≤ m ∨ e = -1074) :
    Kept (settle m e) := by
  intro sign m₁ e₁ hm₁ h
  unfold settle at h
  split_ifs at h with hfull hpos
  · cases h
    exact ⟨by omega, by omega, .inl le_rfl⟩
  · cases h
    exact ⟨by omega, he, hnormal⟩

/-- What is left of a mantissa that is cut off at its target, and rounded. -/
theorem roundedMantissa_bounds_of_target (hm : 0 < m) (h : e ≤ target m e) :
    ((⟨m, false, false⟩ : ExtendedMantissa) >>> (target m e - e).toNat).roundedMantissa ≤ 2 ^ 53 ∧
      (2 ^ 52 ≤ ((⟨m, false, false⟩ : ExtendedMantissa) >>>
        (target m e - e).toNat).roundedMantissa ∨ target m e = -1074) := by
  obtain ⟨hfloor, hceil⟩ :=
    roundedMantissa_bounds ((⟨m, false, false⟩ : ExtendedMantissa) >>> (target m e - e).toNat)
  obtain ⟨hlt, hnormal⟩ := quotient_bounds hm h
  rw [mantissa_shiftRight] at hfloor hceil
  dsimp only at hfloor hceil
  omega

/-- A mantissa at a lower exponent stands for the same value. -/
theorem value_scale (he : f ≤ e) : ((m * 2 ^ (e - f).toNat : Nat) : ℚ) * 2 ^ f = m * 2 ^ e := by
  rw [Nat.cast_mul, Nat.cast_pow, Nat.cast_ofNat, mul_assoc, ← zpow_natCast,
    ← zpow_add₀ two_ne_zero,
    show (((e - f).toNat : Nat) : ℤ) + f = e by omega]

/-- **Rounding keeps the order** of numbers above zero. -/
theorem rank_round_le (hm : 0 < m) (hm' : 0 < m') (h : (m : ℚ) * 2 ^ e ≤ m' * 2 ^ e') :
    rank (UnpackedFloat.round .binary64 .positive m e) ≤
      rank (UnpackedFloat.round .binary64 .positive m' e') := by
  -- both are written at one exponent, which is not above either target
  obtain ⟨f, hf, hf', ht, ht'⟩ : ∃ f, f ≤ e ∧ f ≤ e' ∧ f ≤ target m e ∧ f ≤ target m' e' :=
    ⟨min (min e e') (min (target m e) (target m' e')), by omega, by omega, by omega, by omega⟩
  rw [round_eq_settle hm hf ht, round_eq_settle hm' hf' ht']
  rw [← value_scale hf, ← value_scale hf', mul_le_mul_iff_left₀ (by positivity), Nat.cast_le] at h
  rw [← target_scale hm hf] at ht ⊢
  rw [← target_scale hm' hf'] at ht' ⊢
  have hpos : 0 < m * 2 ^ (e - f).toNat := Nat.mul_pos hm (Nat.two_pow_pos _)
  have hpos' : 0 < m' * 2 ^ (e' - f).toNat := Nat.mul_pos hm' (Nat.two_pow_pos _)
  generalize m * 2 ^ (e - f).toNat = n at *
  generalize m' * 2 ^ (e' - f).toNat = n' at *
  have htargets : target n f ≤ target n' f := by
    have hlog : n.log2 ≤ n'.log2 :=
      (Nat.le_log2 hpos'.ne').mpr ((Nat.log2_self_le hpos.ne').trans h)
    rw [target_eq, target_eq]
    omega
  obtain ⟨hfull, -⟩ := roundedMantissa_bounds_of_target hpos ht
  obtain ⟨hfull', hnormal'⟩ := roundedMantissa_bounds_of_target hpos' ht'
  obtain hlt | heq := lt_or_eq_of_le htargets
  · refine rank_settle_le_of_lt hfull (hnormal'.resolve_right ?_) hlt
    have hleast := target_least n f
    omega
  · rw [← heq] at hfull' ⊢
    refine rank_settle_le (roundedMantissa_le (quarters_shiftRight_le ?_ _)) hfull' _
    show 4 * n + 0 + 0 ≤ 4 * n' + 0 + 0
    omega

/-- What is rounded is zero or canonical, with a positive sign. -/
theorem kept_round (hm : 0 < m) : Kept (UnpackedFloat.round .binary64 .positive m e) := by
  obtain ⟨f, hf, ht⟩ : ∃ f, f ≤ e ∧ f ≤ target m e :=
    ⟨min e (target m e), by omega, by omega⟩
  have hscale := target_scale hm hf
  have hpos : 0 < m * 2 ^ (e - f).toNat := Nat.mul_pos hm (Nat.two_pow_pos _)
  obtain ⟨hfull, hnormal⟩ := roundedMantissa_bounds_of_target hpos (hscale ▸ ht)
  rw [hscale] at hfull hnormal
  rw [round_eq_settle hm hf ht]
  exact kept_settle hfull (target_least m e) hnormal

/-- A canonical number is rounded to itself. -/
theorem round_self (h : Canonical m e) (hm : 0 < m) :
    UnpackedFloat.round .binary64 .positive m e = .finite .positive m e hm := by
  obtain ⟨hlt, hleast, hnormal⟩ := h
  have htarget : target m e = e := by
    have hlog : m.log2 ≤ 52 := Nat.le_of_lt_succ ((Nat.log2_lt hm.ne').mpr hlt)
    have hfull : 2 ^ 52 ≤ m → 52 ≤ m.log2 := (Nat.le_log2 hm.ne').mpr
    rw [target_eq]
    omega
  rw [round_eq_settle_of_le hm htarget.ge, htarget, Int.sub_self]
  show settle m e = _
  unfold settle
  rw [if_neg hlt.ne, dif_pos hm]

end Rounding

/-! ## Signs -/

section Signs

variable {u v : UnpackedFloat}

theorem rank_neg (u : UnpackedFloat) : rank u.neg = -rank u := by
  cases u with
  | notANumber | zero => rfl
  | infinity sign => cases sign <;> rfl
  | finite sign m e hm =>
    cases sign with
    | positive => rfl
    | negative =>
      show toLex (1, toLex (e, (m : ℤ))) = toLex (- -1, toLex (- -e, - -(m : ℤ)))
      simp only [neg_neg]

theorem rank_neg_le : rank u.neg ≤ rank v.neg ↔ rank v ≤ rank u := by
  rw [rank_neg, rank_neg, neg_le_neg_iff]

/-- What a double keeps of a number. -/
def keep (u : UnpackedFloat) : UnpackedFloat :=
  unpack .binary64 (pack .binary64 u)

theorem keep_neg (hu : Kept u) : keep u.neg = (keep u).neg := by
  cases u with
  | notANumber => rfl
  | zero sign | infinity sign => cases sign <;> rfl
  | finite sign m e hm =>
    obtain he | he := le_or_gt e 971
    · exact (unpack_pack_of_le (hu _ _ _ _ rfl) he hm _).trans
        (congrArg UnpackedFloat.neg (unpack_pack_of_le (hu _ _ _ _ rfl) he hm sign)).symm
    · exact (unpack_pack_of_lt he hm _).trans
        (congrArg UnpackedFloat.neg (unpack_pack_of_lt he hm sign)).symm

theorem rank_nonneg (h : NotNegative u) : 0 ≤ rank u := by
  show rank (.zero .positive) ≤ rank u
  cases h <;> simp [rank, Prod.Lex.toLex_le_toLex]

/-- Infinity has the last place in the line. -/
theorem rank_le_infinity (u : UnpackedFloat) : rank u ≤ rank (.infinity .positive) := by
  cases u with
  | notANumber | zero => simp [rank, Prod.Lex.toLex_le_toLex]
  | infinity sign | finite sign => cases sign <;> simp [rank, Prod.Lex.toLex_le_toLex]

/-- What is too great for a double is kept as an infinity, and so the order is kept. -/
theorem rank_keep_le (hu : NotNegative u) (hv : NotNegative v) (hkept : Kept u) (hkept' : Kept v)
    (h : rank u ≤ rank v) : rank (keep u) ≤ rank (keep v) := by
  cases hu with
  | notANumber => exact rank_nonneg hv.pack
  | zero sign => cases sign <;> exact rank_nonneg hv.pack
  | infinity =>
    cases hv with
    | infinity => rfl
    | _ => simp [rank, Prod.Lex.toLex_le_toLex] at h
  | finite hm =>
    cases hv with
    | infinity =>
      rw [keep, keep, unpack_infinity]
      exact rank_le_infinity _
    | @finite m' e' hm' =>
      rw [rank_finite_le] at h
      obtain he' | he' := le_or_gt e' 971
      · rw [keep, keep, unpack_pack_of_le (hkept _ _ _ _ rfl) (by omega) hm,
          unpack_pack_of_le (hkept' _ _ _ _ rfl) he' hm', rank_finite_le]
        exact h
      · rw [keep, keep, unpack_pack_of_lt he' hm']
        exact rank_le_infinity _
    | _ => simp [rank, Prod.Lex.toLex_le_toLex] at h

/-- A negation is a number just where what is negated is one. -/
theorem isNaN_unpacked_neg (u : UnpackedFloat) : u.neg.isNaN = u.isNaN := by
  cases u <;> rfl

/-- Rounding a mantissa gives a number. -/
theorem isNaN_round (m : Nat) (e : Int) :
    (UnpackedFloat.round .binary64 .positive m e).isNaN = false := by
  unfold UnpackedFloat.round
  dsimp only
  unfold roundWithAccuracy
  dsimp only
  split <;> rfl

/-- A double keeps of a number a number. -/
theorem isNaN_keep (hu : Kept u) (h : u.isNaN = false) : (keep u).isNaN = false := by
  cases u with
  | notANumber => cases h
  | zero sign | infinity sign => cases sign <;> rfl
  | finite sign m e hm =>
    obtain hkept | hover := unpack_pack (hu _ _ _ _ rfl) hm sign
    · rw [keep, hkept]
      rfl
    · rw [keep, hover]
      rfl

end Signs

/-! ## The nearest double -/

/-- The double that is nearest to a mantissa at an exponent. -/
def nearest (n : Int) (e : Int) : UnpackedFloat :=
  keep (UnpackedFloat.normalize .binary64 n e .positive)

section Nearest

variable {m : Nat} {n n' : Int} {e e' : Int}

/-- To normalize a mantissa with a sign is to round it with that sign. -/
theorem normalize_apply (hm : 0 < m) (sign : Sign) (e : Int) :
    UnpackedFloat.normalize .binary64 (sign.apply m) e .positive =
      UnpackedFloat.round .binary64 sign m e := by
  cases sign with
  | positive => exact normalize_of_pos rfl hm e
  | negative =>
    have hlt : compare (-(m : Int)) 0 = .lt := compare_lt_iff_lt.mpr (by omega)
    show UnpackedFloat.normalize .binary64 (-(m : Int)) e .positive = _
    unfold UnpackedFloat.normalize
    rw [hlt]
    dsimp only
    rw [Int.neg_neg]
    rfl

/-- Above zero the nearest double is what rounding the mantissa gives. -/
theorem nearest_of_pos (hn : 0 < n) (e : Int) :
    nearest n e = keep (UnpackedFloat.round .binary64 .positive n.toNat e) :=
  congrArg keep (normalize_of_pos (by omega) (by omega) e)

theorem nearest_zero (e : Int) : nearest 0 e = .zero .positive := by
  show keep (.zero .positive) = _
  rfl

theorem rank_nearest_zero (e : Int) : rank (nearest 0 e) = 0 := by
  rw [nearest_zero]
  rfl

/-- Nearest to the opposite is the opposite of the nearest. -/
theorem nearest_neg (hn : 0 < n) (e : Int) : nearest (-n) e = (nearest n e).neg := by
  have hnegative := normalize_apply (m := n.toNat) (by omega) .negative e
  rw [round_negative] at hnegative
  rw [nearest_of_pos hn, ← keep_neg (kept_round (by omega)), ← hnegative]
  show nearest (-n) e = nearest (-(n.toNat : Int)) e
  rw [Int.toNat_of_nonneg hn.le]

/-- The nearest double of an opposite has the opposite place, zero included. -/
theorem rank_nearest_neg (n e : Int) : rank (nearest (-n) e) = -rank (nearest n e) := by
  obtain hn | rfl | hn := lt_trichotomy n 0
  · have h := nearest_neg (neg_pos.mpr hn) e
    rw [Int.neg_neg] at h
    rw [h, rank_neg, neg_neg]
  · rw [Int.neg_zero, rank_nearest_zero, neg_zero]
  · rw [nearest_neg hn, rank_neg]

/-- The nearest double is a number. -/
theorem isNaN_nearest (n e : Int) : (nearest n e).isNaN = false := by
  have hpos : ∀ n : Int, 0 < n → (nearest n e).isNaN = false := by
    intro n hn
    rw [nearest_of_pos hn]
    exact isNaN_keep (kept_round (by omega)) (isNaN_round _ _)
  obtain hn | rfl | hn := lt_trichotomy n 0
  · have h := nearest_neg (neg_pos.mpr hn) e
    rw [Int.neg_neg] at h
    rw [h, isNaN_unpacked_neg]
    exact hpos _ (neg_pos.mpr hn)
  · rw [nearest_zero]
    rfl
  · exact hpos n hn

/-- The nearest double of what is not negative is not below zero. -/
theorem rank_nearest_nonneg (h : 0 ≤ n) (e : Int) : 0 ≤ rank (nearest n e) := by
  obtain hn | rfl := h.lt_or_eq
  · rw [nearest_of_pos hn]
    exact rank_nonneg (NotNegative.roundWithAccuracy _ _ _).pack
  · exact (rank_nearest_zero e).ge

theorem scaled_pos : 0 < (n : ℚ) * 2 ^ e ↔ 0 < n :=
  (mul_pos_iff_of_pos_right (zpow_pos two_pos e)).trans Int.cast_pos

/-- **Rounding keeps the order** of numbers. -/
theorem rank_nearest_le (h : (n : ℚ) * 2 ^ e ≤ n' * 2 ^ e') :
    rank (nearest n e) ≤ rank (nearest n' e') := by
  have habove : ∀ {n n' : Int} {e e' : Int}, 0 < n → 0 < n' → (n : ℚ) * 2 ^ e ≤ n' * 2 ^ e' →
      rank (nearest n e) ≤ rank (nearest n' e') := by
    intro n n' e e' hn hn' h
    rw [← Int.toNat_of_nonneg hn.le, ← Int.toNat_of_nonneg hn'.le, Int.cast_natCast,
      Int.cast_natCast] at h
    rw [nearest_of_pos hn, nearest_of_pos hn']
    exact rank_keep_le (.roundWithAccuracy _ _ _) (.roundWithAccuracy _ _ _)
      (kept_round (by omega)) (kept_round (by omega)) (rank_round_le (by omega) (by omega) h)
  obtain hn | hn := lt_or_ge 0 n
  · exact habove hn (scaled_pos.mp ((scaled_pos.mpr hn).trans_le h)) h
  obtain hn' | hn' := le_or_gt 0 n'
  · -- zero is between the two
    have hbelow := rank_nearest_nonneg (neg_nonneg.mpr hn) e
    rw [rank_nearest_neg] at hbelow
    exact (neg_nonneg.mp hbelow).trans (rank_nearest_nonneg hn' e')
  -- two negative numbers are the mirror of two positive ones
  · have hmirror : ((-n' : Int) : ℚ) * 2 ^ e' ≤ (-n : Int) * 2 ^ e := by
      rw [Int.cast_neg, Int.cast_neg, neg_mul, neg_mul]
      exact neg_le_neg h
    have hpos : 0 < -n' := neg_pos.mpr hn'
    have hrank := habove hpos (scaled_pos.mp ((scaled_pos.mpr hpos).trans_le hmirror)) hmirror
    rw [rank_nearest_neg, rank_nearest_neg] at hrank
    exact neg_le_neg_iff.mp hrank

end Nearest

end SwingTrader.Double
