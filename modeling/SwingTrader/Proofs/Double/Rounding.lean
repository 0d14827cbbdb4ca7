import SwingTrader.Proofs.Double

/-!
# SwingTrader — the rounding of sums and products

A sum of doubles is rounded, and still it is not below either of two numbers where
the other is not negative. A double keeps a mantissa and an exponent in one way
only, so it is enough to follow these two through the rounding: what was a lower
bound before it is one after it.

* `Double.Canonical` — a mantissa and an exponent as a double keeps them, and
  `Double.unpack_pack` — these are kept as they are;
* `Double.round_ge` — rounding does not fall below a canonical lower bound;
* `Double.NotNegative` — what is not below zero, which is kept by sums and products;
* `Double.not_add_lt` — a sum is not below a positive bound that one of its terms
  is not below, where the other is not negative;
* `Double.not_add_lt_zero`, `Double.not_mul_lt_zero` — sums and products of what is
  not negative are not negative.
-/

namespace SwingTrader.Double

open Float.Model (Format UnpackedFloat totalExponent)
open Float.Model.UnpackedFloat

/-! ## What a double keeps -/

/-- A mantissa and an exponent as a double keeps them. -/
structure Canonical (mantissa : Nat) (exponent : Int) : Prop where
  lt : mantissa < 2 ^ 53
  least : -1074 ≤ exponent
  normal : 2 ^ 52 ≤ mantissa ∨ exponent = -1074

section Canonical

variable {m m' : Nat} {e e' : Int} {hpos : 0 < m} {hpos' : 0 < m'}

theorem finite_congr {sign : Sign} (hm : m = m') (he : e = e') :
    UnpackedFloat.finite sign m e hpos = .finite sign m' e' hpos' := by
  subst hm he
  rfl

/-- The implicit bit stands before the bits that are kept. -/
theorem toNat_one_append (bits : BitVec 52) : (1#1 ++ bits).toNat = 2 ^ 52 + bits.toNat := by
  have hor := Nat.two_pow_add_eq_or_of_lt bits.isLt 1
  rw [Nat.mul_one] at hor
  rw [BitVec.toNat_append, hor]
  rfl

/-- A normal number unpacks with the leading bit that is not stored. -/
theorem unpack_normal (sign : Sign) (exponent : BitVec 11) (mantissa : BitVec 52)
    (hmax : exponent ≠ -1#11) (hmin : exponent ≠ 0#11) :
    unpack .binary64 (packComponents .binary64 sign exponent mantissa) =
      .finite sign (2 ^ 52 + mantissa.toNat) (exponent.toNat - 1075)
        (Nat.add_pos_left (Nat.two_pow_pos 52) _) := by
  unfold unpack
  simp only [unpackSign_packComponents, Sign.ofBitVec_toBitVec, unpackExponent_packComponents,
    unpackMantissa_packComponents]
  rw [if_neg hmax, if_neg hmin]
  exact finite_congr (toNat_one_append mantissa) rfl

/-- A subnormal number unpacks with the least exponent, and without a leading bit. -/
theorem unpack_subnormal (sign : Sign) {mantissa : BitVec 52} (h : 0 < mantissa.toNat) :
    unpack .binary64 (packComponents .binary64 sign 0#11 mantissa) =
      .finite sign mantissa.toNat (-1074) h := by
  have hne : mantissa ≠ 0#52 := by
    rintro rfl
    exact absurd h (Nat.lt_irrefl 0)
  unfold unpack
  simp only [unpackSign_packComponents, Sign.ofBitVec_toBitVec, unpackExponent_packComponents,
    unpackMantissa_packComponents]
  rw [if_neg (by decide), if_pos trivial, dif_neg hne]
  rfl

/-- An infinity is packed as itself. -/
theorem unpack_infinity (sign : Sign) :
    unpack .binary64 (pack .binary64 (.infinity sign)) = .infinity sign := by
  cases sign <;> rfl

/-- Every finite number that a double unpacks to has a canonical mantissa and exponent. -/
theorem canonical_of_unpack {bits : BitVec Format.binary64.numBits} {sign : Sign}
    (h : unpack .binary64 bits = .finite sign m e hpos) : Canonical m e := by
  have hmant : (unpackMantissa bits).toNat < 2 ^ 52 := (unpackMantissa bits).isLt
  unfold unpack at h
  dsimp only at h
  split_ifs at h with _ _ hzero _
  · cases h
    rw [hzero]
    exact ⟨by omega, le_rfl, .inr rfl⟩
  · cases h
    rw [toNat_one_append]
    have hexp : (unpackExponent bits).toNat ≠ 0 := fun h => hzero (BitVec.eq_of_toNat_eq h)
    refine ⟨by omega, ?_, .inl (Nat.le_add_right _ _)⟩
    show -1074 ≤ ((unpackExponent bits).toNat : Int) - (1023 + 52)
    omega

/-- An exponent that is too great for any double makes an infinity. -/
theorem unpack_pack_of_lt (he : 971 < e) (hpos : 0 < m) (sign : Sign) :
    unpack .binary64 (pack .binary64 (.finite sign m e hpos)) = .infinity sign := by
  have hover : 2 ^ 11 ≤ (e + 1023 + 52).toNat + 1 := by omega
  exact (congrArg (unpack .binary64) (if_pos hover)).trans (unpack_infinity sign)

/-- A canonical double is kept as it is, at any other exponent. -/
theorem unpack_pack_of_le (h : Canonical m e) (he : e ≤ 971) (hpos : 0 < m) (sign : Sign) :
    unpack .binary64 (pack .binary64 (.finite sign m e hpos)) = .finite sign m e hpos := by
  obtain ⟨hlt, hleast, hnormal⟩ := h
  have hover : (e + 1023 + 52).toNat + 1 < 2 ^ 11 := by omega
  unfold pack
  dsimp only
  split_ifs with hexponent hlog
  · exact absurd hover (Nat.not_lt.mpr hexponent)
  · have hlog : m.log2 = 52 := by simpa [Format.mantissaBits] using hlog
    have hle : 2 ^ 52 ≤ m := hlog ▸ Nat.log2_self_le hpos.ne'
    have hexp : (BitVec.ofNat 11 (e + 1023 + 52).toNat).toNat = (e + 1023 + 52).toNat := by
      rw [BitVec.toNat_ofNat, Nat.mod_eq_of_lt (by omega)]
    have hmant : (BitVec.ofNat 52 m).toNat = m - 2 ^ 52 := by
      rw [BitVec.toNat_ofNat]
      omega
    -- neither all ones nor all zeros, which the exponents of normal doubles never are
    have hbetween : ∀ n : Nat, (n = 2 ^ 11 - 1 ∨ n = 0) →
        BitVec.ofNat 11 (e + 1023 + 52).toNat ≠ BitVec.ofNat 11 n := by
      intro n hn heq
      have heq := hexp.symm.trans (congrArg BitVec.toNat heq)
      rw [BitVec.toNat_ofNat] at heq
      omega
    have hkept := unpack_normal sign (BitVec.ofNat 11 (e + 1023 + 52).toNat) (BitVec.ofNat 52 m)
      (hbetween (2 ^ 11 - 1) (.inl rfl)) (hbetween 0 (.inr rfl))
    refine hkept.trans (finite_congr (by omega) ?_)
    rw [hexp]
    omega
  · have hlog : m.log2 ≠ 52 := by simpa [Format.mantissaBits] using hlog
    have hsmall : m < 2 ^ 52 := by
      by_contra hge
      exact hlog ((Nat.log2_eq_iff hpos.ne').mpr ⟨by omega, hlt⟩)
    have hmant : (BitVec.ofNat 52 m).toNat = m := by
      rw [BitVec.toNat_ofNat, Nat.mod_eq_of_lt hsmall]
    have hkept : 0 < (BitVec.ofNat 52 m).toNat := by omega
    exact (unpack_subnormal sign hkept).trans (finite_congr hmant (by omega))

/-- A canonical number is packed as itself, unless it is too large and becomes an infinity. -/
theorem unpack_pack (h : Canonical m e) (hpos : 0 < m) (sign : Sign) :
    unpack .binary64 (pack .binary64 (.finite sign m e hpos)) = .finite sign m e hpos ∨
      unpack .binary64 (pack .binary64 (.finite sign m e hpos)) = .infinity sign := by
  obtain he | he := le_or_gt e 971
  · exact .inl (unpack_pack_of_le h he hpos sign)
  · exact .inr (unpack_pack_of_lt he hpos sign)

end Canonical

/-! ## Rounding -/

/-- The exponent that a number is rounded to. -/
def target (m : Nat) (e : Int) : Int :=
  Format.binary64.targetExponent (totalExponent m e)

section Rounding

variable {m m₀ : Nat} {e e₀ f : Int}

/-- The target leaves 53 bits of mantissa, and is never below the least exponent. -/
theorem target_eq (m : Nat) (e : Int) : target m e = max (m.log2 + 1 + e - 53) (-1074) :=
  rfl

theorem target_least (m : Nat) (e : Int) : -1074 ≤ target m e :=
  le_max_right _ _

/-- A number has one target, at whatever exponent it is written. -/
theorem target_scale (hm : 0 < m) (hf : f ≤ e) :
    target (m * 2 ^ (e - f).toNat) f = target m e := by
  have hlog : (m * 2 ^ (e - f).toNat).log2 = m.log2 + (e - f).toNat := by
    refine (Nat.log2_eq_iff (Nat.mul_pos hm (Nat.two_pow_pos _)).ne').mpr ⟨?_, ?_⟩
    · rw [Nat.pow_add]
      exact Nat.mul_le_mul_right _ (Nat.log2_self_le hm.ne')
    · rw [Nat.add_right_comm, Nat.pow_add]
      exact Nat.mul_lt_mul_of_pos_right Nat.lt_log2_self (Nat.two_pow_pos _)
  rw [target_eq, target_eq, hlog]
  omega

/-- Each place to the right halves the mantissa. -/
theorem mantissa_shiftRight (em : ExtendedMantissa) (n : Nat) :
    (em >>> n).mantissa = em.mantissa / 2 ^ n := by
  show (n.repeat ExtendedMantissa.shiftRightOne em).mantissa = _
  induction n with
  | zero => simp [Nat.repeat]
  | succ n ih =>
    show (n.repeat ExtendedMantissa.shiftRightOne em).mantissa / 2 = _
    rw [ih, Nat.div_div_eq_div_mul, Nat.pow_succ]

/-- Rounding adds at most one to a mantissa. -/
theorem roundedMantissa_bounds (em : ExtendedMantissa) :
    em.mantissa ≤ em.roundedMantissa ∧ em.roundedMantissa ≤ em.mantissa + 1 := by
  obtain ⟨m, roundBit, stickyBit⟩ := em
  cases roundBit <;> cases stickyBit <;>
    simp only [ExtendedMantissa.roundedMantissa, ExtendedMantissa.accuracy,
      Accuracy.roundToNearestEven] <;> omega

/--
Below its target a number is shifted to it, and what is cut off shows in the residual
bits alone.
-/
theorem shift_of_le (h : e ≤ target m e) :
    ∃ em : ExtendedMantissa, shiftToTargetExponent .binary64 m e .exact = (em, target m e) ∧
      em.mantissa = m / 2 ^ (target m e - e).toNat := by
  refine ⟨_, Prod.ext rfl ?_, mantissa_shiftRight ⟨m, false, false⟩ _⟩
  show e + ((target m e - e).toNat : Int) = target m e
  omega

/-- A mantissa that was rounded up to a bit too many is shifted once more, and any other stays. -/
theorem shift_of_rounded (he : -1074 ≤ e) (hm : m ≤ 2 ^ 53) :
    ((shiftToTargetExponent .binary64 m e .exact).1.mantissa,
      (shiftToTargetExponent .binary64 m e .exact).2) =
        if m = 2 ^ 53 then (2 ^ 52, e + 1) else (m, e) := by
  split
  next hfull =>
    subst hfull
    have htarget : target (2 ^ 53) e = e + 1 := by
      rw [target_eq, Nat.log2_two_pow]
      omega
    obtain ⟨em, hshift, hem⟩ := shift_of_le (m := 2 ^ 53) (e := e) (by omega)
    rw [hshift, hem, htarget, show (e + 1 - e).toNat = 1 by omega]
    rfl
  next hfull =>
    -- below 2 ^ 53 the mantissa fits as it is, so the second shift is by nothing
    have hlog : m.log2 ≤ 52 := by
      obtain rfl | hne := Nat.eq_zero_or_pos m
      · simp
      · exact Nat.le_of_lt_succ ((Nat.log2_lt hne.ne').mpr (by omega))
    have hzero : (target m e - e).toNat = 0 := by
      rw [target_eq]
      omega
    show (((⟨m, false, false⟩ : ExtendedMantissa) >>> (target m e - e).toNat).mantissa,
      e + ((target m e - e).toNat : Int)) = _
    rw [hzero, mantissa_shiftRight]
    simp

/-- A number is rounded to the exponent of a canonical lower bound, or to a greater one. -/
theorem le_target (h : Canonical m₀ e₀) (hpos : 0 < m₀) (he : e ≤ e₀)
    (hle : m₀ * 2 ^ (e₀ - e).toNat ≤ m) : e₀ ≤ target m e := by
  rw [target_eq]
  obtain hnormal | hleast := h.normal
  · have hm : 0 < m := (Nat.mul_pos hpos (Nat.two_pow_pos _)).trans_le hle
    have hlog : 52 + (e₀ - e).toNat ≤ m.log2 := by
      refine (Nat.le_log2 hm.ne').mpr ?_
      rw [Nat.pow_add]
      exact (Nat.mul_le_mul_right _ hnormal).trans hle
    omega
  · omega

/--
What is left of a mantissa at its target fits a double, and fills it unless the target
is the least.
-/
theorem quotient_bounds (hpos : 0 < m) (he : e ≤ target m e) :
    m / 2 ^ (target m e - e).toNat < 2 ^ 53 ∧
      (2 ^ 52 ≤ m / 2 ^ (target m e - e).toNat ∨ target m e = -1074) := by
  have htarget := target_eq m e
  constructor
  · rw [Nat.div_lt_iff_lt_mul (Nat.two_pow_pos _), ← Nat.pow_add]
    refine Nat.lt_log2_self.trans_le (Nat.pow_le_pow_right (by decide) ?_)
    omega
  · refine or_iff_not_imp_right.mpr fun hleast => ?_
    rw [Nat.le_div_iff_mul_le (Nat.two_pow_pos _), ← Nat.pow_add]
    refine (Nat.pow_le_pow_right (by decide) ?_).trans (Nat.log2_self_le hpos.ne')
    omega

/-- A mantissa at an exponent below its target needs no more digits, and is rounded at once. -/
theorem round_of_le_target {sign : Sign} (h : e ≤ target m e) :
    UnpackedFloat.round .binary64 sign m e = roundWithAccuracy .binary64 sign m e .exact := by
  have hzero : (e - target m e).toNat = 0 := by omega
  show roundWithAccuracy _ _ (m <<< (e - target m e).toNat) (e -
    ((e - target m e).toNat : Int)) _ = _
  rw [hzero]
  simp

/-- A mantissa that is too short for its target is written with more digits. -/
theorem round_of_target_lt (hm : 0 < m) (h : target m e < e) :
    UnpackedFloat.round .binary64 .positive m e =
      UnpackedFloat.round .binary64 .positive (m * 2 ^ (e - target m e).toNat) (target m e) := by
  rw [round_of_le_target (target_scale hm h.le).ge, ← Nat.shiftLeft_eq]
  show roundWithAccuracy _ _ _ (e - ((e - target m e).toNat : Int)) _ = _
  rw [show e - ((e - target m e).toNat : Int) = target m e by omega]
  rfl

/--
A number is rounded to a canonical one that is at least any canonical lower bound
of it: its exponent is greater, or it is the same and the mantissa is no less.
-/
theorem round_ge (hcanonical : Canonical m₀ e₀) (hpos : 0 < m₀) (he : e ≤ e₀)
    (hle : m₀ * 2 ^ (e₀ - e).toNat ≤ m) :
    ∃ m' e' hpos', UnpackedFloat.round .binary64 .positive m e = .finite .positive m' e' hpos' ∧
      Canonical m' e' ∧ (e₀ < e' ∨ e₀ = e' ∧ m₀ ≤ m') := by
  have hm : 0 < m := (Nat.mul_pos hpos (Nat.two_pow_pos _)).trans_le hle
  have hleast := hcanonical.least
  have htarget := le_target hcanonical hpos he hle
  obtain ⟨em, hshift, hem⟩ := shift_of_le (he.trans htarget)
  obtain ⟨hlt, hnormal⟩ := quotient_bounds hm (he.trans htarget)
  rw [← hem] at hlt hnormal
  -- where the exponents are the same, the mantissa is no less even before it is rounded
  have hsame : e₀ = target m e → m₀ ≤ em.mantissa := by
    intro heq
    rw [hem, ← heq, Nat.le_div_iff_mul_le (Nat.two_pow_pos _)]
    exact hle
  obtain ⟨hfloor, hceil⟩ := roundedMantissa_bounds em
  have hcarry := shift_of_rounded (m := em.roundedMantissa) (hleast.trans htarget) (by omega)
  rw [round_of_le_target (he.trans htarget)]
  unfold roundWithAccuracy
  rw [hshift]
  dsimp only
  split at hcarry
  next hfull =>
    obtain ⟨hmant, hexp⟩ := Prod.mk.inj hcarry
    rw [dif_neg (by omega)]
    refine ⟨_, _, _, rfl, ?_, ?_⟩
    · rw [hmant, hexp]
      exact ⟨by omega, by omega, .inl le_rfl⟩
    · rw [hexp]
      exact .inl (by omega)
  next hfull =>
    obtain ⟨hmant, hexp⟩ := Prod.mk.inj hcarry
    rw [dif_neg (by omega)]
    refine ⟨_, _, _, rfl, ?_, ?_⟩
    · rw [hmant, hexp]
      exact ⟨by omega, by omega, by omega⟩
    · rw [hmant, hexp]
      omega

end Rounding

/-! ## Signs -/

/-- What is not below zero: no number, a zero, or a number with a positive sign. -/
inductive NotNegative : UnpackedFloat → Prop where
  | notANumber : NotNegative .notANumber
  | zero (sign : Sign) : NotNegative (.zero sign)
  | infinity : NotNegative (.infinity .positive)
  | finite {m : Nat} {e : Int} (hm : 0 < m) : NotNegative (.finite .positive m e hm)

/-- Not negative is what does not compare below zero. -/
theorem notNegative_iff {u : UnpackedFloat} :
    NotNegative u ↔ u.compare (.zero .positive) ≠ some .lt := by
  constructor
  · intro h
    cases h <;> exact nofun
  · intro h
    cases u with
    | notANumber => exact .notANumber
    | zero sign => exact .zero sign
    | infinity sign =>
      cases sign with
      | positive => exact .infinity
      | negative => exact absurd rfl h
    | finite sign m e hm =>
      cases sign with
      | positive => exact .finite hm
      | negative => exact absurd rfl h

/-! ## Sums -/

section Sums

variable {u v : UnpackedFloat} {m m₀ : Nat} {e e₀ : Int} {hm : 0 < m} {hpos : 0 < m₀}

theorem add_comm (u v : UnpackedFloat) : add .binary64 u v = add .binary64 v u := by
  cases u with
  | notANumber => cases v <;> rfl
  | infinity sign =>
    cases v with
    | infinity sign' => cases sign <;> cases sign' <;> rfl
    | _ => rfl
  | zero sign =>
    cases v with
    | zero sign' => cases sign <;> cases sign' <;> rfl
    | _ => rfl
  | finite sign m e =>
    cases v with
    | finite sign' m' e' => simp only [UnpackedFloat.add, min_comm e e', Int.add_comm]
    | _ => rfl

/-- The double that is next to a sum. -/
def sum (u v : UnpackedFloat) : UnpackedFloat :=
  unpack .binary64 (pack .binary64 (add .binary64 u v))

/-- A mantissa above zero is rounded with a positive sign. -/
theorem normalize_of_pos {n : Int} (h : n = m) (hm : 0 < m) (e : Int) :
    UnpackedFloat.normalize .binary64 n e .positive =
      UnpackedFloat.round .binary64 .positive m e := by
  subst h
  have hgt : compare (m : Int) 0 = .gt := compare_gt_iff_gt.mpr (by omega)
  unfold UnpackedFloat.normalize
  rw [hgt]
  rfl

/-- The mantissas of two numbers above zero are aligned, and their sum is rounded. -/
theorem add_positive (hm : 0 < m) (hpos : 0 < m₀) :
    add .binary64 (.finite .positive m e hm) (.finite .positive m₀ e₀ hpos) =
      UnpackedFloat.round .binary64 .positive
        (m * 2 ^ (e - min e e₀).toNat + m₀ * 2 ^ (e₀ - min e e₀).toNat) (min e e₀) := by
  rw [← Nat.shiftLeft_eq, ← Nat.shiftLeft_eq]
  refine normalize_of_pos (Int.natCast_add _ _).symm (Nat.add_pos_left ?_ _) _
  rw [Nat.shiftLeft_eq]
  exact Nat.mul_pos hm (Nat.two_pow_pos _)

/-- A positive number that is added leaves no less than was there. -/
theorem sum_positive (h : Canonical m₀ e₀) :
    (sum (.finite .positive m e hm) (.finite .positive m₀ e₀ hpos)).compare
      (.finite .positive m₀ e₀ hpos) ≠ some .lt := by
  -- what is rounded is no less than either of the two
  obtain ⟨m', e', hpos', hround, hcanonical, hge⟩ :=
    round_ge h hpos (min_le_right e e₀) (Nat.le_add_left _ _)
  rw [sum, add_positive, hround]
  obtain hkept | hover := unpack_pack hcanonical hpos' .positive
  · rw [hkept]
    intro hlt
    have hlt : (compare e' e₀).then (compare m' m₀) = .lt := Option.some.inj hlt
    rw [Ordering.then_eq_lt, compare_lt_iff_lt, compare_lt_iff_lt, compare_eq_iff_eq] at hlt
    omega
  · rw [hover]
    exact nofun

/-- A sum is not below a canonical number above zero, where the other term is not negative. -/
theorem sum_canonical (hu : NotNegative u) (h : Canonical m₀ e₀) :
    (sum u (.finite .positive m₀ e₀ hpos)).compare (.finite .positive m₀ e₀ hpos) ≠ some .lt := by
  cases hu with
  | notANumber =>
    show (unpack .binary64 (packedNaN .binary64)).compare _ ≠ _
    rw [unpack_packedNaN]
    simp [UnpackedFloat.compare]
  | zero sign =>
    show (unpack .binary64 (pack .binary64 (.finite .positive m₀ e₀ hpos))).compare _ ≠ _
    obtain hkept | hover := unpack_pack h hpos .positive
    · rw [hkept]
      simp [UnpackedFloat.compare]
    · rw [hover]
      simp [UnpackedFloat.compare]
  | infinity =>
    show (unpack .binary64 (pack .binary64 (.infinity .positive))).compare _ ≠ _
    rw [unpack_infinity]
    simp [UnpackedFloat.compare]
  | finite => exact sum_positive h

/-- Nor is it below an infinity. -/
theorem sum_infinity (hu : NotNegative u) :
    (sum u (.infinity .positive)).compare (.infinity .positive) ≠ some .lt := by
  cases hu with
  | notANumber =>
    show (unpack .binary64 (packedNaN .binary64)).compare _ ≠ _
    rw [unpack_packedNaN]
    exact nofun
  | zero | infinity | finite =>
    show (unpack .binary64 (pack .binary64 (.infinity .positive))).compare _ ≠ _
    rw [unpack_infinity]
    decide

end Sums

/-! ## What is kept not negative -/

namespace NotNegative

variable {u v : UnpackedFloat}

/-- Bits with a positive sign unpack to what is not negative. -/
theorem packComponents (exponent : BitVec 11) (mantissa : BitVec 52) :
    NotNegative (unpack .binary64 (packComponents .binary64 .positive exponent mantissa)) := by
  unfold unpack
  simp only [unpackSign_packComponents, Sign.ofBitVec_toBitVec]
  split_ifs <;> constructor

/-- Packing makes nothing negative. -/
theorem pack (h : NotNegative u) :
    NotNegative (unpack .binary64 (UnpackedFloat.pack .binary64 u)) := by
  cases h with
  | notANumber =>
    rw [show UnpackedFloat.pack .binary64 .notANumber = packedNaN .binary64 from rfl,
      unpack_packedNaN]
    exact .notANumber
  | zero sign =>
    refine notNegative_iff.mpr ?_
    cases sign <;> decide
  | infinity =>
    rw [unpack_infinity]
    exact .infinity
  | finite hm =>
    unfold UnpackedFloat.pack
    dsimp only
    split_ifs
    · exact .packComponents _ _
    · exact .packComponents _ _
    · exact .packComponents _ _

/-- Rounding with a positive sign gives nothing negative. -/
theorem roundWithAccuracy (m : Nat) (e : Int) (accuracy : Accuracy) :
    NotNegative (UnpackedFloat.roundWithAccuracy .binary64 .positive m e accuracy) := by
  unfold UnpackedFloat.roundWithAccuracy
  dsimp only
  split <;> constructor

/-- A product of numbers that are not negative is not negative. -/
theorem mul (hu : NotNegative u) (hv : NotNegative v) :
    NotNegative (UnpackedFloat.mul .binary64 u v) := by
  cases hu with
  | notANumber => cases hv <;> constructor
  | zero => cases hv <;> constructor
  | infinity => cases hv <;> constructor
  | finite =>
    cases hv with
    | finite => exact .roundWithAccuracy _ _ _
    | _ => constructor

/-- A sum of numbers that are not negative is not negative. -/
theorem add (hu : NotNegative u) (hv : NotNegative v) :
    NotNegative (UnpackedFloat.add .binary64 u v) := by
  cases hu with
  | notANumber => cases hv <;> constructor
  | zero sign =>
    cases hv with
    | zero sign' => cases sign <;> cases sign' <;> constructor
    | _ => constructor
  | infinity => cases hv <;> constructor
  | finite =>
    cases hv with
    | finite =>
      rw [add_positive]
      exact .roundWithAccuracy _ _ _
    | _ => constructor

end NotNegative

/-! ## Bounds -/

section Bounds

variable {x y z : Float}

theorem unpack_zero : (0.0 : Float).toModel.unpack = .zero .positive :=
  rfl

/-- A double is not below zero if what it unpacks to is not negative. -/
theorem not_lt_zero_iff : ¬x < 0.0 ↔ NotNegative x.toModel.unpack := by
  rw [notNegative_iff, lt_iff_compare, unpack_zero]

theorem unpack_sum (x y : Float) : (x + y).toModel.unpack = sum x.toModel.unpack y.toModel.unpack :=
  rfl

/-- A double above zero has a positive sign. -/
theorem positive_of_lt (h : 0.0 < y) :
    y.toModel.unpack = .infinity .positive ∨
      ∃ m e hpos, y.toModel.unpack = .finite .positive m e hpos ∧ Canonical m e := by
  rw [lt_iff_compare, unpack_zero] at h
  cases hy : y.toModel.unpack with
  | notANumber | zero =>
    rw [hy] at h
    cases h
  | infinity sign =>
    cases sign with
    | positive => exact .inl rfl
    | negative =>
      rw [hy] at h
      cases h
  | finite sign m e hpos =>
    cases sign with
    | positive => exact .inr ⟨m, e, hpos, rfl, canonical_of_unpack hy⟩
    | negative =>
      rw [hy] at h
      cases h

theorem not_add_lt_self (hx : ¬x < 0.0) (hy : 0.0 < y) : ¬x + y < y := by
  rw [not_lt_zero_iff] at hx
  rw [lt_iff_compare, unpack_sum]
  obtain hinfinity | ⟨m, e, hpos, hfinite, hcanonical⟩ := positive_of_lt hy
  · rw [hinfinity]
    exact sum_infinity hx
  · rw [hfinite]
    exact sum_canonical hx hcanonical

theorem isNaN_add (x : Float) (hy : y.isNaN = true) : (x + y).isNaN = true := by
  have hnan : y.toModel.unpack = .notANumber := isNaN_iff.mp hy
  show (x + y).toModel.unpack.isNaN = true
  rw [unpack_sum, hnan, sum, add_comm]
  show (unpack .binary64 (packedNaN .binary64)).isNaN = true
  rw [unpack_packedNaN]
  rfl

theorem isNaN_sub (hx : x.isNaN = true) (y : Float) : (x - y).isNaN = true := by
  have hnan : x.toModel.unpack = .notANumber := isNaN_iff.mp hx
  show (unpack .binary64 (pack .binary64
    (UnpackedFloat.sub .binary64 x.toModel.unpack y.toModel.unpack))).isNaN = true
  rw [hnan, show UnpackedFloat.sub .binary64 .notANumber y.toModel.unpack = .notANumber by
    cases y.toModel.unpack <;> rfl]
  show (unpack .binary64 (packedNaN .binary64)).isNaN = true
  rw [unpack_packedNaN]
  rfl

/-- What is not below a bound above zero is not below it together with something not negative. -/
theorem not_add_lt (hx : ¬x < 0.0) (hz : 0.0 < z) (hy : ¬y < z) : ¬x + y < z := by
  intro hlt
  cases hnan : y.isNaN with
  | true => cases (isNaN_add x hnan).symm.trans (lt_iff_rank.mp hlt).1
  | false =>
    have hpos := (lt_or_lt hz hnan).resolve_right hy
    exact (lt_or_lt hlt hnan).elim (not_add_lt_self hx hpos) hy

/-- What is left of a double less itself is not negative. -/
theorem not_add_neg_lt (x : Float) : ¬x + -x < 0.0 := by
  have hsum : (x + -x).toModel.unpack =
      unpack .binary64 (pack .binary64 (add .binary64 x.toModel.unpack x.toModel.unpack.neg)) := by
    rw [← unpack_neg]
    rfl
  rw [not_lt_zero_iff, hsum]
  refine .pack ?_
  obtain hnan | hzero := add_neg x.toModel.unpack
  · rw [hnan]
    exact .notANumber
  · rw [hzero]
    exact .zero _

theorem not_add_lt_zero (hx : ¬x < 0.0) (hy : ¬y < 0.0) : ¬x + y < 0.0 := by
  rw [not_lt_zero_iff] at hx hy ⊢
  exact (hx.add hy).pack

theorem not_mul_lt_zero (hx : ¬x < 0.0) (hy : ¬y < 0.0) : ¬x * y < 0.0 := by
  rw [not_lt_zero_iff] at hx hy ⊢
  exact (hx.mul hy).pack

end Bounds

end SwingTrader.Double
