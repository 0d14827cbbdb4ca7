import Mathlib
import SwingTrader.Arithmetic

/-!
# SwingTrader — facts about doubles

* `Double.add_neg_self` — a double less itself is zero, unless there is nothing
  finite to cancel;
* `Double.le_of_lt`, `Double.not_le_of_lt` — how `<` and `≤` go together, where
  some doubles compare with nothing;
* `Double.lt_iff_rank`, `Double.le_iff_rank`, `Double.beq_iff_rank` — all doubles but NaN
  are in a line, and `Double.lt_or_lt` what that means for `<`;
* `Double.neg_lt_neg_iff` — negation turns the line round.
-/

namespace SwingTrader.Double

open Float.Model (Format UnpackedFloat)
open Float.Model.UnpackedFloat

/-! ## Negation -/

/-- A double that is written down again is read the same. -/
theorem unpack_pack_unpack (bits : BitVec Format.binary64.numBits) :
    unpack .binary64 (pack .binary64 (unpack .binary64 bits)) = unpack .binary64 bits := by
  rw [pack_unpack]
  split
  next hnan =>
    -- all NaNs are written alike
    have hfields : unpackExponent bits = -1#_ ∧ unpackMantissa bits ≠ 0#_ :=
      of_decide_eq_true hnan
    rw [unpack_packedNaN, unpack, if_pos hfields.1, if_neg hfields.2]
  next => rfl

/-- The double of the other sign. -/
theorem unpack_packComponents_neg (bits : BitVec Format.binary64.numBits) :
    unpack .binary64 (packComponents .binary64 (-Sign.ofBitVec (unpackSign bits))
      (unpackExponent bits) (unpackMantissa bits)) = (unpack .binary64 bits).neg := by
  unfold unpack
  simp only [unpackSign_packComponents, Sign.ofBitVec_toBitVec, unpackExponent_packComponents,
    unpackMantissa_packComponents]
  split_ifs <;> rfl

/-- Nothing is lost when a double is negated. -/
theorem unpack_neg (x : Float.Model) : (-x).unpack = x.unpack.neg := by
  show unpack .binary64 (pack .binary64 (unpack .binary64 x.toBits.toBitVec).neg) =
    (unpack .binary64 x.toBits.toBitVec).neg
  rw [← unpack_packComponents_neg, unpack_pack_unpack]

/-- A number and its negation add up to a positive zero, or are no numbers to add. -/
theorem add_neg (x : UnpackedFloat) :
    add .binary64 x x.neg = .notANumber ∨ add .binary64 x x.neg = .zero .positive := by
  cases x with
  | notANumber => exact .inl rfl
  | infinity sign => cases sign <;> exact .inl rfl
  | zero sign => cases sign <;> exact .inr rfl
  | finite sign mantissa exponent hpos =>
    right
    -- the two mantissas are aligned already, and differ in their sign alone
    have hcancel : ∀ n : Int, sign.apply n + (-sign).apply n = 0 := by
      intro n
      cases sign
      · exact Int.add_left_neg n
      · exact Int.add_right_neg n
    simp only [UnpackedFloat.add, UnpackedFloat.neg, UnpackedFloat.normalize, hcancel]
    rfl

/-- A double and its negation cancel, unless there is nothing finite to cancel. -/
theorem add_neg_self {x : Float} (h : (x + -x).isFinite) : x + -x = 0.0 := by
  have hsum : x + -x = .ofModel (.pack (add .binary64 x.toModel.unpack x.toModel.unpack.neg)) := by
    rw [← unpack_neg]
    rfl
  obtain hnan | hzero := add_neg x.toModel.unpack
  · rw [hsum, hnan] at h
    exact absurd h (by decide)
  · rw [hsum, hzero]
    rfl

/-! ## Order -/

/-- Two doubles compare the other way round from the other side. -/
theorem compare_swap (x y : UnpackedFloat) : y.compare x = (x.compare y).map Ordering.swap := by
  have hfinite : ∀ (m n : Nat) (e f : Int),
      (compare f e).then (compare n m) = ((compare e f).then (compare m n)).swap := by
    intro m n e f
    rw [Ordering.swap_then, Int.compare_swap, Nat.compare_swap]
  cases x with
  | notANumber => cases y <;> rfl
  | infinity sign =>
    cases sign <;> cases y with
    | infinity sign' => cases sign' <;> rfl
    | _ => rfl
  | zero sign =>
    cases y with
    | infinity sign' | finite sign' => cases sign' <;> rfl
    | _ => rfl
  | finite sign m e =>
    cases sign <;> cases y with
    | infinity sign' => cases sign' <;> rfl
    | finite sign' n f => cases sign' <;> simp [UnpackedFloat.compare, hfinite m n e f]
    | _ => rfl

/-- What is below is at most. -/
theorem le_of_lt {x y : Float} (h : x < y) : x ≤ y := by
  have hlt : (x.toModel.unpack.compare y.toModel.unpack == some .lt) = true := of_decide_eq_true h
  refine decide_eq_true ?_
  show (x.toModel.unpack.compare y.toModel.unpack).any (·.isLE) = true
  rw [eq_of_beq hlt]
  rfl

/-- Of two numbers one below the other, the other is not at most the one. -/
theorem not_le_of_lt {x y : Float} (h : x < y) : ¬y ≤ x := by
  have hlt : (x.toModel.unpack.compare y.toModel.unpack == some .lt) = true := of_decide_eq_true h
  intro hle
  have hswap : (y.toModel.unpack.compare x.toModel.unpack).any (·.isLE) = true :=
    of_decide_eq_true hle
  rw [compare_swap, eq_of_beq hlt] at hswap
  cases hswap

/-! ## Rank -/

/--
The place of a number in the line of all numbers: by sign first, then by how far it is
from zero.
-/
def rank : UnpackedFloat → ℤ ×ₗ ℤ ×ₗ ℤ
  | .infinity .negative => toLex (-2, toLex (0, 0))
  | .finite .negative mantissa exponent _ => toLex (-1, toLex (-exponent, -(mantissa : ℤ)))
  | .notANumber | .zero _ => toLex (0, toLex (0, 0))
  | .finite .positive mantissa exponent _ => toLex (1, toLex (exponent, (mantissa : ℤ)))
  | .infinity .positive => toLex (2, toLex (0, 0))

/-- Pairs are compared by their first parts, and by their second parts where those agree. -/
theorem compare_toLex {α β : Type} [LinearOrder α] [LinearOrder β] (a c : α) (b d : β) :
    compare (toLex (a, b)) (toLex (c, d)) = (compare a c).then (compare b d) := by
  rw [Prod.Lex.compare_def]
  rfl

/-- Negation turns the order of the integers around. -/
theorem compare_neg (m n : ℤ) : compare (-m) (-n) = compare n m := by
  have hanti : StrictAnti (Neg.neg : ℤ → ℤ) := fun _ _ h => neg_lt_neg h
  rw [← cmp_eq_compare, ← cmp_eq_compare]
  exact hanti.cmp_map_eq m n

theorem compare_natCast (m n : ℕ) : compare (m : ℤ) (n : ℤ) = compare m n := by
  rw [← cmp_eq_compare, ← cmp_eq_compare]
  exact Nat.strictMono_cast.cmp_map_eq m n

/-- Numbers compare as their ranks do. -/
theorem compare_eq_rank {x y : UnpackedFloat} (hx : x.isNaN = false) (hy : y.isNaN = false) :
    x.compare y = some (compare (rank x) (rank y)) := by
  cases x with
  | notANumber => cases hx
  | infinity sign =>
    cases sign <;> cases y with
    | notANumber => cases hy
    | infinity sign' | finite sign' => cases sign' <;> rfl
    | zero => rfl
  | zero sign =>
    cases y with
    | notANumber => cases hy
    | infinity sign' | finite sign' => cases sign' <;> rfl
    | zero => rfl
  | finite sign m e =>
    cases sign <;> cases y with
    | notANumber => cases hy
    | infinity sign' => cases sign' <;> rfl
    | zero => rfl
    | finite sign' n f =>
      -- of one sign, exponents and then mantissas decide; otherwise the signs do
      cases sign' <;> simp only [UnpackedFloat.compare, rank, compare_toLex, compare_neg,
        compare_natCast, Ordering.swap_then, Int.compare_swap, Nat.compare_swap] <;> rfl

/-- What is not a number compares with nothing. -/
theorem compare_eq_none {x y : UnpackedFloat} (h : x.isNaN = true ∨ y.isNaN = true) :
    x.compare y = none := by
  cases x <;> cases y <;> simp_all [UnpackedFloat.isNaN, UnpackedFloat.compare]

section Line

variable {x y z : Float}

/-- The order of doubles is that of the numbers they unpack to. -/
theorem lt_iff_compare :
    x < y ↔ x.toModel.unpack.compare y.toModel.unpack = some .lt :=
  decide_eq_true_iff.trans beq_iff_eq

theorem le_iff_compare :
    x ≤ y ↔ (x.toModel.unpack.compare y.toModel.unpack).any (·.isLE) = true :=
  decide_eq_true_iff

/-- A comparison of doubles that holds only between numbers holds as it does between their ranks. -/
theorem compare_eq_some_iff {order : Ordering} :
    x.toModel.unpack.compare y.toModel.unpack = some order ↔
      x.isNaN = false ∧ y.isNaN = false ∧
        compare (rank x.toModel.unpack) (rank y.toModel.unpack) = order := by
  cases hx : x.isNaN with
  | true => simp [compare_eq_none (x := x.toModel.unpack) (.inl hx)]
  | false =>
    cases hy : y.isNaN with
    | true => simp [compare_eq_none (y := y.toModel.unpack) (.inr hy)]
    | false => simp [compare_eq_rank (x := x.toModel.unpack) hx hy]

/-- A number is below another if its place in the line is. -/
theorem lt_iff_rank :
    x < y ↔ x.isNaN = false ∧ y.isNaN = false ∧ rank x.toModel.unpack < rank y.toModel.unpack := by
  rw [lt_iff_compare, compare_eq_some_iff, compare_lt_iff_lt]

/-- Two numbers are equal if they have the same place in the line, as the two zeros have. -/
theorem beq_iff_rank :
    (x == y) = true ↔
      x.isNaN = false ∧ y.isNaN = false ∧ rank x.toModel.unpack = rank y.toModel.unpack := by
  have heq : (x == y) = true ↔ x.toModel.unpack.compare y.toModel.unpack = some .eq :=
    beq_iff_eq (a := x.toModel.unpack.compare y.toModel.unpack) (b := some .eq)
  rw [heq, compare_eq_some_iff, compare_eq_iff_eq]

/-- A number is at most another if its place in the line is. -/
theorem le_iff_rank :
    x ≤ y ↔ x.isNaN = false ∧ y.isNaN = false ∧ rank x.toModel.unpack ≤ rank y.toModel.unpack := by
  rw [le_iff_compare]
  cases hx : x.isNaN with
  | true => simp [compare_eq_none (x := x.toModel.unpack) (.inl hx)]
  | false =>
    cases hy : y.isNaN with
    | true => simp [compare_eq_none (y := y.toModel.unpack) (.inr hy)]
    | false =>
      simp [compare_eq_rank (x := x.toModel.unpack) hx hy, Ordering.isLE_iff_ne_gt,
        ← compare_le_iff_le]

/-- No double is below itself. -/
theorem lt_irrefl : ¬x < x := fun h => (lt_iff_rank.mp h).2.2.ne rfl

theorem lt_trans (hxy : x < y) (hyz : y < z) : x < z := by
  obtain ⟨hx, -, hlt⟩ := lt_iff_rank.mp hxy
  obtain ⟨-, hz, hlt'⟩ := lt_iff_rank.mp hyz
  exact lt_iff_rank.mpr ⟨hx, hz, hlt.trans hlt'⟩

theorem le_refl (hx : x.isNaN = false) : x ≤ x :=
  le_iff_rank.mpr ⟨hx, hx, le_rfl⟩

theorem le_trans (hxy : x ≤ y) (hyz : y ≤ z) : x ≤ z := by
  obtain ⟨hx, -, hle⟩ := le_iff_rank.mp hxy
  obtain ⟨-, hz, hle'⟩ := le_iff_rank.mp hyz
  exact le_iff_rank.mpr ⟨hx, hz, hle.trans hle'⟩

theorem lt_of_lt_of_le (hxy : x < y) (hyz : y ≤ z) : x < z := by
  obtain ⟨hx, -, hlt⟩ := lt_iff_rank.mp hxy
  obtain ⟨-, hz, hle⟩ := le_iff_rank.mp hyz
  exact lt_iff_rank.mpr ⟨hx, hz, hlt.trans_le hle⟩

theorem lt_of_le_of_lt (hxy : x ≤ y) (hyz : y < z) : x < z := by
  obtain ⟨hx, -, hle⟩ := le_iff_rank.mp hxy
  obtain ⟨-, hz, hlt⟩ := lt_iff_rank.mp hyz
  exact lt_iff_rank.mpr ⟨hx, hz, hle.trans_lt hlt⟩

/-- Any number is above the lesser or below the greater of two. -/
theorem lt_or_lt (h : x < z) (hy : y.isNaN = false) : x < y ∨ y < z := by
  obtain ⟨hx, hz, hlt⟩ := lt_iff_rank.mp h
  obtain hlt' | hle := lt_or_ge (rank x.toModel.unpack) (rank y.toModel.unpack)
  · exact .inl (lt_iff_rank.mpr ⟨hx, hy, hlt'⟩)
  · exact .inr (lt_iff_rank.mpr ⟨hy, hz, hle.trans_lt hlt⟩)

/-- What is finite is a number. -/
theorem isNaN_of_isFinite (h : x.isFinite = true) : x.isNaN = false := by
  have hfinite : x.toModel.unpack.isFinite = true := h
  show x.toModel.unpack.isNaN = false
  cases hx : x.toModel.unpack with
  | notANumber =>
    rw [hx] at hfinite
    cases hfinite
  | infinity | zero | finite => rfl

/-- Any two numbers can be compared. -/
theorem lt_of_not_le (hx : x.isNaN = false) (hy : y.isNaN = false) (h : ¬y ≤ x) : x < y := by
  rw [le_iff_rank, not_and, not_and] at h
  exact lt_iff_rank.mpr ⟨hx, hy, not_le.mp (h hy hx)⟩

/-- Numbers that are at most each other are equal. -/
theorem beq_of_le (hxy : x ≤ y) (hyx : y ≤ x) : (x == y) = true := by
  obtain ⟨hx, hy, hle⟩ := le_iff_rank.mp hxy
  exact beq_iff_rank.mpr ⟨hx, hy, le_antisymm hle (le_iff_rank.mp hyx).2.2⟩

/-- Of two numbers, one that is not below the other is at least the other. -/
theorem le_of_not_lt (hx : x.isNaN = false) (hy : y.isNaN = false) (h : ¬y < x) : x ≤ y := by
  rw [lt_iff_rank, not_and, not_and] at h
  exact le_iff_rank.mpr ⟨hx, hy, not_lt.mp (h hy hx)⟩

end Line

/-! ## Order of negations -/

/-- Negation turns a comparison round. -/
theorem compare_neg_neg (x y : UnpackedFloat) : x.neg.compare y.neg = y.compare x := by
  rw [compare_swap x y]
  cases x with
  | notANumber => cases y <;> rfl
  | infinity sign =>
    cases sign <;> cases y with
    | infinity sign' | finite sign' => cases sign' <;> rfl
    | _ => rfl
  | zero sign =>
    cases y with
    | infinity sign' | finite sign' => cases sign' <;> rfl
    | _ => rfl
  | finite sign m e =>
    cases y with
    | notANumber | zero => cases sign <;> rfl
    | infinity sign' => cases sign <;> cases sign' <;> rfl
    | finite sign' n f =>
      cases sign <;> cases sign'
      -- of two negative numbers, the one farther from zero comes first
      · exact congrArg some Ordering.swap_swap.symm
      · rfl
      · rfl
      · rfl

/-- Negating a double negates the number it unpacks to. -/
theorem unpack_toModel_neg (x : Float) : (-x).toModel.unpack = x.toModel.unpack.neg :=
  unpack_neg x.toModel

/-- Negation makes and breaks no numbers. -/
theorem isNaN_neg (x : Float) : (-x).isNaN = x.isNaN := by
  show (-x).toModel.unpack.isNaN = x.toModel.unpack.isNaN
  rw [unpack_toModel_neg]
  cases x.toModel.unpack <;> rfl

/-- Negation turns the order of the doubles around. -/
theorem neg_lt_neg_iff {x y : Float} : -x < -y ↔ y < x := by
  rw [lt_iff_compare, lt_iff_compare, unpack_toModel_neg, unpack_toModel_neg, compare_neg_neg]

end SwingTrader.Double
