import SwingTrader.Pivot.Search
import SwingTrader.Proofs.Double

/-!
# SwingTrader — the first extreme of a stretch

What a candidate says about the points it was found among: it is the first of
the most extreme ones, and its confirmations count the points behind it that
fall short of it.

* `FirstExtreme` — a point with nothing as extreme before it and nothing more
  extreme behind it;
* `FirstExtreme.observeAll`, `exists_firstExtreme` — a search finds the first
  extreme of its points and nothing else;
* `IsReady`, `ready_iff` — when the candidate of a stretch has its confirmations.
-/

namespace SwingTrader

/-! ## More extreme than -/

namespace PivotKind

variable {kind : PivotKind} {a b c : Float}

theorem isNaN_of_isBeyond (h : kind.isBeyond a b = true) : a.isNaN = false ∧ b.isNaN = false := by
  cases kind with
  | high => exact ⟨(Double.lt_iff_rank.mp (of_decide_eq_true h)).2.1,
      (Double.lt_iff_rank.mp (of_decide_eq_true h)).1⟩
  | low => exact ⟨(Double.lt_iff_rank.mp (of_decide_eq_true h)).1,
      (Double.lt_iff_rank.mp (of_decide_eq_true h)).2.1⟩

theorem not_isBeyond_self : ¬kind.isBeyond a a = true := by
  cases kind <;> exact fun h => Double.lt_irrefl (of_decide_eq_true h)

theorem isBeyond_trans (hab : kind.isBeyond a b = true) (hbc : kind.isBeyond b c = true) :
    kind.isBeyond a c = true := by
  cases kind with
  | high => exact decide_eq_true (Double.lt_trans (of_decide_eq_true hbc) (of_decide_eq_true hab))
  | low => exact decide_eq_true (Double.lt_trans (of_decide_eq_true hab) (of_decide_eq_true hbc))

theorem not_isBeyond_swap (h : kind.isBeyond a b = true) : ¬kind.isBeyond b a = true :=
  fun h' => not_isBeyond_self (isBeyond_trans h h')

/--
What goes beyond one number but not beyond another goes as far as the other, and that
beyond the one.
-/
theorem isBeyond_of_not_isBeyond (h : kind.isBeyond a c = true) (hb : b.isNaN = false)
    (hab : ¬kind.isBeyond a b = true) : kind.isBeyond b c = true := by
  cases kind with
  | high =>
    obtain hcb | hba := Double.lt_or_lt (of_decide_eq_true h) hb
    · exact decide_eq_true hcb
    · exact absurd (decide_eq_true hba) hab
  | low =>
    obtain hab' | hbc := Double.lt_or_lt (of_decide_eq_true h) hb
    · exact absurd (decide_eq_true hab') hab
    · exact decide_eq_true hbc

/-- What falls short of a value is not equal to it. -/
theorem beq_of_isBeyond (h : kind.isBeyond a b = true) : (b == a) = false := by
  rw [Bool.eq_false_iff]
  intro heq
  obtain ⟨-, -, hrank⟩ := Double.beq_iff_rank.mp heq
  cases kind with
  | high => exact (Double.lt_iff_rank.mp (of_decide_eq_true h)).2.2.ne hrank
  | low => exact (Double.lt_iff_rank.mp (of_decide_eq_true h)).2.2.ne hrank.symm

end PivotKind

/-! ## The first extreme -/

/-- The value of a point is less extreme than a given one. -/
def Point.fallsShort (kind : PivotKind) (value : Float) (point : Point) : Bool :=
  kind.isBeyond value (point.value kind)

/-- A point has no value, or one that falls short of a given one. -/
def Point.IsShort (kind : PivotKind) (value : Float) (point : Point) : Prop :=
  (point.value kind).isNaN = true ∨ point.fallsShort kind value = true

/-- A point that is short of a value does not have it. -/
theorem Point.IsShort.beq {kind : PivotKind} {value : Float} {point : Point}
    (h : point.IsShort kind value) : (point.value kind == value) = false := by
  obtain hnan | hshort := h
  · rw [Bool.eq_false_iff]
    intro heq
    cases hnan.symm.trans (Double.beq_iff_rank.mp heq).1
  · exact PivotKind.beq_of_isBeyond hshort

/--
The first of the most extreme points of a stretch: every point before it is short
of it, and none behind it goes beyond it.
-/
structure FirstExtreme (kind : PivotKind) (points : List Point) where
  before : List Point
  point : Point
  after : List Point
  split : points = before ++ point :: after
  isNumber : (point.value kind).isNaN = false
  short : ∀ earlier ∈ before, earlier.IsShort kind (point.value kind)
  within : ∀ later ∈ after, ¬kind.isBeyond (later.value kind) (point.value kind) = true

namespace FirstExtreme

variable {kind : PivotKind} {points : List Point}

/-- The points behind that fall short of it. -/
def answers (extreme : FirstExtreme kind points) : Nat :=
  extreme.after.countP (Point.fallsShort kind (extreme.point.value kind))

/-- The candidate that it is, when the stretch begins at a position. -/
def candidate (extreme : FirstExtreme kind points) (start : Nat) : Candidate where
  position := start + extreme.before.length
  index := extreme.point.index
  value := extreme.point.value kind
  confirmations := extreme.answers + 1

/-- Nothing in the stretch goes beyond its first extreme. -/
theorem not_isBeyond (extreme : FirstExtreme kind points) {other : Point} (h : other ∈ points) :
    ¬kind.isBeyond (other.value kind) (extreme.point.value kind) = true := by
  rw [extreme.split] at h
  obtain hbefore | rfl | hafter := by simpa using h
  · obtain hnan | hshort := extreme.short other hbefore
    · intro hbeyond
      rw [(PivotKind.isNaN_of_isBeyond hbeyond).1] at hnan
      cases hnan
    · exact PivotKind.not_isBeyond_swap hshort
  · exact PivotKind.not_isBeyond_self
  · exact extreme.within other hafter

/-- The extreme stands behind the points before it. -/
theorem getElem?_before (extreme : FirstExtreme kind points) :
    points[extreme.before.length]? = some extreme.point := by
  obtain ⟨before, point, after, rfl, -⟩ := extreme
  simp

/-- Behind the extreme are the points after it. -/
theorem drop_before (extreme : FirstExtreme kind points) :
    points.drop (extreme.before.length + 1) = extreme.after := by
  obtain ⟨before, point, after, rfl, -⟩ := extreme
  simp [List.drop_append]

/-- A point of the stretch that comes before its first extreme is short of it. -/
theorem isShort_of_lt (extreme : FirstExtreme kind points) {index : Nat} {earlier : Point}
    (h : points[index]? = some earlier) (hlt : index < extreme.before.length) :
    earlier.IsShort kind (extreme.point.value kind) := by
  rw [extreme.split, List.getElem?_append_left hlt] at h
  exact extreme.short earlier (List.mem_of_getElem? h)

/-- An extreme has no more answers than there are points behind it. -/
theorem answers_le (extreme : FirstExtreme kind points) :
    extreme.before.length + 1 + extreme.answers ≤ points.length := by
  have hlength : points.length = extreme.before.length + (extreme.after.length + 1) := by
    rw [← List.length_cons, ← List.length_append, ← extreme.split]
  have hanswers : extreme.answers ≤ extreme.after.length := List.countP_le_length
  omega

end FirstExtreme

/-! ## What a search finds -/

namespace Candidate

variable {kind : PivotKind}

/-- A candidate keeps its value or has that of the point just observed. -/
theorem value_of_observe {candidate : Option Candidate} {position : Nat} {point : Point}
    {next : Candidate} (h : observe kind candidate position point = some next) :
    ((point.value kind).isNaN = false ∧ next.value = point.value kind) ∨
      ∃ current, candidate = some current ∧ next.value = current.value := by
  unfold observe at h
  dsimp only at h
  split at h
  · exact .inr ⟨next, h, rfl⟩
  next hnumber =>
    rw [Bool.not_eq_true] at hnumber
    split at h
    · injection h with h
      exact .inl ⟨hnumber, h ▸ rfl⟩
    next current =>
      split at h
      · injection h with h
        exact .inr ⟨current, rfl, h ▸ rfl⟩
      · split at h <;> injection h with h
        · exact .inl ⟨hnumber, h ▸ rfl⟩
        · exact .inr ⟨current, rfl, h ▸ rfl⟩

/-- A candidate that a value goes beyond is still one after points that are short of the value. -/
theorem observeAll_of_isShort {value : Float} (points : List Point) :
    ∀ {candidate : Option Candidate} (position : Nat),
      (∀ current ∈ candidate, kind.isBeyond value current.value = true) →
      (∀ point ∈ points, point.IsShort kind value) →
      ∀ next ∈ observeAll kind candidate position points,
        kind.isBeyond value next.value = true := by
  induction points with
  | nil => exact fun _ hcandidate _ => hcandidate
  | cons point rest ih =>
    intro candidate position hcandidate hshort
    refine ih (position + 1) ?_ fun later hlater => hshort later (List.mem_cons_of_mem _ hlater)
    intro next hnext
    obtain ⟨hnumber, hvalue⟩ | ⟨current, hcurrent, hvalue⟩ := value_of_observe hnext
    · rw [hvalue]
      exact (hshort point List.mem_cons_self).resolve_left (Bool.eq_false_iff.mp hnumber)
    · rw [hvalue]
      exact hcandidate current hcurrent

/-- A point beyond a candidate takes its place. -/
theorem observe_of_isBeyond {candidate : Option Candidate} {point : Point} (position : Nat)
    (hnumber : (point.value kind).isNaN = false)
    (hbeyond : ∀ current ∈ candidate, kind.isBeyond (point.value kind) current.value = true) :
    observe kind candidate position point =
      some { position, index := point.index, value := point.value kind } := by
  cases candidate with
  | none => simp only [observe, hnumber, Bool.false_eq_true, ite_false]
  | some current =>
    have hcurrent := hbeyond current rfl
    simp only [observe, hnumber, hcurrent, PivotKind.not_isBeyond_swap hcurrent,
      Bool.false_eq_true, ite_false, ite_true]

/-- A candidate that no point goes beyond stays, and counts those that fall short of it. -/
theorem observeAll_of_within (points : List Point) :
    ∀ (position index : Nat) (value : Float) (confirmations start : Nat),
      (∀ point ∈ points, ¬kind.isBeyond (point.value kind) value = true) →
      observeAll kind (some ⟨position, index, value, confirmations⟩) start points =
        some ⟨position, index, value,
          points.countP (Point.fallsShort kind value) + confirmations⟩ := by
  induction points with
  | nil => simp [observeAll]
  | cons point rest ih =>
    intro position index value confirmations start hwithin
    have hpoint := hwithin point List.mem_cons_self
    have hrest := fun later h => hwithin later (List.mem_cons_of_mem point h)
    -- a point that falls short confirms; an equal or unknown one does not count
    by_cases hshort : kind.isBeyond value (point.value kind) = true
    · have hobserve : observe kind (some ⟨position, index, value, confirmations⟩) start point =
          some ⟨position, index, value, confirmations + 1⟩ := by
        simp only [observe, (PivotKind.isNaN_of_isBeyond hshort).2, hshort, Bool.false_eq_true,
          ite_false, ite_true]
      rw [observeAll, hobserve, ih _ _ _ _ _ hrest,
        List.countP_cons_of_pos (p := Point.fallsShort kind value) hshort, Nat.add_right_comm,
        Nat.add_assoc]
    · have hobserve : observe kind (some ⟨position, index, value, confirmations⟩) start point =
          some ⟨position, index, value, confirmations⟩ := by
        simp only [observe, hshort, hpoint, ite_false, ite_self, Bool.false_eq_true]
      rw [observeAll, hobserve, ih _ _ _ _ _ hrest,
        List.countP_cons_of_neg (p := Point.fallsShort kind value) hshort]

/-- Points without a value leave no candidate. -/
theorem observeAll_of_isNaN (points : List Point) :
    ∀ position : Nat, (∀ point ∈ points, (point.value kind).isNaN = true) →
      observeAll kind none position points = none := by
  induction points with
  | nil => exact fun _ _ => rfl
  | cons point rest ih =>
    intro position hnan
    have hobserve : observe kind none position point = none := by
      simp only [observe, hnan point List.mem_cons_self, ite_true]
    rw [observeAll, hobserve]
    exact ih _ fun later h => hnan later (List.mem_cons_of_mem point h)

end Candidate

/-- A search over a stretch finds its first extreme. -/
theorem FirstExtreme.observeAll {kind : PivotKind} {points : List Point}
    (extreme : FirstExtreme kind points) (start : Nat) :
    Candidate.observeAll kind none start points = some (extreme.candidate start) := by
  obtain ⟨before, point, after, rfl, hnumber, hshort, hwithin⟩ := extreme
  have hbeyond : ∀ current ∈ Candidate.observeAll kind none start before,
      kind.isBeyond (point.value kind) current.value = true :=
    Candidate.observeAll_of_isShort before start (by simp) hshort
  rw [Candidate.observeAll_append, Candidate.observeAll,
    Candidate.observe_of_isBeyond _ hnumber hbeyond,
      Candidate.observeAll_of_within _ _ _ _ _ _ hwithin]
  rfl

/-- A stretch with a value in it has a first extreme. -/
theorem nonempty_firstExtreme (kind : PivotKind) (points : List Point) :
    (∃ point ∈ points, (point.value kind).isNaN = false) →
      Nonempty (FirstExtreme kind points) := by
  induction points with
  | nil => simp
  | cons point rest ih =>
    intro hnumber
    by_cases hrest : ∃ other ∈ rest, (other.value kind).isNaN = false
    · obtain ⟨extreme⟩ := ih hrest
      -- the first point either comes before the extreme of the rest or takes its place
      by_cases hshort : point.IsShort kind (extreme.point.value kind)
      · exact ⟨{ extreme with
          before := point :: extreme.before
          split := by rw [List.cons_append, ← extreme.split]
          short := List.forall_mem_cons.mpr ⟨hshort, extreme.short⟩ }⟩
      · obtain ⟨hpoint, hnot⟩ := not_or.mp hshort
        refine ⟨⟨[], point, rest, rfl, Bool.eq_false_iff.mpr hpoint, by simp, ?_⟩⟩
        intro later hlater hbeyond
        -- what goes beyond the first point goes beyond the extreme of the rest as well
        refine hnot (PivotKind.isBeyond_of_not_isBeyond hbeyond extreme.isNumber ?_)
        exact extreme.not_isBeyond hlater
    · simp only [not_exists, not_and, Bool.not_eq_false] at hrest
      obtain ⟨other, hother, hvalue⟩ := hnumber
      obtain rfl | hmem := List.mem_cons.mp hother
      · refine ⟨⟨[], other, rest, rfl, hvalue, by simp, ?_⟩⟩
        intro later hlater hbeyond
        cases (PivotKind.isNaN_of_isBeyond hbeyond).1.symm.trans (hrest later hlater)
      · rw [hrest other hmem] at hvalue
        cases hvalue

/-- A candidate found in a stretch is its first extreme. -/
theorem exists_firstExtreme {kind : PivotKind} {points : List Point} {start : Nat}
    {found : Candidate} (h : Candidate.observeAll kind none start points = some found) :
    ∃ extreme : FirstExtreme kind points, found = extreme.candidate start := by
  by_cases hnumber : ∃ point ∈ points, (point.value kind).isNaN = false
  · obtain ⟨extreme⟩ := nonempty_firstExtreme kind points hnumber
    exact ⟨extreme, Option.some.inj (h.symm.trans (extreme.observeAll start))⟩
  · simp only [not_exists, not_and, Bool.not_eq_false] at hnumber
    rw [Candidate.observeAll_of_isNaN points start hnumber] at h
    cases h

/-! ## Readiness -/

/-- The first extreme of a stretch has at least two points behind it that fall short of it. -/
def IsReady (kind : PivotKind) (points : List Point) : Prop :=
  ∃ extreme : FirstExtreme kind points, 2 ≤ extreme.answers

/-- A stretch is ready when the candidate found in it has its confirmations. -/
theorem ready_iff {kind : PivotKind} {points : List Point} (start : Nat) :
    IsReady kind points ↔
      ∃ found, Candidate.observeAll kind none start points = some found ∧
        requiredConfirmations ≤ found.confirmations := by
  constructor
  · rintro ⟨extreme, hanswers⟩
    exact ⟨extreme.candidate start, extreme.observeAll start, Nat.succ_le_succ hanswers⟩
  · rintro ⟨found, hfound, hconfirmations⟩
    obtain ⟨extreme, rfl⟩ := exists_firstExtreme hfound
    exact ⟨extreme, Nat.le_of_succ_le_succ hconfirmations⟩

end SwingTrader
