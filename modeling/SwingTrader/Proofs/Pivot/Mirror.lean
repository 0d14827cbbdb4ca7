import SwingTrader.Proofs.Pivot.Record

/-!
# SwingTrader — highs and lows are treated alike

Seen upside down, a series has its highs where its lows were. The detector does not
notice: fed the mirror image of every bar it does the same things in the other
direction, so that its whole state is the mirror image of the one it would have had,
snapshots included.

* `Point.mirror`, `PivotDetector.mirror` — bars and detectors upside down;
* `PivotKind.isBeyond_opposite_neg` — which of two values is more extreme, seen from below;
* `PivotDetector.push_mirror` — one push on the mirror image is the mirror image of the push;
* `PivotDetector.mirrored_of_pushAll` — what that says of the pivots, after any pushes.
-/

namespace SwingTrader

/-! ## Upside down -/

/-- A bar upside down: the negated low is the high. -/
def Point.mirror (point : Point) : Point where
  index := point.index
  high := -point.low
  low := -point.high

/-- What is searched for upside down. -/
def SearchMode.mirror : SearchMode → SearchMode
  | both => both
  | searchingLow => searchingHigh
  | searchingHigh => searchingLow

/-- A candidate upside down. -/
def Candidate.mirror (candidate : Candidate) : Candidate :=
  { candidate with value := -candidate.value }

/-- A search upside down: the two candidates change places. -/
def Search.mirror (search : Search) : Search where
  mode := search.mode.mirror
  high := search.low.map Candidate.mirror
  low := search.high.map Candidate.mirror

/-- A pivot upside down, with the searches before it. -/
def Pivot.mirror (pivot : Pivot) : Pivot :=
  { pivot with
    kind := pivot.kind.opposite
    value := -pivot.value
    before := pivot.before.mirror }

/-- A detector upside down, with everything it remembers. -/
def PivotDetector.mirror (detector : PivotDetector) : PivotDetector where
  search := detector.search.mirror
  pivots := detector.pivots.map Pivot.mirror
  points := detector.points.map Point.mirror

/-- Negated, what goes beyond in one direction goes beyond in the other. -/
theorem PivotKind.isBeyond_opposite_neg (kind : PivotKind) (a b : Float) :
    kind.opposite.isBeyond (-a) (-b) = kind.isBeyond a b := by
  cases kind with
  | high => exact decide_eq_decide.mpr Double.neg_lt_neg_iff
  | low => exact decide_eq_decide.mpr Double.neg_lt_neg_iff

theorem Point.value_mirror (point : Point) (kind : PivotKind) :
    point.mirror.value kind.opposite = -point.value kind := by
  cases kind <;> rfl

namespace SearchMode

/-- A search upside down looks for the other kind. -/
theorem accepts_mirror (mode : SearchMode) (kind : PivotKind) :
    mode.mirror.accepts kind.opposite = mode.accepts kind := by
  cases mode <;> cases kind <;> rfl

/-- The last kind found upside down is the other one. -/
theorem previous?_mirror (mode : SearchMode) (kind : PivotKind) :
    (mode.mirror.previous? == some kind.opposite) = (mode.previous? == some kind) := by
  cases mode <;> cases kind <;> rfl

theorem mirror_after (kind : PivotKind) : (after kind).mirror = after kind.opposite := by
  cases kind <;> rfl

end SearchMode

/-! ## Candidates and searches -/

namespace Candidate

/-- One more point makes of a candidate upside down what it makes of the candidate. -/
theorem observe_mirror (kind : PivotKind) (candidate : Option Candidate) (position : Nat)
    (point : Point) :
    observe kind.opposite (candidate.map mirror) position point.mirror =
      (observe kind candidate position point).map mirror := by
  cases candidate with
  | none =>
    simp only [observe, Point.value_mirror, Double.isNaN_neg, Option.map_none]
    split <;> rfl
  | some current =>
    -- both comparisons come out as they did
    simp only [observe, Point.value_mirror, Double.isNaN_neg, Option.map_some, mirror,
      PivotKind.isBeyond_opposite_neg]
    split_ifs <;> rfl

/-- Any number of points make of a candidate upside down what they make of the candidate. -/
theorem observeAll_mirror (kind : PivotKind) (points : List Point) :
    ∀ (candidate : Option Candidate) (position : Nat),
      observeAll kind.opposite (candidate.map mirror) position (points.map Point.mirror) =
        (observeAll kind candidate position points).map mirror := by
  induction points with
  | nil => exact fun _ _ => rfl
  | cons point rest ih =>
    intro candidate position
    rw [List.map_cons, observeAll, observeAll, observe_mirror, ih]

end Candidate

namespace Search

/-- The candidate for the other kind is the candidate upside down. -/
theorem candidate_mirror (search : Search) (kind : PivotKind) :
    search.mirror.candidate kind.opposite = (search.candidate kind).map Candidate.mirror := by
  cases kind <;> rfl

/-- Searching upside down finds in both directions what searching finds. -/
theorem observeAll_mirror (search : Search) (position : Nat) (points : List Point) :
    search.mirror.observeAll position (points.map Point.mirror) =
      (search.observeAll position points).mirror := by
  have hhigh := Candidate.observeAll_mirror .low points search.low position
  have hlow := Candidate.observeAll_mirror .high points search.high position
  simp only [PivotKind.opposite] at hhigh hlow
  simp only [observeAll, mirror, hhigh, hlow]

/-- Upside down the same candidate is ready, for the other kind. -/
theorem ready?_mirror (search : Search) (kind : PivotKind) :
    search.mirror.ready? kind.opposite = (search.ready? kind).map Candidate.mirror := by
  rw [ready?, ready?, candidate_mirror,
    show search.mirror.mode.accepts kind.opposite = search.mode.accepts kind from
      search.mode.accepts_mirror kind]
  split
  · -- a candidate upside down has as many confirmations
    rw [Option.filter_map]
    rfl
  · rfl

end Search

/-! ## Detectors -/

namespace PivotDetector

theorem breaks_mirror (search : Search) (pivot : Pivot) :
    breaks search.mirror pivot.mirror = breaks search pivot := by
  have hcandidate : (search.mirror.candidate pivot.mirror.kind) =
      (search.candidate pivot.kind).map Candidate.mirror := search.candidate_mirror pivot.kind
  have hmode : (search.mirror.mode.previous? == some pivot.mirror.kind) =
      (search.mode.previous? == some pivot.kind) := search.mode.previous?_mirror pivot.kind
  rw [breaks, breaks, hcandidate, hmode, Option.any_map]
  simp only [Candidate.mirror, Pivot.mirror, PivotKind.isBeyond_opposite_neg]

/-- To take a pivot back upside down starts the same search over. -/
theorem searchWithout_mirror (points : Array Point) (pivot : Pivot) :
    searchWithout (points.map Point.mirror) pivot.mirror = (searchWithout points pivot).mirror := by
  rw [searchWithout, searchWithout, ← Search.observeAll_mirror, Array.toList_map, List.map_drop]
  rfl

/-- The same pivots are dropped upside down. -/
theorem dropBroken_mirror (points : Array Point) (pivots : List Pivot) :
    ∀ search : Search,
      dropBroken (points.map Point.mirror) search.mirror (pivots.map Pivot.mirror) =
        ((dropBroken points search pivots).1.mirror,
          (dropBroken points search pivots).2.map Pivot.mirror) := by
  induction pivots with
  | nil => exact fun _ => rfl
  | cons pivot older ih =>
    intro search
    rw [List.map_cons, dropBroken, dropBroken, breaks_mirror, searchWithout_mirror, ih]
    split <;> rfl

/-- Confirming a candidate upside down gives the confirmed detector upside down. -/
theorem confirm_mirror (detector : PivotDetector) (kind : PivotKind) (candidate : Candidate)
    (index : Nat) :
    detector.mirror.confirm kind.opposite candidate.mirror index =
      (detector.confirm kind candidate index).mirror := by
  have hrebuilt := Candidate.observeAll_mirror kind.opposite
    (detector.points.toList.drop (candidate.position + 1)) none (candidate.position + 1)
  rw [List.map_drop, ← Array.toList_map] at hrebuilt
  -- whatever was found again for the other direction, it is put back in the mirrored place
  have hsearch : ∀ found : Option Candidate,
      detector.search.mirror.withCandidate kind.opposite.opposite (found.map Candidate.mirror) =
        (detector.search.withCandidate kind.opposite found).mirror := by
    intro found
    cases kind <;> rfl
  simp only [confirm, mirror, Candidate.mirror, Option.map_none] at hrebuilt ⊢
  rw [hrebuilt, hsearch, List.map_cons, Array.size_map]
  simp only [Search.mirror, Pivot.mirror, SearchMode.mirror_after]

/-- What becomes ready behind a new pivot does so upside down as well. -/
theorem confirmFrom_mirror (detector : PivotDetector) (kind : PivotKind) (candidate : Candidate)
    (index : Nat) :
    detector.mirror.confirmFrom kind.opposite candidate.mirror index =
      (detector.confirmFrom kind candidate index).mirror := by
  -- along the recursion of the detector that is not mirrored; the other takes the same branch
  fun_induction PivotDetector.confirmFrom with
  | case1 detector kind candidate next hnext ih =>
    have hready : (detector.mirror.confirm kind.opposite candidate.mirror index).search.ready?
        kind.opposite.opposite = some next.mirror := by
      rw [confirm_mirror]
      exact (Search.ready?_mirror _ kind.opposite).trans (congrArg (Option.map _) hnext)
    rw [confirmFrom]
    split
    next found hfound =>
      obtain rfl := Option.some.inj (hready.symm.trans hfound)
      rw [confirm_mirror, ih]
    next hnone => cases hready.symm.trans hnone
  | case2 detector kind candidate hnext =>
    have hready : (detector.mirror.confirm kind.opposite candidate.mirror index).search.ready?
        kind.opposite.opposite = none := by
      rw [confirm_mirror]
      exact (Search.ready?_mirror _ kind.opposite).trans (congrArg (Option.map _) hnext)
    rw [confirmFrom]
    split
    next found hfound => cases hready.symm.trans hfound
    next => exact confirm_mirror detector kind candidate index

/-- Upside down the same is confirmed, and it fails at the same bars. -/
theorem confirmReady_mirror (detector : PivotDetector) (index : Nat) :
    detector.mirror.confirmReady index =
      ((detector.confirmReady index).1, (detector.confirmReady index).2.mirror) := by
  have hhigh : detector.mirror.search.ready? .high = (detector.search.ready? .low).map _ :=
    detector.search.ready?_mirror .low
  have hlow : detector.mirror.search.ready? .low = (detector.search.ready? .high).map _ :=
    detector.search.ready?_mirror .high
  rw [confirmReady, confirmReady, hhigh, hlow]
  cases detector.search.ready? .high with
  | none =>
    cases detector.search.ready? .low with
    | none => rfl
    | some low => exact congrArg (Prod.mk _) (detector.confirmFrom_mirror .low low index)
  | some high =>
    cases detector.search.ready? .low with
    | none => exact congrArg (Prod.mk _) (detector.confirmFrom_mirror .high high index)
    | some low => rfl

/-- A bar that is seen upside down is seen by both searches. -/
theorem observe_mirror (detector : PivotDetector) (point : Point) :
    detector.mirror.observe point.mirror = (detector.observe point).mirror := by
  have hsearch := detector.search.observeAll_mirror detector.points.size [point]
  simp only [observe, mirror, Array.size_map, Array.map_push, ← hsearch]
  rfl

theorem revert_mirror (detector : PivotDetector) :
    detector.mirror.revert = detector.revert.mirror := by
  have hdrop := dropBroken_mirror detector.points detector.pivots detector.search
  simp only [revert, mirror, hdrop]

/--
A push of a bar upside down answers alike, and leaves the mirror image of what the push
leaves.
-/
theorem push_mirror (detector : PivotDetector) (point : Point) :
    detector.mirror.push point.mirror =
      ((detector.push point).1, (detector.push point).2.mirror) := by
  rw [push, push, observe_mirror, revert_mirror, ← confirmReady_mirror]
  rfl

theorem mirror_empty : empty.mirror = empty := by
  simp [mirror, empty, Search.mirror, SearchMode.mirror]

/--
A detector that is fed everything upside down is the other one upside down, failures
included.
-/
theorem pushAll_mirror (fed : List Point) :
    ∀ detector : PivotDetector,
      detector.mirror.pushAll (fed.map Point.mirror) = (detector.pushAll fed).mirror := by
  induction fed with
  | nil => exact fun _ => rfl
  | cons point rest ih =>
    intro detector
    have hpush : (detector.mirror.push point.mirror).2 = (detector.push point).2.mirror := by
      rw [push_mirror]
    show (detector.mirror.push point.mirror).2.pushAll (rest.map Point.mirror) =
      ((detector.push point).2.pushAll rest).mirror
    rw [hpush, ih]

/-- A pivot upside down: of the other direction and with the negated value, at the same bars. -/
structure MirrorImage (pivot image : Pivot) : Prop where
  kind_eq : image.kind = pivot.kind.opposite
  value_eq : image.value = -pivot.value
  index_eq : image.index = pivot.index
  confirmedIndex_eq : image.confirmedIndex = pivot.confirmedIndex

/--
**Highs and lows are treated alike.** Fed the mirror image of every bar, a detector
answers every push as the other does, searches for the other direction, and has the
mirror images of the other's pivots on its record, one for one.
-/
theorem mirrored_of_pushAll (fed : List Point) (point : Point) :
    ((empty.pushAll (fed.map Point.mirror)).push point.mirror).1 =
        ((empty.pushAll fed).push point).1 ∧
      (empty.pushAll (fed.map Point.mirror)).mode = (empty.pushAll fed).mode.mirror ∧
      List.Forall₂ MirrorImage (empty.pushAll fed).pivots
        (empty.pushAll (fed.map Point.mirror)).pivots := by
  have hstate : empty.pushAll (fed.map Point.mirror) = (empty.pushAll fed).mirror := by
    rw [← pushAll_mirror, mirror_empty]
  rw [hstate, push_mirror]
  refine ⟨rfl, rfl, ?_⟩
  show List.Forall₂ MirrorImage _ ((empty.pushAll fed).pivots.map Pivot.mirror)
  rw [List.forall₂_map_right_iff]
  exact List.forall₂_same.mpr fun pivot _ => ⟨rfl, rfl, rfl, rfl⟩

end PivotDetector

end SwingTrader
