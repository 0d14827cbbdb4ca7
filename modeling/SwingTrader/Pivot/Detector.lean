import SwingTrader.Pivot.Search

/-!
# SwingTrader — the pivot detector

The detector is fed the bars of a series and keeps the list of confirmed pivots.
A candidate with enough confirmations becomes a pivot, and the opposite search
starts over behind it. A pivot stands only as long as no later bar goes beyond
it: the newest one is dropped when that happens, the searches are set back to
where they were before it, and the bars since are observed again.

* `PivotDetector.push` — feeds one bar: drops what it breaks, confirms what is ready;
* `PivotDetector.feed` — feeds several, up to the first failure;
* `PivotDetector.pivotAtOrBefore` — the pivot that a bar looks back on.

High and low candidates that are ready at once, before there is any pivot,
leave no order between them, and the push fails.
-/

namespace SwingTrader

/-- A confirmed pivot, and the searches as they were just before it was confirmed. -/
structure Pivot where
  kind : PivotKind
  index : Nat
  value : Float
  confirmedIndex : Nat
  position : Nat
  confirmedAt : Nat
  before : Search

/-- Why the detector cannot go on: the first high and the first low are ready at one bar. -/
inductive PivotError where
  | simultaneousPivots (index : Nat)
  deriving DecidableEq, Repr

/-- The text of the error. -/
def PivotError.message : PivotError → String
  | simultaneousPivots index => s!"high and low pivots confirmed simultaneously at bar {index}"

/-- The searches, the pivots from the newest to the oldest, and every point fed so far. -/
structure PivotDetector where
  search : Search := {}
  pivots : List Pivot := []
  points : Array Point := #[]

namespace PivotDetector

/-- The detector that has seen nothing. -/
def empty : PivotDetector := {}

/-- What is searched for. -/
def mode (detector : PivotDetector) : SearchMode :=
  detector.search.mode

/-- The number of bars fed so far. -/
def processed (detector : PivotDetector) : Nat :=
  detector.points.size

/-- The newest pivot. -/
def lastPivot? (detector : PivotDetector) : Option Pivot :=
  detector.pivots.head?

/--
The pivot of a direction with the greatest bar index up to a given one; of
equals, the one confirmed last.
-/
def pivotAtOrBefore (detector : PivotDetector) (kind : PivotKind) (index : Nat) : Option Pivot :=
  (detector.pivots.filter fun pivot => pivot.kind == kind && pivot.index ≤ index).foldl nearer none
where
  /-- Of two pivots the one with the greater bar index, the first of equals. -/
  nearer (best : Option Pivot) (pivot : Pivot) : Option Pivot :=
    match best with
    | none => some pivot
    | some nearest => if nearest.index < pivot.index then some pivot else some nearest

/-! ## Dropping broken pivots -/

/-- Whether the running extreme of a pivot's direction has gone beyond the pivot. -/
def breaks (search : Search) (pivot : Pivot) : Bool :=
  search.mode.previous? == some pivot.kind
    && (search.candidate pivot.kind).any fun candidate =>
      pivot.kind.isBeyond candidate.value pivot.value

/-- The searches as they would be had a pivot never been confirmed. -/
def searchWithout (points : Array Point) (pivot : Pivot) : Search :=
  pivot.before.observeAll (pivot.confirmedAt + 1) (points.toList.drop (pivot.confirmedAt + 1))

/-- Drops pivots, newest first, for as long as the newest one is broken. -/
def dropBroken (points : Array Point) (search : Search) : List Pivot → Search × List Pivot
  | [] => (search, [])
  | pivot :: older =>
    if breaks search pivot then dropBroken points (searchWithout points pivot) older
    else (search, pivot :: older)

/-! ## Confirming candidates -/

/-- Makes a candidate a pivot, and starts the opposite search over behind it. -/
def confirm (detector : PivotDetector) (kind : PivotKind) (candidate : Candidate) (index : Nat) :
    PivotDetector :=
  let behind := candidate.position + 1
  let rebuilt := Candidate.observeAll kind.opposite none behind (detector.points.toList.drop behind)
  { detector with
    search := { detector.search.withCandidate kind.opposite rebuilt with mode := .after kind }
    pivots :=
      { kind
        index := candidate.index
        value := candidate.value
        confirmedIndex := index
        position := candidate.position
        confirmedAt := detector.points.size - 1
        before := detector.search } :: detector.pivots }

/--
A confirmed pivot starts the search for the other kind over: its candidate is then the
best extreme behind the pivot.
-/
theorem candidate_confirm (detector : PivotDetector) (kind : PivotKind) (candidate : Candidate)
    (index : Nat) :
    (detector.confirm kind candidate index).search.candidate kind.opposite =
      Candidate.observeAll kind.opposite none (candidate.position + 1)
        (detector.points.toList.drop (candidate.position + 1)) := by
  cases kind <;> rfl

/-- The pivot that becomes ready behind a new one lies behind it, among the points fed. -/
theorem position_of_ready_confirm {detector : PivotDetector} {kind : PivotKind}
    {candidate next : Candidate} {index : Nat}
    (h : (detector.confirm kind candidate index).search.ready? kind.opposite = some next) :
    candidate.position < next.position ∧ next.position < detector.points.size := by
  have hnext := Search.candidate_of_ready h
  rw [candidate_confirm] at hnext
  rcases Candidate.position_of_observeAll _ hnext with ⟨hle, hlt⟩ | ⟨_, hnone, -⟩
  · simp only [List.length_drop, Array.length_toList] at hlt
    exact ⟨by omega, by omega⟩
  · exact absurd hnone (by simp)

/--
Confirms a candidate, and then whatever becomes ready behind it. Each further
pivot lies behind the one before it, so the points run out.
-/
def confirmFrom (detector : PivotDetector) (kind : PivotKind) (candidate : Candidate)
    (index : Nat) : PivotDetector :=
  match _h : (detector.confirm kind candidate index).search.ready? kind.opposite with
  | some next => (detector.confirm kind candidate index).confirmFrom kind.opposite next index
  | none => detector.confirm kind candidate index
termination_by detector.points.size - candidate.position
decreasing_by
  have := position_of_ready_confirm _h
  simp only [confirm]
  omega

/-- Confirms every candidate that is ready. -/
def confirmReady (detector : PivotDetector) (index : Nat) :
    Except PivotError Unit × PivotDetector :=
  match detector.search.ready? .high, detector.search.ready? .low with
  | some _, some _ => (.error (.simultaneousPivots index), detector)
  | some high, none => (.ok (), detector.confirmFrom .high high index)
  | none, some low => (.ok (), detector.confirmFrom .low low index)
  | none, none => (.ok (), detector)

/-! ## Feeding bars -/

/-- Takes a point into both searches. -/
def observe (detector : PivotDetector) (point : Point) : PivotDetector :=
  { detector with
    search := detector.search.observeAll detector.points.size [point]
    points := detector.points.push point }

/-- Drops every pivot that the points fed so far have gone beyond. -/
def revert (detector : PivotDetector) : PivotDetector :=
  let (search, pivots) := dropBroken detector.points detector.search detector.pivots
  { detector with search, pivots }

/-- Feeds one bar. A push that fails leaves the bar fed and the pivots it broke dropped. -/
def push (detector : PivotDetector) (point : Point) : Except PivotError Unit × PivotDetector :=
  (detector.observe point).revert.confirmReady point.index

/-- Feeds several bars, up to the first push that fails. -/
def feed (detector : PivotDetector) : List Point → Except PivotError Unit × PivotDetector
  | [] => (.ok (), detector)
  | point :: rest =>
    match detector.push point with
    | (.ok (), next) => next.feed rest
    | (.error error, next) => (.error error, next)

/-- How many bars are fed before the first push that fails. -/
def countFed (detector : PivotDetector) : List Point → Nat
  | [] => 0
  | point :: rest =>
    match detector.push point with
    | (.ok (), next) => next.countFed rest + 1
    | (.error _, _) => 0

/-- No more points are fed than there are. -/
theorem countFed_le_length (points : List Point) :
    ∀ detector : PivotDetector, detector.countFed points ≤ points.length := by
  induction points with
  | nil => exact fun _ => Nat.le_refl 0
  | cons point rest ih =>
    intro detector
    rw [countFed, List.length_cons]
    split
    · exact Nat.succ_le_succ (ih _)
    · exact Nat.zero_le _

/--
Feeding two lists one after the other is feeding them joined, as long as the first is
fed whole.
-/
theorem feed_append (s t : List Point) : ∀ detector : PivotDetector,
    detector.feed (s ++ t) =
      match detector.feed s with
      | (.ok (), next) => next.feed t
      | (.error error, next) => (.error error, next) := by
  induction s with
  | nil => intro detector; rfl
  | cons point rest ih =>
    intro detector
    rw [List.cons_append, feed, feed]
    split
    · exact ih _
    · rfl

end PivotDetector

end SwingTrader
