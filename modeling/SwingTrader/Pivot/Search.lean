/-!
# SwingTrader — the search for turning points

A pivot is a bar at which the price turned: no later bar went beyond it, and
enough of them stayed short of it. Two searches run side by side, for the next
high among the highs of the bars and for the next low among their lows.

* `PivotKind` — high or low, with `PivotKind.isBeyond` as "more extreme";
* `Candidate` — the first most extreme bar of a stretch, and how often it held;
* `Search` — both candidates, and which of them may become a pivot;
* `observeAll_append` — observing a stretch is observing its parts in turn.
-/

namespace SwingTrader

/-! ## Directions -/

/-- The direction in which the price turned. -/
inductive PivotKind where
  | high
  | low
  deriving DecidableEq, Repr

namespace PivotKind

/-- The other direction. -/
def opposite : PivotKind → PivotKind
  | .high => .low
  | .low => .high

/-- Whether a value is more extreme than another in a direction. NaN is never beyond anything. -/
def isBeyond (kind : PivotKind) (a b : Float) : Bool :=
  match kind with
  | .high => b < a
  | .low => a < b

@[simp] theorem opposite_opposite (kind : PivotKind) : kind.opposite.opposite = kind := by
  cases kind <;> rfl

end PivotKind

/-- Which candidates may become pivots: either one at first, then high and low in turn. -/
inductive SearchMode where
  | both
  | searchingLow
  | searchingHigh
  deriving DecidableEq, Repr

namespace SearchMode

/-- Whether a candidate of a direction may become a pivot. -/
def accepts : SearchMode → PivotKind → Bool
  | both, _ => true
  | searchingHigh, kind => kind == .high
  | searchingLow, kind => kind == .low

/-- After a pivot, its opposite is searched for. -/
def after : PivotKind → SearchMode
  | .high => searchingLow
  | .low => searchingHigh

/-- The direction of the pivot that comes before the one that is searched for. -/
def previous? : SearchMode → Option PivotKind
  | both => none
  | searchingLow => some .high
  | searchingHigh => some .low

/-- After a pivot of one kind only the other kind is looked for. -/
@[simp] theorem accepts_after (kind other : PivotKind) :
    (after kind).accepts other = (other == kind.opposite) := by
  cases kind <;> cases other <;> rfl

/-- The search after a pivot remembers its kind. -/
@[simp] theorem previous?_after (kind : PivotKind) : (after kind).previous? = some kind := by
  cases kind <;> rfl

end SearchMode

/-! ## Candidates -/

/-- What a bar brings to the search: its place in the series, its high and its low. -/
structure Point where
  index : Nat
  high : Float
  low : Float

/-- The value a direction looks at. -/
def Point.value (point : Point) : PivotKind → Float
  | .high => point.high
  | .low => point.low

/--
The most extreme point of a stretch, the first of equals. `position` counts the
points fed to the search, and `confirmations` the point itself and those after
it that fell short of it.
-/
structure Candidate where
  position : Nat
  index : Nat
  value : Float
  confirmations : Nat := 1
  deriving DecidableEq

/-- The number of confirmations a candidate needs to become a pivot, itself included. -/
def requiredConfirmations : Nat := 3

namespace Candidate

/--
The candidate after one more point. A point without a value changes nothing, one
that falls short confirms the candidate, an equal one changes nothing, and one
that goes beyond it takes its place.
-/
def observe (kind : PivotKind) (candidate : Option Candidate) (position : Nat) (point : Point) :
    Option Candidate :=
  let value := point.value kind
  if value.isNaN then candidate
  else
    match candidate with
    | none => some { position, index := point.index, value }
    | some current =>
      if kind.isBeyond current.value value then
        some { current with confirmations := current.confirmations + 1 }
      else if kind.isBeyond value current.value then
        some { position, index := point.index, value }
      else some current

/-- The candidate after a stretch of points that begins at a position. -/
def observeAll (kind : PivotKind) (candidate : Option Candidate) (position : Nat) :
    List Point → Option Candidate
  | [] => candidate
  | point :: rest => observeAll kind (observe kind candidate position point) (position + 1) rest

/-- A candidate that observes two lists one after the other observes them joined. -/
theorem observeAll_append (kind : PivotKind) (s t : List Point) :
    ∀ (candidate : Option Candidate) (position : Nat),
      observeAll kind candidate position (s ++ t) =
        observeAll kind (observeAll kind candidate position s) (position + s.length) t := by
  induction s with
  | nil => intro candidate position; rfl
  | cons point rest ih =>
    intro candidate position
    rw [List.cons_append, observeAll, observeAll, ih, List.length_cons]
    congr 1
    omega

/-- A candidate keeps its position or moves to the point just observed. -/
theorem position_of_observe {kind : PivotKind} {candidate : Option Candidate} {position : Nat}
    {point : Point} {next : Candidate} (h : observe kind candidate position point = some next) :
    next.position = position ∨ ∃ current, candidate = some current ∧
      next.position = current.position := by
  unfold observe at h
  dsimp only at h
  split at h
  · exact Or.inr ⟨next, h, rfl⟩
  · split at h
    · injection h with h
      exact Or.inl (h ▸ rfl)
    · rename_i current
      split at h
      · injection h with h
        exact Or.inr ⟨current, rfl, h ▸ rfl⟩
      · split at h <;> injection h with h
        · exact Or.inl (h ▸ rfl)
        · exact Or.inr ⟨current, rfl, h ▸ rfl⟩

/-- A candidate found in a stretch lies in it, unless it was there before. -/
theorem position_of_observeAll {kind : PivotKind} {next : Candidate} (points : List Point) :
    ∀ {candidate : Option Candidate} {position : Nat},
      observeAll kind candidate position points = some next →
      (position ≤ next.position ∧ next.position < position + points.length) ∨
        ∃ current, candidate = some current ∧ next.position = current.position := by
  induction points with
  | nil => exact fun h => Or.inr ⟨next, h, rfl⟩
  | cons point rest ih =>
    intro candidate position h
    rw [List.length_cons]
    rcases ih h with ⟨hle, hlt⟩ | ⟨current, hcurrent, hposition⟩
    · exact Or.inl ⟨by omega, by omega⟩
    · rcases position_of_observe hcurrent with h | ⟨first, hfirst, h⟩
      · exact Or.inl ⟨by omega, by omega⟩
      · exact Or.inr ⟨first, hfirst, hposition.trans h⟩

end Candidate

/-! ## Searches -/

/-- The state of both searches. -/
structure Search where
  mode : SearchMode := .both
  high : Option Candidate := none
  low : Option Candidate := none
  deriving DecidableEq

namespace Search

/-- The candidate of a direction. -/
def candidate (search : Search) : PivotKind → Option Candidate
  | .high => search.high
  | .low => search.low

/-- Replaces the candidate of a direction. -/
def withCandidate (search : Search) (kind : PivotKind) (candidate : Option Candidate) : Search :=
  match kind with
  | .high => { search with high := candidate }
  | .low => { search with low := candidate }

/-- Both searches after a stretch of points that begins at a position. -/
def observeAll (search : Search) (position : Nat) (points : List Point) : Search :=
  { search with
    high := Candidate.observeAll .high search.high position points
    low := Candidate.observeAll .low search.low position points }

/-- The candidate of a direction, if it is accepted and has its confirmations. -/
def ready? (search : Search) (kind : PivotKind) : Option Candidate :=
  if search.mode.accepts kind then
    (search.candidate kind).filter fun candidate =>
      requiredConfirmations ≤ candidate.confirmations
  else none

/-- What is ready to be confirmed is the candidate of its kind. -/
theorem candidate_of_ready {search : Search} {kind : PivotKind} {candidate : Candidate}
    (h : search.ready? kind = some candidate) : search.candidate kind = some candidate := by
  unfold ready? at h
  split at h
  · exact (Option.filter_eq_some_iff.mp h).1
  · contradiction

/-- A candidate that was put in reads back. -/
@[simp] theorem candidate_withCandidate (search : Search) (kind : PivotKind)
    (candidate : Option Candidate) :
    (search.withCandidate kind candidate).candidate kind = candidate := by
  cases kind <;> rfl

end Search

end SwingTrader
