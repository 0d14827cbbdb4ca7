import SwingTrader.Proofs.Pivot.Rounds

/-!
# SwingTrader — searches told from the pivots

A detector works out its searches in three ways. Each bar is observed as it comes; a new
pivot makes the opposite search start over behind it; and a broken pivot sets both searches
back to where they were before it, from where the bars since are observed again. All three
come to the same: what new searches find that begin behind the pivots on record. This is
so at every moment of a push, and of every snapshot that a pivot keeps, so nothing is left
of a pivot once it is dropped.

* `foundFrom` — what a new search finds from a position on;
* `Search.IsLeftBy` — the searches that pivots leave, one case for each length of the record;
* `PivotDetector.Reached` — the detectors between pushes, and in the course of one;
* `PivotDetector.Retraced` — what is told from the pivots, snapshots and drops included;
* `PivotDetector.retraced_of_reached` — it is so of every detector that is reached.
-/

namespace SwingTrader

/--
What a new search for a direction finds that observes the points from a position on, in
order.
-/
def foundFrom (kind : PivotKind) (fed : List Point) (start : Nat) : Option Candidate :=
  Candidate.observeAll kind none start (fed.drop start)

/--
The searches that a record of pivots, the newest first, leaves over the points fed. The
search for the newest pivot's own direction began behind the pivot before it, and the
search for the opposite one behind the newest pivot itself.
-/
def Search.IsLeftBy (search : Search) (fed : List Point) : List Pivot → Prop
  | [] => search.mode = .both ∧ ∀ kind, search.candidate kind = foundFrom kind fed 0
  | [only] => search.mode = .after only.kind ∧
      search.candidate only.kind = foundFrom only.kind fed 0 ∧
      search.candidate only.kind.opposite =
        foundFrom only.kind.opposite fed (only.position + 1)
  | newest :: earlier :: _ => search.mode = .after newest.kind ∧
      search.candidate newest.kind = foundFrom newest.kind fed (earlier.position + 1) ∧
      search.candidate newest.kind.opposite =
        foundFrom newest.kind.opposite fed (newest.position + 1)

theorem Search.isLeftBy_leftBy (fed : List Point) (pivots : List Pivot) :
    (Search.leftBy fed pivots).IsLeftBy fed pivots := by
  have hfound : ∀ kind, (Search.leftBy fed pivots).candidate kind =
      foundFrom kind fed (searchStart kind pivots) := candidate_leftBy fed pivots
  match pivots with
  | [] => exact ⟨rfl, hfound⟩
  | [only] =>
    refine ⟨rfl, (hfound _).trans ?_, (hfound _).trans ?_⟩
    · rw [searchStart_cons, if_pos rfl, behind]
    · rw [searchStart_cons, if_neg only.kind.opposite_ne.symm]
  | newest :: earlier :: older =>
    refine ⟨rfl, (hfound _).trans ?_, (hfound _).trans ?_⟩
    · rw [searchStart_cons, if_pos rfl, behind_cons]
    · rw [searchStart_cons, if_neg newest.kind.opposite_ne.symm]

namespace PivotDetector

variable {detector next : PivotDetector} {fed : List Point} {point : Point}

/-! ## One round -/

theorem dropNewest?_eq_some (h : detector.dropNewest? = some next) :
    ∃ newest older, detector.pivots = newest :: older ∧ next = detector.without newest older := by
  rw [dropNewest?] at h
  cases hpivots : detector.pivots with
  | nil =>
    rw [hpivots] at h
    cases h
  | cons newest older =>
    simp only [hpivots] at h
    split at h
    · exact ⟨newest, older, rfl, (Option.some.inj h).symm⟩
    · cases h

/-- Where nothing is dropped the newest pivot stands. -/
theorem Follows.tracks (h : detector.Follows) (hnone : detector.dropNewest? = none) :
    detector.Tracks := by
  refine ⟨h, fun newest hnewest => ?_⟩
  obtain ⟨older, hpivots⟩ := List.head?_eq_some_iff.mp hnewest
  simp only [dropNewest?, hpivots] at hnone
  split at hnone
  · cases hnone
  next hstands => exact Bool.eq_false_iff.mpr hstands

/-- Without its newest pivot a detector searches for what the pivots before it leave. -/
theorem Follows.without {newest : Pivot} {older : List Pivot} (h : detector.Follows)
    (hpivots : detector.pivots = newest :: older) : (detector.without newest older).Follows := by
  have hrecorded : Recorded detector.points.toList (newest :: older) := hpivots ▸ h.recorded
  exact ⟨hrecorded.searchWithout_eq, hrecorded.tail⟩

/-- **One round.** Whether it drops a pivot or confirms one, the searches go with the record. -/
theorem Follows.round {rewrite : Rewrite} (h : detector.Follows)
    (hpoint : detector.points.toList.getLast? = some point)
    (hround : detector.round point.index = .again rewrite next) :
    next.Follows ∧ next.points = detector.points := by
  have hindex : detector.points.toList.getLast?.map Point.index = some point.index := by
    rw [hpoint]
    rfl
  rw [PivotDetector.round] at hround
  cases hdrop : detector.dropNewest? with
  | some dropped =>
    obtain ⟨newest, older, hpivots, rfl⟩ := dropNewest?_eq_some hdrop
    rw [hdrop] at hround
    cases hround
    exact ⟨h.without hpivots, rfl⟩
  | none =>
    have htracks := h.tracks hdrop
    rw [hdrop] at hround
    dsimp only at hround
    split at hround <;> cases hround
    next high hhigh hlow => exact ⟨(htracks.confirm hhigh hlow hindex).toFollows, rfl⟩
    next low hhigh hlow => exact ⟨(htracks.confirm hlow hhigh hindex).toFollows, rfl⟩

/-! ## Detectors that are reached -/

/--
The detectors that some points lead to: the last of them has been taken in, and any number
of rounds have been made since. Pushes that fail are among these, and so is every moment
in the course of a push.
-/
inductive Reached : List Point → PivotDetector → Prop where
  | empty : Reached [] empty
  | observe {fed : List Point} {detector : PivotDetector} (point : Point) :
      Reached fed detector → Reached (fed ++ [point]) (detector.observe point)
  | round {fed : List Point} {detector next : PivotDetector} {point : Point} {rewrite : Rewrite} :
      Reached (fed ++ [point]) detector → detector.round point.index = .again rewrite next →
      Reached (fed ++ [point]) next

/-- Inside a push, too, the searches follow from the pivots and the points fed. -/
theorem Reached.follows (h : Reached fed detector) :
    detector.Follows ∧ detector.points.toList = fed := by
  induction h with
  | empty => exact ⟨tracks_empty.toFollows, rfl⟩
  | observe point _ ih =>
    obtain ⟨hfollows, rfl⟩ := ih
    exact ⟨hfollows.observe point, toList_observe _ point⟩
  | round _ hround ih =>
    obtain ⟨hfollows, hfed⟩ := ih
    obtain ⟨hnext, hpoints⟩ := hfollows.round (by rw [hfed, List.getLast?_concat]) hround
    exact ⟨hnext, hpoints ▸ hfed⟩

/-- All the rounds of a push lead to detectors that are reached, and so does its end. -/
theorem Reached.rounds {rewrites : List Rewrite} {result : Except PivotError Unit × PivotDetector}
    (hrounds : Rounds point.index detector rewrites result)
    (h : Reached (fed ++ [point]) detector) : Reached (fed ++ [point]) result.2 := by
  induction hrounds with
  | last => exact h
  | next hround _ ih => exact ih (h.round hround)

/-- Every detector between two pushes is reached, whether or not a push failed. -/
theorem reached_pushAll (fed : List Point) : Reached fed (empty.pushAll fed) := by
  induction fed using List.reverseRecOn with
  | nil => exact .empty
  | append_singleton fed point ih =>
    obtain ⟨drops, confirms, -, hrounds, -⟩ := (tracks_empty.pushAll fed).1.rounds_push point
    have hpush : empty.pushAll (fed ++ [point]) = ((empty.pushAll fed).push point).2 := by
      rw [PivotDetector.pushAll, List.foldl_append]
      rfl
    exact hpush ▸ (ih.observe point).rounds hrounds

/-! ## Retracing -/

/-- All that a detector searches for is told from its pivots and the points fed. -/
structure Retraced (fed : List Point) (detector : PivotDetector) : Prop where
  points_eq : detector.points.toList = fed
  searches : detector.search.IsLeftBy fed detector.pivots
  snapshots : ∀ newer pivot older, detector.pivots = newer ++ pivot :: older →
    pivot.confirmedAt < fed.length ∧
      pivot.before.IsLeftBy (fed.take (pivot.confirmedAt + 1)) older
  dropped : ∀ newest older, detector.pivots = newest :: older →
    (detector.without newest older).search.IsLeftBy fed older

/-- A detector whose searches follow from its record can be retraced. -/
theorem Follows.retraced (h : detector.Follows) : Retraced detector.points.toList detector where
  points_eq := rfl
  searches := h.search_eq ▸ Search.isLeftBy_leftBy _ _
  snapshots newer pivot older hpivots := by
    have hrecorded : Recorded detector.points.toList (pivot :: older) :=
      h.recorded.of_suffix ⟨newer, hpivots.symm⟩
    exact ⟨hrecorded.confirmedAt_lt, hrecorded.head.before_eq ▸ Search.isLeftBy_leftBy _ _⟩
  dropped newest older hpivots := (h.without hpivots).search_eq ▸ Search.isLeftBy_leftBy _ _

/--
**A detector can be retraced.** Between pushes, failed ones included, and at every moment
in the course of a push, the searches are those that new searches come to which begin
behind the newest pivots; every pivot keeps the searches that the pivots before it left
when it was confirmed; and once the newest pivot is dropped, the searches are those of a
detector that only ever confirmed the pivots before it.
-/
theorem retraced_of_reached (fed : List Point) :
    Reached fed (empty.pushAll fed) ∧
      ∀ detector, Reached fed detector → Retraced fed detector := by
  refine ⟨reached_pushAll fed, fun detector h => ?_⟩
  obtain ⟨hfollows, rfl⟩ := h.follows
  exact hfollows.retraced

/-- Behind a high, a low and a higher high, the next high is searched for behind the low. -/
example :
    (empty.pushAll swings).pivots.map Pivot.position = [6, 3, 0] ∧
      (empty.pushAll swings).search.high = foundFrom .high swings 4 ∧
      (empty.pushAll swings).search.low = foundFrom .low swings 7 := by
  decide +kernel

end PivotDetector

end SwingTrader
