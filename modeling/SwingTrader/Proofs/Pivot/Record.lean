import SwingTrader.Pivot.Detector
import SwingTrader.Proofs.Pivot.Extreme

/-!
# SwingTrader — what the pivots on record say

A detector arrives at its searches in three ways: a point is observed, an opposite
search starts over behind a new pivot, or the searches are set back to where they
were before a broken one. Whichever way it was, the searches are those that the
pivots on record leave over the points fed, and every pivot keeps those that the
pivots before it left when it was confirmed.

* `Search.leftBy` — the searches that a list of pivots leaves over a stretch;
* `GoneBeyond`, `breaks_iff_goneBeyond` — a broken pivot, told by the points alone;
* `Confirmed`, `Recorded` — what was so when a pivot was confirmed, for one and for
  every pivot on record;
* `Drops` — the pivots that a stretch leaves unbroken;
* `PivotDetector.Tracks` — what is so between any two pushes, `Tracks.push` — and
  what one push leaves.
-/

namespace SwingTrader

/-- There are two kinds of pivots. -/
theorem PivotKind.eq_or_eq_opposite (kind other : PivotKind) :
    other = kind ∨ other = kind.opposite := by
  cases kind <;> cases other <;> simp [PivotKind.opposite]

theorem PivotKind.opposite_ne (kind : PivotKind) : kind.opposite ≠ kind := by
  cases kind <;> simp [PivotKind.opposite]

/-! ## Searches -/

/-- The position behind the newest pivot. -/
def behind : List Pivot → Nat
  | [] => 0
  | newest :: _ => newest.position + 1

/--
The position at which the search for a direction begins: behind the newest pivot,
or behind the one before it when the newest is of that direction itself.
-/
def searchStart (kind : PivotKind) : List Pivot → Nat
  | [] => 0
  | newest :: older => if newest.kind = kind then behind older else newest.position + 1

theorem behind_cons (newest : Pivot) (older : List Pivot) :
    behind (newest :: older) = newest.position + 1 := rfl

/-- The search for the kind of the newest pivot began before it, and the other one behind it. -/
theorem searchStart_cons (kind : PivotKind) (newest : Pivot) (older : List Pivot) :
    searchStart kind (newest :: older) =
      if newest.kind = kind then behind older else newest.position + 1 := rfl

/-- What is searched for after the newest pivot. -/
def modeAfter : List Pivot → SearchMode
  | [] => .both
  | newest :: _ => .after newest.kind

namespace Search

/-- The searches that a list of pivots leaves over the points fed. -/
def leftBy (fed : List Point) (pivots : List Pivot) : Search where
  mode := modeAfter pivots
  high := Candidate.observeAll .high none (searchStart .high pivots)
    (fed.drop (searchStart .high pivots))
  low := Candidate.observeAll .low none (searchStart .low pivots)
    (fed.drop (searchStart .low pivots))

variable {search search' : Search} {kind : PivotKind} {fed : List Point} {pivots : List Pivot}

/-- A search is told by its mode and its two candidates. -/
theorem eq_of_candidate (hmode : search.mode = search'.mode)
    (hcandidate : ∀ kind, search.candidate kind = search'.candidate kind) : search = search' := by
  obtain ⟨mode, high, low⟩ := search
  obtain ⟨mode', high', low'⟩ := search'
  obtain rfl : mode = mode' := hmode
  obtain rfl : high = high' := hcandidate .high
  obtain rfl : low = low' := hcandidate .low
  rfl

/-- A record leaves for each kind what is found from the start of its search. -/
theorem candidate_leftBy (fed : List Point) (pivots : List Pivot) (kind : PivotKind) :
    (leftBy fed pivots).candidate kind =
      Candidate.observeAll kind none (searchStart kind pivots)
        (fed.drop (searchStart kind pivots)) := by
  cases kind <;> rfl

/-- A search sees each point in both directions. -/
theorem candidate_observeAll (search : Search) (position : Nat) (points : List Point)
    (kind : PivotKind) :
    (search.observeAll position points).candidate kind =
      Candidate.observeAll kind (search.candidate kind) position points := by
  cases kind <;> rfl

/-- Points fed later are observed by the searches as they stand. -/
theorem leftBy_append (hstart : ∀ kind, searchStart kind pivots ≤ fed.length)
    (later : List Point) :
    leftBy (fed ++ later) pivots = (leftBy fed pivots).observeAll fed.length later := by
  refine eq_of_candidate rfl fun kind => ?_
  have hlength : searchStart kind pivots + (fed.length - searchStart kind pivots) = fed.length :=
    Nat.add_sub_cancel' (hstart kind)
  rw [candidate_leftBy, candidate_observeAll, candidate_leftBy,
    List.drop_append_of_le_length (hstart kind), Candidate.observeAll_append, List.length_drop,
    hlength]

/-- A candidate is ready if its kind is looked for and it is confirmed often enough. -/
theorem ready?_eq_some_iff {candidate : Candidate} :
    search.ready? kind = some candidate ↔
      search.mode.accepts kind = true ∧ search.candidate kind = some candidate ∧
        requiredConfirmations ≤ candidate.confirmations := by
  unfold ready?
  split
  next haccepts => simp [haccepts]
  next haccepts => simp [haccepts]

end Search

/-- The search for a direction that may become a pivot begins behind the newest one. -/
theorem searchStart_of_accepts {kind : PivotKind} {pivots : List Pivot}
    (h : (modeAfter pivots).accepts kind = true) : searchStart kind pivots = behind pivots := by
  cases pivots with
  | nil => rfl
  | cons newest older =>
    have hkind : newest.kind ≠ kind := by
      rintro rfl
      rw [modeAfter, SearchMode.accepts_after, beq_iff_eq] at h
      exact newest.kind.opposite_ne h.symm
    rw [searchStart_cons, if_neg hkind, behind_cons]

/-- A candidate is ready where the stretch behind the newest pivot is. -/
theorem isSome_ready?_leftBy {kind : PivotKind} {fed : List Point} {pivots : List Pivot} :
    ((Search.leftBy fed pivots).ready? kind).isSome ↔
      (modeAfter pivots).accepts kind = true ∧ IsReady kind (fed.drop (behind pivots)) := by
  rw [Option.isSome_iff_exists, ready_iff (behind pivots), ← exists_and_left]
  refine exists_congr fun candidate => ?_
  rw [Search.ready?_eq_some_iff, Search.candidate_leftBy]
  refine and_congr_right fun haccepts => ?_
  rw [searchStart_of_accepts haccepts]

/-! ## Broken pivots -/

/-- Some point fed since the pivot before it goes beyond a pivot. -/
def GoneBeyond (fed : List Point) (pivot : Pivot) (older : List Pivot) : Prop :=
  ∃ point ∈ fed.drop (behind older),
    pivot.kind.isBeyond (point.value pivot.kind) pivot.value = true

section Breaking

variable {fed : List Point} {pivot : Pivot} {older : List Pivot} {point : Point}

/-- The running extreme is beyond a pivot where any point since the pivot before it is. -/
theorem breaks_iff_goneBeyond :
    PivotDetector.breaks (.leftBy fed (pivot :: older)) pivot = true ↔
      GoneBeyond fed pivot older := by
  have hcandidate : (Search.leftBy fed (pivot :: older)).candidate pivot.kind =
      Candidate.observeAll pivot.kind none (behind older) (fed.drop (behind older)) := by
    rw [Search.candidate_leftBy, searchStart_cons, if_pos rfl]
  have hmode : (Search.leftBy fed (pivot :: older)).mode.previous? = some pivot.kind :=
    SearchMode.previous?_after pivot.kind
  rw [PivotDetector.breaks, hcandidate, hmode, beq_self_eq_true, Bool.true_and, Option.any_eq_true]
  constructor
  · rintro ⟨candidate, hfound, hbeyond⟩
    obtain ⟨extreme, rfl⟩ := exists_firstExtreme hfound
    exact ⟨extreme.point, List.mem_of_getElem? extreme.getElem?_before, hbeyond⟩
  · rintro ⟨point, hpoint, hbeyond⟩
    obtain ⟨extreme⟩ := nonempty_firstExtreme pivot.kind (fed.drop (behind older))
      ⟨point, hpoint, (PivotKind.isNaN_of_isBeyond hbeyond).1⟩
    -- the extreme goes at least as far as the point does
    exact ⟨extreme.candidate (behind older), extreme.observeAll _,
      PivotKind.isBeyond_of_not_isBeyond hbeyond extreme.isNumber (extreme.not_isBeyond hpoint)⟩

/-- A pivot that is not broken stands against every point since the pivot before it. -/
theorem not_isBeyond_of_breaks
    (h : PivotDetector.breaks (.leftBy fed (pivot :: older)) pivot = false)
    (hpoint : point ∈ fed.drop (behind older)) :
    ¬pivot.kind.isBeyond (point.value pivot.kind) pivot.value = true := by
  intro hbeyond
  rw [breaks_iff_goneBeyond.mpr ⟨point, hpoint, hbeyond⟩] at h
  cases h

/-- A pivot that stood so far is gone beyond where the new point is beyond it. -/
theorem goneBeyond_concat_iff (hbehind : behind older ≤ fed.length)
    (hstands : PivotDetector.breaks (.leftBy fed (pivot :: older)) pivot = false) :
    GoneBeyond (fed ++ [point]) pivot older ↔
      pivot.kind.isBeyond (point.value pivot.kind) pivot.value = true := by
  rw [GoneBeyond, List.drop_append_of_le_length hbehind]
  constructor
  · rintro ⟨breaker, hbreaker, hbeyond⟩
    obtain hbreaker | hbreaker := List.mem_append.mp hbreaker
    · exact absurd hbeyond (not_isBeyond_of_breaks hstands hbreaker)
    · exact List.mem_singleton.mp hbreaker ▸ hbeyond
  · exact fun hbeyond => ⟨point, by simp, hbeyond⟩

end Breaking

/-! ## Confirmed pivots -/

/--
What was so when a pivot was confirmed, with the points seen by then and the pivots
before it: it was ready and the opposite direction was not, and the newest pivot
before it was not broken.
-/
structure Confirmed (seen : List Point) (older : List Pivot) (pivot : Pivot) : Prop where
  length_eq : seen.length = pivot.confirmedAt + 1
  index_eq : seen.getLast?.map Point.index = some pivot.confirmedIndex
  before_eq : pivot.before = .leftBy seen older
  ready : ∃ candidate, (Search.leftBy seen older).ready? pivot.kind = some candidate ∧
    candidate.position = pivot.position ∧ candidate.index = pivot.index ∧
      candidate.value = pivot.value
  alone : (Search.leftBy seen older).ready? pivot.kind.opposite = none
  stands : ∀ earlier ∈ older.head?,
    PivotDetector.breaks (.leftBy seen older) earlier = false
  confirmedAt_le : ∀ earlier ∈ older.head?, earlier.confirmedAt ≤ pivot.confirmedAt

namespace Confirmed

variable {seen : List Point} {older : List Pivot} {pivot : Pivot}

/-- A pivot is of a kind that was looked for after the one before it. -/
theorem accepts (h : Confirmed seen older pivot) : (modeAfter older).accepts pivot.kind = true := by
  obtain ⟨candidate, hready, -⟩ := h.ready
  exact (Search.ready?_eq_some_iff.mp hready).1

/-- A confirmed pivot was the first extreme behind the pivot before it, and had been answered. -/
theorem exists_extreme (h : Confirmed seen older pivot) :
    ∃ extreme : FirstExtreme pivot.kind (seen.drop (behind older)),
      2 ≤ extreme.answers ∧ pivot.position = behind older + extreme.before.length ∧
        pivot.index = extreme.point.index ∧ pivot.value = extreme.point.value pivot.kind := by
  obtain ⟨candidate, hready, hposition, hindex, hvalue⟩ := h.ready
  obtain ⟨haccepts, hcandidate, hconfirmations⟩ := Search.ready?_eq_some_iff.mp hready
  rw [Search.candidate_leftBy, searchStart_of_accepts haccepts] at hcandidate
  obtain ⟨extreme, rfl⟩ := exists_firstExtreme hcandidate
  exact ⟨extreme, Nat.le_of_succ_le_succ hconfirmations, hposition.symm, hindex.symm, hvalue.symm⟩

theorem behind_le (h : Confirmed seen older pivot) : behind older ≤ pivot.position := by
  obtain ⟨extreme, -, hposition, -⟩ := h.exists_extreme
  omega

/-- Two points at least come between a pivot and its confirmation, the confirming one included. -/
theorem position_le (h : Confirmed seen older pivot) :
    pivot.position + 2 ≤ pivot.confirmedAt := by
  obtain ⟨extreme, hanswers, hposition, -⟩ := h.exists_extreme
  have hle := extreme.answers_le
  rw [List.length_drop, h.length_eq] at hle
  omega

end Confirmed

/-- Every pivot of a list was confirmed while the stretch was being fed. -/
def Recorded (fed : List Point) (pivots : List Pivot) : Prop :=
  ∀ pivot older, pivot :: older <:+ pivots →
    Confirmed (fed.take (pivot.confirmedAt + 1)) older pivot

namespace Recorded

variable {fed : List Point} {pivot : Pivot} {older pivots : List Pivot}

theorem nil : Recorded fed [] := by
  intro pivot older h
  cases List.suffix_nil.mp h

theorem of_suffix (h : Recorded fed pivots) (hsuffix : older <:+ pivots) : Recorded fed older :=
  fun pivot rest hrest => h pivot rest (hrest.trans hsuffix)

/-- The newest pivot of a record was confirmed. -/
theorem head (h : Recorded fed (pivot :: older)) :
    Confirmed (fed.take (pivot.confirmedAt + 1)) older pivot :=
  h pivot older List.suffix_rfl

theorem tail (h : Recorded fed (pivot :: older)) : Recorded fed older :=
  h.of_suffix (List.suffix_cons pivot older)

/-- A pivot that is confirmed goes on the record. -/
theorem cons (hpivot : Confirmed (fed.take (pivot.confirmedAt + 1)) older pivot)
    (h : Recorded fed older) : Recorded fed (pivot :: older) := by
  intro later rest hsuffix
  obtain heq | hsuffix := List.suffix_cons_iff.mp hsuffix
  · obtain ⟨rfl, rfl⟩ := List.cons.inj heq
    exact hpivot
  · exact h later rest hsuffix

/-- A pivot is confirmed at a point that was fed. -/
theorem confirmedAt_lt (h : Recorded fed (pivot :: older)) : pivot.confirmedAt < fed.length := by
  have hlength := h.head.length_eq
  rw [List.length_take] at hlength
  omega

/-- Feeding further points changes nothing about the pivots on record. -/
theorem append (h : Recorded fed pivots) (later : List Point) : Recorded (fed ++ later) pivots := by
  intro pivot older hsuffix
  have hlt := (h.of_suffix hsuffix).confirmedAt_lt
  rw [List.take_append_of_le_length (by omega)]
  exact h pivot older hsuffix

theorem behind_le_length (h : Recorded fed pivots) : behind pivots ≤ fed.length := by
  cases pivots with
  | nil => exact Nat.zero_le _
  | cons newest older =>
    have hposition := h.head.position_le
    have hlt := h.confirmedAt_lt
    rw [behind_cons]
    omega

/-- No search begins behind what is behind the newest pivot. -/
theorem searchStart_le_behind (h : Recorded fed pivots) (kind : PivotKind) :
    searchStart kind pivots ≤ behind pivots := by
  cases pivots with
  | nil => exact Nat.le_refl _
  | cons newest older =>
    have hle := h.head.behind_le
    rw [searchStart_cons, behind_cons]
    split <;> omega

/-- A search begins among the points fed. -/
theorem searchStart_le (h : Recorded fed pivots) (kind : PivotKind) :
    searchStart kind pivots ≤ fed.length :=
  (h.searchStart_le_behind kind).trans h.behind_le_length

/-- Without its newest pivot, the searches are those that the pivots before it leave. -/
theorem searchWithout_eq {points : Array Point} (h : Recorded points.toList (pivot :: older)) :
    PivotDetector.searchWithout points pivot = .leftBy points.toList older := by
  have hseen := h.head.length_eq
  -- the snapshot a pivot keeps was taken when all searches had begun
  have hstart : ∀ kind, searchStart kind older ≤
      (points.toList.take (pivot.confirmedAt + 1)).length := by
    intro kind
    have hle := h.tail.searchStart_le_behind kind
    have hbehind := h.head.behind_le
    have hposition := h.head.position_le
    omega
  have happend := Search.leftBy_append hstart (points.toList.drop (pivot.confirmedAt + 1))
  rw [List.take_append_drop, hseen] at happend
  rw [PivotDetector.searchWithout, h.head.before_eq, happend]

end Recorded

/-! ## Dropping -/

/-- The pivots that are left of a list when those that the stretch has broken are dropped. -/
inductive Drops (fed : List Point) : List Pivot → List Pivot → Prop where
  | keep {pivots : List Pivot} :
      (∀ newest ∈ pivots.head?, PivotDetector.breaks (.leftBy fed pivots) newest = false) →
      Drops fed pivots pivots
  | drop {pivot : Pivot} {older kept : List Pivot} :
      PivotDetector.breaks (.leftBy fed (pivot :: older)) pivot = true → Drops fed older kept →
      Drops fed (pivot :: older) kept

/-- What is left after some pivots are dropped is an earlier part of the record. -/
theorem Drops.suffix {fed : List Point} {pivots kept : List Pivot} (h : Drops fed pivots kept) :
    kept <:+ pivots := by
  induction h with
  | keep => exact List.suffix_rfl
  | drop _ _ ih => exact ih.trans (List.suffix_cons _ _)

/-- Pivots are dropped until the newest of those left is not broken. -/
theorem Drops.stands {fed : List Point} {pivots kept : List Pivot} (h : Drops fed pivots kept) :
    ∀ newest ∈ kept.head?, PivotDetector.breaks (.leftBy fed kept) newest = false := by
  induction h with
  | keep hstands => exact hstands
  | drop _ _ ih => exact ih

/-- What is dropped from a record is what is broken, and the searches follow. -/
theorem Recorded.dropBroken_eq {points : Array Point} {pivots : List Pivot}
    (h : Recorded points.toList pivots) :
    ∃ kept, PivotDetector.dropBroken points (.leftBy points.toList pivots) pivots =
        (.leftBy points.toList kept, kept) ∧ Drops points.toList pivots kept := by
  induction pivots with
  | nil => exact ⟨[], rfl, .keep (by simp)⟩
  | cons pivot older ih =>
    rw [PivotDetector.dropBroken]
    split
    next hbroken =>
      obtain ⟨kept, heq, hdrops⟩ := ih h.tail
      rw [h.searchWithout_eq]
      exact ⟨kept, heq, .drop hbroken hdrops⟩
    next hstands =>
      refine ⟨pivot :: older, rfl, .keep ?_⟩
      rintro newest ⟨⟩
      exact Bool.eq_false_iff.mpr hstands

/-! ## Detectors -/

namespace PivotDetector

variable {detector : PivotDetector}

/-- The searches of a detector are those that the pivots on its record leave. -/
structure Follows (detector : PivotDetector) : Prop where
  search_eq : detector.search = .leftBy detector.points.toList detector.pivots
  recorded : Recorded detector.points.toList detector.pivots

/-- What is so of a detector between any two pushes: its newest pivot is not broken, either. -/
structure Tracks (detector : PivotDetector) : Prop extends Follows detector where
  stands : ∀ newest ∈ detector.pivots.head?, breaks detector.search newest = false

theorem Follows.mode_eq (h : detector.Follows) : detector.mode = modeAfter detector.pivots := by
  rw [mode, h.search_eq]
  rfl

theorem tracks_empty : empty.Tracks where
  search_eq := rfl
  recorded := .nil
  stands := by simp [empty]

theorem toList_observe (detector : PivotDetector) (point : Point) :
    (detector.observe point).points.toList = detector.points.toList ++ [point] :=
  Array.toList_push

/-- The newest point, when pivots are dropped and confirmed, is the one that is being pushed. -/
theorem newest_revert_observe (detector : PivotDetector) (point : Point) :
    (detector.observe point).revert.points.toList.getLast?.map Point.index = some point.index := by
  show (detector.observe point).points.toList.getLast?.map Point.index = some point.index
  rw [toList_observe, List.getLast?_concat]
  rfl

/-- Where the newest pivot stands, nothing is dropped. -/
theorem revert_of_stands
    (hstands : ∀ newest ∈ detector.pivots.head?, breaks detector.search newest = false) :
    detector.revert = detector := by
  rw [revert]
  cases hpivots : detector.pivots with
  | nil => rw [dropBroken, ← hpivots]
  | cons newest older =>
    rw [hpivots] at hstands
    rw [dropBroken, hstands newest rfl, if_neg Bool.false_ne_true, ← hpivots]

/-- A point that is seen extends the searches that the record leaves. -/
theorem Follows.observe (h : detector.Follows) (point : Point) :
    (detector.observe point).Follows := by
  refine ⟨?_, detector.toList_observe point ▸ h.recorded.append [point]⟩
  rw [toList_observe]
  refine Eq.trans ?_ (Search.leftBy_append h.recorded.searchStart_le [point]).symm
  rw [← h.search_eq, Array.length_toList]
  rfl

/-- Dropping what is broken leaves a detector whose newest pivot stands. -/
theorem Follows.revert (h : detector.Follows) :
    detector.revert.Tracks ∧ detector.revert.points = detector.points ∧
      Drops detector.points.toList detector.pivots detector.revert.pivots := by
  obtain ⟨kept, heq, hdrops⟩ := h.recorded.dropBroken_eq
  have hrevert : detector.revert =
      { detector with search := .leftBy detector.points.toList kept, pivots := kept } := by
    rw [PivotDetector.revert, h.search_eq, heq]
  rw [hrevert]
  exact ⟨⟨⟨rfl, h.recorded.of_suffix hdrops.suffix⟩, hdrops.stands⟩, rfl, hdrops⟩

/-- Confirming a pivot leaves the search for its own kind as it is. -/
theorem candidate_confirm_self (detector : PivotDetector) (kind : PivotKind)
    (candidate : Candidate) (index : Nat) :
    (detector.confirm kind candidate index).search.candidate kind =
      detector.search.candidate kind := by
  cases kind <;> rfl

/-- A pivot confirmed from a ready candidate takes its place on the record. -/
theorem Tracks.confirm {kind : PivotKind} {candidate : Candidate} {index : Nat}
    (h : detector.Tracks) (hready : detector.search.ready? kind = some candidate)
    (halone : detector.search.ready? kind.opposite = none)
    (hindex : detector.points.toList.getLast?.map Point.index = some index) :
    (detector.confirm kind candidate index).Tracks := by
  obtain ⟨haccepts, hcandidate, -⟩ := Search.ready?_eq_some_iff.mp hready
  have hstart : searchStart kind detector.pivots = behind detector.pivots := by
    rw [h.search_eq] at haccepts
    exact searchStart_of_accepts haccepts
  -- a point was fed, or nothing would be ready
  have hlength : detector.points.size - 1 + 1 = detector.points.toList.length := by
    cases hpoints : detector.points.toList with
    | nil => simp [hpoints] at hindex
    | cons first rest =>
      rw [← Array.length_toList, hpoints]
      simp
  refine ⟨⟨Search.eq_of_candidate rfl fun other => ?_, .cons ?_ h.recorded⟩, ?_⟩
  · obtain rfl | rfl := kind.eq_or_eq_opposite other
    · -- the search for the new pivot's direction goes on where it began
      rw [candidate_confirm_self, h.search_eq, Search.candidate_leftBy, Search.candidate_leftBy]
      simp only [PivotDetector.confirm, searchStart_cons, if_pos, hstart]
    · -- the opposite search starts over behind the new pivot
      rw [candidate_confirm, Search.candidate_leftBy]
      simp only [PivotDetector.confirm, searchStart_cons, kind.opposite_ne.symm, if_false]
  · -- all points fed had been seen when the pivot was confirmed
    have htake : detector.points.toList.take (detector.points.size - 1 + 1) =
        detector.points.toList := List.take_of_length_le (Nat.le_of_eq hlength.symm)
    refine ⟨?_, ?_, ?_, ?_, ?_, ?_, ?_⟩ <;>
      simp only [PivotDetector.confirm, htake, ← h.search_eq]
    · exact hlength.symm
    · exact hindex
    · exact ⟨candidate, hready, rfl, rfl, rfl⟩
    · exact halone
    · exact h.stands
    · intro earlier hearlier
      obtain ⟨rest, hpivots⟩ := List.head?_eq_some_iff.mp hearlier
      have hlt := (hpivots ▸ h.recorded).confirmedAt_lt
      rw [Array.length_toList] at hlt
      omega
  · -- the candidate that became the pivot does not go beyond itself
    rintro newest ⟨⟩
    rw [breaks, candidate_confirm_self, hcandidate]
    simp [PivotKind.not_isBeyond_self]

/-- The direction of a new pivot is not searched for. -/
theorem ready?_confirm_self (detector : PivotDetector) (kind : PivotKind) (candidate : Candidate)
    (index : Nat) : (detector.confirm kind candidate index).search.ready? kind = none := by
  cases kind <;> rfl

/-- What is left after everything ready is confirmed: a record in which nothing more is ready. -/
theorem Tracks.confirmFrom {kind : PivotKind} {candidate : Candidate} {index : Nat}
    (h : detector.Tracks) (hready : detector.search.ready? kind = some candidate)
    (halone : detector.search.ready? kind.opposite = none)
    (hindex : detector.points.toList.getLast?.map Point.index = some index) :
    (detector.confirmFrom kind candidate index).Tracks ∧
      (detector.confirmFrom kind candidate index).points = detector.points ∧
      ∀ other, (detector.confirmFrom kind candidate index).search.ready? other = none := by
  fun_induction PivotDetector.confirmFrom with
  | case1 detector kind candidate next hnext ih =>
    refine ih (h.confirm hready halone hindex) hnext ?_ hindex
    rw [PivotKind.opposite_opposite]
    exact ready?_confirm_self detector kind candidate index
  | case2 detector kind candidate hnone =>
    refine ⟨h.confirm hready halone hindex, rfl, fun other => ?_⟩
    obtain rfl | rfl := kind.eq_or_eq_opposite other
    · exact ready?_confirm_self detector other candidate index
    · exact hnone

/-! ## Pushes -/

/--
What a push leaves: a detector that tracks the points with the new one, in which
nothing is ready, or, where the push failed, both directions.
-/
structure Pushed (detector : PivotDetector) (point : Point)
    (result : Except PivotError Unit × PivotDetector) : Prop where
  tracks : result.2.Tracks
  points_eq : result.2.points.toList = detector.points.toList ++ [point]
  outcome :
    (result.1 = .ok () ∧ ∀ kind, result.2.search.ready? kind = none) ∨
      (result.1 = .error (.simultaneousPivots point.index) ∧
        (∀ kind, (result.2.search.ready? kind).isSome) ∧
        Drops result.2.points.toList detector.pivots result.2.pivots)

/-- A push drops what the new point breaks and confirms what it makes ready, and nothing else. -/
theorem Tracks.push (h : detector.Tracks) (point : Point) :
    Pushed detector point (detector.push point) := by
  have hfed := detector.toList_observe point
  have hindex := detector.newest_revert_observe point
  obtain ⟨htracks, hpoints, hdrops⟩ := (h.toFollows.observe point).revert
  rw [← hpoints] at hfed hdrops
  rw [PivotDetector.push, confirmReady]
  split
  -- both directions ready at once is the failure; one of them is confirmed, and none is the end
  next high low hhigh hlow =>
    refine ⟨htracks, hfed, .inr ⟨rfl, fun kind => ?_, hdrops⟩⟩
    cases kind with
    | high => exact Option.isSome_of_eq_some hhigh
    | low => exact Option.isSome_of_eq_some hlow
  next high hhigh hlow =>
    obtain ⟨htracks', hpoints', hnone⟩ := htracks.confirmFrom hhigh hlow hindex
    exact ⟨htracks', hpoints' ▸ hfed, .inl ⟨rfl, hnone⟩⟩
  next low hhigh hlow =>
    obtain ⟨htracks', hpoints', hnone⟩ := htracks.confirmFrom hlow hhigh hindex
    exact ⟨htracks', hpoints' ▸ hfed, .inl ⟨rfl, hnone⟩⟩
  next hhigh hlow =>
    refine ⟨htracks, hfed, .inl ⟨rfl, fun kind => ?_⟩⟩
    cases kind with
    | high => exact hhigh
    | low => exact hlow

/-- Feeds every point of a stretch, whether or not a push fails. -/
def pushAll (detector : PivotDetector) (points : List Point) : PivotDetector :=
  points.foldl (fun detector point => (detector.push point).2) detector

/-- A detector tracks whatever it is fed, whether or not pushes fail. -/
theorem Tracks.pushAll (h : detector.Tracks) (points : List Point) :
    (detector.pushAll points).Tracks ∧
      (detector.pushAll points).points.toList = detector.points.toList ++ points := by
  induction points generalizing detector with
  | nil => exact ⟨h, (List.append_nil _).symm⟩
  | cons point rest ih =>
    obtain ⟨htracks, hfed⟩ := ih (h.push point).tracks
    refine ⟨htracks, hfed.trans ?_⟩
    rw [(h.push point).points_eq, List.append_assoc, List.singleton_append]

end PivotDetector

end SwingTrader
