import SwingTrader.Proofs.Pivot.Record

/-!
# SwingTrader — the pivots that stand

Whatever points a detector has been fed, and whether or not a push of them failed,
the pivots on its record are turning points: each was the first extreme of the
points since the pivot before it, was answered by two points that fell short of it,
and has not been gone beyond before the next pivot was confirmed, the newest one not
to this day.

* `Stands` — what is so of a pivot between its neighbours;
* `PivotDetector.stands_of_pushAll` — every pivot stands after every push.
-/

namespace SwingTrader

/--
What is so of a pivot, given every point fed, the pivots confirmed after it and
those confirmed before it. Positions count the points in the order they were fed;
the list behind `newer` ends with the pivot confirmed next, and `older` begins with
the one confirmed before.
-/
structure Stands (fed : List Point) (newer : List Pivot) (pivot : Pivot) (older : List Pivot) :
    Prop where
  alternates : ∀ earlier ∈ older.head?, earlier.kind = pivot.kind.opposite
  position_lt : ∀ earlier ∈ older.head?, earlier.position < pivot.position
  confirmedAt_ge : pivot.position + 2 ≤ pivot.confirmedAt
  confirmedAt_le : ∀ earlier ∈ older.head?, earlier.confirmedAt ≤ pivot.confirmedAt
  confirmedAt_lt : pivot.confirmedAt < fed.length
  bar : ∃ point, fed[pivot.position]? = some point ∧ pivot.index = point.index ∧
    pivot.value = point.value pivot.kind
  confirming : ∃ point, fed[pivot.confirmedAt]? = some point ∧ pivot.confirmedIndex = point.index
  unbroken : ∀ position point, fed[position]? = some point →
    (∀ earlier ∈ older.head?, earlier.position < position) →
    (∀ next ∈ newer.getLast?, position ≤ next.confirmedAt) →
    pivot.kind.isBeyond (point.value pivot.kind) pivot.value = false
  first : ∀ position point, fed[position]? = some point →
    (∀ earlier ∈ older.head?, earlier.position < position) → position < pivot.position →
    (point.value pivot.kind == pivot.value) = false
  answered : 2 ≤ ((fed.take (pivot.confirmedAt + 1)).drop (pivot.position + 1)).countP
    (Point.fallsShort pivot.kind pivot.value)

/-- A point from a position on is among those left when the ones before the position are dropped. -/
theorem mem_drop_of_le {fed : List Point} {start position : Nat} {point : Point}
    (h : fed[position]? = some point) (hle : start ≤ position) : point ∈ fed.drop start := by
  refine List.mem_of_getElem? (i := position - start) ?_
  rw [List.getElem?_drop, Nat.add_sub_cancel' hle, h]

theorem behind_le_iff {older : List Pivot} {position : Nat} :
    behind older ≤ position ↔ ∀ earlier ∈ older.head?, earlier.position < position := by
  cases older <;> simp [behind]

namespace Confirmed

variable {seen : List Point} {older : List Pivot} {pivot : Pivot}

theorem alternates (h : Confirmed seen older pivot) :
    ∀ earlier ∈ older.head?, earlier.kind = pivot.kind.opposite := by
  intro earlier hearlier
  obtain ⟨rest, rfl⟩ := List.head?_eq_some_iff.mp hearlier
  have haccepts := h.accepts
  rw [modeAfter, SearchMode.accepts_after, beq_iff_eq] at haccepts
  rw [haccepts, PivotKind.opposite_opposite]

/-- A pivot is confirmed by one of the points seen. -/
theorem confirming (h : Confirmed seen older pivot) :
    ∃ point, seen[pivot.confirmedAt]? = some point ∧ pivot.confirmedIndex = point.index := by
  have hindex := h.index_eq
  rw [List.getLast?_eq_getElem?, h.length_eq, Nat.add_sub_cancel, Option.map_eq_some_iff] at hindex
  obtain ⟨point, hpoint, hconfirmed⟩ := hindex
  exact ⟨point, hpoint, hconfirmed.symm⟩

/-- A pivot is one of the points seen, with its value. -/
theorem bar (h : Confirmed seen older pivot) :
    ∃ point, seen[pivot.position]? = some point ∧ pivot.index = point.index ∧
      pivot.value = point.value pivot.kind := by
  obtain ⟨extreme, -, hposition, hindex, hvalue⟩ := h.exists_extreme
  refine ⟨extreme.point, ?_, hindex, hvalue⟩
  rw [hposition, ← List.getElem?_drop]
  exact extreme.getElem?_before

/-- Every point between a pivot and the one before it is short of it. -/
theorem first (h : Confirmed seen older pivot) {position : Nat} {point : Point}
    (hpoint : seen[position]? = some point) (hbehind : behind older ≤ position)
    (hlt : position < pivot.position) : point.IsShort pivot.kind pivot.value := by
  obtain ⟨extreme, -, hposition, -, hvalue⟩ := h.exists_extreme
  have hdrop : (seen.drop (behind older))[position - behind older]? = some point := by
    rw [List.getElem?_drop, Nat.add_sub_cancel' hbehind, hpoint]
  rw [hvalue]
  exact extreme.isShort_of_lt hdrop (by omega)

/-- Behind a pivot at least two points fall short of it by the time it is confirmed. -/
theorem answered (h : Confirmed seen older pivot) :
    2 ≤ (seen.drop (pivot.position + 1)).countP (Point.fallsShort pivot.kind pivot.value) := by
  obtain ⟨extreme, hanswers, hposition, -, hvalue⟩ := h.exists_extreme
  rw [hposition, hvalue, Nat.add_assoc, ← List.drop_drop, extreme.drop_before]
  exact hanswers

end Confirmed

namespace PivotDetector

/-- A pivot on record has not been broken before the next one was confirmed, or to this day. -/
theorem Tracks.unbroken {detector : PivotDetector} (h : detector.Tracks)
    {newer older : List Pivot} {pivot : Pivot} (hpivots : detector.pivots = newer ++ pivot :: older)
    {position : Nat} {point : Point} (hpoint : detector.points.toList[position]? = some point)
    (hbehind : behind older ≤ position)
    (hnext : ∀ next ∈ newer.getLast?, position ≤ next.confirmedAt) :
    ¬pivot.kind.isBeyond (point.value pivot.kind) pivot.value = true := by
  -- the newest pivot stands now, any other one stood when the next was confirmed
  obtain rfl | ⟨later, next, rfl⟩ := newer.eq_nil_or_concat'
  · have hstands := h.stands pivot (by rw [hpivots]; rfl)
    rw [h.search_eq, hpivots] at hstands
    exact not_isBeyond_of_breaks hstands (mem_drop_of_le hpoint hbehind)
  · have hle := hnext next (by simp)
    have hsuffix : next :: pivot :: older <:+ detector.pivots :=
      ⟨later, by simp [hpivots]⟩
    refine not_isBeyond_of_breaks ((h.recorded next _ hsuffix).stands pivot rfl)
      (mem_drop_of_le ?_ hbehind)
    rw [List.getElem?_take_of_lt (by omega), hpoint]

/-- Every pivot on record stands, wherever on the record it is. -/
theorem Tracks.stands_of_eq {detector : PivotDetector} (h : detector.Tracks)
    {newer older : List Pivot} {pivot : Pivot}
    (hpivots : detector.pivots = newer ++ pivot :: older) :
    Stands detector.points.toList newer pivot older := by
  have hrecorded : Recorded detector.points.toList (pivot :: older) :=
    h.recorded.of_suffix ⟨newer, hpivots.symm⟩
  have hconfirmed := hrecorded.head
  have hlt := hrecorded.confirmedAt_lt
  -- what was so of the points seen by then is so of all points fed
  have hseen : ∀ {position : Nat} {point : Point}, position ≤ pivot.confirmedAt →
      ((detector.points.toList.take (pivot.confirmedAt + 1))[position]? = some point ↔
        detector.points.toList[position]? = some point) := by
    intro position point hle
    rw [List.getElem?_take_of_lt (Nat.lt_succ_of_le hle)]
  have hle := hconfirmed.position_le
  refine ⟨hconfirmed.alternates, behind_le_iff.mp hconfirmed.behind_le, hle,
    hconfirmed.confirmedAt_le, hlt, ?_, ?_, ?_, ?_, hconfirmed.answered⟩
  · obtain ⟨point, hpoint, hbar⟩ := hconfirmed.bar
    exact ⟨point, (hseen (by omega)).mp hpoint, hbar⟩
  · obtain ⟨point, hpoint, hindex⟩ := hconfirmed.confirming
    exact ⟨point, (hseen (Nat.le_refl _)).mp hpoint, hindex⟩
  · intro position point hpoint hbehind hnext
    exact Bool.eq_false_iff.mpr (h.unbroken hpivots hpoint (behind_le_iff.mpr hbehind) hnext)
  · intro position point hpoint hbehind hlt
    exact (hconfirmed.first ((hseen (by omega)).mpr hpoint) (behind_le_iff.mpr hbehind) hlt).beq

/--
**Every pivot stands.** After any pushes, failed ones included, the detector searches
for what its newest pivot is not, and each pivot on its record stands between its
neighbours.
-/
theorem stands_of_pushAll (fed : List Point) :
    (empty.pushAll fed).points.toList = fed ∧
      ((empty.pushAll fed).mode = .both ↔ (empty.pushAll fed).pivots = []) ∧
      (∀ newest ∈ (empty.pushAll fed).pivots.head?,
        (empty.pushAll fed).mode = .after newest.kind) ∧
      ∀ newer pivot older, (empty.pushAll fed).pivots = newer ++ pivot :: older →
        Stands fed newer pivot older := by
  obtain ⟨htracks, hfed⟩ := tracks_empty.pushAll fed
  have hpoints : (empty.pushAll fed).points.toList = fed := hfed
  refine ⟨hpoints, ?_, ?_, fun newer pivot older hpivots => hpoints ▸ htracks.stands_of_eq hpivots⟩
  · rw [htracks.toFollows.mode_eq]
    cases (empty.pushAll fed).pivots with
    | nil => simp [modeAfter]
    | cons newest older => cases hkind : newest.kind <;> simp [modeAfter, hkind, SearchMode.after]
  · intro newest hnewest
    obtain ⟨older, hpivots⟩ := List.head?_eq_some_iff.mp hnewest
    rw [htracks.toFollows.mode_eq, hpivots]
    rfl

/-- Bars inside one another, until a lower low, and then bars above it. -/
def insideBars : List Point :=
  [⟨0, 10, 1⟩, ⟨1, 9, 2⟩, ⟨2, 8, 3⟩, ⟨3, 7, 0⟩, ⟨4, 7, 1⟩, ⟨5, 8, 2⟩]

/--
After a push that failed at the third bar, the first high stands, and the low confirmed
after it.
-/
theorem stands_of_insideBars :
    ((empty.pushAll (insideBars.take 2)).push ⟨2, 8, 3⟩).1 = .error (.simultaneousPivots 2) ∧
      ∃ high low, (empty.pushAll insideBars).pivots = [low, high] ∧
        Stands insideBars [] low [high] ∧ Stands insideBars [low] high [] := by
  have hlength : (empty.pushAll insideBars).pivots.length = 2 := by decide +kernel
  obtain ⟨low, high, hpivots⟩ := List.length_eq_two.mp hlength
  obtain ⟨-, -, -, hstands⟩ := stands_of_pushAll insideBars
  exact ⟨by decide +kernel, high, low, hpivots, hstands [] low [high] hpivots,
    hstands [low] high [] hpivots⟩

end PivotDetector

end SwingTrader
