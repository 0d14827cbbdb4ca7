import SwingTrader.Proofs.Pivot.Readiness

/-!
# SwingTrader — what one push makes of the record

A push rewrites the newest part of the record. The pivots that go are read off the
bars alone: the newest one goes when the new bar itself is beyond it, and each
further one goes with the one behind it when anything fed since the pivot before it
is beyond it. What is left is the beginning of the old record as it was, and
everything behind that was confirmed by the push.

* `Drops.dropped_iff`, `Drops.of_dropped` — which pivots a stretch drops, one by one;
* `PivotDetector.push_pivots` — the record after a push, as what is kept and what is new;
* `PivotDetector.revision_of_push` — the whole of it, for every detector and bar.
-/

namespace SwingTrader

/-! ## What is dropped -/

namespace Drops

variable {fed : List Point} {pivot : Pivot} {older pivots kept : List Pivot}

/-- The newest of a list of pivots is dropped where it is gone beyond. -/
theorem dropped_iff (h : Drops fed (pivot :: older) kept) :
    ¬pivot :: older <:+ kept ↔ GoneBeyond fed pivot older := by
  rw [← breaks_iff_goneBeyond]
  cases h with
  | keep hstands =>
    have hpivot := hstands pivot rfl
    simp [hpivot]
  | drop hbreaks hdrops =>
    refine iff_of_true (fun hsuffix => ?_) hbreaks
    have hlength := (hsuffix.trans hdrops.suffix).length_le
    rw [List.length_cons] at hlength
    omega

/-- Behind a pivot that is dropped, dropping goes on with the pivots before it. -/
theorem of_dropped (h : Drops fed pivots kept) (hsuffix : pivot :: older <:+ pivots)
    (hdropped : ¬pivot :: older <:+ kept) : Drops fed older kept := by
  induction h with
  | keep => exact absurd hsuffix hdropped
  | drop _ hdrops ih =>
    obtain heq | hsuffix := List.suffix_cons_iff.mp hsuffix
    · obtain ⟨rfl, rfl⟩ := List.cons.inj heq
      exact hdrops
    · exact ih hsuffix hdropped

end Drops

/-- Pivots put in front of a record hide none of it, and are not part of it. -/
theorem suffix_append_iff {confirmed kept older : List Pivot} {pivot : Pivot}
    (hpivot : pivot ∉ confirmed) :
    pivot :: older <:+ confirmed ++ kept ↔ pivot :: older <:+ kept := by
  refine ⟨fun hsuffix => ?_, fun hsuffix => hsuffix.trans (List.suffix_append _ _)⟩
  obtain h | ⟨front, hfront⟩ :=
    List.suffix_or_suffix_of_suffix hsuffix (List.suffix_append confirmed kept)
  · exact h
  · cases front with
    | nil => exact ⟨[], hfront.symm⟩
    | cons first rest =>
      -- what stands in front of the kept pivots begins with the pivot, and is new
      obtain ⟨newer, hnewer⟩ := hsuffix
      rw [← hfront, ← List.append_assoc] at hnewer
      obtain rfl : first = pivot := (List.cons.inj hfront).1
      rw [← List.append_cancel_right hnewer] at hpivot
      exact absurd (List.mem_append_right newer List.mem_cons_self) hpivot

namespace PivotDetector

variable {detector : PivotDetector}

/-! ## What is new -/

theorem confirm_pivots (detector : PivotDetector) (kind : PivotKind) (candidate : Candidate)
    (index : Nat) :
    ∃ pivot, (detector.confirm kind candidate index).pivots = pivot :: detector.pivots ∧
      pivot.confirmedIndex = index ∧ pivot.confirmedAt = detector.points.size - 1 :=
  ⟨_, rfl, rfl, rfl⟩

/-- Confirming puts pivots in front of the record, all of them confirmed by the newest bar. -/
theorem confirmFrom_pivots (detector : PivotDetector) (kind : PivotKind) (candidate : Candidate)
    (index : Nat) :
    ∃ confirmed, (detector.confirmFrom kind candidate index).pivots =
        confirmed ++ detector.pivots ∧
      ∀ pivot ∈ confirmed, pivot.confirmedIndex = index ∧
        pivot.confirmedAt = detector.points.size - 1 := by
  fun_induction PivotDetector.confirmFrom with
  | case1 detector kind candidate next _ ih =>
    obtain ⟨confirmed, hpivots, hconfirmed⟩ := ih
    obtain ⟨first, hfirst, hnew⟩ := detector.confirm_pivots kind candidate index
    refine ⟨confirmed ++ [first], ?_, ?_⟩
    · rw [hpivots, hfirst, List.append_assoc, List.singleton_append]
    · exact List.forall_mem_append.mpr ⟨hconfirmed, List.forall_mem_singleton.mpr hnew⟩
  | case2 detector kind candidate _ =>
    obtain ⟨first, hfirst, hnew⟩ := detector.confirm_pivots kind candidate index
    exact ⟨[first], hfirst, List.forall_mem_singleton.mpr hnew⟩

theorem confirmReady_pivots (detector : PivotDetector) (index : Nat) :
    ∃ confirmed, (detector.confirmReady index).2.pivots = confirmed ++ detector.pivots ∧
      ∀ pivot ∈ confirmed, pivot.confirmedIndex = index ∧
        pivot.confirmedAt = detector.points.size - 1 := by
  rw [confirmReady]
  split
  next => exact ⟨[], rfl, by simp⟩
  next => exact confirmFrom_pivots _ _ _ _
  next => exact confirmFrom_pivots _ _ _ _
  next => exact ⟨[], rfl, by simp⟩

/-- After a push the record is what is left of the old one, behind what the push confirmed. -/
theorem push_pivots (h : detector.Tracks) (point : Point) :
    ∃ confirmed kept, (detector.push point).2.pivots = confirmed ++ kept ∧
      Drops (detector.points.toList ++ [point]) detector.pivots kept ∧
      ∀ pivot ∈ confirmed, pivot.confirmedIndex = point.index ∧
        pivot.confirmedAt = detector.points.size := by
  obtain ⟨-, hpoints, hdrops⟩ := (h.toFollows.observe point).revert
  obtain ⟨confirmed, hpivots, hconfirmed⟩ :=
    (detector.observe point).revert.confirmReady_pivots point.index
  refine ⟨confirmed, (detector.observe point).revert.pivots, hpivots, ?_, ?_⟩
  · exact detector.toList_observe point ▸ hdrops
  · have hsize : (detector.observe point).revert.points.size - 1 = detector.points.size := by
      rw [hpoints, observe, Array.size_push, Nat.add_sub_cancel]
    exact hsize ▸ hconfirmed

/-! ## The record before and after -/

/--
What one more point makes of a record, given the points fed before it. A pivot is
dropped when the record up to it is no longer the beginning of the record; lists of
pivots begin with the newest.
-/
structure Revision (fed : List Point) (point : Point) (record revised : List Pivot) :
    Prop where
  newest : ∀ newest older, record = newest :: older →
    (¬newest :: older <:+ revised ↔ (point.value newest.kind).isNaN = false ∧
      newest.kind.isBeyond (point.value newest.kind) newest.value = true)
  cascade : ∀ pivot earlier older, pivot :: earlier :: older <:+ record →
    ¬pivot :: earlier :: older <:+ revised →
    (¬earlier :: older <:+ revised ↔ GoneBeyond (fed ++ [point]) earlier older)
  rest : ∃ confirmed kept, revised = confirmed ++ kept ∧ kept <:+ record ∧
    (∀ pivot ∈ kept, pivot.confirmedAt < fed.length) ∧
    ∀ pivot ∈ confirmed, pivot.confirmedIndex = point.index ∧ pivot.confirmedAt = fed.length

/-- Every pivot on record was confirmed by a point that was fed. -/
theorem Tracks.confirmedAt_lt (h : detector.Tracks) {pivot : Pivot}
    (hpivot : pivot ∈ detector.pivots) :
    pivot.confirmedAt < detector.points.toList.length := by
  obtain ⟨newer, older, hpivots⟩ := List.append_of_mem hpivot
  exact (h.recorded.of_suffix ⟨newer, hpivots.symm⟩).confirmedAt_lt

/-- A push revises the record of a detector that tracks what it was fed. -/
theorem Tracks.revision (h : detector.Tracks) (point : Point) :
    Revision detector.points.toList point detector.pivots (detector.push point).2.pivots := by
  obtain ⟨confirmed, kept, hpivots, hdrops, hconfirmed⟩ := push_pivots h point
  -- what the push confirmed is told from what was on record by when it was confirmed
  have hnew : ∀ pivot ∈ detector.pivots, pivot ∉ confirmed := by
    intro pivot hpivot hmem
    have hlt := h.confirmedAt_lt hpivot
    rw [(hconfirmed pivot hmem).2, Array.length_toList] at hlt
    exact Nat.lt_irrefl _ hlt
  rw [hpivots]
  refine ⟨fun newest older hrecord => ?_, fun pivot earlier older hsuffix hdropped => ?_,
    ⟨confirmed, kept, rfl, hdrops.suffix, fun pivot hpivot => ?_, hconfirmed⟩⟩
  · have hrecorded : Recorded _ (newest :: older) := hrecord ▸ h.recorded
    have hstands := h.stands newest (by rw [hrecord]; rfl)
    rw [h.search_eq, hrecord] at hstands
    rw [hrecord] at hdrops hnew
    -- nothing fed before was beyond the newest pivot, so it is the new bar or none
    rw [suffix_append_iff (hnew newest List.mem_cons_self), hdrops.dropped_iff,
      goneBeyond_concat_iff hrecorded.tail.behind_le_length hstands]
    exact ⟨fun hbeyond => ⟨(PivotKind.isNaN_of_isBeyond hbeyond).1, hbeyond⟩, And.right⟩
  · have hpivot : pivot ∈ detector.pivots := hsuffix.subset (by simp)
    have hearlier : earlier ∈ detector.pivots := hsuffix.subset (by simp)
    rw [suffix_append_iff (hnew pivot hpivot)] at hdropped
    rw [suffix_append_iff (hnew earlier hearlier)]
    exact (hdrops.of_dropped hsuffix hdropped).dropped_iff
  · exact h.confirmedAt_lt (hdrops.suffix.subset hpivot)

/--
**What one push makes of the record.** Whatever was fed before, failed pushes included,
the newest pivot is dropped exactly when the new bar is beyond it, each further one
exactly when the one behind it is and some bar since the pivot before it is beyond it;
the others stay as they were, and what stands behind them was confirmed by this push.
-/
theorem revision_of_push (fed : List Point) (point : Point) :
    Revision fed point (empty.pushAll fed).pivots ((empty.pushAll fed).push point).2.pivots := by
  obtain ⟨htracks, hfed⟩ := tracks_empty.pushAll fed
  replace hfed : (empty.pushAll fed).points.toList = fed := hfed
  have hrevision := htracks.revision point
  rwa [hfed] at hrevision

/-- A fall from a high, a rise from the low, and a fall again from a higher high. -/
def swings : List Point :=
  [⟨0, 10, 9⟩, ⟨1, 9, 8⟩, ⟨2, 8, 7⟩, ⟨3, 7, 5⟩, ⟨4, 8, 6⟩, ⟨5, 9, 7⟩,
    ⟨6, 12, 10⟩, ⟨7, 11, 9⟩,
    ⟨8, 10, 8⟩]

/--
A bar above the newest high and below the low before it takes all three pivots off the
record.
-/
theorem revision_of_outsideBar :
    ((empty.pushAll swings).push ⟨9, 13, 4⟩).2.pivots = [] ∧
      ∃ third second first, (empty.pushAll swings).pivots = [third, second, first] ∧
        third.kind.isBeyond ((⟨9, 13, 4⟩ : Point).value third.kind) third.value = true ∧
        GoneBeyond (swings ++ [⟨9, 13, 4⟩]) second [first] ∧
        GoneBeyond (swings ++ [⟨9, 13, 4⟩]) first [] := by
  have hrevised : ((empty.pushAll swings).push ⟨9, 13, 4⟩).2.pivots = [] :=
    List.length_eq_zero_iff.mp (by decide +kernel)
  obtain ⟨third, second, first, hrecord⟩ :=
    List.length_eq_three.mp (show (empty.pushAll swings).pivots.length = 3 by decide +kernel)
  obtain ⟨hnewest, hcascade, -⟩ := revision_of_push swings ⟨9, 13, 4⟩
  rw [hrecord, hrevised] at hcascade
  rw [hrevised] at hnewest
  refine ⟨hrevised, third, second, first, hrecord, ?_, ?_, ?_⟩
  · exact ((hnewest third [second, first] hrecord).mp (by simp)).2
  · exact (hcascade third second [first] List.suffix_rfl (by simp)).mp (by simp)
  · exact (hcascade second first [] (List.suffix_cons third _) (by simp)).mp (by simp)

/-- A bar below the low alone takes none off: the newest high stands in front of it. -/
example : ((empty.pushAll swings).push ⟨9, 11, 4⟩).2.pivots.length = 3 := by decide +kernel

end PivotDetector

end SwingTrader
