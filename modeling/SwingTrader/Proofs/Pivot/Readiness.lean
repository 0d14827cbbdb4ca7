import SwingTrader.Proofs.Pivot.Standing

/-!
# SwingTrader — nothing ready is left unconfirmed

A push that succeeds leaves nothing to confirm: what is searched for is not ready
over the points behind the newest pivot. It fails in one case only, when no pivot is
left and both directions are ready over everything fed.

Could a push that drops pivots end there? Where every price is known it cannot: the
point that broke the newest pivot turns out to go beyond everything fed before it,
pivot by pivot down to the first, and a direction whose extreme is the newest point
is not ready.

* `Tops` — a point goes beyond every point of a stretch;
* `exists_tops` — what the point that broke every pivot goes beyond;
* `PivotDetector.outcome_of_push` — when a push succeeds and when it fails.
-/

namespace SwingTrader

/-- A point goes beyond every point of a stretch in a direction. -/
def Tops (kind : PivotKind) (point : Point) (stretch : List Point) : Prop :=
  ∀ earlier ∈ stretch, kind.isBeyond (point.value kind) (earlier.value kind) = true

/-- Every point has a value in both directions. -/
def AllKnown (points : List Point) : Prop :=
  ∀ point ∈ points, point.high.isNaN = false ∧ point.low.isNaN = false

instance (points : List Point) : Decidable (AllKnown points) :=
  inferInstanceAs (Decidable (∀ point ∈ points, point.high.isNaN = false ∧ point.low.isNaN = false))

theorem AllKnown.value {points : List Point} (h : AllKnown points) {point : Point}
    (hpoint : point ∈ points) (kind : PivotKind) : (point.value kind).isNaN = false := by
  cases kind with
  | high => exact (h point hpoint).1
  | low => exact (h point hpoint).2

namespace Tops

variable {kind : PivotKind} {point : Point} {fed : List Point}

/-- A point that tops what was fed before it is the first extreme, and has not been answered. -/
theorem not_isReady (h : Tops kind point fed) : ¬IsReady kind (fed ++ [point]) := by
  rintro ⟨⟨before, peak, after, hsplit, hnumber, hshort, hwithin⟩, hanswers⟩
  -- either the point itself is the peak, or it goes beyond the peak
  obtain rfl | ⟨others, last, rfl⟩ := after.eq_nil_or_concat'
  · simp [FirstExtreme.answers] at hanswers
  · rw [← List.cons_append, ← List.append_assoc] at hsplit
    obtain ⟨rfl, hlast⟩ := List.append_inj' hsplit rfl
    obtain rfl : point = last := List.singleton_inj.mp hlast
    exact hwithin point (by simp) (h peak (by simp))

/-- What goes beyond a value goes beyond every point that does not go beyond the value itself. -/
theorem of_isBeyond {value : Float} {stretch : List Point} (hknown : AllKnown stretch)
    (hpoint : kind.isBeyond (point.value kind) value = true)
    (hstretch : ∀ earlier ∈ stretch, ¬kind.isBeyond (earlier.value kind) value = true) :
    Tops kind point stretch := by
  intro earlier hearlier
  by_contra hnot
  exact hstretch earlier hearlier
    (PivotKind.isBeyond_of_not_isBeyond hpoint (hknown.value hearlier kind) hnot)

/--
A point that tops what was fed from one position on and what was fed up to a later one
tops both.
-/
theorem of_take (start : Nat) {middle stop : Nat} (hle : middle ≤ stop)
    (hseen : Tops kind point ((fed.take stop).drop start))
    (hlater : Tops kind point (fed.drop middle)) : Tops kind point (fed.drop start) := by
  intro earlier hearlier
  rw [← List.take_append_drop stop fed, List.drop_append, List.mem_append] at hearlier
  obtain hearlier | hearlier := hearlier
  · exact hseen earlier hearlier
  · exact hlater earlier (List.drop_subset_drop_left fed hle (List.mem_of_mem_drop hearlier))

end Tops

/-! ## Broken pivots, down to the first -/

/--
The newest pivot stood until a point broke it, so the point tops everything behind the
pivot before it.
-/
theorem tops_of_breaks {fed : List Point} {point : Point} {newest : Pivot} {older : List Pivot}
    (hknown : AllKnown fed) (hbehind : behind older ≤ fed.length)
    (hstands : PivotDetector.breaks (.leftBy fed (newest :: older)) newest = false)
    (hbreaks : PivotDetector.breaks (.leftBy (fed ++ [point]) (newest :: older)) newest = true) :
    Tops newest.kind point (fed.drop (behind older)) := by
  refine .of_isBeyond (fun earlier h => hknown earlier (List.mem_of_mem_drop h)) ?_
    fun _ hearlier => not_isBeyond_of_breaks hstands hearlier
  exact (goneBeyond_concat_iff hbehind hstands).mp (breaks_iff_goneBeyond.mp hbreaks)

namespace Confirmed

variable {fed : List Point} {older : List Pivot} {pivot : Pivot} {point : Point}

/--
When the first pivot was confirmed, the opposite direction was not ready. So what
tops everything behind the pivot tops the whole stretch: two points at least were
seen behind the pivot, and one of them was as extreme as any before it.
-/
theorem tops_of_first (h : Confirmed (fed.take (pivot.confirmedAt + 1)) [] pivot)
    (hknown : AllKnown fed)
    (htops : Tops pivot.kind.opposite point (fed.drop (pivot.position + 1))) :
    Tops pivot.kind.opposite point fed := by
  have hle := h.position_le
  have hlength := h.length_eq
  have hseen : fed.take (pivot.confirmedAt + 1) ⊆ fed := List.take_subset _ _
  have halone := h.alone
  rw [← Option.not_isSome_iff_eq_none, isSome_ready?_leftBy] at halone
  have hnot : ¬IsReady pivot.kind.opposite (fed.take (pivot.confirmedAt + 1)) :=
    fun hready => halone ⟨rfl, hready⟩
  have hbehind : ∀ later ∈ (fed.take (pivot.confirmedAt + 1)).drop (pivot.position + 1),
      later ∈ fed.drop (pivot.position + 1) := by
    intro later hlater
    rw [List.drop_take] at hlater
    exact List.mem_of_mem_take hlater
  obtain ⟨first, hfirst⟩ : ∃ first, first ∈ fed.take (pivot.confirmedAt + 1) :=
    List.exists_mem_of_length_pos (by omega)
  obtain ⟨extreme⟩ := nonempty_firstExtreme pivot.kind.opposite
    (fed.take (pivot.confirmedAt + 1)) ⟨first, hfirst, hknown.value (hseen hfirst) _⟩
  have hbeyond : pivot.kind.opposite.isBeyond (point.value pivot.kind.opposite)
      (extreme.point.value pivot.kind.opposite) = true := by
    by_contra hwithin
    -- otherwise every point seen behind the pivot falls short of the extreme
    have hshort : ∀ later ∈ (fed.take (pivot.confirmedAt + 1)).drop (pivot.position + 1),
        later.fallsShort pivot.kind.opposite (extreme.point.value pivot.kind.opposite) = true :=
      fun later hlater => PivotKind.isBeyond_of_not_isBeyond (htops later (hbehind later hlater))
        extreme.isNumber hwithin
    have hbefore : extreme.before.length ≤ pivot.position := by
      by_contra hlt
      exact PivotKind.not_isBeyond_self
        (hshort _ (mem_drop_of_le extreme.getElem?_before (by omega)))
    have hsublist : ((fed.take (pivot.confirmedAt + 1)).drop (pivot.position + 1)).Sublist
        extreme.after := by
      rw [← extreme.drop_before]
      exact List.drop_sublist_drop_left _ (by omega)
    refine hnot ⟨extreme, ?_⟩
    calc 2 ≤ ((fed.take (pivot.confirmedAt + 1)).drop (pivot.position + 1)).length := by
          rw [List.length_drop, hlength]
          omega
      _ = ((fed.take (pivot.confirmedAt + 1)).drop (pivot.position + 1)).countP
            (Point.fallsShort _ (extreme.point.value pivot.kind.opposite)) :=
          (List.countP_eq_length.mpr hshort).symm
      _ ≤ extreme.answers := hsublist.countP_le
  have htopsSeen : Tops pivot.kind.opposite point (fed.take (pivot.confirmedAt + 1)) :=
    .of_isBeyond (fun earlier h => hknown earlier (hseen h)) hbeyond
      fun _ hearlier => extreme.not_isBeyond hearlier
  exact Tops.of_take 0 (by omega) htopsSeen htops

end Confirmed

/--
The point that broke every pivot on record goes beyond everything fed before it, in
one direction: in that of the newest pivot it does so behind the pivot before it, and
each pivot of the same direction that is broken as well takes it further back.
-/
theorem exists_tops {fed : List Point} {point : Point} (hknown : AllKnown fed) :
    ∀ {pivot : Pivot} {older : List Pivot}, Recorded fed (pivot :: older) →
      Drops (fed ++ [point]) older [] → Tops pivot.kind point (fed.drop (behind older)) →
      ∃ kind, Tops kind point fed
  | pivot, [], _, _, htops => ⟨pivot.kind, htops⟩
  | pivot, [first], hrecorded, _, htops => by
    have hkind : pivot.kind = first.kind.opposite := by
      rw [hrecorded.head.alternates first rfl, PivotKind.opposite_opposite]
    rw [hkind] at htops
    exact ⟨_, hrecorded.tail.head.tops_of_first hknown htops⟩
  | pivot, second :: third :: rest, hrecorded, hdrops, htops => by
    have hsecond := hrecorded.tail.head
    have hkind : third.kind = pivot.kind := by
      rw [hsecond.alternates third rfl, hrecorded.head.alternates second rfl,
        PivotKind.opposite_opposite]
    have hle := hsecond.position_le
    obtain - | ⟨-, hdrops⟩ := hdrops
    obtain - | ⟨hbreaks, hdrops⟩ := hdrops
    refine exists_tops hknown hrecorded.tail.tail hdrops ?_
    rw [hkind]
    have hwithin : ∀ earlier ∈ (fed.take (second.confirmedAt + 1)).drop (behind rest),
        ¬pivot.kind.isBeyond (earlier.value pivot.kind) third.value = true := by
      rw [← hkind]
      exact fun _ hearlier => not_isBeyond_of_breaks (hsecond.stands third rfl) hearlier
    -- the third pivot was broken behind the second one, where the point goes beyond everything
    have hbeyond : pivot.kind.isBeyond (point.value pivot.kind) third.value = true := by
      obtain ⟨breaker, hbreaker, hbeyond⟩ := breaks_iff_goneBeyond.mp hbreaks
      rw [hkind] at hbeyond
      rw [← List.take_append_drop (second.confirmedAt + 1) fed, List.append_assoc, List.drop_append,
        List.mem_append] at hbreaker
      obtain hbreaker | hbreaker := hbreaker
      · exact absurd hbeyond (hwithin breaker hbreaker)
      · obtain hbreaker | hbreaker := List.mem_append.mp (List.mem_of_mem_drop hbreaker)
        · have hmem : breaker ∈ fed.drop (behind (second :: third :: rest)) :=
            List.drop_subset_drop_left fed (by rw [behind_cons]; omega) hbreaker
          exact PivotKind.isBeyond_trans (htops breaker hmem) hbeyond
        · rw [← List.mem_singleton.mp hbreaker]
          exact hbeyond
    have hle : behind (second :: third :: rest) ≤ second.confirmedAt + 1 := by
      rw [behind_cons]
      omega
    refine Tops.of_take (behind rest) hle
      (.of_isBeyond (fun earlier h => ?_) hbeyond hwithin) htops
    exact hknown earlier (List.mem_of_mem_take (List.mem_of_mem_drop h))

namespace PivotDetector

variable {detector : PivotDetector} {point : Point}

/--
Where every price is known, a push that drops every pivot leaves a direction that is not
ready.
-/
theorem Tracks.pivots_eq_nil {fed : List Point} (h : detector.Tracks)
    (hfed : detector.points.toList = fed) (hknown : AllKnown fed)
    (hdrops : Drops (fed ++ [point]) detector.pivots [])
    (hready : ∀ kind, IsReady kind (fed ++ [point])) : detector.pivots = [] := by
  subst hfed
  cases hpivots : detector.pivots with
  | nil => rfl
  | cons newest older =>
    rw [hpivots] at hdrops
    have hrecorded := hpivots ▸ h.recorded
    have hstands := h.stands newest (by rw [hpivots]; rfl)
    rw [h.search_eq, hpivots] at hstands
    obtain - | ⟨hbreaks, hdrops⟩ := hdrops
    obtain ⟨kind, htops⟩ := exists_tops hknown hrecorded hdrops
      (tops_of_breaks hknown hrecorded.tail.behind_le_length hstands hbreaks)
    exact absurd (hready kind) htops.not_isReady

/-! ## Outcomes -/

/--
A kind is ready if the mode looks for it and its extreme behind the newest pivot is
answered twice.
-/
theorem Tracks.isSome_ready? (h : detector.Tracks) (kind : PivotKind) :
    (detector.search.ready? kind).isSome ↔ detector.mode.accepts kind = true ∧
      IsReady kind (detector.points.toList.drop (behind detector.pivots)) := by
  rw [h.toFollows.mode_eq, h.search_eq]
  exact isSome_ready?_leftBy

/-- Where no candidate is ready, nothing that is searched for is. -/
theorem Tracks.not_isReady (h : detector.Tracks)
    (hnone : ∀ kind, detector.search.ready? kind = none) :
    (∀ kind, detector.mode.accepts kind = true →
      ¬IsReady kind (detector.points.toList.drop (behind detector.pivots))) ∧
    (detector.pivots = [] → ∀ kind, ¬IsReady kind detector.points.toList) := by
  have hnot : ∀ kind, detector.mode.accepts kind = true →
      ¬IsReady kind (detector.points.toList.drop (behind detector.pivots)) := by
    intro kind haccepts hready
    have hsome := (h.isSome_ready? kind).mpr ⟨haccepts, hready⟩
    rw [hnone kind] at hsome
    cases hsome
  refine ⟨hnot, fun hpivots kind => ?_⟩
  have hkind := hnot kind
  rw [h.toFollows.mode_eq, hpivots] at hkind
  exact hkind rfl

/--
Where both candidates are ready, there is no pivot: after one, only its opposite is
searched for.
-/
theorem Tracks.isReady (h : detector.Tracks)
    (hsome : ∀ kind, (detector.search.ready? kind).isSome) :
    detector.pivots = [] ∧ ∀ kind, IsReady kind detector.points.toList := by
  have haccepts := fun kind => ((h.isSome_ready? kind).mp (hsome kind)).1
  have hpivots : detector.pivots = [] := by
    rw [h.toFollows.mode_eq] at haccepts
    cases hpivots : detector.pivots with
    | nil => rfl
    | cons newest older =>
      have hself := haccepts newest.kind
      rw [hpivots, modeAfter, SearchMode.accepts_after, beq_iff_eq] at hself
      exact absurd hself.symm newest.kind.opposite_ne
  refine ⟨hpivots, fun kind => ?_⟩
  have hready := ((h.isSome_ready? kind).mp (hsome kind)).2
  rw [hpivots] at hready
  exact hready

/--
**Nothing ready is left, and when a push fails.** A push that succeeds leaves no
direction that is searched for ready over the points behind the newest pivot, and
none at all over everything fed where no pivot is left. It fails exactly when it
leaves no pivot and both directions ready over everything fed, and, where every
price is known, only on a detector that had no pivot before.
-/
theorem outcome_of_push (fed : List Point) (point : Point) :
    (((empty.pushAll fed).push point).1 = .ok () →
      (∀ kind, ((empty.pushAll fed).push point).2.mode.accepts kind = true →
        ¬IsReady kind ((fed ++ [point]).drop (behind ((empty.pushAll fed).push point).2.pivots))) ∧
      (((empty.pushAll fed).push point).2.pivots = [] → ∀ kind, ¬IsReady kind (fed ++ [point]))) ∧
    (∀ error, ((empty.pushAll fed).push point).1 = .error error ↔
      error = .simultaneousPivots point.index ∧ ((empty.pushAll fed).push point).2.pivots = [] ∧
        ∀ kind, IsReady kind (fed ++ [point])) ∧
    (AllKnown (fed ++ [point]) → ∀ error, ((empty.pushAll fed).push point).1 = .error error →
      (empty.pushAll fed).pivots = []) := by
  obtain ⟨htracks, hfed⟩ := tracks_empty.pushAll fed
  replace hfed : (empty.pushAll fed).points.toList = fed := hfed
  obtain ⟨hafter, hpoints, houtcome⟩ := htracks.push point
  rw [hfed] at hpoints
  -- only the invariant and the two outcomes are needed of the push itself
  generalize (empty.pushAll fed).push point = result at hafter hpoints houtcome
  obtain ⟨hok, hnone⟩ | ⟨herror, hsome, hdrops⟩ := houtcome
  · have hnot := hafter.not_isReady hnone
    rw [hpoints] at hnot
    refine ⟨fun _ => hnot, fun error => ⟨fun h => ?_, fun ⟨_, hpivots, hready⟩ => ?_⟩,
      fun _ error h => ?_⟩
    · cases hok.symm.trans h
    · exact absurd (hready .high) (hnot.2 hpivots .high)
    · cases hok.symm.trans h
  · obtain ⟨hpivots, hready⟩ := hafter.isReady hsome
    rw [hpoints] at hready hdrops
    rw [hpivots] at hdrops
    refine ⟨fun h => ?_, fun error => ⟨fun h => ?_, fun ⟨h, _⟩ => h ▸ herror⟩,
      fun hknown _ _ => ?_⟩
    · cases herror.symm.trans h
    · cases herror.symm.trans h
      exact ⟨rfl, hpivots, hready⟩
    -- a pivot there was would have shown one of the directions ready before this point
    · refine htracks.pivots_eq_nil hfed (fun other h => ?_) hdrops hready
      exact hknown other (List.mem_append_left _ h)

/--
Three bars inside one another end in both directions at once, and a lower low settles
which was first.
-/
theorem outcome_of_insideBars :
    (((empty.pushAll (insideBars.take 2)).push ⟨2, 8, 3⟩).1 = .error (.simultaneousPivots 2) ∧
      (empty.pushAll (insideBars.take 2)).pivots = [] ∧
      ∀ kind, IsReady kind (insideBars.take 3)) ∧
    (((empty.pushAll (insideBars.take 3)).push ⟨3, 7, 0⟩).1 = .ok () ∧
      ¬IsReady .low ((insideBars.take 4).drop
        (behind ((empty.pushAll (insideBars.take 3)).push ⟨3, 7, 0⟩).2.pivots))) := by
  have herror : ((empty.pushAll (insideBars.take 2)).push ⟨2, 8, 3⟩).1 =
      .error (.simultaneousPivots 2) := by decide +kernel
  have hok : ((empty.pushAll (insideBars.take 3)).push ⟨3, 7, 0⟩).1 = .ok () := by decide +kernel
  obtain ⟨-, hfails, hfound⟩ := outcome_of_push (insideBars.take 2) ⟨2, 8, 3⟩
  obtain ⟨hsucceeds, -, -⟩ := outcome_of_push (insideBars.take 3) ⟨3, 7, 0⟩
  exact ⟨⟨herror, hfound (by decide +kernel) _ herror, ((hfails _).mp herror).2.2⟩,
    hok, (hsucceeds hok).1 .low (by decide +kernel)⟩

end PivotDetector

end SwingTrader
