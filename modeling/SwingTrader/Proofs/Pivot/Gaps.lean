import SwingTrader.Proofs.Pivot.Standing

/-!
# SwingTrader — gaps in the data

A bar without a high and a low tells a search nothing. It takes up a place among
the points fed, so that everything fed behind it moves up; and places are what the
detector goes by, when a search starts over behind a new pivot and when the points
since a broken one are observed again. Two detectors, one of them fed gaps on top of
what the other is fed, are compared here step by step: they remember the same
candidates and the same pivots, at places behind which the same points are left.

* `Gapped` — a stretch, and the same with gaps in it;
* `SamePlace` — places behind which two such stretches go on alike;
* `PivotDetector.Resembles` — the two detectors between any two pushes;
* `PivotDetector.Tracks.push_gap` — what feeding a gap does;
* `PivotDetector.unmoved_of_gapped` — gaps move no pivot and confirm none.
-/

namespace SwingTrader

/-! ## Gaps -/

/-- A point without a value in either direction. -/
def Point.IsGap (point : Point) : Prop :=
  point.high.isNaN = true ∧ point.low.isNaN = true

instance (point : Point) : Decidable point.IsGap :=
  inferInstanceAs (Decidable (_ ∧ _))

/-- A gap has no value in any direction. -/
theorem Point.IsGap.value {point : Point} (h : point.IsGap) (kind : PivotKind) :
    (point.value kind).isNaN = true := by
  cases kind with
  | high => exact h.1
  | low => exact h.2

/-- A stretch, and the same with any number of gaps put in at any places. -/
inductive Gapped : List Point → List Point → Prop where
  | nil : Gapped [] []
  | point (point : Point) {fed gapped : List Point} :
      Gapped fed gapped → Gapped (point :: fed) (point :: gapped)
  | gap {gap : Point} {fed gapped : List Point} :
      gap.IsGap → Gapped fed gapped → Gapped fed (gap :: gapped)

theorem Gapped.append {fed gapped later later' : List Point} (h : Gapped fed gapped)
    (hlater : Gapped later later') : Gapped (fed ++ later) (gapped ++ later') := by
  induction h with
  | nil => exact hlater
  | point point _ ih => exact .point point ih
  | gap hgap _ ih => exact .gap hgap ih

/--
A place in a stretch and one in the stretch with gaps: what is left from there on is the
same but for gaps.
-/
structure SamePlace (fed gapped : List Point) (place image : Nat) : Prop where
  le : place ≤ fed.length
  image_le : image ≤ gapped.length
  rest : Gapped (fed.drop place) (gapped.drop image)

namespace SamePlace

variable {fed gapped later later' : List Point} {place image : Nat}

theorem append (h : SamePlace fed gapped place image) (hlater : Gapped later later') :
    SamePlace (fed ++ later) (gapped ++ later') place image := by
  refine ⟨?_, ?_, ?_⟩
  · exact h.le.trans (by simp)
  · exact h.image_le.trans (by simp)
  · rw [List.drop_append_of_le_length h.le, List.drop_append_of_le_length h.image_le]
    exact h.rest.append hlater

/-- Behind both stretches, nothing is left. -/
theorem length (fed gapped : List Point) : SamePlace fed gapped fed.length gapped.length := by
  refine ⟨Nat.le_refl _, Nat.le_refl _, ?_⟩
  rw [List.drop_length, List.drop_length]
  exact .nil

end SamePlace

/-- What is left behind the first of what is left. -/
theorem drop_succ_of_drop {points rest : List Point} {place : Nat} {point : Point}
    (h : points.drop place = point :: rest) :
    points.drop (place + 1) = rest ∧ place + 1 ≤ points.length := by
  have hlength := congrArg List.length h
  rw [List.length_drop, List.length_cons] at hlength
  refine ⟨?_, by omega⟩
  rw [← List.drop_drop, h]
  rfl

/-! ## Candidates and searches -/

/-- Two options are related where both are none, or both are some and what they hold is. -/
theorem rel_inv {α : Type} {r : α → α → Prop} {found found' : Option α}
    (h : Option.Rel r found found') :
    (found = none ∧ found' = none) ∨ ∃ a b, found = some a ∧ found' = some b ∧ r a b := by
  cases h with
  | none => exact .inl ⟨rfl, rfl⟩
  | some hrel => exact .inr ⟨_, _, rfl, rfl, hrel⟩

/-- The same candidate, at a place behind which the stretches go on alike. -/
structure Candidate.Resembles (fed gapped : List Point) (candidate image : Candidate) : Prop where
  index_eq : image.index = candidate.index
  value_eq : image.value = candidate.value
  confirmations_eq : image.confirmations = candidate.confirmations
  place : SamePlace fed gapped (candidate.position + 1) (image.position + 1)

/-- The same candidate in both directions, if there is one. -/
structure Search.Resembles (fed gapped : List Point) (search image : Search) : Prop where
  mode_eq : image.mode = search.mode
  candidate : ∀ kind, Option.Rel (Candidate.Resembles fed gapped) (search.candidate kind)
    (image.candidate kind)

variable {fed gapped later later' : List Point} {kind : PivotKind}

namespace Candidate

/-- A candidate stays the same when both stretches go on alike. -/
theorem Resembles.append {candidate image : Candidate}
    (h : candidate.Resembles fed gapped image) (hlater : Gapped later later') :
    candidate.Resembles (fed ++ later) (gapped ++ later') image :=
  { h with place := h.place.append hlater }

/-- A candidate does not notice a gap. -/
theorem observe_gap {gap : Point} (hgap : gap.IsGap) (candidate : Option Candidate)
    (position : Nat) : observe kind candidate position gap = candidate := by
  unfold observe
  exact if_pos (hgap.value kind)

/-- A point does the same to both candidates. -/
theorem observe_resembles {candidate image : Option Candidate} {position position' : Nat}
    {point : Point} (hplace : SamePlace fed gapped (position + 1) (position' + 1))
    (h : Option.Rel (Resembles fed gapped) candidate image) :
    Option.Rel (Resembles fed gapped) (observe kind candidate position point)
      (observe kind image position' point) := by
  unfold observe
  dsimp only
  split
  · exact h
  · cases h with
    | none => exact .some ⟨rfl, rfl, rfl, hplace⟩
    | some hsame =>
      -- both comparisons are of the same values
      simp only [hsame.value_eq]
      split
      · exact .some ⟨hsame.index_eq, rfl, congrArg (· + 1) hsame.confirmations_eq, hsame.place⟩
      · split
        · exact .some ⟨rfl, rfl, rfl, hplace⟩
        · exact .some hsame

/-- And so does all that is left from the same place on. -/
theorem observeAll_resembles {candidate image : Option Candidate} {place place' : Nat}
    (hplace : SamePlace fed gapped place place')
    (h : Option.Rel (Resembles fed gapped) candidate image) :
    Option.Rel (Resembles fed gapped) (observeAll kind candidate place (fed.drop place))
      (observeAll kind image place' (gapped.drop place')) := by
  obtain ⟨hle, hle', hrest⟩ := hplace
  generalize hleft : fed.drop place = left at hrest ⊢
  generalize hleft' : gapped.drop place' = left' at hrest ⊢
  induction hrest generalizing candidate image place place' with
  | nil => exact h
  | point point hrest ih =>
    obtain ⟨hnext, hle⟩ := drop_succ_of_drop hleft
    obtain ⟨hnext', hle'⟩ := drop_succ_of_drop hleft'
    rw [observeAll, observeAll]
    refine ih (observe_resembles ⟨hle, hle', ?_⟩ h) hle hle' hnext hnext'
    rw [hnext, hnext']
    exact hrest
  | gap hgap hrest ih =>
    obtain ⟨hnext', hle'⟩ := drop_succ_of_drop hleft'
    rw [observeAll, observe_gap hgap]
    exact ih h hle hle' hleft hnext'

end Candidate

namespace Search.Resembles

variable {search image : Search}

theorem append (h : search.Resembles fed gapped image) (hlater : Gapped later later') :
    search.Resembles (fed ++ later) (gapped ++ later') image where
  mode_eq := h.mode_eq
  candidate kind := by
    obtain ⟨hnone, hnone'⟩ | ⟨_, _, hsome, hsome', hsame⟩ := rel_inv (h.candidate kind)
    · rw [hnone, hnone']
      exact .none
    · rw [hsome, hsome']
      exact .some (hsame.append hlater)

/-- Two searches that resemble each other still do so once both have seen what is left. -/
theorem observeAll {place place' : Nat} (h : search.Resembles fed gapped image)
    (hplace : SamePlace fed gapped place place') :
    (search.observeAll place (fed.drop place)).Resembles fed gapped
      (image.observeAll place' (gapped.drop place')) where
  mode_eq := h.mode_eq
  candidate kind := by
    rw [candidate_observeAll, candidate_observeAll]
    exact Candidate.observeAll_resembles hplace (h.candidate kind)

/-- What is ready is ready in both. -/
theorem ready? (h : search.Resembles fed gapped image) (kind : PivotKind) :
    Option.Rel (Candidate.Resembles fed gapped) (search.ready? kind) (image.ready? kind) := by
  rw [Search.ready?, Search.ready?, h.mode_eq]
  split
  · obtain ⟨hnone, hnone'⟩ | ⟨_, _, hsome, hsome', hsame⟩ := rel_inv (h.candidate kind)
    · rw [hnone, hnone']
      exact .none
    · rw [hsome, hsome', Option.filter_some, Option.filter_some, hsame.confirmations_eq]
      split
      · exact .some hsame
      · exact .none
  · exact .none

end Search.Resembles

/-! ## Pivots -/

/-- The same pivot, confirmed at the same bar from the same searches. -/
structure Pivot.Resembles (fed gapped : List Point) (pivot image : Pivot) : Prop where
  kind_eq : image.kind = pivot.kind
  index_eq : image.index = pivot.index
  value_eq : image.value = pivot.value
  confirmedIndex_eq : image.confirmedIndex = pivot.confirmedIndex
  since : SamePlace fed gapped (pivot.confirmedAt + 1) (image.confirmedAt + 1)
  before : pivot.before.Resembles fed gapped image.before

/-- A pivot stays the same when both stretches go on alike. -/
theorem Pivot.Resembles.append {pivot image : Pivot} (h : pivot.Resembles fed gapped image)
    (hlater : Gapped later later') : pivot.Resembles (fed ++ later) (gapped ++ later') image :=
  { h with since := h.since.append hlater, before := h.before.append hlater }

namespace PivotDetector

/-- The same pivots and searches, over a stretch and the same with gaps in it. -/
structure Resembles (detector image : PivotDetector) : Prop where
  points : Gapped detector.points.toList image.points.toList
  search : detector.search.Resembles detector.points.toList image.points.toList image.search
  pivots : List.Forall₂ (Pivot.Resembles detector.points.toList image.points.toList)
    detector.pivots image.pivots

/-- A pivot is broken on both sides or on neither. -/
theorem breaks_resembles {search search' : Search} {pivot image : Pivot}
    (hsearch : search.Resembles fed gapped search') (hpivot : pivot.Resembles fed gapped image) :
    breaks search' image = breaks search pivot := by
  rw [breaks, breaks, hsearch.mode_eq, hpivot.kind_eq, hpivot.value_eq]
  obtain ⟨hnone, hnone'⟩ | ⟨_, _, hsome, hsome', hsame⟩ :=
    rel_inv (hsearch.candidate pivot.kind)
  · rw [hnone, hnone']
  · rw [hsome, hsome', Option.any_some, Option.any_some, hsame.value_eq]

/-- The same pivots are dropped on both sides, and the searches go back to the same places. -/
theorem dropBroken_resembles {points points' : Array Point} {search search' : Search}
    {pivots pivots' : List Pivot}
    (hsearch : search.Resembles points.toList points'.toList search')
    (hpivots : List.Forall₂ (Pivot.Resembles points.toList points'.toList) pivots pivots') :
    (dropBroken points search pivots).1.Resembles points.toList points'.toList
        (dropBroken points' search' pivots').1 ∧
      List.Forall₂ (Pivot.Resembles points.toList points'.toList)
        (dropBroken points search pivots).2 (dropBroken points' search' pivots').2 := by
  induction hpivots generalizing search search' with
  | nil => exact ⟨hsearch, .nil⟩
  | cons hpivot hpivots ih =>
    rw [dropBroken, dropBroken, breaks_resembles hsearch hpivot]
    split
    · exact ih (hpivot.before.observeAll hpivot.since)
    · exact ⟨hsearch, .cons hpivot hpivots⟩

namespace Resembles

variable {detector image : PivotDetector}

theorem revert (h : detector.Resembles image) : detector.revert.Resembles image.revert := by
  obtain ⟨hsearch, hpivots⟩ := dropBroken_resembles h.search h.pivots
  exact ⟨h.points, hsearch, hpivots⟩

/-- The opposite search starts over at the same place. -/
theorem confirm {candidate candidate' : Candidate} (h : detector.Resembles image)
    (kind : PivotKind) (index : Nat)
    (hcandidate : candidate.Resembles detector.points.toList image.points.toList candidate') :
    (detector.confirm kind candidate index).Resembles (image.confirm kind candidate' index) := by
  have hle := hcandidate.place.le
  have hle' := hcandidate.place.image_le
  rw [Array.length_toList] at hle hle'
  refine ⟨h.points, ⟨rfl, fun other => ?_⟩, .cons ?_ h.pivots⟩
  · obtain rfl | rfl := kind.eq_or_eq_opposite other
    · rw [candidate_confirm_self, candidate_confirm_self]
      exact h.search.candidate other
    · rw [candidate_confirm, candidate_confirm]
      exact Candidate.observeAll_resembles hcandidate.place .none
  · -- everything fed so far was seen when the pivot was confirmed
    refine ⟨rfl, hcandidate.index_eq, hcandidate.value_eq, rfl, ?_, h.search⟩
    show SamePlace _ _ (detector.points.size - 1 + 1) (image.points.size - 1 + 1)
    rw [Nat.sub_add_cancel (by omega), Nat.sub_add_cancel (by omega), ← Array.length_toList,
      ← Array.length_toList]
    exact .length _ _

/-- Confirming a candidate, and what becomes ready behind it, keeps two detectors alike. -/
theorem confirmFrom {candidate candidate' : Candidate} {index : Nat} (h : detector.Resembles image)
    (hcandidate : candidate.Resembles detector.points.toList image.points.toList candidate') :
    (detector.confirmFrom kind candidate index).Resembles
      (image.confirmFrom kind candidate' index) := by
  -- along the recursion of the detector without gaps; the other takes the same branch
  fun_induction PivotDetector.confirmFrom detector kind candidate index generalizing image
    candidate' with
  | case1 detector kind candidate next hnext ih =>
    have hconfirm := h.confirm kind index hcandidate
    have hready := hconfirm.search.ready? kind.opposite
    rw [hnext] at hready
    rw [PivotDetector.confirmFrom.eq_def image]
    split
    next found hfound =>
      rw [hfound] at hready
      cases hready with
      | some hsame => exact ih hconfirm hsame
    next hnone =>
      rw [hnone] at hready
      cases hready
  | case2 detector kind candidate hnext =>
    have hconfirm := h.confirm kind index hcandidate
    have hready := hconfirm.search.ready? kind.opposite
    rw [hnext] at hready
    rw [PivotDetector.confirmFrom.eq_def image]
    split
    next found hfound =>
      rw [hfound] at hready
      cases hready
    next => exact hconfirm

/-- Both detectors confirm the same, or fail alike. -/
theorem confirmReady (h : detector.Resembles image) (index : Nat) :
    (image.confirmReady index).1 = (detector.confirmReady index).1 ∧
      (detector.confirmReady index).2.Resembles (image.confirmReady index).2 := by
  rw [PivotDetector.confirmReady, PivotDetector.confirmReady]
  obtain ⟨hhigh, hhigh'⟩ | ⟨_, _, hhigh, hhigh', hsame⟩ :=
    rel_inv (h.search.ready? .high) <;>
    obtain ⟨hlow, hlow'⟩ | ⟨_, _, hlow, hlow', hsame'⟩ := rel_inv (h.search.ready? .low) <;>
    rw [hhigh, hhigh', hlow, hlow']
  · exact ⟨rfl, h⟩
  · exact ⟨rfl, h.confirmFrom hsame'⟩
  · exact ⟨rfl, h.confirmFrom hsame⟩
  · exact ⟨rfl, h⟩

/-- Both are fed the same point. -/
theorem observe (h : detector.Resembles image) (point : Point) :
    (detector.observe point).Resembles (image.observe point) := by
  have hone : Gapped [point] [point] := .point point .nil
  have hfed := detector.toList_observe point
  have hfed' := image.toList_observe point
  refine ⟨?_, ?_, ?_⟩ <;> rw [hfed, hfed']
  · exact h.points.append hone
  · -- the new point is all that lies behind what was fed before
    have hsearch := (h.search.append hone).observeAll ((SamePlace.length _ _).append hone)
    rwa [List.drop_left, List.drop_left, Array.length_toList, Array.length_toList] at hsearch
  · exact h.pivots.imp fun _ _ hsame => hsame.append hone

/-- **The step.** A push of the same point is answered alike, and leaves the two alike. -/
theorem push (h : detector.Resembles image) (point : Point) :
    (image.push point).1 = (detector.push point).1 ∧
      (detector.push point).2.Resembles (image.push point).2 :=
  (h.observe point).revert.confirmReady point.index

end Resembles

/-! ## Feeding gaps -/

section Pushes

variable {detector image : PivotDetector} {gap : Point}

/-- Between two pushes nothing is ready, or both directions are, since the push before failed. -/
def Settled (detector : PivotDetector) : Prop :=
  (∀ kind, detector.search.ready? kind = none) ∨ ∀ kind, (detector.search.ready? kind).isSome

/-- After a push a detector is settled. -/
theorem Tracks.settled_push (h : detector.Tracks) (point : Point) :
    (detector.push point).2.Settled :=
  (h.push point).outcome.imp (·.2) (·.2.1)

/-- A detector with one more point fed, and nothing made of it. -/
def skip (detector : PivotDetector) (point : Point) : PivotDetector :=
  { detector with points := detector.points.push point }

/--
A gap drops no pivot and moves no search; it can only be told again that both
directions are ready.
-/
theorem Tracks.push_gap (h : detector.Tracks) (hgap : gap.IsGap) :
    detector.push gap = (detector.skip gap).confirmReady gap.index := by
  have hsearch : detector.search.observeAll detector.points.size [gap] = detector.search := by
    refine Search.eq_of_candidate rfl fun kind => ?_
    rw [Search.candidate_observeAll, Candidate.observeAll, Candidate.observe_gap hgap,
      Candidate.observeAll]
  have hobserve : detector.observe gap = detector.skip gap := by
    rw [PivotDetector.observe, hsearch]
    rfl
  have hrevert : (detector.skip gap).revert = detector.skip gap := revert_of_stands h.stands
  rw [PivotDetector.push, hobserve, hrevert]

/-- Nothing is made of a gap. Feeding it fails where both directions were ready before it. -/
theorem Tracks.push_gap_of_settled (h : detector.Tracks) (hsettled : detector.Settled)
    (hgap : gap.IsGap) :
    (detector.push gap).2 = detector.skip gap ∧
      ((detector.push gap).1 = .ok () ↔ ∀ kind, detector.search.ready? kind = none) := by
  have hready : (detector.skip gap).search = detector.search := rfl
  rw [h.push_gap hgap, confirmReady, hready]
  obtain hnone | hsome := hsettled
  · rw [hnone .high, hnone .low]
    exact ⟨rfl, iff_of_true rfl hnone⟩
  · obtain ⟨high, hhigh⟩ := Option.isSome_iff_exists.mp (hsome .high)
    obtain ⟨low, hlow⟩ := Option.isSome_iff_exists.mp (hsome .low)
    rw [hhigh, hlow]
    refine ⟨rfl, iff_of_false (by simp) fun hnone => ?_⟩
    cases hhigh.symm.trans (hnone .high)

theorem Resembles.skip (h : detector.Resembles image) (hgap : gap.IsGap) :
    detector.Resembles (image.skip gap) := by
  have hone : Gapped [] [gap] := .gap hgap .nil
  have hpoints := h.points.append hone
  have hsearch := h.search.append hone
  have hpivots := h.pivots.imp fun _ _ hsame => hsame.append hone
  rw [List.append_nil, ← Array.toList_push] at hpoints hsearch hpivots
  exact ⟨hpoints, hsearch, hpivots⟩

/-- **The run.** Feeding gaps on top leaves the two alike. -/
theorem Resembles.pushAll {fed gapped : List Point} (hgapped : Gapped fed gapped)
    (h : detector.Resembles image) (htracks : image.Tracks) (hsettled : image.Settled) :
    (detector.pushAll fed).Resembles (image.pushAll gapped) ∧ (image.pushAll gapped).Settled := by
  induction hgapped generalizing detector image with
  | nil => exact ⟨h, hsettled⟩
  | point point _ ih =>
    exact ih (h.push point).2 (htracks.push point).tracks (htracks.settled_push point)
  | gap hgap _ ih =>
    have hskip := (htracks.push_gap_of_settled hsettled hgap).1 ▸ h.skip hgap
    exact ih hskip (htracks.push _).tracks (htracks.settled_push _)

theorem resembles_empty : empty.Resembles empty where
  points := .nil
  search := ⟨rfl, fun kind => by cases kind <;> exact .none⟩
  pivots := .nil

theorem settled_empty : empty.Settled := .inl fun kind => by cases kind <;> rfl

/-- Gaps on top of what is fed leave a detector that resembles the one without them. -/
theorem resembles_of_gapped {fed gapped : List Point} (h : Gapped fed gapped) :
    (empty.pushAll fed).Resembles (empty.pushAll gapped) ∧ (empty.pushAll gapped).Settled :=
  resembles_empty.pushAll h tracks_empty settled_empty

end Pushes

/-! ## What gaps leave unmoved -/

/-- The same pivot, to anyone who looks at it: whatever it was found at, it is of the same bars. -/
structure SamePivot (pivot image : Pivot) : Prop where
  kind_eq : image.kind = pivot.kind
  index_eq : image.index = pivot.index
  value_eq : image.value = pivot.value
  confirmedIndex_eq : image.confirmedIndex = pivot.confirmedIndex

/-- Two detectors search for the same and have the same pivots on record, one for one. -/
structure Agrees (detector image : PivotDetector) : Prop where
  mode_eq : image.mode = detector.mode
  pivots : List.Forall₂ SamePivot detector.pivots image.pivots

/-- Detectors that resemble each other have the same pivots and searches. -/
theorem Resembles.agrees {detector image : PivotDetector} (h : detector.Resembles image) :
    detector.Agrees image where
  mode_eq := h.search.mode_eq
  pivots := h.pivots.imp fun _ _ hsame =>
    ⟨hsame.kind_eq, hsame.index_eq, hsame.value_eq, hsame.confirmedIndex_eq⟩

/-- The last push of a stretch failed. -/
def LastFailed (fed : List Point) : Prop :=
  ∃ earlier last, fed = earlier ++ [last] ∧
    ((empty.pushAll earlier).push last).1 = .error (.simultaneousPivots last.index)

/-- Something is only ready between two pushes if the last one failed. -/
theorem lastFailed_of_ready {fed : List Point} {kind : PivotKind}
    (h : (empty.pushAll fed).search.ready? kind ≠ none) : LastFailed fed := by
  obtain rfl | ⟨earlier, last, rfl⟩ := fed.eq_nil_or_concat'
  · exact absurd (by cases kind <;> rfl) h
  · have hpushed := (tracks_empty.pushAll earlier).1.push last
    have hlast : empty.pushAll (earlier ++ [last]) = ((empty.pushAll earlier).push last).2 :=
      List.foldl_concat ..
    rw [hlast] at h
    obtain ⟨-, hnone⟩ | ⟨herror, -, -⟩ := hpushed.outcome
    · exact absurd (hnone kind) h
    · exact ⟨earlier, last, rfl, herror⟩

/--
**Gaps are transparent.** However many gaps are fed on top and wherever, every other
push is answered as it is without them and leaves the same mode and the same pivots.
A gap leaves both as they were before it, and fails only where the push before it did.
-/
theorem unmoved_of_gapped {fed gapped : List Point} (h : Gapped fed gapped) :
    (∀ point,
      ((empty.pushAll gapped).push point).1 = ((empty.pushAll fed).push point).1 ∧
        ((empty.pushAll fed).push point).2.Agrees ((empty.pushAll gapped).push point).2) ∧
    ∀ gap : Point, gap.IsGap →
      (empty.pushAll fed).Agrees ((empty.pushAll gapped).push gap).2 ∧
        (((empty.pushAll gapped).push gap).1 ≠ .ok () → LastFailed gapped) := by
  obtain ⟨hresembles, hsettled⟩ := resembles_of_gapped h
  have htracks : (empty.pushAll gapped).Tracks := (tracks_empty.pushAll gapped).1
  refine ⟨fun point => ?_, fun gap hgap => ?_⟩
  · obtain ⟨hanswer, hpush⟩ := hresembles.push point
    exact ⟨hanswer, hpush.agrees⟩
  · obtain ⟨hskip, hok⟩ := htracks.push_gap_of_settled hsettled hgap
    refine ⟨(hskip ▸ hresembles.skip hgap).agrees, fun hfails => ?_⟩
    rw [ne_eq, hok, not_forall] at hfails
    obtain ⟨kind, hready⟩ := hfails
    exact lastFailed_of_ready hready

/-- A gap at some bar. -/
def gapAt (index : Nat) : Point :=
  ⟨index, notANumber, notANumber⟩

theorem isGap_gapAt (index : Nat) : (gapAt index).IsGap := by
  have hmissing : notANumber.isNaN = true := by decide +kernel
  exact ⟨hmissing, hmissing⟩

/-- The first three bars inside one another, with a gap before each. -/
def gappedBars : List Point :=
  [gapAt 10, ⟨0, 10, 1⟩, gapAt 11, ⟨1, 9, 2⟩, gapAt 12, ⟨2, 8, 3⟩]

/--
The third bar fails with gaps as without them, and a gap behind it does; a lower low
then succeeds.
-/
theorem unmoved_of_gappedBars :
    Gapped (insideBars.take 3) gappedBars ∧
      (((empty.pushAll gappedBars).push (gapAt 13)).1 = .error (.simultaneousPivots 13) ∧
        LastFailed gappedBars) ∧
      ((empty.pushAll gappedBars).push ⟨3, 7, 0⟩).1 = .ok () ∧
        ((empty.pushAll (insideBars.take 3)).push ⟨3, 7, 0⟩).2.Agrees
          ((empty.pushAll gappedBars).push ⟨3, 7, 0⟩).2 := by
  have hgapped : Gapped (insideBars.take 3) gappedBars :=
    .gap (isGap_gapAt _) (.point _ (.gap (isGap_gapAt _) (.point _ (.gap (isGap_gapAt _)
      (.point _ .nil)))))
  obtain ⟨hpoints, hgaps⟩ := unmoved_of_gapped hgapped
  obtain ⟨hanswer, hagrees⟩ := hpoints ⟨3, 7, 0⟩
  have herror : ((empty.pushAll gappedBars).push (gapAt 13)).1 =
      .error (.simultaneousPivots 13) := by decide +kernel
  have hfailed := (hgaps (gapAt 13) (isGap_gapAt 13)).2 (by rw [herror]; exact nofun)
  have hok : ((empty.pushAll (insideBars.take 3)).push ⟨3, 7, 0⟩).1 = .ok () := by decide +kernel
  exact ⟨hgapped, ⟨herror, hfailed⟩, hanswer.trans hok, hagrees⟩

end PivotDetector

end SwingTrader
