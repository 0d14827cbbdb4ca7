import SwingTrader.Proofs.Pivot.Revision

/-!
# SwingTrader — a push, round by round

What a push does after taking in its bar can be told as a loop that goes on until
nothing is left to do: while the newest pivot is broken it is dropped, else a ready
candidate is confirmed, and either way the loop looks again. Nothing in that says
that it ends, or that a pivot confirmed after a drop is not dropped once more. It
ends because a pivot is never broken by the bars that confirmed it: on a detector
that tracks its points every drop comes before the first confirmation, drops use up
the record, and confirmations use up the points.

* `PivotDetector.round` — one round of the loop;
* `PivotDetector.Rounds` — the loop, with what each round did and what it came to;
* `Recorded.length_le_behind` — there are no more pivots than points up to the newest;
* `PivotDetector.returns_of_push` — the loop ends, within its bounds, in what a push
  answers.
-/

namespace SwingTrader

namespace PivotDetector

/-- What a round does to the record. -/
inductive Rewrite where
  | drop
  | confirm
  deriving DecidableEq, Repr

/-- A round rewrites the record and another one follows, or it is the last. -/
inductive Round where
  | again (rewrite : Rewrite) (next : PivotDetector)
  | over (outcome : Except PivotError Unit)

/-- The detector as it would be had its newest pivot never been confirmed. -/
def without (detector : PivotDetector) (newest : Pivot) (older : List Pivot) : PivotDetector :=
  { detector with search := searchWithout detector.points newest, pivots := older }

/-- The detector without its newest pivot, if that is broken. -/
def dropNewest? (detector : PivotDetector) : Option PivotDetector :=
  match detector.pivots with
  | [] => none
  | newest :: older =>
    if breaks detector.search newest then some (detector.without newest older) else none

/-- One round of the loop at the bar of an index. -/
def round (detector : PivotDetector) (index : Nat) : Round :=
  match detector.dropNewest? with
  | some next => .again .drop next
  | none =>
    match detector.search.ready? .high, detector.search.ready? .low with
    | some _, some _ => .over (.error (.simultaneousPivots index))
    | some high, none => .again .confirm (detector.confirm .high high index)
    | none, some low => .again .confirm (detector.confirm .low low index)
    | none, none => .over (.ok ())

/-- The rounds from a detector on: what they do, one after the other, and what they come to. -/
inductive Rounds (index : Nat) :
    PivotDetector → List Rewrite → Except PivotError Unit × PivotDetector → Prop where
  | last {detector : PivotDetector} {outcome : Except PivotError Unit} :
      detector.round index = .over outcome → Rounds index detector [] (outcome, detector)
  | next {detector next : PivotDetector} {rewrite : Rewrite} {rewrites : List Rewrite}
      {result : Except PivotError Unit × PivotDetector} :
      detector.round index = .again rewrite next → Rounds index next rewrites result →
      Rounds index detector (rewrite :: rewrites) result

/-- Nothing is left open about the rounds from a detector on. -/
theorem Rounds.unique {index : Nat} {detector : PivotDetector}
    {rewrites rewrites' : List Rewrite} {result result' : Except PivotError Unit × PivotDetector}
    (h : Rounds index detector rewrites result) (h' : Rounds index detector rewrites' result') :
    rewrites' = rewrites ∧ result' = result := by
  induction h generalizing rewrites' with
  | last hround =>
    cases h' with
    | last hround' =>
      cases hround.symm.trans hround'
      exact ⟨rfl, rfl⟩
    | next hround' => cases hround.symm.trans hround'
  | next hround _ ih =>
    cases h' with
    | last hround' => cases hround.symm.trans hround'
    | next hround' hrest =>
      cases hround.symm.trans hround'
      obtain ⟨rfl, rfl⟩ := ih hrest
      exact ⟨rfl, rfl⟩

end PivotDetector

/-! ## Positions -/

namespace Recorded

variable {fed : List Point} {pivots : List Pivot}

theorem position_lt_behind (h : Recorded fed pivots) :
    ∀ pivot ∈ pivots, pivot.position < behind pivots := by
  induction pivots with
  | nil => simp
  | cons newest older ih =>
    have hle := h.head.behind_le
    rw [behind_cons]
    refine List.forall_mem_cons.mpr ⟨Nat.lt_succ_self _, fun pivot hpivot => ?_⟩
    have hlt := ih h.tail pivot hpivot
    omega

/-- Each pivot on record lies behind the ones confirmed before it. -/
theorem pairwise_position (h : Recorded fed pivots) :
    pivots.Pairwise fun later earlier => earlier.position < later.position := by
  induction pivots with
  | nil => exact .nil
  | cons newest older ih =>
    refine .cons (fun earlier hearlier => ?_) (ih h.tail)
    exact (h.tail.position_lt_behind earlier hearlier).trans_le h.head.behind_le

/-- There are no more pivots on record than points up to the newest one. -/
theorem length_le_behind (h : Recorded fed pivots) : pivots.length ≤ behind pivots := by
  induction pivots with
  | nil => exact Nat.le_refl _
  | cons newest older ih =>
    rw [List.length_cons, behind_cons]
    exact Nat.succ_le_succ ((ih h.tail).trans h.head.behind_le)

theorem length_le (h : Recorded fed pivots) : pivots.length ≤ fed.length :=
  h.length_le_behind.trans h.behind_le_length

end Recorded

namespace PivotDetector

variable {detector : PivotDetector} {index : Nat}

/-! ## Drops -/

section Drops

variable {newest : Pivot} {older : List Pivot}

/-- A broken pivot is taken back before the others are looked at. -/
theorem revert_of_breaks (hpivots : detector.pivots = newest :: older)
    (hbreaks : breaks detector.search newest = true) :
    detector.revert = (detector.without newest older).revert := by
  rw [revert, hpivots, dropBroken, if_pos hbreaks]
  rfl

/-- A round drops the newest pivot while it is broken. -/
theorem round_of_breaks (hpivots : detector.pivots = newest :: older)
    (hbreaks : breaks detector.search newest = true) :
    detector.round index = .again .drop (detector.without newest older) := by
  simp only [round, dropNewest?, hpivots, hbreaks, if_true]

end Drops

/-- Dropping what is broken is a number of rounds that drop, one for each pivot that goes. -/
theorem rounds_of_revert {rewrites : List Rewrite} {result : Except PivotError Unit × PivotDetector}
    (pivots : List Pivot) :
    ∀ detector : PivotDetector, detector.pivots = pivots →
      Rounds index detector.revert rewrites result →
      ∃ drops ≤ pivots.length, detector.revert.pivots = pivots.drop drops ∧
        Rounds index detector (List.replicate drops .drop ++ rewrites) result := by
  induction pivots with
  | nil =>
    intro detector hpivots hrounds
    rw [revert_of_stands (by simp [hpivots])] at hrounds ⊢
    exact ⟨0, Nat.le_refl _, hpivots, hrounds⟩
  | cons newest older ih =>
    intro detector hpivots hrounds
    by_cases hbreaks : breaks detector.search newest = true
    · -- the pivot goes, and the rest is dropped from where the searches are set back to
      rw [revert_of_breaks hpivots hbreaks] at hrounds ⊢
      obtain ⟨drops, hle, hkept, hrest⟩ := ih (detector.without newest older) rfl hrounds
      exact ⟨drops + 1, Nat.succ_le_succ hle, hkept,
        .next (round_of_breaks hpivots hbreaks) hrest⟩
    · rw [revert_of_stands (by simpa [hpivots] using hbreaks)] at hrounds ⊢
      exact ⟨0, Nat.zero_le _, hpivots, hrounds⟩

/-! ## Confirmations -/

/-- Between pushes, and after every confirmation, there is nothing to drop. -/
theorem Tracks.dropNewest?_eq_none (h : detector.Tracks) : detector.dropNewest? = none := by
  rw [dropNewest?]
  split
  next => rfl
  next newest older hpivots =>
    have hstands := h.stands newest (by rw [hpivots]; rfl)
    rw [hstands, if_neg Bool.false_ne_true]

/-- A round confirms the one candidate that is ready. -/
theorem Tracks.round_eq_confirm {kind : PivotKind} {candidate : Candidate} (h : detector.Tracks)
    (hready : detector.search.ready? kind = some candidate)
    (halone : detector.search.ready? kind.opposite = none) :
    detector.round index = .again .confirm (detector.confirm kind candidate index) := by
  rw [round, h.dropNewest?_eq_none]
  cases kind with
  | high => simp only [hready, show detector.search.ready? .low = none from halone]
  | low => simp only [hready, show detector.search.ready? .high = none from halone]

theorem Tracks.round_eq_over (h : detector.Tracks)
    (hnone : ∀ kind, detector.search.ready? kind = none) :
    detector.round index = .over (.ok ()) := by
  rw [round, h.dropNewest?_eq_none, hnone, hnone]

/-- Confirming everything that is ready takes one round for each new pivot. -/
theorem Tracks.rounds_confirmFrom {kind : PivotKind} {candidate : Candidate}
    (h : detector.Tracks) (hready : detector.search.ready? kind = some candidate)
    (halone : detector.search.ready? kind.opposite = none)
    (hindex : detector.points.toList.getLast?.map Point.index = some index) :
    ∃ confirms, (detector.confirmFrom kind candidate index).pivots.length =
        confirms + detector.pivots.length ∧
      Rounds index detector (List.replicate confirms .confirm)
        (.ok (), detector.confirmFrom kind candidate index) := by
  have hround : detector.round index = .again .confirm (detector.confirm kind candidate index) :=
    h.round_eq_confirm hready halone
  have htracks := h.confirm hready halone hindex
  fun_induction PivotDetector.confirmFrom with
  | case1 detector kind candidate next hnext ih =>
    -- a new pivot's own direction is not searched for, so the other is alone in being ready
    have hself : (detector.confirm kind candidate index).search.ready? kind.opposite.opposite =
        none := by
      rw [PivotKind.opposite_opposite]
      exact ready?_confirm_self detector kind candidate index
    obtain ⟨confirms, hlength, hrest⟩ := ih htracks hnext hself hindex
      (htracks.round_eq_confirm hnext hself) (htracks.confirm hnext hself hindex)
    refine ⟨confirms + 1, ?_, .next hround hrest⟩
    rw [hlength, PivotDetector.confirm, List.length_cons]
    omega
  | case2 detector kind candidate hnone =>
    refine ⟨1, Nat.add_comm _ _, .next hround (.last (htracks.round_eq_over fun other => ?_))⟩
    obtain rfl | rfl := kind.eq_or_eq_opposite other
    · exact ready?_confirm_self detector other candidate index
    · exact hnone

/-- Confirming what is ready is a number of rounds, each of which confirms one pivot. -/
theorem Tracks.rounds_confirmReady (h : detector.Tracks)
    (hindex : detector.points.toList.getLast?.map Point.index = some index) :
    ∃ confirms, (detector.confirmReady index).2.pivots.length =
        confirms + detector.pivots.length ∧
      Rounds index detector (List.replicate confirms .confirm) (detector.confirmReady index) := by
  rw [confirmReady]
  split
  next high low hhigh hlow =>
    refine ⟨0, (Nat.zero_add _).symm, .last ?_⟩
    rw [round, h.dropNewest?_eq_none, hhigh, hlow]
  next high hhigh hlow => exact h.rounds_confirmFrom hhigh hlow hindex
  next low hhigh hlow => exact h.rounds_confirmFrom hlow hhigh hindex
  next hhigh hlow =>
    refine ⟨0, (Nat.zero_add _).symm, .last (h.round_eq_over fun kind => ?_)⟩
    cases kind with
    | high => exact hhigh
    | low => exact hlow

/-! ## Pushes -/

/-- A push is a number of rounds that drop and then a number of rounds that confirm. -/
theorem Tracks.rounds_push (h : detector.Tracks) (point : Point) :
    ∃ drops confirms, drops ≤ detector.pivots.length ∧
      Rounds point.index (detector.observe point)
        (List.replicate drops .drop ++ List.replicate confirms .confirm) (detector.push point) ∧
      ∃ confirmed, confirmed.length = confirms ∧
        (detector.push point).2.pivots = confirmed ++ detector.pivots.drop drops := by
  obtain ⟨htracks, -, -⟩ := (h.toFollows.observe point).revert
  obtain ⟨confirms, hlength, hrounds⟩ :=
    htracks.rounds_confirmReady (detector.newest_revert_observe point)
  -- the confirmations start from a record that stands: that is why they come after all drops
  obtain ⟨drops, hle, hkept, hall⟩ :=
    rounds_of_revert detector.pivots (detector.observe point) rfl hrounds
  obtain ⟨confirmed, hpivots, -⟩ :=
    (detector.observe point).revert.confirmReady_pivots point.index
  refine ⟨drops, confirms, hle, hall, confirmed, ?_, hkept ▸ hpivots⟩
  rw [hpivots, List.length_append] at hlength
  omega

/--
**A push always returns.** The loop that drops and confirms ends, with what a push
answers and in no other way: after at most as many drops as there were pivots, and
then at most as many confirmations as there are points, the new one included. Each
new pivot lies behind the one before it.
-/
theorem returns_of_push (fed : List Point) (point : Point) :
    ∃ drops confirms, drops ≤ (empty.pushAll fed).pivots.length ∧ confirms ≤ fed.length + 1 ∧
      (∀ rewrites result, Rounds point.index ((empty.pushAll fed).observe point) rewrites result ↔
        rewrites = List.replicate drops .drop ++ List.replicate confirms .confirm ∧
          result = (empty.pushAll fed).push point) ∧
      (∃ confirmed, confirmed.length = confirms ∧ ((empty.pushAll fed).push point).2.pivots =
        confirmed ++ (empty.pushAll fed).pivots.drop drops) ∧
      ((empty.pushAll fed).push point).2.pivots.Pairwise
        fun later earlier => earlier.position < later.position := by
  obtain ⟨htracks, hfed⟩ := tracks_empty.pushAll fed
  obtain ⟨hafter, hpoints, -⟩ := htracks.push point
  obtain ⟨drops, confirms, hle, hrounds, confirmed, hconfirmed, hpivots⟩ :=
    htracks.rounds_push point
  have hlength := hafter.recorded.length_le
  rw [hpivots, hpoints, hfed, List.length_append, hconfirmed] at hlength
  simp only [List.length_append, List.length_cons, List.length_nil] at hlength
  refine ⟨drops, confirms, hle, ?_, fun rewrites result => ⟨hrounds.unique, ?_⟩,
    ⟨confirmed, hconfirmed, hpivots⟩, hafter.recorded.pairwise_position⟩
  · have hempty : empty.points.toList.length = 0 := rfl
    omega
  · rintro ⟨rfl, rfl⟩
    exact hrounds

/-- One bar may do both: it breaks the high, and answers the low that was waiting behind it. -/
example :
    let detector := empty.pushAll [⟨0, 10, 5⟩, ⟨1, 9, 4⟩, ⟨2, 8, 3⟩, ⟨3, 9, 4⟩]
    detector.pivots.map Pivot.kind = [.high] ∧
      (detector.push ⟨4, 11, 5⟩).2.pivots.map Pivot.kind = [.low] := by
  decide +kernel

end PivotDetector

end SwingTrader
