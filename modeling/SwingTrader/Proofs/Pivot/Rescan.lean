import SwingTrader.Indicator.Read
import SwingTrader.Proofs.Pivot.Standing

/-!
# SwingTrader — a scan is a plain rescan

A scan feeds only what it has not fed yet, or everything anew, and keeps the first
failure. Whenever it was brought up to date before, and whatever was read in
between, it holds what a new detector holds that is fed the whole series, for as
long as nothing fails; and forward it fails where that detector fails.

* `PivotScan.rescan` — a new detector is fed a whole series;
* `PivotScan.Step` — what may happen to a scan while its series grows;
* `IsLatest` — the pivot that a bar looks back on;
* `PivotScan.rescan_of_steps` — the scan and what is read from it, at any time.
-/

namespace SwingTrader

/-! ## Looking back -/

/--
The pivot of a direction with the greatest bar index up to a given one, or none if there
is none.
-/
def IsLatest (pivots : List Pivot) (kind : PivotKind) (index : Nat) : Option Pivot → Prop
  | none => ∀ pivot ∈ pivots, pivot.kind = kind → ¬pivot.index ≤ index
  | some latest => latest ∈ pivots ∧ latest.kind = kind ∧ latest.index ≤ index ∧
      ∀ pivot ∈ pivots, pivot.kind = kind → pivot.index ≤ index →
        pivot = latest ∨ pivot.index < latest.index

namespace PivotDetector

/-- Going through a list keeps a pivot with the greatest bar index. -/
theorem foldl_nearer (pivots : List Pivot) :
    ∀ best : Pivot, ∃ found, pivots.foldl pivotAtOrBefore.nearer (some best) = some found ∧
      found ∈ best :: pivots ∧ ∀ other ∈ best :: pivots, other.index ≤ found.index := by
  induction pivots with
  | nil => exact fun best => ⟨best, rfl, List.mem_cons_self, by simp⟩
  | cons pivot rest ih =>
    intro best
    rw [List.foldl_cons, pivotAtOrBefore.nearer]
    -- a pivot replaces the best one so far only when it is strictly later
    by_cases hlt : best.index < pivot.index
    · obtain ⟨found, heq, hmem, hle⟩ := ih pivot
      rw [if_pos hlt]
      refine ⟨found, heq, List.mem_cons_of_mem _ hmem, List.forall_mem_cons.mpr ⟨?_, hle⟩⟩
      exact (Nat.le_of_lt hlt).trans (hle pivot List.mem_cons_self)
    · obtain ⟨found, heq, hmem, hle⟩ := ih best
      obtain ⟨hbest, hrest⟩ := List.forall_mem_cons.mp hle
      rw [if_neg hlt]
      refine ⟨found, heq, ?_, ?_⟩
      · exact (List.mem_cons.mp hmem).elim (fun h => h ▸ List.mem_cons_self)
          fun h => List.mem_cons_of_mem _ (List.mem_cons_of_mem _ h)
      · refine List.forall_mem_cons.mpr ⟨hbest, List.forall_mem_cons.mpr ⟨?_, hrest⟩⟩
        exact (Nat.le_of_not_lt hlt).trans hbest

/-- A look-up finds the latest pivot where no two pivots are at one bar. -/
theorem isLatest_pivotAtOrBefore {detector : PivotDetector} (kind : PivotKind) (index : Nat)
    (hdistinct : ∀ pivot ∈ detector.pivots, ∀ other ∈ detector.pivots,
      pivot.index = other.index → pivot = other) :
    IsLatest detector.pivots kind index (detector.pivotAtOrBefore kind index) := by
  have hmem : ∀ pivot, pivot ∈ detector.pivots.filter
      (fun pivot => pivot.kind == kind && pivot.index ≤ index) ↔
        pivot ∈ detector.pivots ∧ pivot.kind = kind ∧ pivot.index ≤ index := by
    simp
  rw [pivotAtOrBefore]
  generalize detector.pivots.filter (fun pivot => pivot.kind == kind && pivot.index ≤ index) =
    eligible at hmem
  cases eligible with
  | nil => exact fun pivot hpivot hkind hindex => by cases (hmem pivot).mpr ⟨hpivot, hkind, hindex⟩
  | cons first rest =>
    obtain ⟨latest, heq, hlatest, hle⟩ := foldl_nearer rest first
    rw [List.foldl_cons, pivotAtOrBefore.nearer, heq]
    obtain ⟨hpivots, hkind, hindex⟩ := (hmem latest).mp hlatest
    refine ⟨hpivots, hkind, hindex, fun pivot hpivot hkind hindex => ?_⟩
    obtain hlt | heq := Nat.lt_or_eq_of_le (hle pivot ((hmem pivot).mpr ⟨hpivot, hkind, hindex⟩))
    · exact .inr hlt
    · exact .inl (hdistinct pivot hpivot latest hpivots heq)

/-- Feeding up to the first failure tracks what was fed. -/
theorem Tracks.feed {points : List Point} {detector : PivotDetector} (h : detector.Tracks)
    (hok : (detector.feed points).1 = .ok ()) :
    (detector.feed points).2.Tracks ∧
      (detector.feed points).2.points.toList = detector.points.toList ++ points := by
  induction points generalizing detector with
  | nil => exact ⟨h, (List.append_nil _).symm⟩
  | cons point rest ih =>
    have hpushed := h.push point
    rw [PivotDetector.feed] at hok ⊢
    cases hpush : detector.push point with
    | mk result next =>
      rw [hpush] at hok hpushed
      cases result with
      | error error => cases hok
      | ok _ =>
        obtain ⟨htracks, hfed⟩ := ih hpushed.tracks hok
        refine ⟨htracks, hfed.trans ?_⟩
        rw [hpushed.points_eq, List.append_assoc, List.singleton_append]

end PivotDetector

/-- The pivots on record lie before the newest one, and so on: no two are at one position. -/
theorem Recorded.position_injective {fed : List Point} :
    ∀ {pivots : List Pivot}, Recorded fed pivots →
      (∀ pivot ∈ pivots, pivot.position < behind pivots) ∧
        ∀ pivot ∈ pivots, ∀ other ∈ pivots, pivot.position = other.position → pivot = other
  | [], _ => by simp
  | newest :: older, h => by
    obtain ⟨hlt, hinjective⟩ := h.tail.position_injective
    have hbehind := h.head.behind_le
    have hlt' : ∀ pivot ∈ older, pivot.position < newest.position :=
      fun pivot hpivot => Nat.lt_of_lt_of_le (hlt pivot hpivot) hbehind
    refine ⟨?_, ?_⟩
    · rw [behind_cons]
      exact List.forall_mem_cons.mpr ⟨Nat.lt_succ_self _, fun pivot hpivot =>
        Nat.lt_succ_of_lt (hlt' pivot hpivot)⟩
    · intro pivot hpivot other hother heq
      obtain hpivot | hpivot := List.mem_cons.mp hpivot <;>
        obtain hother | hother := List.mem_cons.mp hother
      · rw [hpivot, hother]
      · exact absurd (hpivot ▸ heq) (Nat.ne_of_gt (hlt' other hother))
      · exact absurd (hother ▸ heq) (Nat.ne_of_lt (hlt' pivot hpivot))
      · exact hinjective pivot hpivot other hother heq

/-- Where every point fed is at a bar of its own, so is every pivot. -/
theorem PivotDetector.Tracks.index_injective {detector : PivotDetector} (h : detector.Tracks)
    (hdistinct : (detector.points.toList.map Point.index).Nodup) :
    ∀ pivot ∈ detector.pivots, ∀ other ∈ detector.pivots,
      pivot.index = other.index → pivot = other := by
  have hbar : ∀ pivot ∈ detector.pivots,
      (detector.points.toList.map Point.index)[pivot.position]? = some pivot.index := by
    intro pivot hpivot
    obtain ⟨newer, older, hpivots⟩ := List.append_of_mem hpivot
    obtain ⟨point, hpoint, hindex, -⟩ := (h.stands_of_eq hpivots).bar
    rw [List.getElem?_map, hpoint, hindex]
    rfl
  intro pivot hpivot other hother heq
  refine (h.recorded.position_injective).2 pivot hpivot other hother ?_
  have hpivot' := hbar pivot hpivot
  have hother' := hbar other hother
  rw [← heq] at hother'
  exact (List.getElem?_inj (List.getElem?_eq_some_iff.mp hpivot').1 hdistinct).mp
    (hpivot'.trans hother'.symm)

/-! ## Series -/

namespace BarSeries

theorem length_points (series : BarSeries) : series.points.length = series.size := by
  simp [points, size]

theorem index_points (series : BarSeries) :
    series.points.map Point.index = List.range series.size := by
  refine List.ext_getElem? fun index => ?_
  simp only [points, size, List.getElem?_map, List.getElem?_mapIdx, Option.map_map]
  by_cases h : index < series.bars.size <;> simp [h]

/-- A new bar adds one point at the end. -/
theorem points_push {series series' : BarSeries} {bar : Bar} (h : series.push bar = .ok series') :
    series'.points = series.points ++ [⟨series.size, bar.high, bar.low⟩] := by
  simp [points, bars_push h, size]

end BarSeries

/-- The points of a series in the order in which a scan feeds them. -/
def ScanDirection.order : ScanDirection → List Point → List Point
  | forward, points => points
  | backward, points => points.reverse

namespace PivotScan

/-- A new detector is fed a whole series, up to the first failure. -/
def rescan (direction : ScanDirection) (series : BarSeries) :
    Except PivotError Unit × PivotDetector :=
  PivotDetector.empty.feed (direction.order series.points)

/-- What a plain rescan arrives at looks back on one pivot at most, at any bar. -/
theorem isLatest_rescan {direction : ScanDirection} {series : BarSeries} {detector : PivotDetector}
    (h : rescan direction series = (.ok (), detector)) (kind : PivotKind) (index : Nat) :
    IsLatest detector.pivots kind index (detector.pivotAtOrBefore kind index) := by
  obtain ⟨htracks, hfed⟩ := PivotDetector.tracks_empty.feed (congrArg Prod.fst h)
  rw [show (PivotDetector.empty.feed (direction.order series.points)).2 = detector from
    congrArg Prod.snd h] at htracks hfed
  refine PivotDetector.isLatest_pivotAtOrBefore kind index (htracks.index_injective ?_)
  have hpoints : detector.points.toList = direction.order series.points := hfed
  rw [hpoints]
  cases direction with
  | forward =>
    rw [ScanDirection.order, BarSeries.index_points]
    exact List.nodup_range
  | backward =>
    rw [ScanDirection.order, List.map_reverse, BarSeries.index_points, List.nodup_reverse]
    exact List.nodup_range

/-! ## Scans -/

/-- What is so of a scan while its series grows: what it holds was fed, up to where it is synced. -/
structure Synced (direction : ScanDirection) (series : BarSeries) (scan : PivotScan) : Prop where
  direction_eq : scan.direction = direction
  synced_le : scan.synced ≤ series.size
  feed_eq : scan.failure = none →
    PivotDetector.empty.feed (direction.order (series.points.take scan.synced)) =
      (.ok (), scan.detector)
  rescan_eq : direction = .forward → ∀ error, scan.failure = some error →
    (rescan .forward series).1 = .error error

variable {direction : ScanDirection} {series series' : BarSeries} {scan scan' : PivotScan}

theorem synced_start (direction : ScanDirection) : Synced direction .empty { direction } where
  direction_eq := rfl
  synced_le := Nat.le_refl _
  feed_eq _ := by cases direction <;> rfl
  rescan_eq := by simp

theorem Synced.append (h : Synced direction series scan) {bar : Bar}
    (hpush : series.push bar = .ok series') : Synced direction series' scan where
  direction_eq := h.direction_eq
  synced_le := by
    rw [BarSeries.size_push hpush]
    exact Nat.le_succ_of_le h.synced_le
  feed_eq hfailure := by
    rw [BarSeries.points_push hpush, List.take_append_of_le_length]
    · exact h.feed_eq hfailure
    · rw [BarSeries.length_points]
      exact h.synced_le
  rescan_eq hforward error hfailure := by
    have herror := h.rescan_eq hforward error hfailure
    rw [rescan, ScanDirection.order] at herror ⊢
    rw [BarSeries.points_push hpush, PivotDetector.feed_append]
    -- the feed of the shorter series has failed already
    cases hfeed : PivotDetector.empty.feed series.points with
    | mk result detector =>
      rw [hfeed] at herror
      rw [show result = .error error from herror]

/-- What a scan goes on from and what it still has to feed make up a plain rescan. -/
theorem Synced.feed_pending (h : Synced direction series scan) (hfailure : scan.failure = none) :
    (scan.pending series).1.feed (scan.pending series).2 = rescan direction series := by
  have hfeed := h.feed_eq hfailure
  rw [pending, h.direction_eq, rescan]
  cases direction with
  | backward => rfl
  | forward =>
    -- a series never shrinks, so that the scan goes on where it was
    have hnot : ¬series.size < scan.synced := Nat.not_lt.mpr h.synced_le
    simp only [ScanDirection.order, if_neg hnot] at hfeed ⊢
    conv_rhs => rw [← List.take_append_drop scan.synced series.points, PivotDetector.feed_append,
      hfeed]

/-- A scan does not get further than to the end of its series. -/
theorem reached_le_size (scan : PivotScan) (series : BarSeries) :
    scan.reached series ≤ series.size := by
  have hcount := PivotDetector.countFed_le_length (scan.pending series).2 (scan.pending series).1
  rw [reached]
  cases hdirection : scan.direction with
  | backward => exact Nat.zero_le _
  | forward =>
    rw [pending, hdirection] at hcount ⊢
    dsimp only at hcount ⊢
    split at hcount
    · simpa [BarSeries.length_points, *] using hcount
    · simp only [List.length_drop, BarSeries.length_points] at hcount
      simp only [if_neg ‹_›]
      omega

/-- Bringing a scan up to date arrives at what a plain rescan arrives at, or fails as it does. -/
theorem Synced.sync (h : Synced direction series scan) (hfailure : scan.failure = none) :
    ((scan.sync series).1 = .ok () ∧ (scan.sync series).2.failure = none ∧
      (scan.sync series).2.synced = series.size ∧
      rescan direction series = (.ok (), (scan.sync series).2.detector)) ∨
    ∃ error, (scan.sync series).1 = .error error ∧ (scan.sync series).2.failure = some error ∧
      (scan.sync series).2.synced ≤ series.size ∧ (rescan direction series).1 = .error error := by
  rw [PivotScan.sync]
  simp only [hfailure]
  by_cases hsize : series.size = scan.synced
  · rw [if_pos hsize]
    refine .inl ⟨rfl, hfailure, hsize.symm, ?_⟩
    have hfeed := h.feed_eq hfailure
    rwa [List.take_of_length_le (by rw [BarSeries.length_points, hsize])] at hfeed
  · rw [if_neg hsize]
    have hpending := h.feed_pending hfailure
    cases hresult : (scan.pending series).1.feed (scan.pending series).2 with
    | mk result detector =>
      rw [hresult] at hpending
      cases result with
      | ok _ => exact .inl ⟨rfl, rfl, rfl, hpending.symm⟩
      | error error =>
        exact .inr ⟨error, rfl, rfl, reached_le_size scan series, by rw [← hpending]⟩

theorem direction_sync (scan : PivotScan) (series : BarSeries) :
    (scan.sync series).2.direction = scan.direction := by
  rw [PivotScan.sync]
  split
  · rfl
  · split
    · rfl
    · dsimp only
      split <;> rfl

/-- A scan that has failed stays failed, with the same error. -/
theorem sync_of_failure {error : PivotError} (h : scan.failure = some error) (series : BarSeries) :
    scan.sync series = (.error error, scan) := by
  rw [PivotScan.sync]
  simp only [h]

theorem Synced.synced_sync (h : Synced direction series scan) :
    Synced direction series (scan.sync series).2 := by
  cases hfailure : scan.failure with
  | some error =>
    rw [sync_of_failure hfailure]
    exact h
  | none =>
    have hdirection := (direction_sync scan series).trans h.direction_eq
    obtain ⟨-, hnone, hsynced, hrescan⟩ | ⟨error, -, hsome, hsynced, hrescan⟩ := h.sync hfailure
    · refine ⟨hdirection, Nat.le_of_eq hsynced, fun _ => ?_, fun _ error hsome => ?_⟩
      · rw [hsynced, List.take_of_length_le (Nat.le_of_eq series.length_points)]
        exact hrescan
      · cases hnone.symm.trans hsome
    · -- however far a scan gets that fails, from here on only its error counts
      refine ⟨hdirection, hsynced, fun hnone => ?_, fun hforward other hother => ?_⟩
      · cases hnone.symm.trans hsome
      · obtain rfl := Option.some.inj (hsome.symm.trans hother)
        exact hforward ▸ hrescan

/-- A scan that is up to date and has not failed holds what a plain rescan arrives at. -/
theorem Synced.rescan_of_none (h : Synced direction series scan)
    (hnone : (scan.sync series).2.failure = none) :
    (scan.sync series).1 = .ok () ∧
      rescan direction series = (.ok (), (scan.sync series).2.detector) := by
  cases hfailure : scan.failure with
  | some error =>
    rw [sync_of_failure hfailure] at hnone
    cases hfailure.symm.trans hnone
  | none =>
    obtain ⟨hok, -, -, hrescan⟩ | ⟨error, -, hsome, -⟩ := h.sync hfailure
    · exact ⟨hok, hrescan⟩
    · cases hnone.symm.trans hsome

/-- Forward, a scan brought up to date answers what a plain rescan answers. -/
theorem Synced.sync_forward (h : Synced .forward series scan) :
    ((scan.sync series).1 = .ok () ∧
      rescan .forward series = (.ok (), (scan.sync series).2.detector)) ∨
    ∃ error, (scan.sync series).1 = .error error ∧ (scan.sync series).2.failure = some error ∧
      (rescan .forward series).1 = .error error := by
  cases hfailure : scan.failure with
  | some error =>
    rw [sync_of_failure hfailure]
    exact .inr ⟨error, rfl, hfailure, h.rescan_eq rfl error hfailure⟩
  | none =>
    obtain ⟨hok, -, -, hrescan⟩ | ⟨error, herror, hsome, -, hrescan⟩ := h.sync hfailure
    · exact .inl ⟨hok, hrescan⟩
    · exact .inr ⟨error, herror, hsome, hrescan⟩

/-! ## Readings -/

/-- What reading an indicator of pivots answers where `found` is the pivot it looks back on. -/
structure Answers (kind : PivotKind) (direction : ScanDirection) (view : MarketView) (index : Nat)
    (scan : PivotScan) (found : Option Pivot) : Prop where
  pivot : ((Indicator.pivot kind direction).read view index scan).1 =
    found.elim notANumber Pivot.value
  pivotOf : ∀ (source : Indicator .number) (memory : source.State),
    ((Indicator.pivotOf kind direction source).read view index (scan, memory)).1 =
      found.elim notANumber fun pivot => (source.read view pivot.index memory).1

/-- An indicator of pivots reads the value of the pivot it looks back on. -/
theorem read_pivot (kind : PivotKind) (direction : ScanDirection) (view : MarketView) (index : Nat)
    (scan : PivotScan) :
    (Indicator.pivot kind direction).read view index scan =
      ((pivotAt kind view.bars index scan).1.elim notANumber Pivot.value,
        (pivotAt kind view.bars index scan).2) := by
  rw [Indicator.read]
  cases hfound : pivotAt kind view.bars index scan with
  | mk found next =>
    simp only [bind, StateT.bind, hfound]
    cases found <;> rfl

/-- With a source, it reads what the source says at the bar of that pivot. -/
theorem read_pivotOf (kind : PivotKind) (direction : ScanDirection) (source : Indicator .number)
    (view : MarketView) (index : Nat) (scan : PivotScan) (memory : source.State) :
    ((Indicator.pivotOf kind direction source).read view index (scan, memory)).1 =
        (pivotAt kind view.bars index scan).1.elim notANumber
          (fun pivot => (source.read view pivot.index memory).1) ∧
      ((Indicator.pivotOf kind direction source).read view index (scan, memory)).2.1 =
        (pivotAt kind view.bars index scan).2 := by
  simp only [Indicator.read]
  cases hfound : pivotAt kind view.bars index scan with
  | mk found next => cases found <;> exact ⟨rfl, rfl⟩

/-- With or without a source, an indicator answers by the pivot that the scan finds. -/
theorem answers_pivotAt (kind : PivotKind) (direction : ScanDirection) (view : MarketView)
    (index : Nat) (scan : PivotScan) :
    Answers kind direction view index scan (pivotAt kind view.bars index scan).1 where
  pivot := by rw [read_pivot]
  pivotOf source memory := (read_pivotOf kind direction source view index scan memory).1

/-- Looking back leaves a scan as it was, or up to date. -/
theorem pivotAt_snd (kind : PivotKind) (series : BarSeries) (index : Nat) (scan : PivotScan) :
    (pivotAt kind series index scan).2 = scan ∨
      (pivotAt kind series index scan).2 = (scan.sync series).2 := by
  rw [pivotAt]
  split
  · split <;> rename_i heq <;> exact .inr (congrArg Prod.snd heq).symm
  · exact .inl rfl

/-- A scan that is up to date finds the latest pivot on its record. -/
theorem pivotAt_fst_of_ok {kind : PivotKind} {index : Nat} (hindex : index < series.size)
    (hok : (scan.sync series).1 = .ok ()) :
    (pivotAt kind series index scan).1 =
      (scan.sync series).2.detector.pivotAtOrBefore kind index := by
  rw [pivotAt, if_pos hindex]
  split
  next heq => rw [heq]
  next heq =>
    rw [heq] at hok
    cases hok

/-- A scan that has failed finds no pivot and does not change. -/
theorem pivotAt_of_failure {error : PivotError} (h : scan.failure = some error) (kind : PivotKind)
    (series : BarSeries) (index : Nat) : pivotAt kind series index scan = (none, scan) := by
  rw [pivotAt, sync_of_failure h]
  exact ite_self _

/-! ## Steps -/

/--
What may happen to a scan while its series grows: a bar is appended, the scan is
brought up to date, or an indicator of pivots, with or without a source, is read.
-/
inductive Step (kind : PivotKind) (direction : ScanDirection) :
    BarSeries × PivotScan → BarSeries × PivotScan → Prop where
  | append {series series' : BarSeries} {scan : PivotScan} {bar : Bar} :
      series.push bar = .ok series' → Step kind direction (series, scan) (series', scan)
  | sync {series : BarSeries} {scan : PivotScan} :
      Step kind direction (series, scan) (series, (scan.sync series).2)
  | read {scan : PivotScan} (view : MarketView) (index : Nat) :
      Step kind direction (view.bars, scan)
        (view.bars, ((Indicator.pivot kind direction).read view index scan).2)
  | readOf {scan : PivotScan} (view : MarketView) (index : Nat) (source : Indicator .number)
      (memory : source.State) :
      Step kind direction (view.bars, scan)
        (view.bars, ((Indicator.pivotOf kind direction source).read view index (scan, memory)).2.1)

/-- Any number of steps. -/
abbrev Steps (kind : PivotKind) (direction : ScanDirection) :
    BarSeries × PivotScan → BarSeries × PivotScan → Prop :=
  Relation.ReflTransGen (Step kind direction)

variable {kind : PivotKind} {before after : BarSeries × PivotScan}

/-- A step appends to the series, brings the scan up to date, or leaves both as they were. -/
theorem Step.cases_sync (h : Step kind direction before after) :
    (∃ bar, before.1.push bar = .ok after.1 ∧ after.2 = before.2) ∨
      (after.1 = before.1 ∧ (after.2 = before.2 ∨ after.2 = (before.2.sync before.1).2)) := by
  cases h with
  | append hpush => exact .inl ⟨_, hpush, rfl⟩
  | sync => exact .inr ⟨rfl, .inr rfl⟩
  | read view index =>
    refine .inr ⟨rfl, ?_⟩
    dsimp only
    rw [read_pivot]
    exact pivotAt_snd kind view.bars index _
  | readOf view index source memory =>
    refine .inr ⟨rfl, ?_⟩
    dsimp only
    rw [(read_pivotOf kind direction source view index _ memory).2]
    exact pivotAt_snd kind view.bars index _

/-- Whatever happens while a series grows, the scan stays right as far as it goes. -/
theorem Synced.step (h : Synced direction before.1 before.2)
    (hstep : Step kind direction before after) :
    Synced direction after.1 after.2 := by
  obtain ⟨bar, hpush, hscan⟩ | ⟨hseries, hscan | hscan⟩ := hstep.cases_sync
  · rw [hscan]
    exact h.append hpush
  · rw [hscan, hseries]
    exact h
  · rw [hscan, hseries]
    exact h.synced_sync

/-- However much happens while a series grows, the scan stays right as far as it goes. -/
theorem Synced.steps (h : Synced direction before.1 before.2)
    (hsteps : Steps kind direction before after) : Synced direction after.1 after.2 := by
  induction hsteps with
  | refl => exact h
  | tail _ hstep ih => exact ih.step hstep

/-- A scan that has failed stays as it is. -/
theorem eq_of_failure {error : PivotError} (hsteps : Steps kind direction before after)
    (h : before.2.failure = some error) : after.2 = before.2 := by
  induction hsteps with
  | refl => rfl
  | tail _ hstep ih =>
    rw [← ih]
    obtain ⟨-, -, hscan⟩ | ⟨-, hscan | hscan⟩ := hstep.cases_sync
    · exact hscan
    · exact hscan
    · rw [hscan, sync_of_failure (ih ▸ h)]

/--
**A scan is a plain rescan.** Whatever was appended, brought up to date and read
before: unless it fails, a scan brought up to date holds what a new detector holds
that is fed the whole series, and what is read at a bar of the series comes from the
latest pivot of that detector. A forward scan fails exactly when that detector does,
with the same error. A scan that has failed answers its error and reads as not a
number ever after.
-/
theorem rescan_of_steps {kind : PivotKind} {direction : ScanDirection} {series : BarSeries}
    {scan : PivotScan} (h : Steps kind direction (.empty, { direction }) (series, scan)) :
    ((scan.sync series).2.failure = none →
      (scan.sync series).1 = .ok () ∧
      rescan direction series = (.ok (), (scan.sync series).2.detector) ∧
      ∀ view index, view.bars = series → index < series.size →
        ∃ found, IsLatest (rescan direction series).2.pivots kind index found ∧
          Answers kind direction view index scan found) ∧
    (direction = .forward → ∀ error,
      ((scan.sync series).2.failure = some error ↔ (rescan .forward series).1 = .error error) ∧
      (scan.failure = some error → (rescan .forward series).1 = .error error)) ∧
    ∀ error, scan.failure = some error →
      ∀ series' scan', Steps kind direction (series, scan) (series', scan') →
        scan'.failure = some error ∧ (scan'.sync series').1 = .error error ∧
          ∀ view index, view.bars = series' → Answers kind direction view index scan' none := by
  have hsynced : Synced direction series scan := (synced_start direction).steps h
  refine ⟨fun hnone => ?_, fun hforward error => ⟨⟨?_, fun herror => ?_⟩, ?_⟩,
    fun error hsome series' scan' hsteps => ?_⟩
  -- the scan has not failed, and holds what a new detector would
  · obtain ⟨hok, hrescan⟩ := hsynced.rescan_of_none hnone
    refine ⟨hok, hrescan, fun view index hview hindex => ?_⟩
    subst hview
    have hanswers := answers_pivotAt kind direction view index scan
    rw [pivotAt_fst_of_ok hindex hok] at hanswers
    exact ⟨_, hrescan ▸ isLatest_rescan hrescan kind index, hanswers⟩
  -- a scan that has failed did so as a rescan does
  · exact hsynced.synced_sync.rescan_eq hforward error
  -- a rescan that fails lets no scan be up to date without failing
  · subst hforward
    cases hfailure : (scan.sync series).2.failure with
    | none =>
      rw [(hsynced.rescan_of_none hfailure).2] at herror
      cases herror
    | some other =>
      have hother := hsynced.synced_sync.rescan_eq rfl other hfailure
      cases hother.symm.trans herror
      rfl
  · exact hsynced.rescan_eq hforward error
  -- a failure is final
  · have heq : scan' = scan := eq_of_failure hsteps hsome
    subst heq
    rw [sync_of_failure hsome]
    refine ⟨hsome, rfl, fun view index _ => ?_⟩
    have hanswers := answers_pivotAt kind direction view index scan'
    rwa [pivotAt_of_failure hsome] at hanswers

/-- A bar of one instant, which opens at its high and closes at its low. -/
def barAt (second : Nat) (high low : Float) : Bar :=
  ⟨⟨second, 0⟩, ⟨second, 0⟩, high, high, low, low⟩

/-- Two bars, the second inside the first, and a third one. -/
def thenBar (high low : Float) : BarSeries :=
  ⟨#[barAt 0 10 1, barAt 1 9 2, barAt 2 high low]⟩

/-- A scan that was brought up to date after the first two bars. -/
def early : PivotScan :=
  (({} : PivotScan).sync ⟨#[barAt 0 10 1, barAt 1 9 2]⟩).2

theorem steps_early (high low : Float) :
    Steps .high .forward (.empty, {}) (thenBar high low, early) := by
  have hfirst : BarSeries.empty.push (barAt 0 10 1) = .ok ⟨#[barAt 0 10 1]⟩ := rfl
  have hsecond : BarSeries.push ⟨#[barAt 0 10 1]⟩ (barAt 1 9 2) =
      .ok ⟨#[barAt 0 10 1, barAt 1 9 2]⟩ := rfl
  have hthird : BarSeries.push ⟨#[barAt 0 10 1, barAt 1 9 2]⟩ (barAt 2 high low) =
      .ok (thenBar high low) := rfl
  exact (((Relation.ReflTransGen.single (.append hfirst)).tail (.append hsecond)).tail .sync).tail
    (.append hthird)

/--
A third bar with a lower low leaves a high to look back on; a third one inside the
others is the end.
-/
theorem rescan_of_thenBar :
    (rescan .forward (thenBar 8 0) = (.ok (), (early.sync (thenBar 8 0)).2.detector) ∧
      ∃ found, IsLatest (rescan .forward (thenBar 8 0)).2.pivots .high 2 (some found) ∧
        Answers .high .forward ⟨thenBar 8 0, .empty⟩ 2 early (some found)) ∧
    (rescan .forward (thenBar 8 3)).1 = .error (.simultaneousPivots 2) ∧
      ∀ index, Answers .high .forward ⟨thenBar 8 3, .empty⟩ index
        (early.sync (thenBar 8 3)).2 none := by
  have hnone : (early.sync (thenBar 8 0)).2.failure = none := by decide +kernel
  have hsome : (early.sync (thenBar 8 3)).2.failure = some (.simultaneousPivots 2) := by
    decide +kernel
  obtain ⟨hholds, -, -⟩ := rescan_of_steps (steps_early 8 0)
  obtain ⟨-, hfails, hstays⟩ := rescan_of_steps ((steps_early 8 3).tail .sync)
  obtain ⟨-, hrescan, hreads⟩ := hholds hnone
  obtain ⟨found, hlatest, hanswers⟩ := hreads ⟨thenBar 8 0, .empty⟩ 2 rfl (by decide)
  obtain ⟨-, -, hstays⟩ := hstays _ hsome _ _ .refl
  refine ⟨⟨hrescan, ?_⟩, (hfails rfl _).2 hsome, fun index => hstays _ index rfl⟩
  cases found with
  | some found => exact ⟨found, hlatest, hanswers⟩
  | none =>
    have hhigh : (rescan .forward (thenBar 8 0)).2.pivots.any
        (fun pivot => decide (pivot.kind = .high ∧ pivot.index ≤ 2)) = true := by decide +kernel
    obtain ⟨pivot, hpivot, hfound⟩ := List.any_eq_true.mp hhigh
    obtain ⟨hkind, hindex⟩ := of_decide_eq_true hfound
    exact absurd hindex (hlatest pivot hpivot hkind)

end PivotScan

end SwingTrader
