import SwingTrader.Config.Reader
import SwingTrader.Proofs.Indicator.Locked
import SwingTrader.Proofs.Pivot.Rescan
import SwingTrader.Strategy.Rebound

/-!
# SwingTrader — the rebound rule decides by history alone

The rule keeps a scan of the pivots and nothing else that a decision to enter
depends on. Whatever was asked of it before, and at whatever lengths of the series,
it decides as if the whole series had been fed to a new detector just now: it enters
after a low, once the latest closes all lie above the lowest one of a window without
a missing close.

* `PivotDetector.FailsFirst` — the first failure among the points of a series;
* `BarSeries.Rebounds` — the window that the rule looks for;
* `Rebound.run_shouldEnter` — one decision;
* `Rebound.Step` — what may happen to what the rule remembers while its series grows;
* `Rebound.Enters` — what the rule enters on, as a matter of the series alone;
* `Rebound.answer_of_steps` — the decision at any time.
-/

namespace SwingTrader

/-! ## The first failure -/

namespace PivotDetector

/-- Of some points the first ones are fed without failure, and the push of the next one fails. -/
def FailsFirst (points : List Point) (error : PivotError) : Prop :=
  ∃ before point after, points = before ++ point :: after ∧
    (empty.feed before).1 = .ok () ∧ ((empty.feed before).2.push point).1 = .error error

theorem feed_singleton (detector : PivotDetector) (point : Point) :
    detector.feed [point] = detector.push point := by
  rw [feed]
  split <;> rename_i hpush <;> exact hpush.symm

/-- A feed fails where its first failure is. -/
theorem failsFirst_iff {points : List Point} {error : PivotError} :
    FailsFirst points error ↔ (empty.feed points).1 = .error error := by
  constructor
  · rintro ⟨before, point, after, rfl, hok, herror⟩
    rw [feed_append]
    cases hfeed : empty.feed before with
    | mk result next =>
      rw [hfeed] at hok herror
      rw [show result = .ok () from hok]
      dsimp only
      rw [← List.singleton_append, feed_append, feed_singleton]
      cases hpush : next.push point with
      | mk pushed failed =>
        rw [hpush] at herror
        rw [show pushed = .error error from herror]
  · intro h
    -- the last point is the first to fail, or one before it is
    induction points using List.reverseRecOn with
    | nil => cases h
    | append_singleton points point ih =>
      rw [feed_append] at h
      cases hfeed : empty.feed points with
      | mk result next =>
        rw [hfeed] at h ih
        cases result with
        | ok _ =>
          refine ⟨points, point, [], rfl, by rw [hfeed], ?_⟩
          rwa [hfeed, ← feed_singleton]
        | error found =>
          obtain ⟨before, other, after, rfl, hfails⟩ := ih h
          exact ⟨before, other, after ++ [point], by simp, hfails⟩

end PivotDetector

/-! ## Windows of closes -/

namespace BarSeries

/-- The lowest close of a window: it is one of them, and none of them is below it. -/
structure LowestClose (bars : BarSeries) (first last : Nat) (lowest : Float) : Prop where
  attained : ∃ bar, first ≤ bar ∧ bar ≤ last ∧ bars.close bar = lowest
  le_close : ∀ bar, first ≤ bar → bar ≤ last → lowest ≤ bars.close bar

/--
A series holds a full window, of `lookback` bars, whose closes are all known and
the last `needed` of which are above the lowest one.
-/
structure Rebounds (bars : BarSeries) (lookback needed : Nat) : Prop where
  full : lookback ≤ bars.size
  known : bars.Closes (bars.size - lookback) (bars.size - 1)
  above : ∃ lowest, bars.LowestClose (bars.size - lookback) (bars.size - 1) lowest ∧
    ∀ bar, bars.size - needed ≤ bar → bar < bars.size → lowest < bars.close bar

end BarSeries

section Windows

variable {bars : BarSeries} {start found : Float} {first last bar : Nat}

/-- The lesser of a price and the closes of some bars, NaN if one of them is missing. -/
def leastClose (bars : BarSeries) (start : Float) (indices : List Nat) : Float :=
  (lowestOf (fun bar => return bars.price .close bar : Nat → StateM Unit Float) start indices ()).1

/-- The lesser goes close by close, and is missing from where one is missing. -/
theorem leastClose_cons (bar : Nat) (indices : List Nat) :
    leastClose bars start (bar :: indices) =
      if (bars.close bar).isNaN then notANumber
      else leastClose bars (minNumber start (bars.close bar)) indices := by
  rw [leastClose, lowestOf]
  show ((if (bars.close bar).isNaN then (return notANumber : StateM Unit Float)
    else lowestOf _ (minNumber start (bars.close bar)) indices) ()).1 = _
  split_ifs <;> rfl

/-- A missing close makes the least one missing. -/
theorem leastClose_of_missing {indices : List Nat} (hbar : bar ∈ indices)
    (hmissing : (bars.close bar).isNaN = true) :
    (leastClose bars start indices).isNaN = true := by
  induction indices generalizing start with
  | nil => cases hbar
  | cons index rest ih =>
    rw [leastClose_cons]
    split_ifs with h
    · rfl
    · obtain rfl | hrest := List.mem_cons.mp hbar
      · exact absurd hmissing h
      · exact ih hrest

/-- Of known closes and the start, the least is above none and is one of them. -/
theorem leastClose_of_known {indices : List Nat} (hstart : start.isNaN = false)
    (hknown : ∀ bar ∈ indices, (bars.close bar).isNaN = false) :
    leastClose bars start indices ≤ start ∧
      (∀ bar ∈ indices, leastClose bars start indices ≤ bars.close bar) ∧
      (leastClose bars start indices = start ∨
        ∃ bar ∈ indices, leastClose bars start indices = bars.close bar) := by
  induction indices generalizing start with
  | nil => exact ⟨Double.le_refl hstart, by simp, .inl rfl⟩
  | cons index rest ih =>
    obtain ⟨hindex, hrest⟩ := List.forall_mem_cons.mp hknown
    have hstart' := minNumber_le hstart (bars.close index)
    have hclose' := minNumber_le_other hstart hindex
    rw [leastClose_cons, hindex, if_neg Bool.false_ne_true]
    obtain ⟨hle, hleast, hattained⟩ := ih (Double.le_iff_rank.mp hstart').1 hrest
    refine ⟨Double.le_trans hle hstart',
      List.forall_mem_cons.mpr ⟨Double.le_trans hle hclose', hleast⟩, ?_⟩
    obtain hattained | ⟨bar, hbar, hattained⟩ := hattained
    · rw [hattained]
      exact (minNumber_eq_or hstart _).imp_right fun h => ⟨index, List.mem_cons_self, h⟩
    · exact .inr ⟨bar, List.mem_cons_of_mem _ hbar, hattained⟩

/-- The least of the known closes of a window, taken from infinity on, is the lowest close there. -/
theorem exists_lowestClose (hle : first ≤ last) (hknown : bars.Closes first last) :
    ∃ lowest, bars.LowestClose first last lowest ∧
      lowest ≤ leastClose bars (1.0 / 0.0) (barRange first last) ∧
      leastClose bars (1.0 / 0.0) (barRange first last) ≤ lowest := by
  have hclose : ∀ bar ∈ barRange first last, (bars.close bar).isNaN = false := fun bar hbar =>
    hknown bar (mem_barRange.mp hbar).1 (mem_barRange.mp hbar).2
  have hinfinity : (1.0 / 0.0 : Float).isNaN = false := by decide +kernel
  obtain ⟨-, hleast, hattained⟩ := leastClose_of_known hinfinity hclose
  -- where nothing is below infinity, the first close does as well as any other
  have hbar : ∃ bar ∈ barRange first last,
      bars.close bar ≤ leastClose bars (1.0 / 0.0) (barRange first last) := by
    obtain hstart | ⟨bar, hbar, heq⟩ := hattained
    · have hfirst := mem_barRange.mpr ⟨Nat.le_refl first, hle⟩
      rw [hstart]
      exact ⟨first, hfirst, Double.le_of_infinity_right (hclose first hfirst) rfl⟩
    · rw [heq]
      exact ⟨bar, hbar, Double.le_refl (hclose bar hbar)⟩
  obtain ⟨bar, hmem, hlowest⟩ := hbar
  obtain ⟨hfirst, hlast⟩ := mem_barRange.mp hmem
  refine ⟨bars.close bar, ⟨⟨bar, hfirst, hlast, rfl⟩, fun other hother hother' => ?_⟩, hlowest,
    hleast bar hmem⟩
  exact Double.le_trans hlowest (hleast other (mem_barRange.mpr ⟨hother, hother'⟩))

end Windows

namespace Rebound

variable {rule : Rebound} {view : MarketView}

/-! ## One decision -/

/-- What the rule answers when it is asked whether to enter. -/
def answer (memory : rule.Memory) (view : MarketView) : Except StrategyError Bool :=
  ((rule.strategy.shouldEnter view).run memory).1

/-- What the rule remembers once it was asked whether to enter. -/
def asked (memory : rule.Memory) (view : MarketView) : rule.Memory :=
  ((rule.strategy.shouldEnter view).run memory).2

theorem lastIndex?_of_pos (hpos : 0 < view.bars.size) :
    view.lastIndex? = some (view.bars.size - 1) :=
  if_neg (Nat.ne_of_gt hpos)

/-- The scan is brought up to date, and kept; its failure is that of the decision. -/
theorem run_shouldEnter (memory : rule.Memory) (hpos : 0 < view.bars.size) :
    (rule.strategy.shouldEnter view).run memory =
      (((memory.scan.sync view.bars).1.mapError StrategyError.reversal).map fun _ =>
        ((memory.scan.sync view.bars).2.detector.lastPivot?.any fun pivot => pivot.kind == .low) &&
          rule.hasRebounded view (view.bars.size - 1),
      { memory with scan := (memory.scan.sync view.bars).2 }) := by
  change (shouldEnter view).run memory = _
  -- the memory is read, and the scan kept in it, before the answer of the scan decides
  have hget (next : rule.Memory → ExceptT StrategyError (StateM rule.Memory) Bool) :
      (get >>= next).run memory = (next memory).run memory := rfl
  have hset (next : PUnit → ExceptT StrategyError (StateM rule.Memory) Bool) (kept : rule.Memory) :
      (set kept >>= next).run memory = (next ⟨⟩).run kept := rfl
  rw [shouldEnter, lastIndex?_of_pos hpos]
  dsimp only
  rw [hget, hset]
  cases (memory.scan.sync view.bars).1 <;> rfl

/-- Without bars the rule does not enter, and remembers nothing new. -/
theorem run_shouldEnter_of_empty (memory : rule.Memory) (h : view.bars.size = 0) :
    (rule.strategy.shouldEnter view).run memory = (.ok false, memory) := by
  have hindex : view.lastIndex? = none := if_pos h
  change (shouldEnter view).run memory = _
  rw [shouldEnter, hindex]
  rfl

/-! ## The closes -/

/-- The lowest close that the rule reads is that of its window, once there is a full one. -/
theorem lowest_eq (hpos : 0 < view.bars.size) :
    ((rule.lowest.read view (view.bars.size - 1)).run rule.lowest.start).1 =
      if view.bars.size < rule.lookback.count then notANumber
      else leastClose view.bars (1.0 / 0.0)
        (barRange (view.bars.size - rule.lookback.count) (view.bars.size - 1)) := by
  have hlast : view.bars.size - 1 + 1 = view.bars.size := Nat.sub_add_cancel hpos
  have hread : (rule.lowest.read view (view.bars.size - 1)).run rule.lowest.start =
      (if view.bars.size - 1 + 1 < rule.lookback.count || view.bars.size ≤ view.bars.size - 1 then
        (return notANumber : StateM Unit Float)
      else lowestOf (fun bar => return view.bars.price .close bar) (1.0 / 0.0)
        (barRange (view.bars.size - 1 + 1 - rule.lookback.count) (view.bars.size - 1))) () := rfl
  rw [hread, hlast]
  simp only [Bool.or_eq_true, decide_eq_true_eq, show ¬view.bars.size ≤ view.bars.size - 1 by omega,
    or_false]
  split_ifs <;> rfl

/-- The rule looks at the window of the series up to its newest bar. -/
theorem hasRebounded_iff (hneeded : rule.timesAbove ≤ rule.lookback.count)
    (hpos : 0 < view.bars.size) :
    rule.hasRebounded view (view.bars.size - 1) = true ↔
      view.bars.Rebounds rule.lookback.count rule.timesAbove := by
  rw [hasRebounded, lowest_eq hpos]
  by_cases hshort : view.bars.size < rule.lookback.count
  · rw [if_pos hshort]
    exact iff_of_false Bool.false_ne_true fun h => absurd hshort (Nat.not_lt.mpr h.full)
  · rw [if_neg hshort]
    -- the lowest close is known exactly if every close of the window is
    by_cases hknown : view.bars.Closes (view.bars.size - rule.lookback.count) (view.bars.size - 1)
    · obtain ⟨lowest, hlowest, hle, hge⟩ :=
        exists_lowestClose (by have := rule.lookback.pos; omega) hknown
      rw [Double.isNaN_of_le hle, Nat.sub_add_cancel hpos,
        decide_eq_false (show ¬view.bars.size < rule.timesAbove by omega), Bool.or_false,
        if_neg Bool.false_ne_true, List.all_eq_true]
      simp only [decide_eq_true_eq, mem_barRange]
      constructor
      · intro h
        refine ⟨Nat.le_of_not_lt hshort, hknown, lowest, hlowest, fun bar hfirst hlast => ?_⟩
        exact Double.lt_of_le_of_lt hle (h bar ⟨hfirst, by omega⟩)
      -- two lowest closes may be zeros of either sign, so they are compared and not equated
      · rintro ⟨-, -, other, hother, habove⟩ bar ⟨hfirst, hlast⟩
        obtain ⟨attained, hattained, hattained', rfl⟩ := hother.attained
        have hother' := hlowest.le_close attained hattained hattained'
        exact Double.lt_of_le_of_lt (Double.le_trans hge hother') (habove bar hfirst (by omega))
    · have hmissing : ∃ bar ∈ barRange (view.bars.size - rule.lookback.count) (view.bars.size - 1),
          (view.bars.close bar).isNaN = true := by
        simpa [BarSeries.Closes, mem_barRange, and_assoc] using hknown
      obtain ⟨bar, hbar, hbar'⟩ := hmissing
      rw [leastClose_of_missing hbar hbar']
      exact iff_of_false Bool.false_ne_true fun h => hknown h.known

/-! ## Steps -/

/--
What may happen to what the rule remembers while its series grows: a bar is
appended, a strategy is asked one of its questions or told of a trade, or one of the
rule's indicators is read.
-/
inductive Step (rule : Rebound) : BarSeries × rule.Memory → BarSeries × rule.Memory → Prop where
  | append {series series' : BarSeries} {memory : rule.Memory} {bar : Bar} :
      series.push bar = .ok series' → Step rule (series, memory) (series', memory)
  | enter {memory : rule.Memory} (view : MarketView) :
      Step rule (view.bars, memory) (view.bars, asked memory view)
  | exit {memory : rule.Memory} (view : MarketView) :
      Step rule (view.bars, memory) (view.bars, ((rule.strategy.shouldExit view).run memory).2)
  | enterPrice {memory : rule.Memory} (view : MarketView) (side : Side) :
      Step rule (view.bars, memory) (view.bars, ((rule.strategy.enterPrice view side).run memory).2)
  | exitPrice {memory : rule.Memory} (view : MarketView) (side : Side) :
      Step rule (view.bars, memory) (view.bars, ((rule.strategy.exitPrice view side).run memory).2)
  | closed {series : BarSeries} {memory : rule.Memory} (trade : ClosedTrade) :
      Step rule (series, memory) (series, rule.strategy.onTradeClosed trade memory)
  | breakEven {memory : rule.Memory} (view : MarketView) (index : Nat) :
      Step rule (view.bars, memory) (view.bars, ((readBreakEven view index).run memory).2)
  | trailingStop {memory : rule.Memory} (view : MarketView) (index : Nat) :
      Step rule (view.bars, memory) (view.bars, ((readTrailingStop view index).run memory).2)
  | inMarket {memory : rule.Memory} (view : MarketView) (index : Nat) :
      Step rule (view.bars, memory) (view.bars, ((readInMarket view index).run memory).2)

/-- Any number of steps. -/
abbrev Steps (rule : Rebound) : BarSeries × rule.Memory → BarSeries × rule.Memory → Prop :=
  Relation.ReflTransGen (Step rule)

variable {before after : BarSeries × rule.Memory}

/-- Being asked changes the scan only by bringing it up to date. -/
theorem scan_asked (memory : rule.Memory) (view : MarketView) :
    (asked memory view).scan = memory.scan ∨
      (asked memory view).scan = (memory.scan.sync view.bars).2 := by
  obtain hempty | hpos := Nat.eq_zero_or_pos view.bars.size
  · exact .inl (congrArg (fun decided => decided.2.scan) (run_shouldEnter_of_empty memory hempty))
  · exact .inr (congrArg (fun decided => decided.2.scan) (run_shouldEnter memory hpos))

/-- Only the question whether to enter touches the scan, which it brings up to date. -/
theorem Step.scan (h : Step rule before after) :
    PivotScan.Steps .low .forward (before.1, before.2.scan) (after.1, after.2.scan) := by
  cases h with
  | append hpush => exact .single (.append hpush)
  | @enter memory view =>
    dsimp only
    obtain hsame | hsync := scan_asked memory view
    · rw [hsame]
    · rw [hsync]
      exact .single .sync
  | @exitPrice memory view side =>
    have hscan : ((rule.strategy.exitPrice view side).run memory).2.scan = memory.scan := by
      change ((Rebound.exitPrice view side).run memory).2.scan = memory.scan
      rw [Rebound.exitPrice]
      split <;> rfl
    dsimp only
    rw [hscan]
  | exit | enterPrice | closed | breakEven | trailingStop | inMarket => exact .refl

/-- Whatever happens to what the rule remembers is something that may happen to its scan. -/
theorem Steps.scan (h : Steps rule before after) :
    PivotScan.Steps .low .forward (before.1, before.2.scan) (after.1, after.2.scan) := by
  induction h with
  | refl => exact .refl
  | tail _ hstep ih => exact ih.trans hstep.scan

theorem Step.size_le (h : Step rule before after) : before.1.size ≤ after.1.size := by
  cases h with
  | append hpush =>
    rw [BarSeries.size_push hpush]
    exact Nat.le_succ _
  | _ => exact Nat.le_refl _

/-- A series never shrinks. -/
theorem Steps.size_le (h : Steps rule before after) : before.1.size ≤ after.1.size := by
  induction h with
  | refl => exact Nat.le_refl _
  | tail _ hstep ih => exact ih.trans hstep.size_le

/-! ## Decisions -/

/-- A scan that has failed answers its failure. -/
theorem answer_of_failure {memory : rule.Memory} {cause : PivotError}
    (h : memory.scan.failure = some cause) (hpos : 0 < view.bars.size) :
    answer memory view = .error (.reversal cause) := by
  rw [answer, run_shouldEnter memory hpos, PivotScan.sync_of_failure h]
  rfl

/--
What the rule enters on: a new detector that is fed the whole series does not fail,
the last pivot it confirms is a low, and the price has rebounded from the lowest close.
-/
structure Enters (rule : Rebound) (series : BarSeries) : Prop where
  feeds : (PivotDetector.empty.feed series.points).1 = .ok ()
  afterLow : ∃ pivot, (PivotDetector.empty.feed series.points).2.lastPivot? = some pivot ∧
    pivot.kind = .low
  rebounds : series.Rebounds rule.lookback.count rule.timesAbove

/-- The answer to a scan that is synced: that of the first failure, or whether the rule enters. -/
theorem answer_of_synced {memory : rule.Memory} (hneeded : rule.timesAbove ≤ rule.lookback.count)
    (hpos : 0 < view.bars.size) (hsynced : PivotScan.Synced .forward view.bars memory.scan) :
    (∃ cause, PivotDetector.FailsFirst view.bars.points cause ∧
      (asked memory view).scan.failure = some cause ∧
      answer memory view = .error (.reversal cause)) ∨
    (∀ cause, ¬PivotDetector.FailsFirst view.bars.points cause) ∧
      ∃ enters, answer memory view = .ok enters ∧ (enters = true ↔ rule.Enters view.bars) := by
  have hrun := run_shouldEnter memory hpos
  -- a synced scan stands where a new detector would that is fed the whole series
  obtain ⟨hok, hrescan⟩ | ⟨cause, herror, hfailure, hrescan⟩ := hsynced.sync_forward
  · right
    have hfeed : PivotDetector.empty.feed view.bars.points =
        (.ok (), (memory.scan.sync view.bars).2.detector) := hrescan
    have hanswer : answer memory view = .ok
        (((memory.scan.sync view.bars).2.detector.lastPivot?.any fun pivot => pivot.kind == .low) &&
          rule.hasRebounded view (view.bars.size - 1)) := by
      rw [answer, hrun, hok]
      rfl
    refine ⟨fun cause hfails => ?_, _, hanswer, ?_⟩
    · have herror := PivotDetector.failsFirst_iff.mp hfails
      rw [hfeed] at herror
      cases herror
    · rw [Bool.and_eq_true, hasRebounded_iff hneeded hpos, Option.any_eq_true]
      constructor
      · rintro ⟨⟨pivot, hlast, hkind⟩, hrebounds⟩
        exact ⟨by rw [hfeed], ⟨pivot, by rw [hfeed]; exact hlast, eq_of_beq hkind⟩, hrebounds⟩
      · rintro ⟨-, ⟨pivot, hlast, hkind⟩, hrebounds⟩
        rw [hfeed] at hlast
        exact ⟨⟨pivot, hlast, beq_iff_eq.mpr hkind⟩, hrebounds⟩
  · refine .inl ⟨cause, PivotDetector.failsFirst_iff.mpr hrescan, ?_, ?_⟩
    · rw [asked, hrun]
      exact hfailure
    · rw [answer, hrun, herror]
      rfl

end Rebound

/-- A valid configuration compares no more closes than it looks back on. -/
theorem StrategyConfig.timesAbove_le_of_validate {config : StrategyConfig}
    (valid : config.validate = .ok ()) : config.timesAbove ≤ config.lookback := by
  unfold validate at valid
  split at valid
  · contradiction
  · split at valid
    · contradiction
    · split at valid
      · contradiction
      · omega

/-- Settings that pass the check are valid. -/
theorem StrategyConfig.valid_of_isOk {config : StrategyConfig} (h : config.validate.isOk) :
    config.validate = .ok () := by
  cases hvalid : config.validate with
  | ok => rfl
  | error =>
    rw [hvalid] at h
    cases h

namespace Rebound

variable {config : StrategyConfig} {fees : Fees} {ledger : LedgerId} {series : BarSeries}

/--
**The rebound rule decides by history alone.** Whatever was appended, asked and read
before: at a series that is not empty it answers that a position is to be opened
exactly if a new detector that is fed the whole series does not fail, its last pivot
is a low, and the latest closes of a full window without a missing one are all above
the lowest. It fails exactly where that detector does, with its first failure, and
with the same one whenever it is asked again. Otherwise it answers that no position
is to be opened.
-/
theorem answer_of_steps (valid : config.validate = .ok ())
    {memory : (ofConfig config (StrategyConfig.lookback_pos_of_validate valid) fees ledger).Memory}
    (h : Steps _ (.empty, {}) (series, memory)) (hpos : 0 < series.size) (view : MarketView)
    (hview : view.bars = series) :
    (answer memory view = .ok true ↔
      (ofConfig config (StrategyConfig.lookback_pos_of_validate valid) fees ledger).Enters series) ∧
    (∀ error, answer memory view = .error error ↔
      ∃ cause, PivotDetector.FailsFirst series.points cause ∧ error = .reversal cause) ∧
    (answer memory view = .ok false ↔
      (∀ cause, ¬PivotDetector.FailsFirst series.points cause) ∧
      ¬(ofConfig config
        (StrategyConfig.lookback_pos_of_validate valid) fees ledger).Enters series) ∧
    ∀ error, answer memory view = .error error →
      ∀ series' memory', Steps _ (series, asked memory view) (series', memory') →
        ∀ view', view'.bars = series' → answer memory' view' = .error error := by
  subst hview
  have hneeded := StrategyConfig.timesAbove_le_of_validate valid
  have hsynced : PivotScan.Synced .forward view.bars memory.scan :=
    (PivotScan.synced_start .forward).steps h.scan
  obtain ⟨cause, hfails, hfailure, hanswer⟩ | ⟨hfeeds, enters, hanswer, henters⟩ :=
    answer_of_synced hneeded hpos hsynced
  · have herror := PivotDetector.failsFirst_iff.mp hfails
    have hnot : ¬(ofConfig config
        (StrategyConfig.lookback_pos_of_validate valid) fees ledger).Enters view.bars :=
      fun h => by cases herror.symm.trans h.feeds
    rw [hanswer]
    refine ⟨iff_of_false (by simp) hnot, fun error => ⟨?_, ?_⟩,
      iff_of_false (by simp) fun h => h.1 cause hfails, ?_⟩
    · rintro ⟨⟩
      exact ⟨cause, hfails, rfl⟩
    · rintro ⟨other, hother, rfl⟩
      cases herror.symm.trans (PivotDetector.failsFirst_iff.mp hother)
      rfl
    · rintro error ⟨⟩ series' memory' hsteps view' rfl
      -- the scan has failed for good, and the series has only grown
      have hscan := PivotScan.eq_of_failure hsteps.scan hfailure
      refine answer_of_failure ?_ (hpos.trans_le hsteps.size_le)
      rw [show memory'.scan = (asked memory view).scan from hscan]
      exact hfailure
  · rw [hanswer]
    refine ⟨?_, fun error => iff_of_false (by simp) fun ⟨cause, hfails, _⟩ => hfeeds cause hfails,
      ?_, fun error h => by cases h⟩
    · rw [← henters, Except.ok.injEq]
    · rw [← henters, Except.ok.injEq, Bool.not_eq_true]
      exact (and_iff_right hfeeds).symm

/-- The settings of a rule that compares two closes with the lowest of three. -/
def threeBars : StrategyConfig := { lookback := 3, timesAbove := 2 }

theorem valid_threeBars : threeBars.validate = .ok () :=
  StrategyConfig.valid_of_isOk (by decide +kernel)

/-- The rule of these settings, at a venue without fees. -/
abbrev ofThreeBars : Rebound :=
  ofConfig threeBars (StrategyConfig.lookback_pos_of_validate valid_threeBars) ⟨0.0, 0.0⟩ ⟨0⟩

/-- What it remembers once it was asked at the second of three bars. -/
def early : ofThreeBars.Memory :=
  asked {} ⟨⟨#[PivotScan.barAt 0 10 1, PivotScan.barAt 1 9 2]⟩, .empty⟩

theorem steps_early (high low : Float) :
    Steps ofThreeBars (.empty, {}) (PivotScan.thenBar high low, early) := by
  have hfirst : BarSeries.empty.push (PivotScan.barAt 0 10 1) =
      .ok ⟨#[PivotScan.barAt 0 10 1]⟩ := rfl
  have hsecond : BarSeries.push ⟨#[PivotScan.barAt 0 10 1]⟩ (PivotScan.barAt 1 9 2) =
      .ok ⟨#[PivotScan.barAt 0 10 1, PivotScan.barAt 1 9 2]⟩ := rfl
  have hthird : BarSeries.push ⟨#[PivotScan.barAt 0 10 1, PivotScan.barAt 1 9 2]⟩
      (PivotScan.barAt 2 high low) = .ok (PivotScan.thenBar high low) := rfl
  exact (((Relation.ReflTransGen.single (.append hfirst)).tail (.append hsecond)).tail
    (.enter ⟨⟨#[PivotScan.barAt 0 10 1, PivotScan.barAt 1 9 2]⟩, .empty⟩)).tail (.append hthird)

/--
A third bar with a higher high leaves a low behind, which the price has rebounded from;
one inside the others is the end.
-/
theorem answer_of_thenBar :
    (answer early ⟨PivotScan.thenBar 11 3, .empty⟩ = .ok true ∧
      ofThreeBars.Enters (PivotScan.thenBar 11 3)) ∧
    PivotDetector.FailsFirst (PivotScan.thenBar 8 3).points (.simultaneousPivots 2) ∧
      answer (asked early ⟨PivotScan.thenBar 8 3, .empty⟩) ⟨PivotScan.thenBar 8 3, .empty⟩ =
        .error (.reversal (.simultaneousPivots 2)) := by
  have henters : answer early ⟨PivotScan.thenBar 11 3, .empty⟩ = .ok true := by decide +kernel
  have hfails : answer early ⟨PivotScan.thenBar 8 3, .empty⟩ =
      .error (.reversal (.simultaneousPivots 2)) := by decide +kernel
  obtain ⟨hiff, -⟩ := answer_of_steps valid_threeBars (steps_early 11 3) (by decide)
    ⟨PivotScan.thenBar 11 3, .empty⟩ rfl
  obtain ⟨-, herror, -, hstays⟩ := answer_of_steps valid_threeBars (steps_early 8 3) (by decide)
    ⟨PivotScan.thenBar 8 3, .empty⟩ rfl
  obtain ⟨cause, hfirst, hcause⟩ := (herror _).mp hfails
  injection hcause with hcause
  exact ⟨⟨henters, hiff.mp henters⟩, hcause ▸ hfirst, hstays _ hfails _ _ .refl _ rfl⟩

end Rebound

end SwingTrader
