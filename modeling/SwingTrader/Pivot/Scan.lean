import SwingTrader.Bar
import SwingTrader.Pivot.Detector

/-!
# SwingTrader — pivots of a growing series

A scan keeps a detector up to date with a series. Forward, only the bars
appended since the last time are fed; backward, from the newest bar to the
oldest, every bar is fed anew once the series has grown. The first failure is
final, and the scan stays as far as it has got.

* `BarSeries.points` — what a series brings to the search;
* `PivotScan.sync` — brings the detector up to date.
-/

namespace SwingTrader

/-- The order in which bars are fed. -/
inductive ScanDirection where
  | forward
  | backward
  deriving DecidableEq, Repr

/-- The points of a series, oldest first. -/
def BarSeries.points (series : BarSeries) : List Point :=
  series.bars.toList.mapIdx fun index bar => ⟨index, bar.high, bar.low⟩

/-- A detector and the length of the series it has been fed. -/
structure PivotScan where
  direction : ScanDirection := .forward
  detector : PivotDetector := .empty
  synced : Nat := 0
  failure : Option PivotError := none

namespace PivotScan

/-- The detector to go on from, and the points it still has to be fed. -/
def pending (scan : PivotScan) (series : BarSeries) : PivotDetector × List Point :=
  match scan.direction with
  | .forward =>
    if series.size < scan.synced then (.empty, series.points)
    else (scan.detector, series.points.drop scan.synced)
  | .backward => (.empty, series.points.reverse)

/-- How far a scan gets in a series that it fails on; a backward one counts only what is whole. -/
def reached (scan : PivotScan) (series : BarSeries) : Nat :=
  match scan.direction with
  | .forward =>
    let (start, points) := scan.pending series
    (if series.size < scan.synced then 0 else scan.synced) + start.countFed points
  | .backward => 0

/-- Brings the detector up to date. A failure is kept, and answered ever after. -/
def sync (scan : PivotScan) (series : BarSeries) : Except PivotError Unit × PivotScan :=
  match scan.failure with
  | some error => (.error error, scan)
  | none =>
    if series.size = scan.synced then (.ok (), scan)
    else
      let (start, points) := scan.pending series
      match start.feed points with
      | (.ok (), detector) => (.ok (), { scan with detector, synced := series.size })
      | (.error error, detector) =>
        (.error error,
          { scan with detector, synced := scan.reached series, failure := some error })

end PivotScan

end SwingTrader
