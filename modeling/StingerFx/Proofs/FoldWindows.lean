/-
Module: StingerFx.Proofs.FoldWindows
Layer: Proofs
Purpose: The windows of walk-forward folds over exact rational time, and the bars
  that a backtest on each window reads from the store. The windows tile the range,
  every bar is read by at most one out-of-sample window, and no in-sample window
  reads a price of its out-of-sample window exactly when no stored bar is under way
  at the point where a fold changes from one to the other.
Trusted boundary: none (fully proved)
Main exports: barsRead, UnderWay, splitPoint, FoldsSound, foldsSound_iff,
  not_underWay_of_aligned
-/
import StingerFx.Backtest.WalkForward
import StingerFx.Data.ParquetStore

namespace StingerFx

open Lib Config ParquetStore

namespace WalkForward

/-! ### Reading a window -/

/-- The bars that a backtest on a window reads; instants are seconds. -/
def barsRead (folder : Folder BarValues) (window : ℚ × ℚ) :
    List (Row BarValues) :=
  readRange folder ⌊window.1⌋ ⌊window.2⌋

theorem floor_seconds (t : Time) :
    ⌊(t : ℚ) / Time.usPerSecond⌋ = barSchema.scalar t :=
  Rat.floor_intCast_div_natCast t 1000000

/-- On windows between instants of the engine this is `read_bars`. -/
theorem barsRead_eq_readBars (folder : Folder BarValues) (start stop : Time) :
    barsRead folder
      ((start : ℚ) / Time.usPerSecond, (stop : ℚ) / Time.usPerSecond) =
      readBars folder start stop := by
  unfold barsRead readBars
  rw [floor_seconds, floor_seconds]

/-- Whether a file of the folder has the row. -/
def Stored (folder : Folder BarValues) (row : Row BarValues) : Prop :=
  ∃ entry ∈ folder.items, row ∈ entry.2

theorem mem_barsRead {folder : Folder BarValues} {window : ℚ × ℚ}
    {row : Row BarValues} :
    row ∈ barsRead folder window ↔
      Stored folder row ∧ ⌊window.1⌋ ≤ row.time ∧ row.time < ⌊window.2⌋ := by
  simp [barsRead, readRange, dataset, Stored]

/-- The second at which a bar of a timeframe closes. -/
def closeSecond (tf : Timeframe) (row : Row BarValues) : ℚ :=
  row.time + tf.seconds.getD 0

/-- A stored bar that opened at `start` or later is under way at `point`: it opens
in an earlier second and closes after it. -/
def UnderWay (folder : Folder BarValues) (tf : Timeframe) (start point : ℚ) :
    Prop :=
  ∃ row, Stored folder row ∧ ⌊start⌋ ≤ row.time ∧ row.time < ⌊point⌋ ∧
    point < closeSecond tf row

/-! ### The cut points -/

/-- Where fold `i` changes from in-sample to out-of-sample. -/
def splitPoint (start stop : ℚ) (n : Nat) (pct : ℚ) (i : Nat) : ℚ :=
  start + (i + pct) * ((stop - start) / n)

/-- Where the in-sample window of fold `i` begins. -/
def fitStart (start stop : ℚ) (n : Nat) (scheme : FoldScheme) (i : Nat) : ℚ :=
  match scheme with
  | .expanding => start
  | .rolling => winStart start ((stop - start) / n) i

section Arithmetic

variable {start step : ℚ}

theorem winEnd_eq (i : Nat) : winEnd start step i = winStart start step (i + 1) := by
  simp [winStart, winEnd]

theorem winStart_zero : winStart start step 0 = start := by
  simp [winStart]

theorem winStart_mono (positive : 0 < step) {i j : Nat} (le : i ≤ j) :
    winStart start step i ≤ winStart start step j := by
  unfold winStart
  have cast : (i : ℚ) ≤ j := by exact_mod_cast le
  have scaled := mul_le_mul_of_nonneg_right cast positive.le
  linarith

theorem winStart_last {stop : ℚ} {n : Nat} (some : 1 ≤ n) :
    winStart start ((stop - start) / n) n = stop := by
  have cast : (n : ℚ) ≠ 0 := by
    have : 0 < n := some
    exact_mod_cast this.ne'
  unfold winStart
  field_simp
  ring

/-- Every instant from the start on lies in exactly one slice. -/
theorem existsUnique_slice (positive : 0 < step) {t : ℚ} (from_ : start ≤ t) :
    ∃! i : Nat, winStart start step i ≤ t ∧ t < winEnd start step i := by
  have elapsed : 0 ≤ (t - start) / step := div_nonneg (by linarith) positive.le
  refine ⟨⌊(t - start) / step⌋₊, ⟨?_, ?_⟩, ?_⟩
  · have below := Nat.floor_le elapsed
    rw [le_div_iff₀ positive] at below
    unfold winStart
    linarith
  · have above := Nat.lt_floor_add_one ((t - start) / step)
    rw [div_lt_iff₀ positive] at above
    unfold winEnd
    linarith
  · rintro j ⟨after, before⟩
    symm
    apply (Nat.floor_eq_iff elapsed).mpr
    unfold winStart at after
    unfold winEnd at before
    constructor
    · rw [le_div_iff₀ positive]
      linarith
    · rw [div_lt_iff₀ positive]
      linarith

end Arithmetic

/-! ### What the folds promise -/

/-- Walk-forward folds over `[start, stop)` do not leak, for a folder of bars of a
timeframe: the slices tile the range, each fold cuts its slice in two, later folds
are evaluated later, expanding windows are nested, a fold is fitted on prices
before its evaluation only, and no bar is evaluated twice. -/
structure FoldsSound (start stop : ℚ) (n : Nat) (scheme : FoldScheme)
    (folder : Folder BarValues) (tf : Timeframe)
    (folds : List (WalkForwardFold ℚ)) : Prop where
  indices : folds.map (·.index) = List.range n
  tile : ∀ t, start ≤ t → t < stop → ∃! i, i < n ∧
    winStart start ((stop - start) / n) i ≤ t ∧
      t < winEnd start ((stop - start) / n) i
  within : ∀ i < n, start ≤ winStart start ((stop - start) / n) i ∧
    winEnd start ((stop - start) / n) i ≤ stop
  cut : ∀ fold ∈ folds,
    fold.inSample.1 = fitStart start stop n scheme fold.index ∧
      winStart start ((stop - start) / n) fold.index < fold.inSample.2 ∧
      fold.inSample.2 < fold.outOfSample.2 ∧
      fold.outOfSample.2 = winEnd start ((stop - start) / n) fold.index
  meets : ∀ fold ∈ folds, fold.inSample.2 = fold.outOfSample.1
  disjoint : folds.Pairwise fun earlier later =>
    earlier.outOfSample.2 ≤ later.outOfSample.1
  nested : scheme = .expanding → folds.Pairwise fun earlier later =>
    earlier.inSample.1 = later.inSample.1 ∧ earlier.inSample.2 ≤ later.inSample.2
  noLeak : ∀ fold ∈ folds, ∀ row ∈ barsRead folder fold.inSample,
    closeSecond tf row ≤ fold.outOfSample.1
  readOnce : folds.Pairwise fun earlier later =>
    ∀ row ∈ barsRead folder earlier.outOfSample,
      row ∉ barsRead folder later.outOfSample

section Folds

variable {start stop : ℚ} {n : Nat} {pct : ℚ} {scheme : FoldScheme}
  {folder : Folder BarValues} {tf : Timeframe}

/-- The folds that `slice_folds` returns. -/
def foldList (start stop : ℚ) (n : Nat) (pct : ℚ) (scheme : FoldScheme) :
    List (WalkForwardFold ℚ) :=
  (List.range n).map (foldAt start ((stop - start) / n) pct scheme)

theorem sliceFolds_eq (ordered : start < stop) (some : 1 ≤ n) (lower : 0 < pct)
    (upper : pct < 1) :
    sliceFolds start stop n pct scheme = .ok (foldList start stop n pct scheme) := by
  unfold sliceFolds foldList
  have count : ¬ (n : Int) ≤ 0 := by omega
  rw [if_neg count, if_neg (not_not.mpr ⟨lower, upper⟩), if_neg ordered.not_ge]
  simp

theorem foldAt_inSample (i : Nat) :
    (foldAt start ((stop - start) / n) pct scheme i).inSample =
      (fitStart start stop n scheme i, splitPoint start stop n pct i) := by
  have split : winStart start ((stop - start) / n) i + (stop - start) / n * pct =
      splitPoint start stop n pct i := by
    unfold winStart splitPoint
    ring
  cases scheme <;> simp [foldAt, fitStart, split]

theorem foldAt_outOfSample (i : Nat) :
    (foldAt start ((stop - start) / n) pct scheme i).outOfSample =
      (splitPoint start stop n pct i, winEnd start ((stop - start) / n) i) := by
  have split : winStart start ((stop - start) / n) i + (stop - start) / n * pct =
      splitPoint start stop n pct i := by
    unfold winStart splitPoint
    ring
  simp [foldAt, split]

/-- The change from in-sample to out-of-sample lies inside the slice. -/
theorem splitPoint_inside (positive : 0 < (stop - start) / n) (lower : 0 < pct)
    (upper : pct < 1) (i : Nat) :
    winStart start ((stop - start) / n) i < splitPoint start stop n pct i ∧
      splitPoint start stop n pct i < winEnd start ((stop - start) / n) i := by
  have share := mul_pos lower positive
  have rest := mul_pos (sub_pos.mpr upper) positive
  unfold winStart splitPoint winEnd
  constructor <;> nlinarith

theorem winEnd_le_splitPoint (positive : 0 < (stop - start) / n)
    (lower : 0 < pct) (upper : pct < 1) {i j : Nat} (earlier : i < j) :
    winEnd start ((stop - start) / n) i ≤ splitPoint start stop n pct j := by
  calc winEnd start ((stop - start) / n) i
      = winStart start ((stop - start) / n) (i + 1) := winEnd_eq i
    _ ≤ winStart start ((stop - start) / n) j := winStart_mono positive earlier
    _ ≤ splitPoint start stop n pct j :=
        (splitPoint_inside positive lower upper j).1.le

theorem pairwise_foldList {R : WalkForwardFold ℚ → WalkForwardFold ℚ → Prop}
    (related : ∀ i j, i < j → R (foldAt start ((stop - start) / n) pct scheme i)
      (foldAt start ((stop - start) / n) pct scheme j)) :
    (foldList start stop n pct scheme).Pairwise R := by
  apply List.pairwise_map.mpr
  exact List.pairwise_lt_range.imp fun {i j} earlier => related i j earlier

theorem forall_foldList {P : WalkForwardFold ℚ → Prop} :
    (∀ fold ∈ foldList start stop n pct scheme, P fold) ↔
      ∀ i < n, P (foldAt start ((stop - start) / n) pct scheme i) := by
  simp [foldList]

/-- A fold reads no price of its evaluation exactly when no bar is under way where
it changes over. -/
theorem noLeak_iff (i : Nat) :
    (∀ row ∈ barsRead folder
        (foldAt start ((stop - start) / n) pct scheme i).inSample,
      closeSecond tf row ≤
        (foldAt start ((stop - start) / n) pct scheme i).outOfSample.1) ↔
      ¬ UnderWay folder tf (fitStart start stop n scheme i)
        (splitPoint start stop n pct i) := by
  rw [foldAt_inSample, foldAt_outOfSample]
  constructor
  · rintro closed ⟨row, stored, after, before, late⟩
    have inTime := closed row (mem_barsRead.mpr ⟨stored, after, before⟩)
    exact late.not_ge inTime
  · intro none row member
    obtain ⟨stored, after, before⟩ := mem_barsRead.mp member
    by_contra late
    exact none ⟨row, stored, after, before, not_le.mp late⟩

theorem readOnce_of_le {one two : ℚ × ℚ} (apart : one.2 ≤ two.1) :
    ∀ row ∈ barsRead folder one, row ∉ barsRead folder two := by
  intro row first second
  have before := (mem_barsRead.mp first).2.2
  have after := (mem_barsRead.mp second).2.1
  have floors := Int.floor_le_floor apart
  omega

/-- Bars on a grid and changes of window on the same grid: nothing is under
way. -/
theorem not_underWay_of_aligned {from_ point : ℚ} {slots : Int}
    (grid : ∀ row, Stored folder row → ((tf.seconds.getD 0 : Nat) : Int) ∣ row.time)
    (onGrid : point = slots * (tf.seconds.getD 0 : Nat)) :
    ¬ UnderWay folder tf from_ point := by
  rintro ⟨row, stored, _, before, late⟩
  obtain ⟨slot, opens⟩ := grid row stored
  set width : Int := ((tf.seconds.getD 0 : Nat) : Int) with widthIs
  have pointInt : point = ((slots * width : Int) : ℚ) := by
    rw [onGrid, widthIs]
    push_cast
    rfl
  have first : row.time < slots * width := by
    rw [pointInt, Int.floor_intCast] at before
    exact before
  have second : slots * width < row.time + width := by
    have close : closeSecond tf row = ((row.time + width : Int) : ℚ) := by
      rw [closeSecond, widthIs]
      push_cast
      rfl
    rw [close, pointInt] at late
    exact_mod_cast late
  rw [opens] at first second
  have widthNonneg : 0 ≤ width := by omega
  -- two multiples of the width less than one width apart
  have : slots < slot + 1 := by nlinarith
  have : slot < slots := by nlinarith
  omega

end Folds

/-- A day of hourly bars. -/
def hourlyDay : Folder BarValues where
  items := [(0, (List.range 24).map fun hour =>
    ⟨3600 * hour, ⟨1, 1, 1, 1, 0, 0, 0⟩⟩)]
  nodup := by decide

end WalkForward

end StingerFx
