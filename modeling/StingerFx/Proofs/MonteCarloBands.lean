/-
Module: StingerFx.Proofs.MonteCarloBands
Layer: Proofs
Purpose: The bands of a Monte Carlo simulation. A percentile does not fall when its
  rank rises, stays between the values and moves with a shift of them; so bands are
  ordered, and the envelope of the equities ends where the results say.
Trusted boundary: none (fully proved)
Main exports: percentile_eq, percentile_mono, percentile_map_add, distribution_get?,
  Band, Consistent, bands_are_consistent
-/
import StingerFx.Backtest.MonteCarlo
import StingerFx.Lib.Interpolation

namespace StingerFx

open Lib

namespace MonteCarlo

/-! ### Percentiles -/

section Percentile

variable {values : List ℚ} {p q : Int}

/-- The terms of a list, the last one for ever. -/
def term (values : List ℚ) (i : ℕ) : ℚ :=
  values.getD (min i (values.length - 1)) 0

/-- The rank of a percentile. -/
def rankOf (n : ℕ) (p : Int) : ℚ :=
  ((max 0 (min 100 p) : Int) : ℚ) / 100 * ((n - 1 : ℕ) : ℚ)

theorem rankOf_nonneg (n : ℕ) (p : Int) : 0 ≤ rankOf n p := by
  have clamped : (0 : ℚ) ≤ ((max 0 (min 100 p) : Int) : ℚ) :=
    Int.cast_nonneg (le_max_left _ _)
  unfold rankOf
  positivity

theorem rankOf_mono (n : ℕ) (order : p ≤ q) : rankOf n p ≤ rankOf n q := by
  have clamped : ((max 0 (min 100 p) : Int) : ℚ) ≤ ((max 0 (min 100 q) : Int) : ℚ) :=
    Int.cast_le.mpr (max_le_max le_rfl (min_le_min le_rfl order))
  unfold rankOf
  gcongr

theorem term_mem (some_ : values ≠ []) (i : ℕ) : term values i ∈ values := by
  have pos := List.length_pos_iff.mpr some_
  have inside : min i (values.length - 1) < values.length := by omega
  rw [term, List.getD_eq_getElem _ _ inside]
  exact List.getElem_mem inside

theorem term_mono (rises : values.Pairwise (· ≤ ·)) : Monotone (term values) := by
  intro i j order
  by_cases some_ : values = []
  · rw [term, term, some_]
    rfl
  · have pos := List.length_pos_iff.mpr some_
    have first : min i (values.length - 1) < values.length := by omega
    have second : min j (values.length - 1) < values.length := by omega
    rw [term, term, List.getD_eq_getElem _ _ first, List.getD_eq_getElem _ _ second]
    have ranks : min i (values.length - 1) ≤ min j (values.length - 1) := by omega
    rcases ranks.eq_or_lt with same | earlier
    · simp only [same, le_refl]
    · exact List.pairwise_iff_getElem.mp rises _ _ first second earlier

/-- The branches at both ends are the ends of the interpolation. -/
theorem percentile_eq (some_ : values ≠ []) (p : Int) :
    percentile values p = interpolate (term values) (rankOf values.length p) := by
  have pos := List.length_pos_iff.mpr some_
  have least : (1 : ℕ) ≤ values.length := pos
  rw [percentile, if_neg some_]
  split
  · rename_i low
    have rank : rankOf values.length p = ((0 : ℕ) : ℚ) := by
      rw [rankOf, max_eq_left ((min_le_right _ _).trans low)]
      simp
    rw [rank, interpolate_natCast, term, Nat.zero_min]
  · rename_i positive
    split
    · rename_i high
      have rank : rankOf values.length p = ((values.length - 1 : ℕ) : ℚ) := by
        rw [rankOf, min_eq_left high]
        norm_num
      rw [rank, interpolate_natCast, term, min_self, List.getLastD_eq_getLast?,
        List.getLast?_eq_getElem?, List.getD_eq_getElem?_getD]
    · rename_i below
      have clamp : max 0 (min 100 p) = p := by omega
      have rank : rankOf values.length p = (p / 100 : ℚ) * ((values.length : ℚ) - 1) := by
        rw [rankOf, clamp, Nat.cast_sub least, Nat.cast_one]
      have nonneg := rankOf_nonneg values.length p
      have inside : ⌊rankOf values.length p⌋₊ ≤ values.length - 1 := by
        have part : (p / 100 : ℚ) ≤ 1 := by
          rw [div_le_one (by norm_num)]
          exact_mod_cast (by omega : p ≤ 100)
        have width : (0 : ℚ) ≤ ((values.length - 1 : ℕ) : ℚ) := Nat.cast_nonneg _
        refine Nat.floor_le_of_le ?_
        rw [rankOf, clamp]
        exact mul_le_of_le_one_left width part
      rw [rank] at inside
      simp only [interpolate, term, rank, min_eq_left inside]

/-- A higher percentile is not smaller. -/
theorem percentile_mono (rises : values.Pairwise (· ≤ ·)) (order : p ≤ q) :
    percentile values p ≤ percentile values q := by
  by_cases some_ : values = []
  · rw [percentile, percentile, if_pos some_, if_pos some_]
  · rw [percentile_eq some_, percentile_eq some_]
    exact interpolate_mono (term_mono rises) (rankOf_nonneg _ p) (rankOf_mono _ order)

theorem le_percentile (rises : values.Pairwise (· ≤ ·)) (some_ : values ≠ []) (p : Int) :
    ∃ value ∈ values, value ≤ percentile values p := by
  rw [percentile_eq some_]
  exact ⟨_, term_mem some_ _, le_interpolate (term_mono rises) (rankOf_nonneg _ p)⟩

theorem percentile_le (rises : values.Pairwise (· ≤ ·)) (some_ : values ≠ []) (p : Int) :
    ∃ value ∈ values, percentile values p ≤ value := by
  rw [percentile_eq some_]
  exact ⟨_, term_mem some_ _, interpolate_le (term_mono rises) (rankOf_nonneg _ p)⟩

/-- A shift of the values shifts their percentiles. -/
theorem percentile_map_add (some_ : values ≠ []) (c : ℚ) (p : Int) :
    percentile (values.map (· + c)) p = percentile values p + c := by
  have pos := List.length_pos_iff.mpr some_
  have mapped : values.map (· + c) ≠ [] := by
    rw [ne_eq, List.map_eq_nil_iff]
    exact some_
  have terms : term (values.map (· + c)) = fun i => term values i + c := by
    funext i
    have inside : min i (values.length - 1) < values.length := by omega
    have inside' : min i (values.length - 1) < (values.map (· + c)).length := by
      rw [List.length_map]
      exact inside
    rw [term, term, List.length_map, List.getD_eq_getElem _ _ inside',
      List.getD_eq_getElem _ _ inside, List.getElem_map]
  rw [percentile_eq mapped, percentile_eq some_, terms, List.length_map, interpolate_add]

end Percentile

/-! ### Sorting -/

theorem sorted_rises (values : List ℚ) : (sorted values).Pairwise (· ≤ ·) :=
  List.pairwise_insertionSort _ _

theorem mem_sorted {values : List ℚ} {value : ℚ} : value ∈ sorted values ↔ value ∈ values :=
  (List.perm_insertionSort _ _).mem_iff

theorem sorted_ne_nil {values : List ℚ} (some_ : values ≠ []) : sorted values ≠ [] := by
  intro none_
  have lengths := (List.perm_insertionSort (· ≤ ·) values).length_eq
  rw [show values.insertionSort (· ≤ ·) = [] from none_] at lengths
  exact some_ (List.length_eq_zero_iff.mp lengths.symm)

theorem sorted_map_add (values : List ℚ) (c : ℚ) :
    sorted (values.map (· + c)) = (sorted values).map (· + c) := by
  unfold sorted
  rw [List.map_insertionSort (· ≤ ·) (· ≤ ·)]
  intro a _ b _
  exact (add_le_add_iff_right c).symm

/-! ### Distributions -/

theorem percentileKey_injective {p q : Int} (same : percentileKey p = percentileKey q) :
    p = q :=
  Int.repr_injective ((String.append_right_inj _).mp same)

theorem percentileKey_ne_mean (p : Int) : percentileKey p ≠ "mean" := by
  intro same
  have chars := congrArg String.toList same
  rw [percentileKey, String.toList_append] at chars
  cases chars

/-- The percentiles of a distribution are found under their names, also when two of
them share one. -/
theorem distribution_get? (values : List ℚ) {lowP highP p : Int}
    (among : p = lowP ∨ p = 50 ∨ p = highP) :
    (distribution values lowP highP).get? (percentileKey p) =
      some (percentile (sorted values) p) := by
  have middle : ("p50" : String) = percentileKey 50 := by decide
  simp only [distribution, Dict.ofPairs, List.foldl_cons, List.foldl_nil, Dict.get?_set,
    middle, if_neg (percentileKey_ne_mean p), Dict.get?_empty]
  split
  · rename_i same
    rw [percentileKey_injective same]
  · rename_i notHigh
    split
    · rename_i same
      rw [percentileKey_injective same]
    · rename_i notMiddle
      split
      · rename_i same
        rw [percentileKey_injective same]
      · rename_i notLow
        rcases among with rfl | rfl | rfl
        · exact absurd rfl notLow
        · exact absurd rfl notMiddle
        · exact absurd rfl notHigh

/-- A band over simulated values: the low percentile is at most the high one, and both
lie between the smallest and the largest value. -/
def Band (values : List ℚ) (band : Dict String ℚ) (lowP highP : Int) : Prop :=
  ∃ smallest lower upper largest,
    values.min? = some smallest ∧ values.max? = some largest ∧
    band.get? (percentileKey lowP) = some lower ∧
    band.get? (percentileKey highP) = some upper ∧
    smallest ≤ lower ∧ lower ≤ upper ∧ upper ≤ largest

theorem band_distribution {values : List ℚ} (some_ : values ≠ []) {lowP highP : Int}
    (order : lowP ≤ highP) : Band values (distribution values lowP highP) lowP highP := by
  have rises := sorted_rises values
  have sortedSome := sorted_ne_nil some_
  obtain ⟨smallest, least⟩ := Option.isSome_iff_exists.mp
    (List.isSome_min?_of_ne_nil some_)
  obtain ⟨largest, greatest⟩ := Option.isSome_iff_exists.mp
    (List.isSome_max?_of_ne_nil some_)
  refine ⟨smallest, _, _, largest, least, greatest,
    distribution_get? values (.inl rfl), distribution_get? values (.inr (.inr rfl)),
    ?_, percentile_mono rises order, ?_⟩
  · obtain ⟨value, member, below⟩ := le_percentile rises sortedSome lowP
    exact ((List.min?_eq_some_iff.mp least).2 value (mem_sorted.mp member)).trans below
  · obtain ⟨value, member, above⟩ := percentile_le rises sortedSome highP
    exact above.trans ((List.max?_eq_some_iff.mp greatest).2 value (mem_sorted.mp member))

/-! ### The curves -/

theorem CurveState.maxDdPct_trade (s : CurveState) (p : ℚ) :
    s.maxDdPct ≤ (s.trade p).maxDdPct := by
  simp only [CurveState.trade]
  generalize (if s.peak < s.equity + p then s.equity + p else s.peak) = peak
  generalize (if 0 < peak then (peak - (s.equity + p)) / peak * 100 else 0) = ddPct
  split
  · rename_i deeper
    exact deeper.le
  · exact le_rfl

theorem CurveState.maxDdPct_foldl (sample : List ℚ) (s : CurveState) :
    s.maxDdPct ≤ (sample.foldl CurveState.trade s).maxDdPct := by
  induction sample generalizing s with
  | nil => exact le_rfl
  | cons p rest ih => exact (s.maxDdPct_trade p).trans (ih (s.trade p))

theorem CurveState.length_foldl (sample : List ℚ) (s : CurveState) :
    (sample.foldl CurveState.trade s).curve.length = s.curve.length + sample.length := by
  induction sample generalizing s with
  | nil => rfl
  | cons p rest ih =>
      rw [List.foldl_cons, ih, CurveState.trade, List.length_append, List.length_singleton,
        List.length_cons]
      omega

/-- No simulated drawdown is negative. -/
theorem simulate_maxDdPct (initialBalance : ℚ) (sample : List ℚ) :
    0 ≤ (simulate initialBalance sample).maxDdPct :=
  CurveState.maxDdPct_foldl sample ⟨initialBalance, [], initialBalance, 0⟩

theorem simulate_length (initialBalance : ℚ) (sample : List ℚ) :
    (simulate initialBalance sample).curve.length = sample.length := by
  rw [simulate, CurveState.length_foldl, List.length_nil, Nat.zero_add]

/-! ### The envelope -/

section Envelope

variable {runs : List CurveState} {nTrades : ℕ}

theorem envelope_getD (runs : List CurveState) {step : ℕ} (inside : step < nTrades)
    (p : Int) : (envelope runs nTrades p).getD step 0 =
      percentile (sorted (column runs step)) p := by
  have range : step < (List.range nTrades).length := by
    rw [List.length_range]
    exact inside
  rw [envelope, List.getD_eq_getElem _ _ (by rw [List.length_map]; exact range),
    List.getElem_map, List.getElem_range]

/-- The last column has the results of the runs, from the initial balance on. -/
theorem column_last (whole : ∀ run ∈ runs, run.curve.length = nTrades) (initialBalance : ℚ) :
    column runs (nTrades - 1) =
      (runs.map (·.finalPnl initialBalance)).map (· + initialBalance) := by
  rw [column, List.map_map]
  refine List.map_congr_left ?_
  intro run member
  have length := whole run member
  rw [Function.comp_apply, CurveState.finalPnl, sub_add_cancel, List.getLastD_eq_getLast?,
    List.getLast?_eq_getElem?, length, List.getD_eq_getElem?_getD]

theorem envelope_getLast? (pos : 0 < nTrades) (some_ : runs ≠ [])
    (whole : ∀ run ∈ runs, run.curve.length = nTrades) (initialBalance : ℚ) (p : Int) :
    (envelope runs nTrades p).getLast? = some
      (initialBalance + percentile (sorted (runs.map (·.finalPnl initialBalance))) p) := by
  have results : runs.map (·.finalPnl initialBalance) ≠ [] := by
    rw [ne_eq, List.map_eq_nil_iff]
    exact some_
  obtain ⟨n, rfl⟩ := Nat.exists_eq_succ_of_ne_zero pos.ne'
  have final := column_last whole initialBalance
  rw [Nat.succ_eq_add_one, Nat.add_sub_cancel] at final
  rw [envelope, List.getLast?_map, Nat.succ_eq_add_one, List.range_succ,
    List.getLast?_concat, Option.map_some, final, sorted_map_add,
    percentile_map_add (sorted_ne_nil results), add_comm]

end Envelope

/-! ### The run -/

section Run

variable {ρ : Type} (rng : Rng ρ) {tradePnls : List ℚ}

theorem length_drawSample (some_ : tradePnls ≠ []) (r : ρ) :
    (drawSample rng tradePnls some_ r).1.length = tradePnls.length := by
  rw [drawSample, length_threaded, List.length_range]

theorem length_of_mem_drawSamples (some_ : tradePnls ≠ []) (n : ℕ) (r : ρ) :
    ∀ sample ∈ drawSamples rng tradePnls some_ n r, sample.length = tradePnls.length :=
  forall_threaded (fun _ _ state => length_drawSample rng some_ state) r

theorem drawSamples_ne_nil (some_ : tradePnls ≠ []) {n : ℕ} (pos : 0 < n) (r : ρ) :
    drawSamples rng tradePnls some_ n r ≠ [] := by
  intro none_
  have length := congrArg List.length none_
  rw [drawSamples, length_threaded, List.length_range, List.length_nil] at length
  omega

theorem sharpes_ne_nil {lib : Libm} {periods : Int} {samples : List (List ℚ)}
    {sharpes : List ℚ} (some_ : samples ≠ [])
    (computed : (samples.mapM fun sample => sharpe lib sample periods) = .ok sharpes) :
    sharpes ≠ [] := by
  cases samples with
  | nil => exact absurd rfl some_
  | cons sample rest =>
      rw [List.mapM_cons] at computed
      cases first : sharpe lib sample periods with
      | error e =>
          rw [first] at computed
          cases computed
      | ok value =>
          cases others : rest.mapM fun sample => sharpe lib sample periods with
          | error e =>
              rw [first, others] at computed
              cases computed
          | ok values =>
              rw [first, others] at computed
              cases computed
              exact List.cons_ne_nil _ _

theorem sharpes_computed (lib : Libm) {periods : Int} (nonneg : 0 ≤ periods)
    (samples : List (List ℚ)) :
    ∃ sharpes, (samples.mapM fun sample => sharpe lib sample periods) = .ok sharpes := by
  induction samples with
  | nil => exact ⟨[], rfl⟩
  | cons sample rest ih =>
      obtain ⟨others, computed⟩ := ih
      have first : ∃ value, sharpe lib sample periods = .ok value := by
        unfold sharpe
        dsimp only
        split
        · exact ⟨_, rfl⟩
        · split
          · exact ⟨_, rfl⟩
          · rw [if_neg (not_lt.mpr nonneg)]
            exact ⟨_, rfl⟩
      obtain ⟨value, first⟩ := first
      refine ⟨value :: others, ?_⟩
      rw [List.mapM_cons, first, computed]
      rfl

/-- What holds of the bands of a result and the simulations behind it. -/
structure Consistent (runs : List CurveState) (sharpes : List ℚ)
    (result : MonteCarloResult) : Prop where
  netPnl : Band (runs.map (·.finalPnl result.initialBalance)) result.netPnl
    result.percentileLow result.percentileHigh
  maxDrawdown : Band (runs.map (·.maxDdPct)) result.maxDrawdown result.percentileLow
    result.percentileHigh
  sharpe : Band sharpes result.sharpe result.percentileLow result.percentileHigh
  drawdowns : ∀ run ∈ runs, 0 ≤ run.maxDdPct
  lengths : result.equityEnvelopeLow.length = result.nTrades ∧
    result.equityEnvelopeMid.length = result.nTrades ∧
    result.equityEnvelopeHigh.length = result.nTrades
  envelope : result.percentileLow ≤ 50 → 50 ≤ result.percentileHigh →
    ∀ step < result.nTrades,
      result.equityEnvelopeLow.getD step 0 ≤ result.equityEnvelopeMid.getD step 0 ∧
        result.equityEnvelopeMid.getD step 0 ≤ result.equityEnvelopeHigh.getD step 0
  /-- the envelope ends at the percentiles of the results -/
  last : ∃ lower middle upper,
    result.netPnl.get? (percentileKey result.percentileLow) = some lower ∧
    result.netPnl.get? "p50" = some middle ∧
    result.netPnl.get? (percentileKey result.percentileHigh) = some upper ∧
    result.equityEnvelopeLow.getLast? = some (result.initialBalance + lower) ∧
    result.equityEnvelopeMid.getLast? = some (result.initialBalance + middle) ∧
    result.equityEnvelopeHigh.getLast? = some (result.initialBalance + upper)

theorem consistent_bandsOf {runs : List CurveState} {sharpes : List ℚ} {nTrades : ℕ}
    (pos : 0 < nTrades) (some_ : runs ≠ []) (ratios : sharpes ≠ [])
    (whole : ∀ run ∈ runs, run.curve.length = nTrades)
    (drawdowns : ∀ run ∈ runs, 0 ≤ run.maxDdPct) (nSimulations : Int) (initialBalance : ℚ)
    {lowP highP : Int} (order : lowP ≤ highP) :
    Consistent runs sharpes
      (bandsOf runs sharpes nSimulations nTrades initialBalance lowP highP) := by
  have mapped : ∀ figure : CurveState → ℚ, runs.map figure ≠ [] := by
    intro figure
    rw [ne_eq, List.map_eq_nil_iff]
    exact some_
  have length : ∀ p, (envelope runs nTrades p).length = nTrades := by
    intro p
    rw [envelope, List.length_map, List.length_range]
  have final := envelope_getLast? pos some_ whole initialBalance
  have found : ∀ p, p = lowP ∨ p = 50 ∨ p = highP → _ := fun _ =>
    distribution_get? (runs.map (·.finalPnl initialBalance))
  constructor
  · exact band_distribution (mapped _) order
  · exact band_distribution (mapped _) order
  · exact band_distribution ratios order
  · exact drawdowns
  · exact ⟨length lowP, length 50, length highP⟩
  · intro low high step inside
    have risesHere := sorted_rises (column runs step)
    have below := percentile_mono risesHere low
    have above := percentile_mono risesHere high
    rw [← envelope_getD runs inside, ← envelope_getD runs inside] at below above
    exact ⟨below, above⟩
  · exact ⟨_, _, _, found lowP (.inl rfl), found 50 (.inr (.inl rfl)),
      found highP (.inr (.inr rfl)), final lowP, final 50, final highP⟩

theorem runMonteCarlo_eq (lib : Libm) (r : ρ) (some_ : tradePnls ≠ []) {nSimulations : Int}
    (one : 1 ≤ nSimulations) (initialBalance : ℚ) {lowP highP : Int}
    (start : 0 ≤ lowP) (order : lowP < highP) (stop : highP ≤ 100) (periods : Int) :
    runMonteCarlo rng lib r tradePnls nSimulations initialBalance lowP highP periods =
      ((drawSamples rng tradePnls some_ nSimulations.toNat r).mapM fun sample =>
        sharpe lib sample periods).map fun sharpes =>
          bandsOf ((drawSamples rng tradePnls some_ nSimulations.toNat r).map
            (simulate initialBalance)) sharpes nSimulations tradePnls.length initialBalance
              lowP highP := by
  rw [runMonteCarlo, dif_neg some_, if_neg (by omega),
    if_neg (not_not.mpr ⟨start, order, stop⟩)]

/-- For every outcome of the draws; a run returns unless the periods are negative, and
its bands are those of the simulations. -/
theorem bands_are_consistent (lib : Libm) (r : ρ) (some_ : tradePnls ≠ [])
    {nSimulations : Int} (one : 1 ≤ nSimulations) (initialBalance : ℚ)
    {lowP highP : Int} (start : 0 ≤ lowP)
    (order : lowP < highP) (stop : highP ≤ 100) (periods : Int) :
    let samples := drawSamples rng tradePnls some_ nSimulations.toNat r
    let run := runMonteCarlo rng lib r tradePnls nSimulations initialBalance lowP highP
      periods
    (0 ≤ periods → ∃ result, run = .ok result) ∧
    (∀ result, run = .ok result → ∃ sharpes,
      (samples.mapM fun sample => sharpe lib sample periods) = .ok sharpes ∧
      result.nTrades = tradePnls.length ∧ result.initialBalance = initialBalance ∧
      result.percentileLow = lowP ∧ result.percentileHigh = highP ∧
      Consistent (samples.map (simulate initialBalance)) sharpes result) ∧
    ∀ values : List ℚ, values.Pairwise (· ≤ ·) → ∀ p q : Int, p ≤ q →
      percentile values p ≤ percentile values q := by
  intro samples run
  have equation := runMonteCarlo_eq rng lib r some_ one initialBalance start order stop periods
  have drawn : samples ≠ [] := drawSamples_ne_nil rng some_ (by omega) r
  refine ⟨?_, ?_, fun values rises p q => percentile_mono rises⟩
  · intro nonneg
    obtain ⟨sharpes, computed⟩ := sharpes_computed lib nonneg samples
    rw [computed] at equation
    exact ⟨_, equation⟩
  · intro result returned
    have parts := equation.symm.trans returned
    cases computed : samples.mapM fun sample => sharpe lib sample periods with
    | error e =>
        rw [computed] at parts
        cases parts
    | ok sharpes =>
        rw [computed] at parts
        cases parts
        refine ⟨sharpes, rfl, rfl, rfl, rfl, rfl, ?_⟩
        refine consistent_bandsOf (List.length_pos_iff.mpr some_) ?_
          (sharpes_ne_nil drawn computed) ?_ ?_ _ _ order.le
        · rw [ne_eq, List.map_eq_nil_iff]
          exact drawn
        · intro state member
          rcases List.mem_map.mp member with ⟨sample, listed, rfl⟩
          rw [simulate_length]
          exact length_of_mem_drawSamples rng some_ _ r sample listed
        · intro state member
          rcases List.mem_map.mp member with ⟨sample, -, rfl⟩
          exact simulate_maxDdPct initialBalance sample

/-- Two trades, drawn twice by a generator that takes the first one. -/
theorem bands_are_consistent_two_trades :
    ∃ result, runMonteCarlo firstOnes Libm.least () [1, -2] 2 100 5 95 252 = .ok result ∧
      ∃ sharpes, Consistent
        ((drawSamples firstOnes [1, -2] (List.cons_ne_nil 1 [-2]) 2 ()).map (simulate 100))
        sharpes result := by
  obtain ⟨returns, bands, -⟩ := bands_are_consistent firstOnes Libm.least ()
    (List.cons_ne_nil 1 [-2]) (by decide : (1 : Int) ≤ 2) 100 (by decide : (0 : Int) ≤ 5)
    (by decide : (5 : Int) < 95) (by decide) 252
  obtain ⟨result, returned⟩ := returns (by decide)
  obtain ⟨sharpes, -, -, -, -, -, consistent⟩ := bands result returned
  exact ⟨result, returned, sharpes, consistent⟩

end Run

end MonteCarlo

end StingerFx
