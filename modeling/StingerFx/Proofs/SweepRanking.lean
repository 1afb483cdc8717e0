/-
Module: StingerFx.Proofs.SweepRanking
Layer: Proofs
Purpose: When the ranking of a sweep is total and agrees with the scores that the search
  was told. The search's scores replace a missing, empty or undefined metric, and the
  sort key of the ranking only a missing one.
Trusted boundary: none (fully proved)
Main exports: HasScore, ScoreLe, RankedWell, Rankable, SweepReport.ranked_well_iff,
  SweepReport.ranking_raises
-/
import StingerFx.Backtest.Sweep
import StingerFx.Lib.PyResults

namespace StingerFx

open Lib SweepReport

section Statement

variable {P : Type}

/-- The metric of a cell is a number. -/
def HasScore (rankBy : String) (cell : SweepCellResult P) : Prop :=
  ∃ value x, cell.metrics.get? rankBy = some value ∧ value.real? = some x

/-- A score is no better than another one. -/
def ScoreLe (a b : PyValue) : Prop :=
  a = b ∨ ∃ x y, a.real? = some x ∧ b.real? = some y ∧ x ≤ y

/-- Nothing raises; the cells are only reordered, those with a score first; and the
best one has the maximal score among those that the search was told. -/
structure RankedWell (rankBy : String) (turns : List (SweepCellResult P × PyValue)) :
    Prop where
  total : ∀ error, (SweepReport.mk rankBy (turns.map Prod.fst)).ranked ≠ .raises error
  perm : ∀ ranking, (SweepReport.mk rankBy (turns.map Prod.fst)).ranked.Allows ranking →
    ranking.Perm (turns.map Prod.fst)
  scored : ∀ ranking, (SweepReport.mk rankBy (turns.map Prod.fst)).ranked.Allows ranking →
    ranking.Pairwise fun a b => HasScore rankBy b → HasScore rankBy a
  best : ∀ ranking, (SweepReport.mk rankBy (turns.map Prod.fst)).ranked.Allows ranking →
    turns ≠ [] → ∃ turn ∈ turns,
      (SweepReport.mk rankBy (turns.map Prod.fst)).best ranking = some turn.1 ∧
        ∀ other ∈ turns, ScoreLe other.2 turn.2

/-- At most one cell, or numbers to sort by, NaN for none of the cells or for all. -/
def Rankable (rankBy : String) (cells : List (SweepCellResult P)) : Prop :=
  cells.length ≤ 1 ∨
    ((∀ cell ∈ cells, (rankKey rankBy cell).isReal = true) ∧
      ((∀ cell ∈ cells, (rankKey rankBy cell).real? ≠ none) ∨
        ∀ cell ∈ cells, (rankKey rankBy cell).real? = none))

end Statement

/-! ### Which metrics a cell has -/

theorem storeCustoms_isSome {lib : Libm} {entries : List (String × MetricExpression)}
    {metrics stored : Dict String PyValue} (name : String)
    (ran : storeCustoms lib entries metrics = .ok stored) :
    (stored.get? name).isSome = true ↔
      (metrics.get? name).isSome = true ∨ name ∈ entries.map Prod.fst := by
  induction entries generalizing metrics with
  | nil =>
      cases ran
      simp
  | cons entry rest ih =>
      obtain ⟨value, -, ran⟩ := bind_eq_ok_iff.mp ran
      rw [ih ran, List.map_cons, List.mem_cons]
      by_cases here : name = entry.1
      · subst here
        simp
      · rw [Dict.get?_set_of_ne _ _ here]
        simp [here]

section Turns

variable {P : Type} {lib : Libm} {rankBy : String}
  {customs : List (String × MetricExpression)} {backtest : P → ReportFigures}
  {turn other : SweepCellResult P × PyValue} {params : P}

/-- What a turn leaves: the custom metrics are stored, and the search knows the score. -/
theorem runCell_ok (ran : runCell lib rankBy customs backtest params = .ok turn) :
    storeCustoms lib customs (backtest params).toMetricsDict = .ok turn.1.metrics ∧
      reportedScore rankBy turn.1.metrics = .ok turn.2 := by
  obtain ⟨metrics, stored, ran⟩ := bind_eq_ok_iff.mp ran
  obtain ⟨score, told, ran⟩ := bind_eq_ok_iff.mp ran
  cases ran
  refine ⟨stored, ?_⟩
  cases outcome : reportedScore rankBy metrics with
  | ok value =>
      rw [outcome] at told
      cases told
      exact rfl
  | error cause =>
      rw [outcome] at told
      cases told

/-- A cell has the metrics of a report and the custom ones. -/
theorem runCell_isSome (ran : runCell lib rankBy customs backtest params = .ok turn)
    (name : String) : (turn.1.metrics.get? name).isSome = true ↔
      name ∈ metricNames ∨ name ∈ customs.map Prod.fst := by
  rw [storeCustoms_isSome name (runCell_ok ran).1, get?_toMetricsDict_isSome]

/-! ### The two scores of a cell -/

theorem rankKey_of_some {cell : SweepCellResult P} {value : PyValue}
    (stored : cell.metrics.get? rankBy = some value) : rankKey rankBy cell = value := by
  rw [rankKey, Dict.getD, stored]
  rfl

/-- The score of a number is the number, or its negative if less is better. -/
theorem score_of_number {metrics : Dict String PyValue} {value score : PyValue}
    {x : Extended} (stored : metrics.get? rankBy = some value) (number : value.real? = some x)
    (told : reportedScore rankBy metrics = .ok score) :
    score.real? = some (if rankBy ∈ smallerIsBetter then mirror x else x) := by
  have raw : rawScore rankBy metrics = value := by
    simp only [rawScore, Dict.getD, stored, Option.getD_some]
    refine if_neg ?_
    rintro (rfl | rfl)
    · cases number
    · cases number
  rw [reportedScore, raw] at told
  split at told
  · rename_i less
    rw [if_pos less]
    exact real?_minus number told
  · rename_i more
    rw [if_neg more]
    cases told
    exact number

/-- NaN becomes the worst score. -/
theorem score_of_nan {metrics : Dict String PyValue} {score : PyValue}
    (stored : metrics.get? rankBy = some (.float .nan))
    (told : reportedScore rankBy metrics = .ok score) : score = .float (.inf true) := by
  have raw : rawScore rankBy metrics =
      .float (.inf (decide (rankBy ∉ smallerIsBetter))) := by
    simp [rawScore, Dict.getD, stored]
  rw [reportedScore, raw] at told
  split at told
  · rename_i less
    rw [decide_eq_false (not_not_intro less)] at told
    cases told
    rfl
  · rename_i more
    rw [decide_eq_true more] at told
    cases told
    rfl

theorem score_of_missing {metrics : Dict String PyValue} {score : PyValue}
    (missing : metrics.get? rankBy = none)
    (told : reportedScore rankBy metrics = .ok score) : score = .float (.fin 0) := by
  have raw : rawScore rankBy metrics = .float (.fin 0) := by
    simp only [rawScore, Dict.getD, missing, Option.getD_none]
    refine if_neg ?_
    rintro (same | same) <;> cases same
  rw [reportedScore, raw] at told
  split at told
  · cases told
    rfl
  · cases told
    rfl

theorem eq_nan {value : PyValue} (real : value.isReal = true) (none : value.real? = none) :
    value = .float .nan := by
  cases value with
  | float x =>
      cases x with
      | nan => rfl
      | fin q => cases none
      | inf negative => cases negative <;> cases none
  | int n => cases none
  | bool b => cases none
  | none => cases real
  | complex re im => cases real
  | func f => cases real
  | other className => cases real

end Turns

/-! ### Lists of turns -/

section Lists

variable {P : Type} {lib : Libm} {rankBy : String}
  {customs : List (String × MetricExpression)} {backtest : P → ReportFigures}
  {turns : List (SweepCellResult P × PyValue)}

/-- Every turn is one of a cell of the sweep. -/
def AllRan (lib : Libm) (rankBy : String) (customs : List (String × MetricExpression))
    (backtest : P → ReportFigures) (turns : List (SweepCellResult P × PyValue)) : Prop :=
  ∀ turn ∈ turns, ∃ params, runCell lib rankBy customs backtest params = .ok turn

theorem AllRan.present_iff (ran : AllRan lib rankBy customs backtest turns)
    {one two : SweepCellResult P × PyValue} (first : one ∈ turns) (second : two ∈ turns) :
    (one.1.metrics.get? rankBy).isSome = true ↔ (two.1.metrics.get? rankBy).isSome = true := by
  obtain ⟨params, here⟩ := ran one first
  obtain ⟨others, there⟩ := ran two second
  rw [runCell_isSome here, runCell_isSome there]

/-- Cells whose metric is missing all have the same key, which is a number. -/
theorem rankKey_of_none {cell : SweepCellResult P} (missing : cell.metrics.get? rankBy = none) :
    rankKey rankBy cell = .float (.inf (decide (rankBy ∉ smallerIsBetter))) := by
  rw [rankKey, Dict.getD, missing]
  rfl

/-- A cell that is ranked before another one has no worse score. -/
theorem scoreLe_of_keys (ran : AllRan lib rankBy customs backtest turns)
    {best other : SweepCellResult P × PyValue} (isTurn : best ∈ turns)
    (isOther : other ∈ turns) {x y : Extended}
    (bestKey : (rankKey rankBy best.1).real? = some x)
    (otherKey : (rankKey rankBy other.1).real? = some y)
    (first : if rankBy ∈ smallerIsBetter then x ≤ y else y ≤ x) :
    ScoreLe other.2 best.2 := by
  obtain ⟨_, here⟩ := ran best isTurn
  obtain ⟨_, there⟩ := ran other isOther
  have bestTold := (runCell_ok here).2
  have otherTold := (runCell_ok there).2
  cases stored : best.1.metrics.get? rankBy with
  | none =>
      have missing : other.1.metrics.get? rankBy = none := by
        have same := ran.present_iff isTurn isOther
        rw [stored] at same
        exact Option.not_isSome_iff_eq_none.mp fun present => by cases same.mpr present
      left
      rw [score_of_missing missing otherTold, score_of_missing stored bestTold]
  | some value =>
      obtain ⟨another, present⟩ : ∃ another, other.1.metrics.get? rankBy = some another := by
        apply Option.isSome_iff_exists.mp
        rw [← ran.present_iff isTurn isOther, stored]
        rfl
      rw [rankKey_of_some stored] at bestKey
      rw [rankKey_of_some present] at otherKey
      refine .inr ⟨_, _, score_of_number present otherKey otherTold,
        score_of_number stored bestKey bestTold, ?_⟩
      split
      · rename_i less
        rw [if_pos less] at first
        exact mirror_antitone first
      · rename_i more
        rw [if_neg more] at first
        exact first

/-- What the head of a ranking of numbers is. -/
theorem head_first {cells ranking : List (SweepCellResult P)} {head : SweepCellResult P}
    (several : ¬cells.length ≤ 1)
    (numbers : ∀ cell ∈ cells, (rankKey rankBy cell).real?.isSome = true)
    (allowed : (SweepReport.mk rankBy cells).ranked.Allows ranking)
    (top : ranking.head? = some head) {cell : SweepCellResult P} (member : cell ∈ cells)
    {x y : Extended} (headKey : (rankKey rankBy head).real? = some x)
    (cellKey : (rankKey rankBy cell).real? = some y) :
    if rankBy ∈ smallerIsBetter then x ≤ y else y ≤ x := by
  have inRanking : cell ∈ ranking := allowed.perm.mem_iff.mpr member
  rw [SweepReport.ranked, pySorted_numbers _ several numbers] at allowed
  cases allowed
  split
  · rename_i less
    rw [decide_eq_false (not_not_intro less)] at top inRanking
    have sorted : SortedBy (fun cell => sortRank (rankKey rankBy cell)) (sortBy _ cells) :=
      sorted_sortBy cells
    have le := sorted.head_le top cell inRanking
    simpa only [sortRank, headKey, cellKey, Option.getD_some] using le
  · rename_i more
    rw [decide_eq_true more] at top inRanking
    have sorted : SortedBy (fun cell => OrderDual.toDual (sortRank (rankKey rankBy cell)))
        (sortBy _ cells) := sorted_sortBy cells
    have le := sorted.head_le top cell inRanking
    simpa only [sortRank, headKey, cellKey, Option.getD_some, OrderDual.toDual_le_toDual]
      using le

theorem not_hasScore {cell : SweepCellResult P} (none : (rankKey rankBy cell).real? = none) :
    ¬HasScore rankBy cell := by
  rintro ⟨value, x, stored, number⟩
  rw [rankKey_of_some stored, number] at none
  cases none

/-- A cell whose key is not a number has its metric. -/
theorem isSome_of_none {cell : SweepCellResult P} (none : (rankKey rankBy cell).real? = none) :
    (cell.metrics.get? rankBy).isSome = true := by
  rw [Option.isSome_iff_ne_none]
  intro missing
  rw [rankKey_of_none missing] at none
  cases worst : decide (rankBy ∉ smallerIsBetter) with
  | true =>
      rw [worst] at none
      cases none
  | false =>
      rw [worst] at none
      cases none

theorem RankedWell.of_short (short : turns.length ≤ 1) : RankedWell rankBy turns := by
  have list : (SweepReport.mk rankBy (turns.map Prod.fst)).ranked =
      .list (turns.map Prod.fst) :=
    pySorted_short _ (by rwa [List.length_map])
  match turns with
  | [] =>
      refine ⟨?_, ?_, ?_, fun ranking allowed some => absurd rfl some⟩
      · exact fun error raises => by cases raises
      · exact fun ranking allowed => allowed ▸ .refl _
      · exact fun ranking allowed => allowed ▸ .nil
  | [turn] =>
      refine ⟨?_, ?_, ?_, ?_⟩
      · exact fun error raises => by cases raises
      · exact fun ranking allowed => allowed ▸ .refl _
      · exact fun ranking allowed => allowed ▸ List.pairwise_singleton _ _
      · intro ranking allowed _
        cases allowed
        refine ⟨turn, List.mem_singleton.mpr rfl, rfl, fun other member => .inl ?_⟩
        rw [List.mem_singleton.mp member]
  | _ :: _ :: _ => simp at short

/-- The head of a ranking that holds all cells. -/
theorem exists_best (rankBy : String) {ranking : List (SweepCellResult P)} (some : turns ≠ [])
    (perm : ranking.Perm (turns.map Prod.fst)) :
    ∃ turn ∈ turns, ranking.head? = Option.some turn.1 ∧
      (SweepReport.mk rankBy (turns.map Prod.fst)).best ranking = Option.some turn.1 := by
  cases ranking with
  | nil => exact absurd (List.map_eq_nil_iff.mp perm.nil_eq.symm) some
  | cons head rest =>
      obtain ⟨turn, member, same⟩ := List.mem_map.mp (perm.mem_iff.mp List.mem_cons_self)
      refine ⟨turn, member, same ▸ rfl, ?_⟩
      rw [SweepReport.best, if_neg, same]
      · rfl
      · simpa using some

theorem mixed_cells {cells : List (SweepCellResult P)}
    (mixed : ¬((∀ cell ∈ cells, (rankKey rankBy cell).real? ≠ none) ∨
      ∀ cell ∈ cells, (rankKey rankBy cell).real? = none)) :
    (∃ cell ∈ cells, (rankKey rankBy cell).real? = none) ∧
      ∃ cell ∈ cells, (rankKey rankBy cell).real? ≠ none := by
  obtain ⟨one, two⟩ := not_or.mp mixed
  refine ⟨?_, by simpa only [not_forall, exists_prop] using two⟩
  simpa only [not_forall, exists_prop, ne_eq, not_not] using one

/-- Beside a cell that has the metric, a number to sort by is a score. -/
theorem hasScore_of_ne (ran : AllRan lib rankBy customs backtest turns)
    {nan cell : SweepCellResult P} (isNan : nan ∈ turns.map Prod.fst)
    (isCell : cell ∈ turns.map Prod.fst) (undefined : (rankKey rankBy nan).real? = none)
    (number : (rankKey rankBy cell).real? ≠ none) : HasScore rankBy cell := by
  obtain ⟨one, first, rfl⟩ := List.mem_map.mp isNan
  obtain ⟨two, second, rfl⟩ := List.mem_map.mp isCell
  have present := (ran.present_iff first second).mp (isSome_of_none undefined)
  obtain ⟨value, stored⟩ := Option.isSome_iff_exists.mp present
  obtain ⟨x, real⟩ := Option.ne_none_iff_exists'.mp number
  rw [rankKey_of_some stored] at real
  exact ⟨value, x, stored, real⟩

theorem RankedWell.of_numbers (ran : AllRan lib rankBy customs backtest turns)
    (several : ¬(turns.map Prod.fst).length ≤ 1)
    (numbers : ∀ cell ∈ turns.map Prod.fst, (rankKey rankBy cell).real? ≠ none) :
    RankedWell rankBy turns := by
  have isSome : ∀ cell ∈ turns.map Prod.fst, (rankKey rankBy cell).real?.isSome = true :=
    fun cell member => Option.isSome_iff_ne_none.mpr (numbers cell member)
  refine ⟨?_, fun ranking allowed => allowed.perm, ?_, ?_⟩
  · intro error raises
    rw [SweepReport.ranked, pySorted_numbers _ several isSome] at raises
    cases raises
  · intro ranking allowed
    refine List.pairwise_of_forall_mem_list fun one inOne two inTwo => ?_
    rintro ⟨value, x, stored, -⟩
    -- what one cell has, all have
    obtain ⟨first, isFirst, rfl⟩ := List.mem_map.mp (allowed.perm.mem_iff.mp inOne)
    obtain ⟨second, isSecond, rfl⟩ := List.mem_map.mp (allowed.perm.mem_iff.mp inTwo)
    have present := (ran.present_iff isSecond isFirst).mp (Option.isSome_of_eq_some stored)
    obtain ⟨own, known⟩ := Option.isSome_iff_exists.mp present
    obtain ⟨y, real⟩ := Option.ne_none_iff_exists'.mp
      (numbers _ (List.mem_map_of_mem isFirst))
    rw [rankKey_of_some known] at real
    exact ⟨own, y, known, real⟩
  · intro ranking allowed some
    obtain ⟨turn, member, head, best⟩ := exists_best rankBy some allowed.perm
    refine ⟨turn, member, best, fun other isOther => ?_⟩
    obtain ⟨x, bestKey⟩ := Option.ne_none_iff_exists'.mp
      (numbers _ (List.mem_map_of_mem member))
    obtain ⟨y, otherKey⟩ := Option.ne_none_iff_exists'.mp
      (numbers _ (List.mem_map_of_mem isOther))
    exact scoreLe_of_keys ran member isOther bestKey otherKey
      (head_first several isSome allowed head (List.mem_map_of_mem isOther) bestKey otherKey)

theorem RankedWell.of_nan (ran : AllRan lib rankBy customs backtest turns)
    (several : ¬(turns.map Prod.fst).length ≤ 1)
    (real : ∀ cell ∈ turns.map Prod.fst, (rankKey rankBy cell).isReal = true)
    (none : ∀ cell ∈ turns.map Prod.fst, (rankKey rankBy cell).real? = none) :
    RankedWell rankBy turns := by
  have worst : ∀ turn ∈ turns, turn.2 = .float (.inf true) := by
    intro turn member
    have inCells := List.mem_map_of_mem (f := Prod.fst) member
    obtain ⟨value, stored⟩ := Option.isSome_iff_exists.mp (isSome_of_none (none _ inCells))
    have key := eq_nan (real _ inCells) (none _ inCells)
    rw [rankKey_of_some stored] at key
    subst key
    obtain ⟨params, here⟩ := ran turn member
    exact score_of_nan stored (runCell_ok here).2
  refine ⟨?_, fun ranking allowed => allowed.perm, ?_, ?_⟩
  · intro error raises
    match cells : turns.map Prod.fst with
    | [] => rw [cells] at several; exact several (Nat.zero_le 1)
    | cell :: rest =>
        have member : cell ∈ turns.map Prod.fst := cells ▸ List.mem_cons_self
        rw [SweepReport.ranked, pySorted_anyOrder _ several real ⟨cell, member, none _ member⟩]
          at raises
        cases raises
  · intro ranking allowed
    refine List.pairwise_of_forall_mem_list fun one _ two inTwo scored => ?_
    exact absurd scored (not_hasScore (none two (allowed.perm.mem_iff.mp inTwo)))
  · intro ranking allowed some
    obtain ⟨turn, member, -, best⟩ := exists_best rankBy some allowed.perm
    refine ⟨turn, member, best, fun other isOther => .inl ?_⟩
    rw [worst turn member, worst other isOther]

/-- For every sweep and all cells that it can have: the ranking is total and agrees with
the search's scores if and only if there is at most one cell, or the metrics to rank by
are numbers, with NaN for none of the cells or for all. -/
theorem rankedWell_iff (ran : AllRan lib rankBy customs backtest turns) :
    RankedWell rankBy turns ↔ Rankable rankBy (turns.map Prod.fst) := by
  by_cases short : turns.length ≤ 1
  · exact iff_of_true (.of_short short) (.inl (by rwa [List.length_map]))
  have several : ¬(turns.map Prod.fst).length ≤ 1 := by rwa [List.length_map]
  constructor
  · intro well
    have real : ∀ cell ∈ turns.map Prod.fst, (rankKey rankBy cell).isReal = true := by
      intro cell member
      by_contra unordered
      exact well.total _ (pySorted_raises _ several
        ⟨cell, member, Bool.eq_false_iff.mpr unordered⟩)
    refine .inr ⟨real, ?_⟩
    by_contra mixed
    obtain ⟨⟨nan, isNan, undefined⟩, cell, isCell, number⟩ := mixed_cells mixed
    obtain ⟨before, after, split⟩ := List.append_of_mem isNan
    -- the cell without a score may come first
    have allowed : (SweepReport.mk rankBy (turns.map Prod.fst)).ranked.Allows
        (nan :: (before ++ after)) := by
      rw [SweepReport.ranked, pySorted_anyOrder _ several real ⟨nan, isNan, undefined⟩]
      change (nan :: (before ++ after)).Perm (turns.map Prod.fst)
      rw [split]
      exact List.perm_middle.symm
    have inner : cell ∈ before ++ after := by
      rw [split, List.perm_middle.mem_iff] at isCell
      refine (List.mem_cons.mp isCell).resolve_left fun same => ?_
      exact number (same ▸ undefined)
    have first := (List.pairwise_cons.mp (well.scored _ allowed)).1 cell inner
    refine not_hasScore undefined (first (hasScore_of_ne ran isNan ?_ undefined number))
    rw [split, List.perm_middle.mem_iff]
    exact List.mem_cons_of_mem _ inner
  · rintro (few | ⟨real, numbers | undefined⟩)
    · exact absurd few several
    · exact .of_numbers ran several numbers
    · exact .of_nan ran several real undefined

end Lists

namespace SweepReport

/-- For every sweep, whatever it is ranked by and searched with, and all the cells that
its run has: the ranking is total and agrees with the scores that the search was told
if and only if there is at most one cell, or the metrics to rank by are numbers, with
NaN for none of the cells or for all. -/
theorem ranked_well_iff {σ P : Type} (lib : Libm) (rankBy : String)
    (customs : List (String × MetricExpression)) (backtest : P → ReportFigures)
    (search : SearchStrategy σ P PyValue) (fuel : ℕ) (start after : σ)
    (turns : List (SweepCellResult P × PyValue))
    (ran : drive search (runCell lib rankBy customs backtest) fuel start [] =
      .ok (turns, after)) :
    RankedWell rankBy turns ↔ Rankable rankBy (turns.map Prod.fst) :=
  rankedWell_iff fun turn member =>
    (mem_drive ran turn member).resolve_left List.not_mem_nil

/-- A report of a backtest with these profits and losses. -/
def sampleFigures (profit loss factor : PyFloat) : ReportFigures where
  trades := 2
  netPnl := profit.add loss
  grossProfit := profit
  grossLoss := loss
  winRate := .fin 1
  profitFactor := factor
  expectancy := .fin 5
  expectancyPerLot := .fin 5
  maxDrawdown := .fin 3
  sharpe := .fin 1
  totalCommission := .fin 0
  totalSwap := .fin 0
  initialBalance := .fin 10000
  finalBalance := .fin 10010

/-- The first of two cells has losses, the second has none. -/
def sampleBacktest (cell : ℕ) : ReportFigures :=
  if cell = 0 then sampleFigures (.fin 20) (.fin (-10)) (.fin 2)
  else sampleFigures (.fin 30) (.fin 0) (.inf false)

/-- The turn of a cell without custom metrics. -/
def sampleTurn (rankBy : String) (cell : ℕ) : SweepCellResult ℕ × PyValue :=
  (⟨cell, (sampleBacktest cell).toMetricsDict⟩,
    rawScore rankBy (sampleBacktest cell).toMetricsDict)

theorem netPnl_ranked_well :
    RankedWell "net_pnl" [sampleTurn "net_pnl" 0, sampleTurn "net_pnl" 1] ↔
      Rankable "net_pnl"
        ([sampleTurn "net_pnl" 0, sampleTurn "net_pnl" 1].map Prod.fst) :=
  ranked_well_iff .least "net_pnl" [] sampleBacktest (gridSearch ℕ PyValue) 3 [0, 1] []
    _ rfl

/-- A cell without losing trades has no profit factor to compare. -/
theorem ranking_raises :
    ¬∀ lib rankBy customs (backtest : ℕ → ReportFigures) fuel start after turns,
      drive (gridSearch ℕ PyValue) (runCell lib rankBy customs backtest) fuel start [] =
          .ok (turns, after) →
        RankedWell rankBy turns := by
  intro claimed
  have well := claimed .least "profit_factor" [] sampleBacktest 3 [0, 1] []
    [sampleTurn "profit_factor" 0, sampleTurn "profit_factor" 1] rfl
  exact well.total .type (by decide +kernel)

end SweepReport

end StingerFx
