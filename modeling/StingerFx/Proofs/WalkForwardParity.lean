/-
Module: StingerFx.Proofs.WalkForwardParity
Layer: Proofs
Purpose: What a fold's in-sample sweep and its out-of-sample evaluation hand to the
  backtester for the same window and the same parameters. Both constructions are
  accepted for every accepted walk-forward configuration; the results agree apart
  from ids exactly when the configuration sets no contract size.
Trusted boundary: none (fully proved)
Main exports: HandOver.sansIds, Parity, handOvers_match, parity_iff_no_contract_sizes
-/
import StingerFx.Backtest.WalkForward
import StingerFx.Backtest.SimBroker

namespace StingerFx

open Lib Config

namespace WalkForward

variable {ν : Type}

/-! ### What an accepted configuration promises -/

/-- The checks of a walk-forward configuration that its copies repeat. -/
structure Checked (f : WalkForwardFields ν) : Prop where
  id : idErrors f.id = []
  balance : 0 < f.initialBalance
  sizes : contractSizeErrors f.symbolContractSizes = []
  grid : gridErrors "" f.search.parameterGrid = []
  search : f.search.errors = []

theorem checked_of_accepted (cfg : WalkForwardConfig ν) : Checked cfg.fields := by
  have accepted : cfg.fields.errors = [] := cfg.accepted
  simp only [WalkForwardFields.errors, List.append_eq_nil_iff,
    require_eq_nil] at accepted
  obtain ⟨⟨⟨⟨⟨⟨id, balance⟩, sizes⟩, _⟩, _⟩, grid⟩, search⟩ := accepted
  exact ⟨id, balance, sizes, grid, search⟩

theorem idErrors_numbered {id tag : String} {n : Nat} (valid : idErrors id = [])
    (chars : ∀ c ∈ tag.toList, idChar c = true) :
    idErrors (id ++ tag ++ toString n) = [] := by
  apply runId_append
  · exact runId_append valid chars
  · exact idChar_of_number

/-! ### Both ways are accepted -/

/-- The fields of a run as both ways build them: everything that is not named is
the default of the schema. -/
def runFields (id : String) (strategyId : StrategyId) (feeds : List Subscription)
    (window : Time × Time) (cfg : WalkForwardFields ν)
    (sizes : Dict Symbol ℚ) : RunFields where
  id := id
  strategyId := strategyId
  feedShape := { feeds := some feeds }
  start := window.1
  stop := window.2
  initialBalance := cfg.initialBalance
  symbolContractSizes := sizes
  dataSource := some cfg.dataSource

theorem runFields_accepted {id : String} {strategyId : StrategyId}
    {feeds : List Subscription} {window : Time × Time}
    {cfg : WalkForwardFields ν} {sizes : Dict Symbol ℚ}
    (valid : idErrors id = []) (balance : 0 < cfg.initialBalance)
    (positive : contractSizeErrors sizes = []) :
    backtestRunSchema.errors (runFields id strategyId feeds window cfg sizes) =
      [] := by
  simp [backtestRunSchema, RunFields.errors, runFields, valid, balance, positive]

/-- The sweep configuration of a fold. -/
def sweepFields (cfg : WalkForwardConfig ν) (index : Nat) (window : Time × Time) :
    SweepFields ν where
  id := cfg.fields.id ++ "_fold_" ++ toString index
  strategyId := cfg.fields.strategyId
  feedShape := { feeds := some cfg.feedList }
  start := window.1
  stop := window.2
  initialBalance := cfg.fields.initialBalance
  dataSource := cfg.fields.dataSource
  search := cfg.fields.search

theorem fold_chars : ∀ c ∈ "_fold_".toList, idChar c = true := by
  simp [idChar]

theorem cell_chars : ∀ c ∈ "_cell_".toList, idChar c = true := by
  simp [idChar]

theorem oos_chars : ∀ c ∈ "_oos".toList, idChar c = true := by
  simp [idChar]

theorem sweepFields_accepted (cfg : WalkForwardConfig ν) (index : Nat)
    (window : Time × Time) :
    (sweepRunSchema ν).errors (sweepFields cfg index window) = [] := by
  have checked := checked_of_accepted cfg
  have valid := idErrors_numbered (n := index) checked.id fold_chars
  have grid : gridErrors " — list one value at minimum"
      cfg.fields.search.parameterGrid = [] :=
    gridErrors_eq_nil_congr checked.grid
  simp only [sweepRunSchema, SweepFields.errors, sweepFields, valid, grid,
    checked.search, contractSizeErrors_empty, List.nil_append, List.append_nil]
  simp [checked.balance]

theorem bind_of_ok {ε α β : Type} {result : Except ε α} {value : α}
    {next : α → Except ε β} (ok : result = .ok value) :
    (result >>= next) = next value := by
  rw [ok]
  rfl

/-- The run configuration of both ways. -/
theorem create_runFields (cfg : WalkForwardConfig ν) (strategyId : StrategyId)
    (window : Time × Time) {id : String} {sizes : Dict Symbol ℚ}
    (valid : idErrors id = []) (positive : contractSizeErrors sizes = []) :
    ∃ run : BacktestRunConfig,
      backtestRunSchema.create
        (runFields id strategyId cfg.feedList window cfg.fields sizes) =
        .ok run ∧
      run.fields =
        runFields id strategyId cfg.feedList window cfg.fields sizes ∧
      run.feedList = cfg.feedList :=
  ⟨_, Schema.create_of_accepted
    (runFields_accepted valid (checked_of_accepted cfg).balance positive)
    (coerceFeedList_explicit cfg.feeds_normalised), rfl, rfl⟩

theorem buildSweepCfg_eq (cfg : WalkForwardConfig ν)
    (fold : WalkForwardFold Time) :
    ∃ sweep, buildSweepCfg cfg fold = .ok sweep ∧
      sweep.fields = sweepFields cfg fold.index fold.inSample ∧
      sweep.feedList = cfg.feedList :=
  ⟨_, Schema.create_of_accepted (sweepFields_accepted cfg fold.index fold.inSample)
    (coerceFeedList_explicit cfg.feeds_normalised), rfl, rfl⟩

/-- What the in-sample path hands over: the run has no contract sizes. -/
theorem inSampleHandOver_eq (base : StrategyEntry (Dict String ν))
    (cfg : WalkForwardConfig ν) (fold : WalkForwardFold Time)
    (params : Dict String ν) (index : Nat) :
    ∃ handed, inSampleHandOver base cfg fold params index = .ok handed ∧
      handed.strategy = withParams base (base.id ++ "__sweep_" ++ toString index)
        (mergeParams base.params params) ∧
      handed.parquetRoot = cfg.fields.dataSource ∧
      handed.runCfg.feedList = cfg.feedList ∧
      handed.runCfg.fields = runFields
        (cfg.fields.id ++ "_fold_" ++ toString fold.index ++ "_cell_" ++
          toString index)
        (base.id ++ "__sweep_" ++ toString index) cfg.feedList fold.inSample
        cfg.fields .empty := by
  obtain ⟨sweep, built, sweepIs, feedsAre⟩ := buildSweepCfg_eq cfg fold
  have foldId := idErrors_numbered (n := fold.index) (checked_of_accepted cfg).id
    fold_chars
  obtain ⟨run, created, runIs, runFeeds⟩ := create_runFields cfg
    (base.id ++ "__sweep_" ++ toString index) fold.inSample
    (idErrors_numbered (n := index) foldId cell_chars) contractSizeErrors_empty
  refine ⟨⟨_, sweep.fields.dataSource, run⟩, ?_, rfl, ?_, runFeeds, runIs⟩
  · unfold inSampleHandOver
    rw [built]
    apply Eq.trans (bind_of_ok rfl)
    unfold runCell
    rw [sweepIs, feedsAre]
    exact bind_of_ok created
  · rw [sweepIs]
    rfl

/-- What the out-of-sample path hands over. -/
theorem evaluateOos_eq (base : StrategyEntry (Dict String ν))
    (cfg : WalkForwardConfig ν) (fold : WalkForwardFold Time)
    (params : Dict String ν) :
    ∃ handed, evaluateOos base cfg fold params = .ok handed ∧
      handed.strategy = withParams base
        (base.id ++ "__wf_" ++ cfg.fields.id ++ "_fold_" ++ toString fold.index)
        (mergeParams base.params params) ∧
      handed.parquetRoot = cfg.fields.dataSource ∧
      handed.runCfg.feedList = cfg.feedList ∧
      handed.runCfg.fields = runFields
        (cfg.fields.id ++ "_fold_" ++ toString fold.index ++ "_oos")
        (base.id ++ "__wf_" ++ cfg.fields.id ++ "_fold_" ++ toString fold.index)
        cfg.feedList fold.outOfSample cfg.fields
        cfg.fields.symbolContractSizes := by
  have checked := checked_of_accepted cfg
  have foldId := idErrors_numbered (n := fold.index) checked.id fold_chars
  obtain ⟨run, created, runIs, runFeeds⟩ := create_runFields cfg
    (base.id ++ "__wf_" ++ cfg.fields.id ++ "_fold_" ++ toString fold.index)
    fold.outOfSample (runId_append foldId oos_chars) checked.sizes
  refine ⟨⟨_, cfg.fields.dataSource, run⟩, ?_, rfl, rfl, runFeeds, runIs⟩
  unfold evaluateOos
  exact bind_of_ok created

/-- The backtester accepts what both ways hand over: the run names the strategy
it comes with. -/
theorem handOvers_match (base : StrategyEntry (Dict String ν))
    (cfg : WalkForwardConfig ν) (fold : WalkForwardFold Time)
    (params : Dict String ν) (index : Nat) :
    (∃ handed, inSampleHandOver base cfg fold params index = .ok handed ∧
      handed.Matches) ∧
    ∃ handed, evaluateOos base cfg fold params = .ok handed ∧ handed.Matches := by
  constructor
  · obtain ⟨handed, ran, strategy, _, _, fields⟩ :=
      inSampleHandOver_eq base cfg fold params index
    refine ⟨handed, ran, ?_⟩
    rw [HandOver.Matches, fields, strategy]
    rfl
  · obtain ⟨handed, ran, strategy, _, _, fields⟩ :=
      evaluateOos_eq base cfg fold params
    refine ⟨handed, ran, ?_⟩
    rw [HandOver.Matches, fields, strategy]
    rfl

/-! ### Parity -/

/-- A hand-over without the ids of the run and of the strategy. -/
def HandOver.sansIds (handed : HandOver ν) :
    StrategyEntry (Dict String ν) × String × RunFields × List Subscription :=
  ({ handed.strategy with id := "" }, handed.parquetRoot,
    { handed.runCfg.fields with id := "", strategyId := "" },
    handed.runCfg.feedList)

/-- The two ways agree apart from ids, and so do all metrics in which ids play no
part. -/
structure Parity (fit oos : HandOver ν) : Prop where
  same : fit.sansIds = oos.sansIds
  metrics : ∀ metricsOf : HandOver ν → Dict String ℚ,
    (∀ one two : HandOver ν, one.sansIds = two.sansIds →
      metricsOf one = metricsOf two) → metricsOf fit = metricsOf oos

theorem parity_iff_sansIds {fit oos : HandOver ν} :
    Parity fit oos ↔ fit.sansIds = oos.sansIds :=
  ⟨Parity.same, fun same => ⟨same, fun _ blind => blind _ _ same⟩⟩

/-- Runs built for the same window agree exactly in their contract sizes. -/
theorem runFields_sansIds {id other : String} {sid sid' : StrategyId}
    {feeds : List Subscription} {window : Time × Time}
    {cfg : WalkForwardFields ν} {sizes sizes' : Dict Symbol ℚ} :
    { runFields id sid feeds window cfg sizes with id := "", strategyId := "" } =
      { runFields other sid' feeds window cfg sizes' with
        id := "", strategyId := "" } ↔ sizes = sizes' := by
  simp [runFields]

/-- For every accepted walk-forward configuration, window and parameter
assignment, both ways hand a run to the backtester, and the two are in parity
exactly when the configuration leaves `symbol_contract_sizes` empty: the sweep
configuration is built without them. -/
theorem parity_iff_no_contract_sizes (base : StrategyEntry (Dict String ν))
    (cfg : WalkForwardConfig ν) (window : Time × Time)
    (fold other : WalkForwardFold Time) (params : Dict String ν) (index : Nat) :
    ∃ fit oos,
      inSampleHandOver base cfg { fold with inSample := window } params index =
        .ok fit ∧
      evaluateOos base cfg { other with outOfSample := window } params = .ok oos ∧
      (Parity fit oos ↔ cfg.fields.symbolContractSizes = .empty) := by
  obtain ⟨fit, fitRan, fitStrategy, fitRoot, fitFeeds, fitFields⟩ :=
    inSampleHandOver_eq base cfg { fold with inSample := window } params index
  obtain ⟨oos, oosRan, oosStrategy, oosRoot, oosFeeds, oosFields⟩ :=
    evaluateOos_eq base cfg { other with outOfSample := window } params
  refine ⟨fit, oos, fitRan, oosRan, ?_⟩
  rw [parity_iff_sansIds, HandOver.sansIds, HandOver.sansIds, fitStrategy,
    oosStrategy, fitRoot, oosRoot, fitFeeds, oosFeeds, fitFields, oosFields]
  simp only [Prod.mk.injEq, runFields_sansIds, withParams, true_and, and_true]
  exact eq_comm

/-- A walk-forward run over one feed that sets the contract size of its symbol. -/
def miniLotFields : WalkForwardFields Unit where
  id := "wf"
  strategyId := "s"
  feedShape := { symbol := some "EURUSD", timeframe := some .h1 }
  start := 0
  stop := Time.usPerDay
  symbolContractSizes := .set .empty "EURUSD" 1000
  dataSource := "data"
  search := { parameterGrid := .set .empty "fast" [()] }

theorem miniLotFields_accepted : miniLotFields.errors = [] := by
  simp [WalkForwardFields.errors, miniLotFields, idErrors_eq_nil, idChar, Dict.set,
    Dict.assign, Dict.empty, contractSizeErrors, gridErrors, SearchFields.errors]
  norm_num

def miniLotConfig : WalkForwardConfig Unit where
  fields := miniLotFields
  feedList := [⟨"EURUSD", .h1⟩]
  accepted := miniLotFields_accepted
  normalised := rfl

def baseStrategy : StrategyEntry (Dict String Unit) :=
  ⟨"s", "pkg.mod:Cls", true, "default", .empty⟩

def someFold : WalkForwardFold Time := ⟨0, (0, 0), (0, 0)⟩

/-- With a contract size of its own for the symbol, the sweep ranks parameters on
a hundred times the money per price step that the evaluation uses. -/
theorem parity_fails_with_contract_sizes :
    ∃ fit oos,
      inSampleHandOver baseStrategy miniLotConfig someFold .empty 1 = .ok fit ∧
      evaluateOos baseStrategy miniLotConfig someFold .empty = .ok oos ∧
      ¬ Parity fit oos ∧
      fit.runCfg.fields.symbolContractSizes.getD "EURUSD" 100000 = 100000 ∧
      oos.runCfg.fields.symbolContractSizes.getD "EURUSD" 100000 = 1000 := by
  obtain ⟨fit, fitRan, _, _, _, fitFields⟩ :=
    inSampleHandOver_eq baseStrategy miniLotConfig someFold .empty 1
  obtain ⟨oos, oosRan, _, _, _, oosFields⟩ :=
    evaluateOos_eq baseStrategy miniLotConfig someFold .empty
  have fitSize : fit.runCfg.fields.symbolContractSizes.getD "EURUSD" 100000 =
      100000 := by
    rw [fitFields]
    rfl
  have oosSize : oos.runCfg.fields.symbolContractSizes.getD "EURUSD" 100000 =
      1000 := by
    rw [oosFields]
    rfl
  refine ⟨fit, oos, fitRan, oosRan, ?_, fitSize, oosSize⟩
  intro parity
  have same : fit.runCfg.fields.symbolContractSizes =
      oos.runCfg.fields.symbolContractSizes :=
    congrArg (fun handed => handed.2.2.1.symbolContractSizes) parity.same
  rw [same, oosSize] at fitSize
  norm_num at fitSize

end WalkForward

end StingerFx
