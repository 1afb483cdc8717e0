/-
Module: StingerFx.Config.Backtest
Layer: Config
Purpose: The backtest section of the configuration: single runs, parameter sweeps
  and walk-forward runs. The three schemas share the feed shapes, which are
  normalised to one sorted list without repetitions, and the checks of their
  fields. A value of a schema carries the proof that its checks passed.
Trusted boundary: human-reviewed model of the source's configuration schemas
Main exports: FeedShape, coerceFeedList, FieldError, Schema, Schema.Model,
  Schema.create, BacktestRunConfig, SweepRunConfig, WalkForwardConfig,
  coerceFeedList_explicit, runId_append
-/
import StingerFx.Config.Models

namespace StingerFx

open Lib

namespace Config

/-! ### Feed shapes -/

/-- The value of the source's enumeration member. -/
def timeframeValue : Timeframe → String
  | .tick => "TICK"
  | .m1 => "M1"
  | .m2 => "M2"
  | .m3 => "M3"
  | .m5 => "M5"
  | .m10 => "M10"
  | .m15 => "M15"
  | .m30 => "M30"
  | .m45 => "M45"
  | .h1 => "H1"
  | .h2 => "H2"
  | .h4 => "H4"
  | .d1 => "D1"
  | .w1 => "W1"
  | .mn1 => "MN1"

/-- The three ways in which a configuration declares its feeds. -/
structure FeedShape where
  symbol : Option Symbol := none
  timeframe : Option Timeframe := none
  symbols : Option (List Symbol) := none
  timeframes : Option (List Timeframe) := none
  feeds : Option (List Subscription) := none
deriving DecidableEq

inductive FeedError where
  | pluralIncomplete
  | noShape
  | mixed (sources : List String)
deriving Repr, DecidableEq

def FeedError.text : FeedError → String
  | .pluralIncomplete =>
      "`symbols` and `timeframes` must both be supplied together"
  | .noShape =>
      "config must declare ONE of: `symbol`+`timeframe`, " ++
        "`symbols`+`timeframes`, or `feeds`"
  | .mixed sources =>
      "config mixes feed shapes [" ++
        ", ".intercalate (sources.map fun source => "'" ++ source ++ "'") ++
        "]; keep exactly one"

/-- `symbol` + `timeframe`. -/
def FeedShape.singular (shape : FeedShape) : Option (List Subscription) := do
  let symbol ← shape.symbol
  let timeframe ← shape.timeframe
  return [⟨symbol, timeframe⟩]

/-- `symbols` + `timeframes`, every symbol with every timeframe. An empty list
counts as missing. -/
def FeedShape.plural (shape : FeedShape) :
    Except FeedError (Option (List Subscription)) :=
  match shape.symbols.getD [], shape.timeframes.getD [] with
  | [], [] => .ok none
  | symbol :: symbols, timeframe :: timeframes =>
      .ok (some ((symbol :: symbols).flatMap fun s =>
        (timeframe :: timeframes).map fun tf => ⟨s, tf⟩))
  | _, _ => .error .pluralIncomplete

/-- `feeds`; an empty list counts as missing. -/
def FeedShape.explicit (shape : FeedShape) : Option (List Subscription) :=
  match shape.feeds.getD [] with
  | [] => none
  | feed :: feeds => some (feed :: feeds)

/-- `(f.symbol, f.timeframe.value)`, ordered by its first component first. -/
abbrev FeedKey := String ×ₗ String

def feedKey (feed : Subscription) : FeedKey :=
  toLex (feed.symbol, timeframeValue feed.timeframe)

/-- The first feed of every key that is not among the `seen`. -/
def dedupeFeeds (seen : List FeedKey) : List Subscription → List Subscription
  | [] => []
  | feed :: feeds =>
      if feedKey feed ∈ seen then dedupeFeeds seen feeds
      else feed :: dedupeFeeds (feedKey feed :: seen) feeds

def sortFeeds (feeds : List Subscription) : List Subscription :=
  feeds.insertionSort fun a b => feedKey a ≤ feedKey b

/-- `_coerce_feed_list`: exactly one shape, sorted, without repetitions. -/
def coerceFeedList (shape : FeedShape) :
    Except FeedError (List Subscription) :=
  match shape.plural with
  | .error error => .error error
  | .ok plural =>
      let sources :=
        [("singular", shape.singular), ("plural", plural),
          ("feeds", shape.explicit)].filterMap fun source =>
            source.2.map fun feeds => (source.1, feeds)
      match sources with
      | [] => .error .noShape
      | [(_, out)] => .ok (dedupeFeeds [] (sortFeeds out))
      | _ => .error (.mixed (sources.map Prod.fst))

theorem dedupeFeeds_sublist (seen : List FeedKey) (feeds : List Subscription) :
    (dedupeFeeds seen feeds).Sublist feeds := by
  induction feeds generalizing seen with
  | nil => exact .slnil
  | cons feed feeds ih =>
      unfold dedupeFeeds
      split
      · exact (ih seen).cons feed
      · exact (ih (feedKey feed :: seen)).cons_cons feed

theorem feedKey_of_dedupeFeeds {seen : List FeedKey}
    {feeds : List Subscription} :
    ∀ feed ∈ dedupeFeeds seen feeds, feedKey feed ∉ seen := by
  induction feeds generalizing seen with
  | nil => simp [dedupeFeeds]
  | cons feed feeds ih =>
      unfold dedupeFeeds
      split
      · exact ih
      · rename_i fresh
        intro other member
        rcases List.mem_cons.mp member with rfl | later
        · exact fresh
        · exact fun known => ih other later (List.mem_cons_of_mem _ known)

theorem dedupeFeeds_nodup (seen : List FeedKey) (feeds : List Subscription) :
    ((dedupeFeeds seen feeds).map feedKey).Nodup := by
  induction feeds generalizing seen with
  | nil => exact List.nodup_nil
  | cons feed feeds ih =>
      unfold dedupeFeeds
      split
      · exact ih seen
      · apply List.nodup_cons.mpr
        refine ⟨?_, ih _⟩
        intro repeated
        obtain ⟨other, member, same⟩ := List.mem_map.mp repeated
        exact feedKey_of_dedupeFeeds other member (same ▸ List.mem_cons_self)

/-- Nothing is dropped from a list whose keys differ and are all new. -/
theorem dedupeFeeds_of_nodup {seen : List FeedKey} {feeds : List Subscription}
    (distinct : (feeds.map feedKey).Nodup)
    (fresh : ∀ feed ∈ feeds, feedKey feed ∉ seen) :
    dedupeFeeds seen feeds = feeds := by
  induction feeds generalizing seen with
  | nil => rfl
  | cons feed feeds ih =>
      obtain ⟨alone, distinct⟩ := List.nodup_cons.mp distinct
      unfold dedupeFeeds
      rw [if_neg (fresh feed List.mem_cons_self)]
      congr 1
      apply ih distinct
      intro other member known
      rcases List.mem_cons.mp known with same | known
      · exact alone (same ▸ List.mem_map_of_mem member)
      · exact fresh other (List.mem_cons_of_mem _ member) known

/-- A normalised list: what `coerceFeedList` returns. -/
structure Normalised (feeds : List Subscription) : Prop where
  nonempty : feeds ≠ []
  sorted : feeds.Pairwise fun a b => feedKey a ≤ feedKey b
  distinct : (feeds.map feedKey).Nodup

theorem normalised_dedupe_sort {feeds : List Subscription}
    (nonempty : feeds ≠ []) : Normalised (dedupeFeeds [] (sortFeeds feeds)) where
  nonempty := by
    have first : sortFeeds feeds ≠ [] := fun none =>
      nonempty (List.length_eq_zero_iff.mp (by
        have sameLength := List.length_insertionSort
          (fun a b : Subscription => feedKey a ≤ feedKey b) feeds
        unfold sortFeeds at none
        rw [none] at sameLength
        exact sameLength.symm))
    obtain ⟨feed, rest, shape⟩ := List.exists_cons_of_ne_nil first
    rw [shape]
    simp [dedupeFeeds]
  sorted := by
    have total : Std.Total fun a b : Subscription => feedKey a ≤ feedKey b :=
      ⟨fun a b => le_total (feedKey a) (feedKey b)⟩
    have transitive : IsTrans Subscription fun a b => feedKey a ≤ feedKey b :=
      ⟨fun _ _ _ => le_trans⟩
    exact (List.pairwise_insertionSort _ feeds).sublist
      (dedupeFeeds_sublist [] (sortFeeds feeds))
  distinct := dedupeFeeds_nodup [] (sortFeeds feeds)

theorem FeedShape.plural_nonempty {shape : FeedShape}
    {feeds : List Subscription} (given : shape.plural = .ok (some feeds)) :
    feeds ≠ [] := by
  unfold FeedShape.plural at given
  split at given
  · cases given
  · cases given
    simp
  · cases given

theorem FeedShape.singular_nonempty {shape : FeedShape}
    {feeds : List Subscription} (given : shape.singular = some feeds) :
    feeds ≠ [] := by
  cases symbolGiven : shape.symbol <;> cases timeframeGiven : shape.timeframe <;>
    simp [FeedShape.singular, symbolGiven, timeframeGiven] at given
  simp [← given]

theorem FeedShape.explicit_nonempty {shape : FeedShape}
    {feeds : List Subscription} (given : shape.explicit = some feeds) :
    feeds ≠ [] := by
  unfold FeedShape.explicit at given
  split at given
  · cases given
  · cases given
    simp

theorem normalised_of_coerceFeedList {shape : FeedShape}
    {feeds : List Subscription} (accepted : coerceFeedList shape = .ok feeds) :
    Normalised feeds := by
  unfold coerceFeedList at accepted
  cases pluralShape : shape.plural with
  | error error => simp [pluralShape] at accepted
  | ok plural =>
      cases singularShape : shape.singular <;> cases plural <;>
        cases explicitShape : shape.explicit <;>
        simp [pluralShape, singularShape, explicitShape] at accepted
      · subst accepted
        exact normalised_dedupe_sort (FeedShape.explicit_nonempty explicitShape)
      · subst accepted
        exact normalised_dedupe_sort (FeedShape.plural_nonempty pluralShape)
      · subst accepted
        exact normalised_dedupe_sort (FeedShape.singular_nonempty singularShape)

/-- Handing a normalised list on as `feeds` gives the same list again. -/
theorem coerceFeedList_explicit {feeds : List Subscription}
    (normal : Normalised feeds) :
    coerceFeedList { feeds := some feeds } = .ok feeds := by
  obtain ⟨feed, rest, rfl⟩ := List.exists_cons_of_ne_nil normal.nonempty
  have sorted : sortFeeds (feed :: rest) = feed :: rest :=
    List.Pairwise.insertionSort_eq normal.sorted
  have distinct : dedupeFeeds [] (feed :: rest) = feed :: rest :=
    dedupeFeeds_of_nodup normal.distinct fun _ _ known => by cases known
  simp [coerceFeedList, FeedShape.plural, FeedShape.singular,
    FeedShape.explicit, sorted, distinct]

/-! ### Field checks -/

structure FieldError where
  loc : String
  msg : String
deriving Repr, DecidableEq

/-- One check of a field. -/
def require (loc msg : String) (passes : Prop) [Decidable passes] :
    List FieldError :=
  if passes then [] else [⟨loc, msg⟩]

@[simp] theorem require_eq_nil {loc msg : String} {passes : Prop}
    [Decidable passes] : require loc msg passes = [] ↔ passes := by
  by_cases holds : passes <;> simp [require, holds]

/-- `[A-Za-z0-9_-]`. -/
def idChar (c : Char) : Bool :=
  c.isAlpha || c.isDigit || c == '_' || c == '-'

/-- `Field(min_length=1, pattern=r"^[A-Za-z0-9_-]+$")`. -/
def idErrors (id : String) : List FieldError :=
  if id.toList = [] then [⟨"id", "String should have at least 1 character"⟩]
  else require "id" "String should match pattern '^[A-Za-z0-9_-]+$'"
    (∀ c ∈ id.toList, idChar c = true)

theorem idErrors_eq_nil {id : String} :
    idErrors id = [] ↔ id.toList ≠ [] ∧ ∀ c ∈ id.toList, idChar c = true := by
  unfold idErrors
  split
  · rename_i empty
    simp [empty]
  · rename_i some
    rw [require_eq_nil]
    exact ⟨fun all => ⟨some, all⟩, fun both => both.2⟩

/-- An accepted id stays one when characters of ids are appended. -/
theorem runId_append {id suffix : String} (valid : idErrors id = [])
    (chars : ∀ c ∈ suffix.toList, idChar c = true) :
    idErrors (id ++ suffix) = [] := by
  obtain ⟨some, all⟩ := idErrors_eq_nil.mp valid
  apply idErrors_eq_nil.mpr
  rw [String.toList_append]
  constructor
  · exact fun none => some (List.append_eq_nil_iff.mp none).1
  · intro c member
    rcases List.mem_append.mp member with inId | inSuffix
    · exact all c inId
    · exact chars c inSuffix

theorem idChar_of_number {n : Nat} :
    ∀ c ∈ (toString n).toList, idChar c = true := by
  intro c member
  have digits : (toString n).toList = Nat.toDigits 10 n := by
    simp [toString, Nat.repr]
  rw [digits] at member
  have digit := Nat.isDigit_of_mem_toDigits (by decide) (by decide) member
  simp [idChar, digit]

/-- `_validate_symbol_contract_sizes`: the first size that is not positive. -/
def contractSizeErrors (sizes : Dict Symbol ℚ) : List FieldError :=
  match sizes.items.find? fun item => decide (item.2 ≤ 0) with
  | none => []
  | some (symbol, _) =>
      [⟨"symbol_contract_sizes", "Value error, symbol_contract_sizes['" ++
        symbol ++ "'] must be > 0"⟩]

/-- `_grid_nonempty`; the schemas word the complaint about a parameter without
values differently. -/
def gridErrors {ν : Type} (hint : String) (grid : Dict String (List ν)) :
    List FieldError :=
  match grid.items with
  | [] => [⟨"parameter_grid",
      "Value error, parameter_grid must declare at least one parameter"⟩]
  | items =>
      match items.find? fun item => item.2.isEmpty with
      | none => []
      | some (name, _) =>
          [⟨"parameter_grid", "Value error, parameter_grid['" ++ name ++
            "'] is empty" ++ hint⟩]

@[simp] theorem contractSizeErrors_empty :
    contractSizeErrors (.empty : Dict Symbol ℚ) = [] := rfl

/-- Whether a grid passes does not depend on the wording. -/
theorem gridErrors_eq_nil_congr {ν : Type} {grid : Dict String (List ν)}
    {hint other : String} (passes : gridErrors hint grid = []) :
    gridErrors other grid = [] := by
  unfold gridErrors at passes ⊢
  split at passes
  · cases passes
  · split at passes
    · simp
    · cases passes

def greaterThanZero : String := "Input should be greater than 0"

def atLeast (bound : Nat) : String :=
  "Input should be greater than or equal to " ++ toString bound

/-! ### Schemas -/

/-- A schema: the checks of the fields, and the feeds they declare. -/
structure Schema (F : Type) where
  errors : F → List FieldError
  shape : F → FeedShape

/-- An accepted value. `symbol` and `timeframe` of the source are those of the
first feed once it is accepted. -/
structure Schema.Model {F : Type} (schema : Schema F) where
  fields : F
  feedList : List Subscription
  accepted : schema.errors fields = []
  normalised : coerceFeedList (schema.shape fields) = .ok feedList

inductive ValidationError where
  | fields (errors : List FieldError)
  | feeds (error : FeedError)
deriving Repr, DecidableEq

/-- Build a value: the field checks, then the model validator. -/
def Schema.create {F : Type} (schema : Schema F) (fields : F) :
    Except ValidationError schema.Model :=
  if accepted : schema.errors fields = [] then
    match normalised : coerceFeedList (schema.shape fields) with
    | .ok feedList => .ok ⟨fields, feedList, accepted, normalised⟩
    | .error error => .error (.feeds error)
  else .error (.fields (schema.errors fields))

theorem Schema.create_of_accepted {F : Type} {schema : Schema F} {fields : F}
    {feedList : List Subscription} (accepted : schema.errors fields = [])
    (normalised : coerceFeedList (schema.shape fields) = .ok feedList) :
    schema.create fields = .ok ⟨fields, feedList, accepted, normalised⟩ := by
  unfold Schema.create
  rw [dif_pos accepted]
  split
  · rename_i found foundEq
    rw [normalised] at foundEq
    cases foundEq
    rfl
  · rename_i error failed
    rw [normalised] at failed
    cases failed

theorem Schema.Model.feeds_normalised {F : Type} {schema : Schema F}
    (model : schema.Model) : Normalised model.feedList :=
  normalised_of_coerceFeedList model.normalised

inductive BacktestMode where
  | file
  | mt5Tester
  | mt4Tester
deriving Repr, DecidableEq

inductive SlippageKind where
  | fixed
  | spread
  | volatility
deriving Repr, DecidableEq

inductive Granularity where
  | bar
  | tick
deriving Repr, DecidableEq

inductive SearchAlgo where
  | grid
  | optuna
  | random
  | genetic
deriving Repr, DecidableEq

inductive FoldScheme where
  | rolling
  | expanding
deriving Repr, DecidableEq

/-- The fields of a single run, with the defaults of the schema. -/
structure RunFields where
  id : String
  mode : BacktestMode := .file
  strategyId : StrategyId
  feedShape : FeedShape
  start : Time
  stop : Time
  initialBalance : ℚ := 10000
  symbolContractSizes : Dict Symbol ℚ := .empty
  dataSource : Option String := none
  slippagePips : ℚ := 0
  slippageModel : SlippageKind := .fixed
  slippageVolatilityFactor : ℚ := 1 / 4
  commissionPerLot : ℚ := 0
  swapLongPerLot : ℚ := 0
  swapShortPerLot : ℚ := 0
  swapRolloverHourUtc : Int := 21
  granularity : Granularity := .bar
  speed : ℚ := 0

def RunFields.errors (f : RunFields) : List FieldError :=
  idErrors f.id ++
  require "initial_balance" greaterThanZero (0 < f.initialBalance) ++
  contractSizeErrors f.symbolContractSizes ++
  require "slippage_pips" (atLeast 0) (0 ≤ f.slippagePips) ++
  require "slippage_volatility_factor" greaterThanZero
    (0 < f.slippageVolatilityFactor) ++
  require "commission_per_lot" (atLeast 0) (0 ≤ f.commissionPerLot) ++
  (if f.swapRolloverHourUtc < 0 then [⟨"swap_rollover_hour_utc", atLeast 0⟩]
    else require "swap_rollover_hour_utc"
      "Input should be less than or equal to 23" (f.swapRolloverHourUtc ≤ 23)) ++
  require "speed" (atLeast 0) (0 ≤ f.speed)

def backtestRunSchema : Schema RunFields := ⟨RunFields.errors, RunFields.feedShape⟩

/-- `BacktestRunConfig`. -/
abbrev BacktestRunConfig := backtestRunSchema.Model

/-- What sweeps and walk-forward runs share: how parameters are searched. -/
structure SearchFields (ν : Type) where
  parameterGrid : Dict String (List ν)
  rankBy : String := "net_pnl"
  algo : SearchAlgo := .grid
  nTrials : Int := 100
  randomSeed : Option Int := none
  populationSize : Int := 20
  generations : Int := 10
  eliteSize : Int := 2
  mutationRate : ℚ := 1 / 10

def SearchFields.errors {ν : Type} (f : SearchFields ν) : List FieldError :=
  require "n_trials" (atLeast 1) (1 ≤ f.nTrials) ++
  require "population_size" (atLeast 2) (2 ≤ f.populationSize) ++
  require "generations" (atLeast 1) (1 ≤ f.generations) ++
  require "elite_size" (atLeast 0) (0 ≤ f.eliteSize) ++
  (if f.mutationRate < 0 then [⟨"mutation_rate", atLeast 0⟩]
    else require "mutation_rate" "Input should be less than or equal to 1"
      (f.mutationRate ≤ 1))

structure SweepFields (ν : Type) where
  id : String
  strategyId : StrategyId
  feedShape : FeedShape
  start : Time
  stop : Time
  initialBalance : ℚ := 10000
  symbolContractSizes : Dict Symbol ℚ := .empty
  slippagePips : ℚ := 0
  slippageModel : SlippageKind := .fixed
  slippageVolatilityFactor : ℚ := 1 / 4
  dataSource : String
  search : SearchFields ν
  topN : Int := 10
  granularity : Granularity := .bar
  objectives : Option (List (Dict String String)) := none
  customMetrics : Dict String String := .empty

def SweepFields.errors {ν : Type} (f : SweepFields ν) : List FieldError :=
  idErrors f.id ++
  require "initial_balance" greaterThanZero (0 < f.initialBalance) ++
  contractSizeErrors f.symbolContractSizes ++
  require "slippage_pips" (atLeast 0) (0 ≤ f.slippagePips) ++
  require "slippage_volatility_factor" greaterThanZero
    (0 < f.slippageVolatilityFactor) ++
  gridErrors " — list one value at minimum" f.search.parameterGrid ++
  (if f.topN < 1 then [⟨"top_n", atLeast 1⟩]
    else require "top_n" "Input should be less than or equal to 1000"
      (f.topN ≤ 1000)) ++
  f.search.errors

def sweepRunSchema (ν : Type) : Schema (SweepFields ν) :=
  ⟨SweepFields.errors, SweepFields.feedShape⟩

/-- `SweepRunConfig`. -/
abbrev SweepRunConfig (ν : Type) := (sweepRunSchema ν).Model

structure WalkForwardFields (ν : Type) where
  id : String
  strategyId : StrategyId
  feedShape : FeedShape
  start : Time
  stop : Time
  initialBalance : ℚ := 10000
  symbolContractSizes : Dict Symbol ℚ := .empty
  dataSource : String
  nFolds : Int := 5
  inSamplePct : ℚ := 7 / 10
  scheme : FoldScheme := .rolling
  search : SearchFields ν

def WalkForwardFields.errors {ν : Type} (f : WalkForwardFields ν) :
    List FieldError :=
  idErrors f.id ++
  require "initial_balance" greaterThanZero (0 < f.initialBalance) ++
  contractSizeErrors f.symbolContractSizes ++
  require "n_folds" (atLeast 2) (2 ≤ f.nFolds) ++
  (if f.inSamplePct ≤ 0 then [⟨"in_sample_pct", greaterThanZero⟩]
    else require "in_sample_pct" "Input should be less than 1"
      (f.inSamplePct < 1)) ++
  gridErrors "" f.search.parameterGrid ++
  f.search.errors

def walkForwardSchema (ν : Type) : Schema (WalkForwardFields ν) :=
  ⟨WalkForwardFields.errors, WalkForwardFields.feedShape⟩

/-- `WalkForwardConfig`. -/
abbrev WalkForwardConfig (ν : Type) := (walkForwardSchema ν).Model

end Config

end StingerFx
