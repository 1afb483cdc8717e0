/-
Module: StingerFx.Backtest.GeneticSearch
Layer: Backtest
Purpose: The genetic search of a sweep. Individuals are suggested one after the other and
  their scores kept; when a population has been suggested, the next suggestion breeds
  another one, with the best of it unchanged and the children of tournaments.
Trusted boundary: human-reviewed model of the source's genetic search; the random
  generator and the text of a list of parameters are parameters
Main exports: Rng, ParameterGrid, Individual, GeneticArgs, GeneticError, GeneticSearch,
  GeneticSearch.create, Population, GeneticState, GeneticSearch.advanceGeneration,
  GeneticSearch.suggest, GeneticSearch.report, GeneticSearch.strategy
-/
import StingerFx.Backtest.Sweep
import StingerFx.Lib.Visits

namespace StingerFx

open Lib

/-! ### Random numbers -/

/-- `random.Random`. What its methods return is open within what they promise. -/
structure Rng (ρ : Type) where
  /-- the position that `choice` takes among so many -/
  choice : (n : ℕ) → 0 < n → ρ → Fin n × ρ
  /-- the positions that `sample` takes among so many, none twice -/
  sample : (n k : ℕ) → k ≤ n → ρ →
    {picked : List (Fin n) // picked.Nodup ∧ picked.length = k} × ρ
  /-- a number of the interval from 0 to 1, without 1 -/
  random : ρ → {q : ℚ // 0 ≤ q ∧ q < 1} × ρ

/-- A generator that always takes what comes first. -/
def firstOnes : Rng Unit where
  choice n pos _ := (⟨0, pos⟩, ())
  sample n k few _ :=
    (⟨(List.finRange k).map (Fin.castLE few),
      (List.nodup_finRange k).map (Fin.castLE_injective few),
      by rw [List.length_map, List.length_finRange]⟩, ())
  random _ := (⟨0, le_rfl, zero_lt_one⟩, ())

section Rng

variable {ρ : Type} (rng : Rng ρ) {α : Type}

/-- `choice(values)`. -/
def Rng.choose (values : List α) (some : values ≠ []) (r : ρ) : α × ρ :=
  let drawn := rng.choice values.length (List.length_pos_iff.mpr some) r
  (values.get drawn.1, drawn.2)

/-- `sample(values, min(k, len(values)))`. -/
def Rng.draw (values : List α) (k : ℕ) (r : ρ) : List α × ρ :=
  let drawn := rng.sample values.length (min k values.length) (min_le_right _ _) r
  (drawn.1.1.map values.get, drawn.2)

theorem Rng.choose_mem (values : List α) (some : values ≠ []) (r : ρ) :
    (rng.choose values some r).1 ∈ values := List.get_mem _ _

theorem Rng.mem_of_draw {values : List α} {k : ℕ} {r : ρ} {value : α}
    (drawn : value ∈ (rng.draw values k r).1) : value ∈ values := by
  obtain ⟨i, -, rfl⟩ := List.mem_map.mp drawn
  exact List.get_mem _ _

theorem Rng.draw_ne_nil {values : List α} (some : values ≠ []) {k : ℕ} (pos : 0 < k)
    (r : ρ) : (rng.draw values k r).1 ≠ [] := by
  intro none
  have length : (rng.draw values k r).1.length = min k values.length :=
    (List.length_map _).trans (rng.sample _ _ _ r).1.2.2
  rw [none, List.length_nil] at length
  have := List.length_pos_iff.mpr some
  omega

end Rng

/-! ### Grids and individuals -/

/-- The values to try for every parameter. -/
structure ParameterGrid (V : Type) where
  axes : Dict String (List V)
  nonempty : axes.items ≠ []
  valued : ∀ axis ∈ axes.items, axis.2 ≠ []

namespace ParameterGrid

variable {V : Type} (grid : ParameterGrid V)

def names : List String := grid.axes.keys

/-- A parameter of the grid with its values. -/
abbrev Axis := {axis : String × List V // axis ∈ grid.axes.items}

/-- Parameters with the names of the grid and values from it. -/
def Holds (params : Dict String V) : Prop :=
  params.keys = grid.names ∧
    ∀ axis ∈ grid.axes.items, ∃ value ∈ axis.2, params.get? axis.1 = some value

end ParameterGrid

/-- A value for every parameter. -/
structure Individual {V : Type} (grid : ParameterGrid V) where
  params : Dict String V
  named : params.keys = grid.names

namespace Individual

variable {V ρ : Type} {grid : ParameterGrid V}

theorem isSome_gene (individual : Individual grid) (axis : grid.Axis) :
    (individual.params.get? axis.1.1).isSome = true := by
  rw [Dict.get?_isSome_iff, individual.named]
  exact List.mem_map_of_mem axis.2

/-- `individual[name]`. -/
def gene (individual : Individual grid) (axis : grid.Axis) : V :=
  (individual.params.get? axis.1.1).get (individual.isSome_gene axis)

/-- The parameters in the order of the grid, with a value for each of them. -/
def pairs (grid : ParameterGrid V) (pick : grid.Axis → ρ → V × ρ) (r : ρ) :
    List (String × V) × ρ :=
  threaded (fun axis r => ((axis.1.1, (pick axis r).1), (pick axis r).2))
    grid.axes.items.attach r

theorem names_pairs (pick : grid.Axis → ρ → V × ρ) (r : ρ) :
    (pairs grid pick r).1.map Prod.fst = grid.names := by
  have own (axis : grid.Axis) (r : ρ) : Prod.fst (axis.1.1, (pick axis r).1) =
      (fun axis : grid.Axis => axis.1.1) axis := rfl
  exact (map_threaded (fun axis _ r => own axis r) r).trans List.attach_map_val

/-- `{name: ... for name in grid}`. -/
def tabulate (grid : ParameterGrid V) (pick : grid.Axis → ρ → V × ρ) (r : ρ) :
    Individual grid × ρ :=
  let picked := pairs grid pick r
  (⟨⟨picked.1, by
      rw [names_pairs]
      exact grid.axes.nodup⟩, names_pairs pick r⟩, picked.2)

end Individual

/-! ### Configurations -/

/-- The arguments of a search, as given. -/
structure GeneticArgs (V : Type) where
  parameterGrid : Dict String (List V)
  populationSize : Int := 20
  generations : Int := 10
  eliteSize : Int := 2
  mutationRate : ℚ := 1 / 10
  tournamentSize : Int := 3

inductive GeneticError where
  | populationSize (got : Int)
  | generations (got : Int)
  | eliteSize (got : Int)
  | mutationRate (got : ℚ)
  | emptyGrid
  | noValues (name : String)
deriving Repr, DecidableEq

/-- The text of a refusal, given the renderings of floats and of quoted names. -/
def GeneticError.text (float : ℚ → String) (quoted : String → String) :
    GeneticError → String
  | .populationSize got => "population_size must be > 0, got " ++ toString got
  | .generations got => "generations must be > 0, got " ++ toString got
  | .eliteSize got => "elite_size must be in [0, population_size), got " ++ toString got
  | .mutationRate got => "mutation_rate must be in [0, 1], got " ++ float got
  | .emptyGrid => "parameter_grid must be non-empty"
  | .noValues name =>
      "parameter_grid[" ++ quoted name ++ "] must have at least one value"

/-- An accepted search: what its constructor keeps for good. -/
structure GeneticSearch (V : Type) where
  grid : ParameterGrid V
  popSize : ℕ
  generations : ℕ
  eliteSize : ℕ
  mutationRate : ℚ
  tournamentSize : ℕ
  popSize_pos : 0 < popSize
  generations_pos : 0 < generations
  elite_lt : eliteSize < popSize
  rate_bounds : 0 ≤ mutationRate ∧ mutationRate ≤ 1
  two_le_tournament : 2 ≤ tournamentSize

namespace GeneticSearch

variable {V : Type}

/-- `GeneticSearch(...)`, up to the first population. -/
def create (args : GeneticArgs V) : Except GeneticError (GeneticSearch V) :=
  if population : args.populationSize ≤ 0 then .error (.populationSize args.populationSize)
  else if generations : args.generations ≤ 0 then .error (.generations args.generations)
  else if elite : ¬ (0 ≤ args.eliteSize ∧ args.eliteSize < args.populationSize) then
    .error (.eliteSize args.eliteSize)
  else if rate : ¬ (0 ≤ args.mutationRate ∧ args.mutationRate ≤ 1) then
    .error (.mutationRate args.mutationRate)
  else if empty : args.parameterGrid.items = [] then .error .emptyGrid
  else
    match valued : args.parameterGrid.items.find? fun axis => axis.2.isEmpty with
    | some axis => .error (.noValues axis.1)
    | none =>
        .ok
          { grid := ⟨args.parameterGrid, empty, fun axis member none => by
              have := List.find?_eq_none.mp valued axis member
              simp [none] at this⟩
            popSize := args.populationSize.toNat
            generations := args.generations.toNat
            eliteSize := args.eliteSize.toNat
            mutationRate := args.mutationRate
            tournamentSize := (max 2 (min args.tournamentSize args.populationSize)).toNat
            popSize_pos := by omega
            generations_pos := by omega
            elite_lt := by omega
            rate_bounds := not_not.mp rate
            two_le_tournament := by omega }

/-- Which arguments are accepted. -/
theorem exists_create_iff (args : GeneticArgs V) :
    (∃ search, create args = .ok search) ↔
      0 < args.populationSize ∧ 0 < args.generations ∧
        (0 ≤ args.eliteSize ∧ args.eliteSize < args.populationSize) ∧
        (0 ≤ args.mutationRate ∧ args.mutationRate ≤ 1) ∧ args.parameterGrid.items ≠ [] ∧
        ∀ axis ∈ args.parameterGrid.items, axis.2 ≠ [] := by
  unfold create
  constructor
  · rintro ⟨search, created⟩
    split_ifs at created with population generations elite rate empty
    split at created
    · cases created
    · rename_i valued
      refine ⟨not_le.mp population, not_le.mp generations, elite, rate, empty,
        fun axis member none => ?_⟩
      have := List.find?_eq_none.mp valued axis member
      simp [none] at this
  · rintro ⟨population, generations, elite, rate, some, valued⟩
    rw [dif_neg (not_le.mpr population), dif_neg (not_le.mpr generations),
      dif_neg (not_not.mpr elite), dif_neg (not_not.mpr rate), dif_neg some]
    split
    · rename_i axis found
      have empty := List.find?_some found
      exact absurd (List.isEmpty_iff.mp empty) (valued axis (List.mem_of_find?_eq_some found))
    · exact ⟨_, rfl⟩

end GeneticSearch

/-! ### State -/

/-- As many individuals as a population has. -/
structure Population {V : Type} (search : GeneticSearch V) where
  members : List (Individual search.grid)
  size : members.length = search.popSize

structure GeneticState {V : Type} (search : GeneticSearch V) (ρ : Type) where
  rng : ρ
  currentGen : ℕ
  currentPop : Population search
  suggestedInGen : ℕ
  scores : Dict String ℚ

/-- An individual with its score; the score of one that has none is the least. -/
abbrev Scored {V : Type} (grid : ParameterGrid V) := WithBot ℚ × Individual grid

/-- `max(contestants, key=...)`: the first of the best. -/
def fittest {α : Type} : (contestants : List (WithBot ℚ × α)) → contestants ≠ [] →
    WithBot ℚ × α
  | first :: rest, _ =>
      rest.foldl (fun best other => if best.1 < other.1 then other else best) first

theorem fittest_mem {α : Type} {contestants : List (WithBot ℚ × α)}
    (some : contestants ≠ []) : fittest contestants some ∈ contestants := by
  match contestants, some with
  | first :: rest, _ =>
      have kept : ∀ (rest : List (WithBot ℚ × α)) (first : WithBot ℚ × α),
          rest.foldl (fun best other => if best.1 < other.1 then other else best) first ∈
            first :: rest := by
        intro rest
        induction rest with
        | nil => exact fun first => List.mem_cons_self
        | cons second rest ih =>
            intro first
            rw [List.foldl_cons]
            split
            · exact List.mem_cons_of_mem _ (ih second)
            · rcases List.mem_cons.mp (ih first) with same | later
              · rw [same]
                exact List.mem_cons_self
              · exact List.mem_cons_of_mem _ (List.mem_cons_of_mem _ later)
      exact kept rest first

namespace GeneticSearch

variable {V ρ : Type} (search : GeneticSearch V) (rng : Rng ρ)

/-! ### Genetic operators -/

theorem valued (axis : search.grid.Axis) : axis.1.2 ≠ [] :=
  search.grid.valued axis.1 axis.2

/-- `_random_individual`. -/
def randomIndividual (r : ρ) : Individual search.grid × ρ :=
  Individual.tabulate search.grid (fun axis => rng.choose axis.1.2 (search.valued axis)) r

/-- `_initial_population`. -/
def initialPopulation (r : ρ) : Population search × ρ :=
  let filled := threaded (fun _ => search.randomIndividual rng) (List.range search.popSize) r
  (⟨filled.1, by simp [filled]⟩, filled.2)

/-- `_tournament`. -/
def tournament (scored : List (Scored search.grid)) (some : scored ≠ []) (r : ρ) :
    Individual search.grid × ρ :=
  let drawn := rng.draw scored search.tournamentSize r
  ((fittest drawn.1 (rng.draw_ne_nil some (by have := search.two_le_tournament; omega) r)).2,
    drawn.2)

/-- `_crossover`: every gene from either parent. -/
def crossover (parentA parentB : Individual search.grid) (r : ρ) :
    Individual search.grid × ρ :=
  Individual.tabulate search.grid (fun axis r =>
    let coin := rng.random r
    (if coin.1.1 < 1 / 2 then parentA.gene axis else parentB.gene axis, coin.2)) r

/-- `_mutate`: every gene is drawn anew at the mutation rate. -/
def mutate (individual : Individual search.grid) (r : ρ) : Individual search.grid × ρ :=
  Individual.tabulate search.grid (fun axis r =>
    let coin := rng.random r
    if coin.1.1 < search.mutationRate then rng.choose axis.1.2 (search.valued axis) coin.2
    else (individual.gene axis, coin.2)) r

/-- A child of two tournaments. -/
def child (scored : List (Scored search.grid)) (some : scored ≠ []) (r : ρ) :
    Individual search.grid × ρ :=
  let p1 := search.tournament rng scored some r
  let p2 := search.tournament rng scored some p1.2
  let crossed := search.crossover rng p1.1 p2.1 p2.2
  search.mutate rng crossed.1 crossed.2

/-! ### Generations -/

variable (repr : List (String × V) → String)

/-- `_key`. -/
def key (params : Dict String V) : String := repr (sortBy Prod.fst params.items)

variable {search}

/-- The score that an individual was reported with. -/
def scoreOf (scores : Dict String ℚ) (individual : Individual search.grid) : WithBot ℚ :=
  match scores.get? (key repr individual.params) with
  | some score => score
  | none => ⊥

/-- The population by score, best first. -/
def ranking (scores : Dict String ℚ) (population : Population search) :
    List (Scored search.grid) :=
  sortBy (fun t => OrderDual.toDual t.1)
    (population.members.map fun ind => (scoreOf repr scores ind, ind))

theorem ranking_length (scores : Dict String ℚ) (population : Population search) :
    (ranking repr scores population).length = search.popSize := by
  rw [ranking, (sortBy_perm _).length_eq, List.length_map, population.size]

theorem ranking_ne_nil (scores : Dict String ℚ) (population : Population search) :
    ranking repr scores population ≠ [] := by
  rw [← List.length_pos_iff, ranking_length]
  exact search.popSize_pos

/-- The next population: the elite unchanged, then children. -/
def breed (scores : Dict String ℚ) (population : Population search) (r : ρ) :
    Population search × ρ :=
  let scored := ranking repr scores population
  let elite := (scored.take search.eliteSize).map Prod.snd
  let bred := threaded
    (fun _ => search.child rng scored (ranking_ne_nil repr scores population))
    (List.range (search.popSize - elite.length)) r
  (⟨elite ++ bred.1, by
      have := search.elite_lt
      have := ranking_length repr scores population
      simp [bred, elite, scored]
      omega⟩, bred.2)

/-- `_advance_generation`. -/
def advanceGeneration (s : GeneticState search ρ) : GeneticState search ρ :=
  let next := breed rng repr s.scores s.currentPop s.rng
  { s with
    rng := next.2
    currentPop := next.1
    scores := .empty }

/-! ### The search -/

variable (search) in
/-- `GeneticSearch(...)`, from a state of the random generator. -/
def start (r : ρ) : GeneticState search ρ :=
  let filled := search.initialPopulation rng r
  { rng := filled.2
    currentGen := 0
    currentPop := filled.1
    suggestedInGen := 0
    scores := .empty }

/-- The next individual of the population. -/
def handOut (s : GeneticState search ρ) (within : s.suggestedInGen < search.popSize) :
    Option (Dict String V) × GeneticState search ρ :=
  (some (s.currentPop.members.get ⟨s.suggestedInGen, s.currentPop.size ▸ within⟩).params,
    { s with suggestedInGen := s.suggestedInGen + 1 })

def suggest (s : GeneticState search ρ) :
    Option (Dict String V) × GeneticState search ρ :=
  if search.generations ≤ s.currentGen then (none, s)
  else if complete : search.popSize ≤ s.suggestedInGen then
    -- breed the next generation and go on with it
    let next :=
      { advanceGeneration rng repr s with
        currentGen := s.currentGen + 1
        suggestedInGen := 0 }
    if search.generations ≤ next.currentGen then (none, next)
    else handOut next search.popSize_pos
  else handOut s (not_le.mp complete)

def report (s : GeneticState search ρ) (params : Dict String V) (score : ℚ) :
    GeneticState search ρ :=
  { s with scores := s.scores.set (key repr params) score }

variable (search) in
/-- The search as a sweep drives it. -/
def strategy : SearchStrategy (GeneticState search ρ) (Dict String V) ℚ where
  suggest := suggest rng repr
  report := report repr

variable (search) in
def totalTrials : ℕ := search.popSize * search.generations

end GeneticSearch

end StingerFx
