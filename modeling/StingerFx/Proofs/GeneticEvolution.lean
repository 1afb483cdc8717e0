/-
Module: StingerFx.Proofs.GeneticEvolution
Layer: Proofs
Purpose: What a sweep sees of the genetic search, whatever the random generator does. The
  search suggests generation after generation, each of full size and within the grid, and
  then nothing any more; the best of a generation are in the next one, so that the best
  score never decreases.
Trusted boundary: none (fully proved)
Main exports: Plays, drive_of_plays, Silent, Elitist, GeneticSearch.Faithful,
  GeneticSearch.Evolution, GeneticSearch.evolves, GeneticSearch.genetic_search_evolves
-/
import StingerFx.Backtest.GeneticSearch

namespace StingerFx

open Lib

/-! ### Driven searches -/

section Driven

variable {σ P S : Type} {search : SearchStrategy σ P S} {score : P → S}

/-- From one state to another the search suggests these parameters, and each of them is
reported with its score. -/
def Plays (search : SearchStrategy σ P S) (score : P → S) : σ → List P → σ → Prop
  | s, [], after => after = s
  | s, params :: rest, after =>
      ∃ next, search.suggest s = (some params, next) ∧
        Plays search score (search.report next params (score params)) rest after

/-- The search suggests nothing, however often it is asked. -/
def Silent (search : SearchStrategy σ P S) (s : σ) : Prop :=
  ∀ n, (search.suggest ((fun s => (search.suggest s).2)^[n] s)).1 = none

/-- A turn that is scored by its parameters. -/
def scoredTurn (ε : Type) (score : P → S) (params : P) : Except ε (P × S) :=
  .ok (params, score params)

theorem Plays.append {s middle after : σ} {first second : List P}
    (one : Plays search score s first middle) (two : Plays search score middle second after) :
    Plays search score s (first ++ second) after := by
  induction first generalizing s with
  | nil =>
      obtain rfl : middle = s := one
      exact two
  | cons params rest ih =>
      obtain ⟨next, suggested, one⟩ := one
      exact ⟨next, suggested, ih one⟩

/-- Two states with the same suggestion are driven alike. -/
theorem Plays.of_suggest_eq {s other after : σ} {played : List P}
    (same : search.suggest s = search.suggest other) (some : played ≠ [])
    (plays : Plays search score other played after) : Plays search score s played after := by
  cases played with
  | nil => exact absurd rfl some
  | cons params rest =>
      obtain ⟨next, suggested, plays⟩ := plays
      exact ⟨next, same.trans suggested, plays⟩

/-- The loop of a sweep follows what the search plays, as far as its fuel goes. -/
theorem drive_of_plays (ε : Type) {s after : σ} {played : List P}
    (plays : Plays search score s played after)
    (silent : Silent search after) (fuel : ℕ) (done : List (P × S)) :
    ∃ ended, drive search (scoredTurn ε score) fuel s done =
        .ok (done ++ (played.take fuel).map fun params => (params, score params), ended) ∧
      (played.length ≤ fuel → Silent search ended) := by
  induction fuel generalizing s played done with
  | zero =>
      refine ⟨s, ?_, fun enough => ?_⟩
      · rw [List.take_zero, List.map_nil, List.append_nil]
        rfl
      · have none : played = [] := List.length_eq_zero_iff.mp (Nat.le_zero.mp enough)
        subst none
        obtain rfl : after = s := plays
        exact silent
  | succ fuel ih =>
      cases played with
      | nil =>
          obtain rfl : after = s := plays
          have quiet : search.suggest after = (none, (search.suggest after).2) :=
            Prod.ext (silent 0) rfl
          refine ⟨(search.suggest after).2, ?_, fun _ n => silent (n + 1)⟩
          rw [drive, quiet, List.take_nil, List.map_nil, List.append_nil]
      | cons params rest =>
          obtain ⟨next, suggested, plays⟩ := plays
          obtain ⟨ended, ran, quiet⟩ := ih plays (done ++ [(params, score params)])
          refine ⟨ended, ?_, fun enough => quiet (Nat.le_of_succ_le_succ enough)⟩
          rw [drive, suggested]
          change drive search (scoredTurn ε score) fuel
            (search.report next params (score params)) (done ++ [(params, score params)]) = _
          rw [ran, List.take_succ_cons, List.map_cons, List.append_assoc]
          rfl

end Driven

/-! ### Elites -/

/-- The best of a generation, so many of them, are the first of the next one. -/
def Elitist {P : Type} (score : P → ℚ) (size : ℕ) (generation next : List P) : Prop :=
  ∃ kept dropped bred, (kept ++ dropped).Perm generation ∧ kept.length = size ∧
    (∀ best ∈ kept, ∀ other ∈ dropped, score other ≤ score best) ∧ next = kept ++ bred

/-- With an elite the best score does not decrease. -/
theorem Elitist.maximum_le {P : Type} {score : P → ℚ} {size : ℕ} {generation next : List P}
    (elitist : Elitist score size generation next) (some : 1 ≤ size) :
    (generation.map score).maximum ≤ (next.map score).maximum := by
  obtain ⟨kept, dropped, bred, parts, length, better, rfl⟩ := elitist
  refine List.maximum_le_of_forall_le fun value member => ?_
  obtain ⟨params, inside, rfl⟩ := List.mem_map.mp member
  have survives : ∀ best ∈ kept,
      (score best : WithBot ℚ) ≤ ((kept ++ bred).map score).maximum := fun best here =>
    List.le_maximum_of_mem' (List.mem_map_of_mem (List.mem_append_left _ here))
  rcases List.mem_append.mp (parts.mem_iff.mpr inside) with here | gone
  · exact survives params here
  · have nonempty : kept ≠ [] := by
      rintro rfl
      rw [List.length_nil] at length
      omega
    obtain ⟨best, here⟩ := List.exists_mem_of_ne_nil kept nonempty
    exact (WithBot.coe_le_coe.mpr (better best here params gone)).trans (survives best here)

/-! ### Within the grid -/

namespace Individual

variable {V ρ : Type} {grid : ParameterGrid V}

theorem get?_gene (individual : Individual grid) (axis : grid.Axis) :
    individual.params.get? axis.1.1 = some (individual.gene axis) :=
  (Option.some_get _).symm

/-- An individual is within the grid when its genes are. -/
theorem holds_iff {individual : Individual grid} :
    grid.Holds individual.params ↔ ∀ axis : grid.Axis, individual.gene axis ∈ axis.1.2 := by
  constructor
  · rintro ⟨-, valued⟩ axis
    obtain ⟨value, inside, found⟩ := valued axis.1 axis.2
    rw [individual.get?_gene axis] at found
    exact Option.some.inj found ▸ inside
  · intro genes
    exact ⟨individual.named, fun axis member =>
      ⟨_, genes ⟨axis, member⟩, individual.get?_gene ⟨axis, member⟩⟩⟩

/-- What is picked from the values of every axis is within the grid. -/
theorem holds_tabulate {pick : grid.Axis → ρ → V × ρ}
    (each : ∀ axis r, (pick axis r).1 ∈ axis.1.2) (r : ρ) :
    grid.Holds (tabulate grid pick r).1.params := by
  have picked : ∀ pair ∈ (pairs grid pick r).1,
      ∃ values, (pair.1, values) ∈ grid.axes.items ∧ pair.2 ∈ values :=
    forall_threaded (fun axis _ r => ⟨axis.1.2, axis.2, each axis r⟩) r
  refine holds_iff.mpr fun axis => ?_
  have found := (tabulate grid pick r).1.get?_gene axis
  obtain ⟨values, listed, inside⟩ := picked _ ((Dict.get?_eq_some_iff _).mp found)
  have own : grid.axes.get? axis.1.1 = some axis.1.2 :=
    (Dict.get?_eq_some_iff _).mpr axis.2
  have other : grid.axes.get? axis.1.1 = some values := (Dict.get?_eq_some_iff _).mpr listed
  rw [Option.some.inj (own.symm.trans other)]
  exact inside

end Individual

def Population.params {V : Type} {search : GeneticSearch V} (population : Population search) :
    List (Dict String V) :=
  population.members.map Individual.params

namespace GeneticSearch

variable {V ρ : Type} {search : GeneticSearch V} {rng : Rng ρ}

theorem holds_randomIndividual (r : ρ) :
    search.grid.Holds (search.randomIndividual rng r).1.params :=
  Individual.holds_tabulate (fun _ r => rng.choose_mem _ _ r) r

theorem holds_crossover {parentA parentB : Individual search.grid}
    (one : search.grid.Holds parentA.params) (two : search.grid.Holds parentB.params) (r : ρ) :
    search.grid.Holds (search.crossover rng parentA parentB r).1.params := by
  refine Individual.holds_tabulate (fun axis r => ?_) r
  dsimp only
  split
  · exact Individual.holds_iff.mp one axis
  · exact Individual.holds_iff.mp two axis

theorem holds_mutate {individual : Individual search.grid}
    (holds : search.grid.Holds individual.params) (r : ρ) :
    search.grid.Holds (search.mutate rng individual r).1.params := by
  refine Individual.holds_tabulate (fun axis r => ?_) r
  dsimp only
  split
  · exact rng.choose_mem _ _ _
  · exact Individual.holds_iff.mp holds axis

theorem tournament_mem {scored : List (Scored search.grid)} (some : scored ≠ []) (r : ρ) :
    (search.tournament rng scored some r).1 ∈ scored.map Prod.snd :=
  List.mem_map_of_mem (rng.mem_of_draw (fittest_mem _))

theorem holds_child {scored : List (Scored search.grid)} (some : scored ≠ [])
    (holds : ∀ ind ∈ scored.map Prod.snd, search.grid.Holds ind.params) (r : ρ) :
    search.grid.Holds (search.child rng scored some r).1.params :=
  holds_mutate (holds_crossover (holds _ (tournament_mem some _))
    (holds _ (tournament_mem some _)) _) _

/-! ### One generation after another -/

variable {repr : List (String × V) → String}

theorem map_snd_ranking (scores : Dict String ℚ) (population : Population search) :
    ((ranking repr scores population).map Prod.snd).Perm population.members := by
  refine ((sortBy_perm _).map Prod.snd).trans ?_
  rw [List.map_map]
  exact .of_eq (List.map_id _)

theorem holds_breed {scores : Dict String ℚ} {population : Population search}
    (holds : ∀ ind ∈ population.members, search.grid.Holds ind.params) (r : ρ) :
    ∀ ind ∈ (breed rng repr scores population r).1.members,
      search.grid.Holds ind.params := by
  have ranked : ∀ ind ∈ (ranking repr scores population).map Prod.snd,
      search.grid.Holds ind.params := fun ind inside =>
    holds ind ((map_snd_ranking scores population).mem_iff.mp inside)
  intro ind inside
  rcases List.mem_append.mp inside with elite | bred
  · rw [List.map_take] at elite
    exact ranked ind (List.mem_of_mem_take elite)
  · refine @forall_threaded _ _ _ _ _ (fun ind => search.grid.Holds ind.params)
      (fun _ _ r => ?_) r ind bred
    exact holds_child _ ranked r

/-- Individuals of the grid are told apart by their keys. -/
def Faithful (search : GeneticSearch V) (repr : List (String × V) → String) : Prop :=
  ∀ one two, search.grid.Holds one → search.grid.Holds two →
    key repr one = key repr two → one = two

/-- The scores after these individuals have been reported. -/
def reported (repr : List (String × V) → String) (score : Dict String V → ℚ)
    (scores : Dict String ℚ) (individuals : List (Individual search.grid)) : Dict String ℚ :=
  individuals.foldl (fun scores ind => scores.set (key repr ind.params) (score ind.params))
    scores

/-- What was reported under a key is the score of every individual with it. -/
theorem get?_reported {score : Dict String V → ℚ} {individuals : List (Individual search.grid)}
    {name : String} {value : ℚ}
    (same : ∀ ind ∈ individuals, key repr ind.params = name → score ind.params = value)
    (scores : Dict String ℚ)
    (known : scores.get? name = some value ∨ ∃ ind ∈ individuals, key repr ind.params = name) :
    (reported repr score scores individuals).get? name = some value := by
  induction individuals generalizing scores with
  | nil => exact known.resolve_right fun ⟨_, inside, _⟩ => absurd inside List.not_mem_nil
  | cons ind rest ih =>
      obtain ⟨first, same⟩ := List.forall_mem_cons.mp same
      refine ih same _ ?_
      dsimp only
      by_cases here : key repr ind.params = name
      · rw [here, first here]
        exact .inl (Dict.get?_set_self _ _ _)
      · rw [Dict.get?_set_of_ne _ _ (Ne.symm here)]
        refine known.imp_right fun ⟨other, inside, named⟩ => ?_
        rcases List.mem_cons.mp inside with rfl | later
        · exact absurd named here
        · exact ⟨other, later, named⟩

/-- A population that has been reported is ranked by its scores. -/
theorem ranking_reported (faithful : Faithful search repr) {score : Dict String V → ℚ}
    {population : Population search}
    (holds : ∀ ind ∈ population.members, search.grid.Holds ind.params) :
    ranking repr (reported repr score .empty population.members) population =
      sortBy (fun t => OrderDual.toDual t.1)
        (population.members.map fun ind => ((score ind.params : WithBot ℚ), ind)) := by
  refine congrArg (sortBy _) (List.map_congr_left fun ind inside => ?_)
  have found : (reported repr score .empty population.members).get? (key repr ind.params) =
      some (score ind.params) := by
    refine get?_reported (fun other member same => ?_) _ (.inr ⟨ind, inside, rfl⟩)
    rw [faithful _ _ (holds other member) (holds ind inside) same]
  rw [scoreOf, found]

/-- The next population begins with the best of this one. -/
theorem breed_elitist (faithful : Faithful search repr) {score : Dict String V → ℚ}
    {population : Population search}
    (holds : ∀ ind ∈ population.members, search.grid.Holds ind.params) (r : ρ) :
    Elitist score search.eliteSize population.params
      (breed rng repr (reported repr score .empty population.members) population r).1.params := by
  generalize scores_eq : reported repr score .empty population.members = scores
  have scored : ∀ t ∈ ranking repr scores population,
      t.1 = (score t.2.params : WithBot ℚ) := by
    intro t inside
    rw [← scores_eq, ranking_reported faithful holds, mem_sortBy] at inside
    obtain ⟨ind, -, rfl⟩ := List.mem_map.mp inside
    rfl
  have sorted : SortedBy (fun t => OrderDual.toDual t.1) (ranking repr scores population) :=
    sorted_sortBy _
  have length := ranking_length repr scores population
  have few := search.elite_lt
  refine ⟨((ranking repr scores population).take search.eliteSize).map (·.2.params),
    ((ranking repr scores population).drop search.eliteSize).map (·.2.params), _, ?_, ?_, ?_,
    (List.map_append).trans (congrArg (· ++ _) (List.map_map))⟩
  · rw [← List.map_append, List.take_append_drop]
    have perm : (((ranking repr scores population).map Prod.snd).map Individual.params).Perm
        population.params := (map_snd_ranking scores population).map _
    rw [List.map_map] at perm
    exact perm
  · rw [List.length_map, List.length_take, length]
    omega
  · intro best keptBest other droppedOther
    obtain ⟨t, inTake, rfl⟩ := List.mem_map.mp keptBest
    obtain ⟨u, inDrop, rfl⟩ := List.mem_map.mp droppedOther
    rw [← List.take_append_drop search.eliteSize (ranking repr scores population)] at sorted
    have below := (List.pairwise_append.mp sorted).2.2 t inTake u inDrop
    rw [OrderDual.toDual_le_toDual, scored t (List.mem_of_mem_take inTake),
      scored u (List.mem_of_mem_drop inDrop)] at below
    exact WithBot.coe_le_coe.mp below

/-! ### A generation as the sweep drives it -/

theorem suggest_within {s : GeneticState search ρ} (going : s.currentGen < search.generations)
    (within : s.suggestedInGen < search.popSize) : suggest rng repr s = handOut s within := by
  rw [suggest, if_neg (not_le.mpr going), dif_neg (not_le.mpr within)]

/-- The state after the next generation has been bred. -/
def bred (rng : Rng ρ) (repr : List (String × V) → String) (s : GeneticState search ρ) :
    GeneticState search ρ :=
  { advanceGeneration rng repr s with
    currentGen := s.currentGen + 1
    suggestedInGen := 0 }

/-- A suggestion after a whole population is that of the population bred from it. -/
theorem suggest_complete {s : GeneticState search ρ}
    (complete : search.popSize ≤ s.suggestedInGen)
    (more : s.currentGen + 1 < search.generations) :
    suggest rng repr s = suggest rng repr (bred rng repr s) := by
  rw [suggest, if_neg (not_le.mpr (Nat.lt_of_succ_lt more)), dif_pos complete,
    suggest_within (s := bred rng repr s) more search.popSize_pos]
  exact if_neg (not_le.mpr more)

theorem suggest_last {s : GeneticState search ρ} (complete : search.popSize ≤ s.suggestedInGen)
    (last : s.currentGen + 1 = search.generations) :
    suggest rng repr s = (none, bred rng repr s) := by
  have going : ¬ search.generations ≤ s.currentGen := by omega
  rw [suggest, if_neg going, dif_pos complete]
  exact if_pos last.ge

theorem suggest_over {s : GeneticState search ρ} (ended : search.generations ≤ s.currentGen) :
    suggest rng repr s = (none, s) := by
  rw [suggest, if_pos ended]

/-- The state when the rest of the population has been suggested and reported. -/
def played (repr : List (String × V) → String) (score : Dict String V → ℚ)
    (s : GeneticState search ρ) : GeneticState search ρ :=
  { s with
    suggestedInGen := search.popSize
    scores := reported repr score s.scores (s.currentPop.members.drop s.suggestedInGen) }

/-- The rest of a population is suggested in order. The induction is on what is left of
it. -/
theorem plays_population {score : Dict String V → ℚ} {s : GeneticState search ρ}
    (going : s.currentGen < search.generations) (within : s.suggestedInGen ≤ search.popSize) :
    Plays (search.strategy rng repr) score s
      ((s.currentPop.members.drop s.suggestedInGen).map Individual.params)
      (played repr score s) := by
  generalize left : s.currentPop.members.drop s.suggestedInGen = rest
  induction rest generalizing s with
  | nil =>
      have length := congrArg List.length left
      rw [List.length_drop, s.currentPop.size, List.length_nil] at length
      have complete : s.suggestedInGen = search.popSize := by omega
      change played repr score s = s
      rw [played, left, ← complete]
      rfl
  | cons ind rest ih =>
      have length := congrArg List.length left
      rw [List.length_drop, s.currentPop.size, List.length_cons] at length
      have inside : s.suggestedInGen < search.popSize := by omega
      have index : s.suggestedInGen < s.currentPop.members.length := s.currentPop.size ▸ inside
      have parts := List.drop_eq_getElem_cons index
      rw [left] at parts
      obtain ⟨first, later⟩ := List.cons.inj parts
      refine ⟨_, (suggest_within going inside).trans (Prod.ext (congrArg some ?_) rfl), ?_⟩
      · exact congrArg Individual.params first.symm
      · have next := ih (s := report repr { s with suggestedInGen := s.suggestedInGen + 1 }
          ind.params (score ind.params)) going inside later.symm
        have same : played repr score (report repr
            { s with suggestedInGen := s.suggestedInGen + 1 } ind.params (score ind.params)) =
            played repr score s := by
          simp only [played, report, left, ← later]
          rfl
        exact same ▸ next

/-! ### The whole search -/

/-- A population of which nothing has been suggested. -/
structure Fresh (s : GeneticState search ρ) : Prop where
  going : s.currentGen < search.generations
  none_suggested : s.suggestedInGen = 0
  none_scored : s.scores = .empty
  holds : ∀ ind ∈ s.currentPop.members, search.grid.Holds ind.params

theorem fresh_start (r : ρ) : Fresh (search.start rng r) where
  going := search.generations_pos
  none_suggested := rfl
  none_scored := rfl
  holds := @forall_threaded _ _ _ _ _
    (fun ind : Individual search.grid => search.grid.Holds ind.params)
    (fun _ _ r => holds_randomIndividual r) r

theorem Fresh.plays {s : GeneticState search ρ} (fresh : Fresh s) (score : Dict String V → ℚ) :
    Plays (search.strategy rng repr) score s s.currentPop.params (played repr score s) := by
  have plays : Plays (search.strategy rng repr) score s
      ((s.currentPop.members.drop s.suggestedInGen).map Individual.params)
      (played repr score s) :=
    plays_population fresh.going (fresh.none_suggested ▸ Nat.zero_le _)
  rw [fresh.none_suggested, List.drop_zero] at plays
  exact plays

theorem Fresh.generation {s : GeneticState search ρ} (fresh : Fresh s) :
    s.currentPop.params.length = search.popSize ∧
      ∀ params ∈ s.currentPop.params, search.grid.Holds params := by
  refine ⟨(List.length_map _).trans s.currentPop.size, fun params inside => ?_⟩
  obtain ⟨ind, member, rfl⟩ := List.mem_map.mp inside
  exact fresh.holds ind member

/-- After its last population the search is silent. -/
theorem Fresh.silent {s : GeneticState search ρ} (score : Dict String V → ℚ)
    (last : s.currentGen + 1 = search.generations) :
    Silent (search.strategy rng repr) (played repr score s) := by
  have ends : suggest rng repr (played repr score s) =
      (none, bred rng repr (played repr score s)) := suggest_last le_rfl last
  have stays : suggest rng repr (bred rng repr (played repr score s)) =
      (none, bred rng repr (played repr score s)) := suggest_over last.ge
  intro n
  cases n with
  | zero => exact congrArg Prod.fst ends
  | succ n =>
      have rests : ∀ n, (fun s => ((search.strategy rng repr).suggest s).2)^[n]
          (bred rng repr (played repr score s)) = bred rng repr (played repr score s) := by
        intro n
        exact Function.iterate_fixed (congrArg Prod.snd stays) n
      rw [Function.iterate_succ_apply]
      have first : ((search.strategy rng repr).suggest (played repr score s)).2 =
          bred rng repr (played repr score s) := congrArg Prod.snd ends
      rw [first, rests]
      exact congrArg Prod.fst stays

/-- Another population follows, fresh and with the best of this one. -/
theorem Fresh.next {s : GeneticState search ρ} (fresh : Fresh s)
    (faithful : Faithful search repr) (score : Dict String V → ℚ)
    (more : s.currentGen + 1 < search.generations) :
    let next := bred rng repr (played repr score s)
    Fresh next ∧
      suggest rng repr (played repr score s) = suggest rng repr next ∧
      Elitist score search.eliteSize s.currentPop.params next.currentPop.params := by
  intro next
  have freshNext : Fresh next :=
    { going := more
      none_suggested := rfl
      none_scored := rfl
      holds := holds_breed fresh.holds _ }
  refine ⟨freshNext, suggest_complete le_rfl more, ?_⟩
  have elitist : Elitist score search.eliteSize s.currentPop.params
      (breed rng repr (reported repr score .empty s.currentPop.members) s.currentPop
        s.rng).1.params := breed_elitist faithful fresh.holds s.rng
  have scores : (played repr score s).scores =
      reported repr score .empty s.currentPop.members := by
    rw [played, fresh.none_suggested, fresh.none_scored, List.drop_zero]
  rw [← scores] at elitist
  exact elitist

/-- What a run of the search goes through. -/
structure Evolution (search : GeneticSearch V) (score : Dict String V → ℚ)
    (generations : List (List (Dict String V))) : Prop where
  count : generations.length = search.generations
  size : ∀ generation ∈ generations, generation.length = search.popSize
  within : ∀ generation ∈ generations, ∀ params ∈ generation, search.grid.Holds params
  elite : generations.IsChain (Elitist score search.eliteSize)

/-- From a fresh population on, one generation follows the other. The induction is on the
generations that are left. -/
theorem Fresh.evolves (faithful : Faithful search repr) (score : Dict String V → ℚ) :
    ∀ (left : ℕ) (s : GeneticState search ρ), Fresh s →
      s.currentGen + (left + 1) = search.generations →
      ∃ later after, Plays (search.strategy rng repr) score s
          (s.currentPop.params :: later).flatten after ∧
        Silent (search.strategy rng repr) after ∧ later.length = left ∧
        (∀ generation ∈ s.currentPop.params :: later, generation.length = search.popSize ∧
          ∀ params ∈ generation, search.grid.Holds params) ∧
        (s.currentPop.params :: later).IsChain (Elitist score search.eliteSize) := by
  intro left
  induction left with
  | zero =>
      intro s fresh last
      refine ⟨[], played repr score s, ?_, Fresh.silent score last, rfl, ?_, .singleton _⟩
      · rw [List.flatten_singleton]
        exact fresh.plays score
      · exact List.forall_mem_singleton.mpr fresh.generation
  | succ left ih =>
      intro s fresh count
      obtain ⟨freshNext, same, elitist⟩ :=
        fresh.next faithful score (by omega)
      obtain ⟨later, after, plays, silent, length, each, chain⟩ :=
        ih (bred rng repr (played repr score s)) freshNext (by
          change s.currentGen + 1 + (left + 1) = search.generations
          omega)
      have some : ((bred rng repr (played repr score s)).currentPop.params ::
          later).flatten ≠ [] := by
        intro none
        have empty := List.append_eq_nil_iff.mp none
        have size := freshNext.generation.1
        rw [empty.1, List.length_nil] at size
        exact absurd search.popSize_pos (by omega)
      refine ⟨_ :: later, after, ?_, silent, congrArg Nat.succ length,
        List.forall_mem_cons.mpr ⟨fresh.generation, each⟩, .cons_cons elitist chain⟩
      exact (fresh.plays score).append (plays.of_suggest_eq same some)

/-- Whatever the random generator does, the sweep is suggested as many full generations as
configured, within the grid, and then nothing any more; the best of each generation are in
the next one, and with an elite the best score does not decrease. -/
theorem genetic_search_evolves {ε : Type} (search : GeneticSearch V) (rng : Rng ρ)
    (repr : List (String × V) → String) (faithful : Faithful search repr)
    (score : Dict String V → ℚ) (seed : ρ) :
    ∃ generations, Evolution search score generations ∧
      generations.flatten.length = search.totalTrials ∧
      (1 ≤ search.eliteSize → generations.IsChain fun generation next =>
        (generation.map score).maximum ≤ (next.map score).maximum) ∧
      ∀ fuel, ∃ ended,
        drive (search.strategy rng repr) (scoredTurn ε score) fuel (search.start rng seed) [] =
          .ok ((generations.flatten.take fuel).map fun params => (params, score params),
            ended) ∧
        (search.totalTrials ≤ fuel → Silent (search.strategy rng repr) ended) := by
  have fresh : Fresh (search.start rng seed) := fresh_start seed
  obtain ⟨later, after, plays, silent, length, each, chain⟩ :=
    Fresh.evolves faithful score (search.generations - 1) (search.start rng seed) fresh (by
      have := search.generations_pos
      change 0 + (search.generations - 1 + 1) = search.generations
      omega)
  have count : (((search.start rng seed).currentPop.params :: later)).length =
      search.generations := by
    have := search.generations_pos
    rw [List.length_cons, length]
    omega
  have total : ((search.start rng seed).currentPop.params :: later).flatten.length =
      search.totalTrials := by
    rw [List.length_flatten, List.map_eq_replicate_iff.mpr fun generation inside =>
      (each generation inside).1, List.sum_replicate, count, totalTrials, smul_eq_mul,
      mul_comm]
  refine ⟨_, ⟨count, fun generation inside => (each generation inside).1,
    fun generation inside => (each generation inside).2, chain⟩, total,
    fun some => chain.imp fun _ _ elitist => elitist.maximum_le some, fun fuel => ?_⟩
  obtain ⟨ended, ran, quiet⟩ := drive_of_plays ε plays silent fuel []
  exact ⟨ended, ran, fun enough => quiet (total.trans_le enough)⟩

/-- One parameter with two values, two populations of two. -/
def twoByTwo : GeneticSearch Int where
  grid :=
    { axes := ⟨[("fast", [1, 2])], by decide⟩
      nonempty := by decide
      valued := by decide }
  popSize := 2
  generations := 2
  eliteSize := 1
  mutationRate := 1 / 10
  tournamentSize := 2
  popSize_pos := by decide
  generations_pos := by decide
  elite_lt := by decide
  rate_bounds := by norm_num
  two_le_tournament := le_rfl

/-- The text of a list of pairs of a name and an integer. -/
def pairText (items : List (String × Int)) : String :=
  "[" ++ ", ".intercalate (items.map fun item =>
    "('" ++ item.1 ++ "', " ++ toString item.2 ++ ")") ++ "]"

theorem pairText_faithful : Faithful twoByTwo pairText := by
  have only : ∀ params, twoByTwo.grid.Holds params →
      params.items = [("fast", 1)] ∨ params.items = [("fast", 2)] := by
    rintro ⟨items, nodup⟩ ⟨names, valued⟩
    obtain ⟨value, inside, found⟩ := valued ("fast", [1, 2]) List.mem_cons_self
    have listed := (Dict.get?_eq_some_iff _).mp found
    have one : items.length = 1 :=
      (List.length_map _).symm.trans (congrArg List.length names)
    obtain ⟨item, rfl⟩ := List.length_eq_one_iff.mp one
    obtain rfl := List.mem_singleton.mp listed
    simpa [twoByTwo] using inside
  have texts : pairText (sortBy Prod.fst [("fast", 1)]) ≠
      pairText (sortBy Prod.fst [("fast", 2)]) := by decide +kernel
  intro one two holdsOne holdsTwo same
  obtain ⟨itemsOne, nodupOne⟩ := one
  obtain ⟨itemsTwo, nodupTwo⟩ := two
  change pairText (sortBy Prod.fst itemsOne) = pairText (sortBy Prod.fst itemsTwo) at same
  rcases only _ holdsOne with rfl | rfl <;> rcases only _ holdsTwo with rfl | rfl
  · rfl
  · exact absurd same texts
  · exact absurd same.symm texts
  · rfl

theorem twoByTwo_evolves :
    Faithful twoByTwo pairText ∧
      ∃ generations, Evolution twoByTwo (fun params => params.getD "fast" 0) generations ∧
        generations.flatten.length = 4 := by
  obtain ⟨generations, evolution, length, -⟩ :=
    @genetic_search_evolves _ _ Empty twoByTwo firstOnes pairText pairText_faithful
      (fun params => params.getD "fast" 0) ()
  exact ⟨pairText_faithful, generations, evolution, length⟩

end GeneticSearch

end StingerFx
