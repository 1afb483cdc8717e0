/-
Module: StingerFx.Proofs.ParetoFrontier
Layer: Proofs
Purpose: The marks of a Pareto extraction are exact. On figures that are finite or
  missing, the comparison of two cells is domination of their worths, so the marked
  cells are those that no cell dominates, whatever the order of cells and objectives.
Trusted boundary: none (fully proved)
Main exports: worth, IsFigure, dominates_ok, extractParetoFrontier_eq,
  extraction_is_exact
-/
import StingerFx.Backtest.Pareto
import StingerFx.Lib.Domination
import StingerFx.Lib.PyResults

namespace StingerFx

open Lib

/-- How good a cell is on an objective: a number, negated if less is better, or nothing
for a metric that is missing, `None` or NaN. -/
def worth (obj : Objective) (metrics : Dict String PyValue) : WithBot ℚ :=
  match (metrics.get? obj.metric).map PyValue.toFloat with
  | some (.ok (.fin q)) =>
      match obj.direction with
      | .max => (q : WithBot ℚ)
      | .min => ((-q : ℚ) : WithBot ℚ)
  | _ => ⊥

/-- A metric that is a finite number, `None`, NaN or missing. -/
def IsFigure (value : Option PyValue) : Prop :=
  value = none ∨ value = some .none ∨ value = some (.float .nan) ∨
    ∃ number q, value = some number ∧ number.toFloat = .ok (.fin q)

/-- The metrics of a cell are figures as far as they are objectives. -/
def HasFigures (objectives : List Objective) (metrics : Dict String PyValue) : Prop :=
  ∀ obj ∈ objectives, IsFigure (metrics.get? obj.metric)

/-! ### Comparison of two cells -/

/-- The float that a worth is compared as. -/
def asFloat (direction : Direction) : WithBot ℚ → PyFloat
  | ⊥ => worst direction
  | some q =>
      match direction with
      | .max => .fin q
      | .min => .fin (-q)

theorem coerce_ok {obj : Objective} {metrics : Dict String PyValue}
    (figure : IsFigure (metrics.get? obj.metric)) :
    coerce (metrics.get? obj.metric) obj.direction =
      .ok (asFloat obj.direction (worth obj metrics)) := by
  unfold worth
  rcases figure with missing | nothing | nan | ⟨number, q, stored, finite⟩
  · rw [missing]
    rfl
  · rw [nothing]
    rfl
  · rw [nan]
    rfl
  · rw [stored, coerce]
    · rw [finite]
      simp only [Option.map_some, finite]
      cases obj.direction with
      | max => rfl
      | min => exact congrArg (Except.ok ∘ PyFloat.fin) (neg_neg q).symm
    · rintro rfl
      cases finite
    · rintro rfl
      cases finite

theorem extended_lt_iff {p q : ℚ} :
    ((p : WithTop ℚ) : Extended) < ((q : WithTop ℚ) : Extended) ↔ p < q := by
  rw [WithBot.coe_lt_coe, WithTop.coe_lt_coe]

theorem floatLess_max (x y : WithBot ℚ) :
    floatLess (asFloat .max x) (asFloat .max y) = decide (x < y) := by
  match x, y with
  | ⊥, ⊥ => rfl
  | ⊥, some q =>
      change decide ((⊥ : Extended) < ((q : WithTop ℚ) : Extended)) = _
      exact decide_eq_decide.mpr (iff_of_true (WithBot.bot_lt_coe _) (WithBot.bot_lt_coe _))
  | some p, ⊥ =>
      change decide (((p : WithTop ℚ) : Extended) < ⊥) = _
      exact decide_eq_decide.mpr (iff_of_false not_lt_bot not_lt_bot)
  | some p, some q =>
      exact decide_eq_decide.mpr (extended_lt_iff.trans WithBot.coe_lt_coe.symm)

theorem floatLess_min (x y : WithBot ℚ) :
    floatLess (asFloat .min x) (asFloat .min y) = decide (y < x) := by
  match x, y with
  | ⊥, ⊥ => rfl
  | ⊥, some q =>
      change decide ((⊤ : Extended) < (((-q : ℚ) : WithTop ℚ) : Extended)) = _
      exact decide_eq_decide.mpr (iff_of_false not_top_lt not_lt_bot)
  | some p, ⊥ =>
      change decide ((((-p : ℚ) : WithTop ℚ) : Extended) < ⊤) = _
      refine decide_eq_decide.mpr (iff_of_true ?_ (WithBot.bot_lt_coe _))
      exact WithBot.coe_lt_coe.mpr (WithTop.coe_lt_top _)
  | some p, some q =>
      exact decide_eq_decide.mpr
        (extended_lt_iff.trans (neg_lt_neg_iff.trans WithBot.coe_lt_coe.symm))

/-- The loop looks for an axis on which the second is better, and remembers one on which
the first is. -/
theorem dominatesFrom_ok {a b : Dict String PyValue} {objectives : List Objective}
    (first : HasFigures objectives a) (second : HasFigures objectives b)
    (strictlyBetter : Bool) :
    ∃ result, dominatesFrom a b objectives strictlyBetter = .ok result ∧
      (result = true ↔ (∀ obj ∈ objectives, worth obj b ≤ worth obj a) ∧
        (strictlyBetter = true ∨ ∃ obj ∈ objectives, worth obj b < worth obj a)) := by
  induction objectives generalizing strictlyBetter with
  | nil => exact ⟨strictlyBetter, rfl, by simp⟩
  | cons obj rest ih =>
      obtain ⟨figure, others⟩ := List.forall_mem_cons.mp first
      obtain ⟨figure', others'⟩ := List.forall_mem_cons.mp second
      -- either direction compares the worths
      have turn : dominatesFrom a b (obj :: rest) strictlyBetter =
          if worth obj a < worth obj b then .ok false
          else dominatesFrom a b rest
            (strictlyBetter || decide (worth obj b < worth obj a)) := by
        rw [dominatesFrom, coerce_ok figure, coerce_ok figure']
        cases direction : obj.direction with
        | max =>
            change (if floatLess (asFloat .max (worth obj a)) (asFloat .max (worth obj b))
              then .ok false else dominatesFrom a b rest (strictlyBetter ||
                floatLess (asFloat .max (worth obj b)) (asFloat .max (worth obj a)))) = _
            simp only [floatLess_max, decide_eq_true_eq]
        | min =>
            change (if floatLess (asFloat .min (worth obj b)) (asFloat .min (worth obj a))
              then .ok false else dominatesFrom a b rest (strictlyBetter ||
                floatLess (asFloat .min (worth obj a)) (asFloat .min (worth obj b)))) = _
            simp only [floatLess_min, decide_eq_true_eq]
      obtain ⟨result, gives, holds⟩ := ih others others'
        (strictlyBetter || decide (worth obj b < worth obj a))
      rw [turn]
      by_cases worse : worth obj a < worth obj b
      · refine ⟨false, if_pos worse, iff_of_false Bool.false_ne_true ?_⟩
        exact fun held => absurd (held.1 obj List.mem_cons_self) (not_le_of_gt worse)
      · refine ⟨result, (if_neg worse).trans gives, holds.trans ?_⟩
        simp [not_lt.mp worse, or_assoc]

/-- The comparison of two cells is domination. -/
theorem dominates_ok {a b : Dict String PyValue} {objectives : List Objective}
    (first : HasFigures objectives a) (second : HasFigures objectives b) :
    ∃ result, dominates a b objectives = .ok result ∧
      (result = true ↔ Dominates worth objectives a b) := by
  obtain ⟨result, gives, holds⟩ := dominatesFrom_ok first second false
  refine ⟨result, gives, holds.trans ?_⟩
  rw [dominates_iff]
  simp

theorem anyDominates_ok {metrics : Dict String PyValue} (objectives : List Objective)
    (others : List (Dict String PyValue)) (own : HasFigures objectives metrics)
    (figures : ∀ other ∈ others, HasFigures objectives other) :
    ∃ result, anyDominates objectives metrics others = .ok result ∧
      (result = true ↔ ∃ other ∈ others, Dominates worth objectives other metrics) := by
  induction others with
  | nil => exact ⟨false, rfl, by simp⟩
  | cons other rest ih =>
      obtain ⟨here, later⟩ := List.forall_mem_cons.mp figures
      obtain ⟨better, gives, holds⟩ := dominates_ok here own
      rw [anyDominates, gives]
      cases better with
      | true =>
          refine ⟨true, rfl, iff_of_true rfl ⟨other, List.mem_cons_self, holds.mp rfl⟩⟩
      | false =>
          obtain ⟨result, recursed, found⟩ := ih later
          refine ⟨result, recursed, found.trans ?_⟩
          have not : ¬Dominates worth objectives other metrics := fun held => by
            cases holds.mpr held
          simp [not]

/-! ### Extraction -/

section Extraction

variable {P : Type} {objectives : List Objective} {cells : List (P × Dict String PyValue)}

open Classical in
/-- A cell with the mark that it should have. -/
noncomputable def marked (objectives : List Objective) (cells : List (P × Dict String PyValue))
    (cell : P × Dict String PyValue) : ParetoPoint P where
  params := cell.1
  metrics := cell.2
  isPareto := decide (Undominated worth objectives (cells.map Prod.snd) cell.2)

open Classical in
theorem marked_isPareto (cell : P × Dict String PyValue) :
    (marked objectives cells cell).isPareto = true ↔
      Undominated worth objectives (cells.map Prod.snd) cell.2 := by
  unfold marked
  exact decide_eq_true_iff

/-- The cells before and after one are the others; it does not dominate itself. -/
theorem markPoints_ok {before rest : List (P × Dict String PyValue)}
    (all : cells = before ++ rest)
    (figures : ∀ cell ∈ cells, HasFigures objectives cell.2) :
    markPoints objectives before rest = .ok (rest.map (marked objectives cells)) := by
  induction rest generalizing before with
  | nil => rfl
  | cons cell rest ih =>
      have own : HasFigures objectives cell.2 :=
        figures cell (all ▸ List.mem_append_right _ List.mem_cons_self)
      have inCells : ∀ other ∈ before ++ rest, other ∈ cells := by
        intro other member
        rw [all, List.perm_middle.mem_iff]
        exact List.mem_cons_of_mem _ member
      obtain ⟨dominated, gives, holds⟩ :=
        anyDominates_ok objectives ((before ++ rest).map Prod.snd) own (by
          intro metrics member
          obtain ⟨other, isOther, rfl⟩ := List.mem_map.mp member
          exact figures other (inCells other isOther))
      have mark : (!dominated) = (marked objectives cells cell).isPareto := by
        rw [Bool.eq_iff_iff, marked_isPareto, Bool.not_eq_true', ← Bool.not_eq_true, holds]
        constructor
        · intro none metrics member better
          obtain ⟨other, isOther, rfl⟩ := List.mem_map.mp member
          rw [all, List.perm_middle.mem_iff] at isOther
          rcases List.mem_cons.mp isOther with rfl | elsewhere
          · exact Dominates.irrefl _ better
          · exact none ⟨other.2, List.mem_map_of_mem elsewhere, better⟩
        · rintro undominated ⟨metrics, member, better⟩
          obtain ⟨other, isOther, rfl⟩ := List.mem_map.mp member
          exact undominated _ (List.mem_map_of_mem (inCells other isOther)) better
      have later : cells = (before ++ [cell]) ++ rest := by
        rw [all, List.append_assoc, List.singleton_append]
      rw [markPoints, gives, ih later, List.map_cons]
      change Except.ok (ParetoPoint.mk cell.1 cell.2 (!dominated) :: _) = _
      rw [mark]
      rfl

theorem extractParetoFrontier_eq (cellsExist : cells ≠ []) (objectivesExist : objectives ≠ [])
    (figures : ∀ cell ∈ cells, HasFigures objectives cell.2) :
    extractParetoFrontier cells objectives =
      .ok ⟨objectives, cells.map (marked objectives cells)⟩ := by
  rw [extractParetoFrontier, if_neg, if_neg, markPoints_ok rfl figures]
  · rfl
  · rwa [List.isEmpty_iff]
  · rwa [List.isEmpty_iff]

/-- The marks do not depend on the order of the cells and of the objectives. -/
theorem marked_perm {others : List (P × Dict String PyValue)} {axes : List Objective}
    (same : others.Perm cells) (alike : axes.Perm objectives) :
    marked axes others = marked objectives cells := by
  funext cell
  have undominated : Undominated worth axes (others.map Prod.snd) cell.2 ↔
      Undominated worth objectives (cells.map Prod.snd) cell.2 :=
    undominated_perm (same.map Prod.snd) alike cell.2
  rw [marked, marked]
  congr 1
  exact decide_eq_decide.mpr undominated

end Extraction

/-- For all cells with figures for the objectives, of which there are some of both: the
cells are marked that no cell dominates, some are, every other one is dominated by a
marked one, and the marks are the same in any order of the cells and objectives. -/
theorem extraction_is_exact {P : Type} (cells : List (P × Dict String PyValue))
    (objectives : List Objective) (cellsExist : cells ≠ []) (objectivesExist : objectives ≠ [])
    (figures : ∀ cell ∈ cells, HasFigures objectives cell.2) :
    ∃ result, extractParetoFrontier cells objectives = .ok result ∧
      result.points.map (fun point => (point.params, point.metrics)) = cells ∧
      (∀ point ∈ result.points, point.isPareto = true ↔
        ¬∃ cell ∈ cells, Dominates worth objectives cell.2 point.metrics) ∧
      result.frontier ≠ [] ∧
      (∀ point ∈ result.points, point.isPareto = false →
        ∃ best ∈ result.frontier, Dominates worth objectives best.metrics point.metrics) ∧
      ∀ others axes, others.Perm cells → axes.Perm objectives →
        ∃ again, extractParetoFrontier others axes = .ok again ∧
          again.points.Perm result.points := by
  have inPoints : ∀ metrics ∈ cells.map Prod.snd, ∃ point ∈ cells.map (marked objectives cells),
      point.metrics = metrics ∧
        (point.isPareto = true ↔ Undominated worth objectives (cells.map Prod.snd) metrics) := by
    intro metrics member
    obtain ⟨cell, isCell, rfl⟩ := List.mem_map.mp member
    exact ⟨_, List.mem_map_of_mem isCell, rfl, marked_isPareto cell⟩
  refine ⟨_, extractParetoFrontier_eq cellsExist objectivesExist figures, ?_, ?_, ?_, ?_, ?_⟩
  · rw [List.map_map]
    exact List.map_id' cells
  · intro point member
    obtain ⟨cell, isCell, rfl⟩ := List.mem_map.mp member
    rw [marked_isPareto]
    constructor
    · rintro undominated ⟨other, isOther, better⟩
      exact undominated _ (List.mem_map_of_mem isOther) better
    · intro none metrics inCells better
      obtain ⟨other, isOther, rfl⟩ := List.mem_map.mp inCells
      exact none ⟨other, isOther, better⟩
  · obtain ⟨metrics, member, undominated⟩ := exists_undominated worth
      objectives (mt List.map_eq_nil_iff.mp cellsExist)
    obtain ⟨point, isPoint, -, mark⟩ := inPoints metrics member
    exact List.ne_nil_of_mem (List.mem_filter.mpr ⟨isPoint, mark.mpr undominated⟩)
  · intro point member off
    obtain ⟨cell, isCell, rfl⟩ := List.mem_map.mp member
    have dominated : ¬Undominated worth objectives (cells.map Prod.snd) cell.2 := by
      rw [← marked_isPareto, off]
      exact Bool.false_ne_true
    obtain ⟨metrics, inCells, undominated, better⟩ := exists_dominating dominated
    obtain ⟨best, isPoint, same, mark⟩ := inPoints metrics inCells
    refine ⟨best, List.mem_filter.mpr ⟨isPoint, mark.mpr undominated⟩, ?_⟩
    rw [same]
    exact better
  · intro others axes same alike
    have otherFigures : ∀ cell ∈ others, HasFigures axes cell.2 :=
      fun cell member obj isAxis =>
        figures cell (same.mem_iff.mp member) obj (alike.mem_iff.mp isAxis)
    refine ⟨_, extractParetoFrontier_eq ?_ ?_ otherFigures, ?_⟩
    · exact fun empty => cellsExist (List.Perm.eq_nil (empty ▸ same.symm))
    · exact fun empty => objectivesExist (List.Perm.eq_nil (empty ▸ alike.symm))
    · rw [marked_perm same alike]
      exact same.map _

/-- Two cells with the same profit, one of them without a drawdown. -/
def twoCells : List (ℕ × Dict String PyValue) :=
  [(0, (Dict.empty.set "net_pnl" (.float (.fin 10))).set "max_drawdown" (.float (.fin 3))),
    (1, Dict.empty.set "net_pnl" (.float (.fin 10)))]

def twoObjectives : List Objective := [⟨"net_pnl", .max⟩, ⟨"max_drawdown", .min⟩]

theorem twoCells_hasFigures : ∀ cell ∈ twoCells, HasFigures twoObjectives cell.2 := by
  have finite (q : ℚ) : IsFigure (some (.float (.fin q))) :=
    .inr (.inr (.inr ⟨.float (.fin q), q, rfl, rfl⟩))
  refine List.forall_mem_cons.mpr ⟨?_, List.forall_mem_singleton.mpr ?_⟩
  · exact List.forall_mem_cons.mpr ⟨finite 10, List.forall_mem_singleton.mpr (finite 3)⟩
  · exact List.forall_mem_cons.mpr ⟨finite 10, List.forall_mem_singleton.mpr (.inl rfl)⟩

theorem twoCells_exact :
    ∃ result, extractParetoFrontier twoCells twoObjectives = .ok result ∧
      result.points.map (fun point => (point.params, point.metrics)) = twoCells ∧
      (∀ point ∈ result.points, point.isPareto = true ↔
        ¬∃ cell ∈ twoCells, Dominates worth twoObjectives cell.2 point.metrics) ∧
      result.frontier ≠ [] ∧
      (∀ point ∈ result.points, point.isPareto = false →
        ∃ best ∈ result.frontier, Dominates worth twoObjectives best.metrics point.metrics) ∧
      ∀ others axes, others.Perm twoCells → axes.Perm twoObjectives →
        ∃ again, extractParetoFrontier others axes = .ok again ∧
          again.points.Perm result.points :=
  extraction_is_exact twoCells twoObjectives (List.cons_ne_nil _ _) (List.cons_ne_nil _ _)
    twoCells_hasFigures

end StingerFx
