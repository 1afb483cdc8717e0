/-
Module: StingerFx.Strategies.Managers.Ladder
Layer: Strategies
Purpose: The ladder manager. It adds a market order each time the price has moved
  a step beyond the last rung of a position in the view, up to a number of rungs
  for each ticket, and forgets tickets that have left the view.
Trusted boundary: human-reviewed model of the source's ladder manager
Main exports: LadderError, LadderManager, LadderManager.create,
  LadderManager.Fires, LadderManager.onTick, LadderManager.visitAll_spec
-/
import StingerFx.Lib.Visits
import StingerFx.Strategies.Context

namespace StingerFx

open Lib

/-- Arguments that the constructor refuses. -/
inductive LadderError where
  | stepPips (given : ℚ)
  | maxLevels (given : Int)
  | levelVolume (given : ℚ)
deriving Repr, DecidableEq

def LadderError.text (number : ℚ → String) : LadderError → String
  | .stepPips given => "step_pips must be > 0, got " ++ number given
  | .maxLevels given => s!"max_levels must be >= 1, got {given}"
  | .levelVolume given => "level_volume must be > 0, got " ++ number given

structure LadderManager where
  step : ℚ
  max : Nat
  volume : ℚ
  symbol : Symbol
  /-- rungs added so far -/
  levels : Dict Ticket Nat
  /-- the price of the last rung -/
  lastPrice : Dict Ticket ℚ
  max_pos : 1 ≤ max
  volume_pos : 0 < volume

/-- An order for a rung, with the position whose rung it is. -/
structure LadderEntry where
  rung : Ticket
  signal : Signal
deriving Repr, DecidableEq

namespace LadderManager

def create (ctxSymbol : Symbol) (stepPips : ℚ) (maxLevels : Int)
    (levelVolume : ℚ) (symbol : Option Symbol) (point : ℚ) :
    Except LadderError LadderManager :=
  if stepPips ≤ 0 then .error (.stepPips stepPips)
  else if levels : maxLevels < 1 then .error (.maxLevels maxLevels)
  else if volume : levelVolume ≤ 0 then .error (.levelVolume levelVolume)
  else
    .ok
      { step := stepPips * point
        max := maxLevels.toNat
        volume := levelVolume
        symbol :=
          match symbol with
          -- an empty name counts as missing
          | none | some "" => ctxSymbol
          | some name => name
        levels := .empty
        lastPrice := .empty
        max_pos := by omega
        volume_pos := not_le.mp volume }

/-- Rungs of a ticket so far. -/
def levelOf (m : LadderManager) (ticket : Ticket) : Nat :=
  m.levels.getD ticket 0

/-- The price from which the next rung of a position is measured. -/
def baseOf (m : LadderManager) (pos : Position) : ℚ :=
  m.lastPrice.getD pos.ticket pos.openPrice

/-- The price is a step beyond the last rung. -/
def Reaches (m : LadderManager) (tick : Tick) (pos : Position) : Prop :=
  match pos.side with
  | .buy => m.baseOf pos + m.step ≤ tick.bid
  | .sell => tick.ask ≤ m.baseOf pos - m.step

instance (m : LadderManager) (tick : Tick) (pos : Position) :
    Decidable (m.Reaches tick pos) :=
  match pos with
  | { side := .buy, .. } => inferInstanceAs (Decidable (_ ≤ _))
  | { side := .sell, .. } => inferInstanceAs (Decidable (_ ≤ _))

/-- A position that is seen for the first time. -/
def register (m : LadderManager) (pos : Position) : LadderManager :=
  if m.levels.contains pos.ticket then m
  else
    { m with
      levels := m.levels.set pos.ticket 0
      lastPrice := m.lastPrice.set pos.ticket pos.openPrice }

/-- One more rung of a ticket at a price. -/
def climb (m : LadderManager) (ticket : Ticket) (price : ℚ) : LadderManager :=
  { m with
    levels := m.levels.set ticket (m.levelOf ticket + 1)
    lastPrice := m.lastPrice.set ticket price }

/-- The loop's body for one position. -/
def visit (m : LadderManager) (ctx : StrategyContext) (tick : Tick)
    (pos : Position) : LadderManager × List LadderEntry :=
  let m := m.register pos
  if m.max ≤ m.levelOf pos.ticket then (m, [])
  else if m.Reaches tick pos then
    match pos.side with
    | .buy =>
        (m.climb pos.ticket tick.bid,
          [⟨pos.ticket, ctx.buy m.volume none none ""⟩])
    | .sell =>
        (m.climb pos.ticket tick.ask,
          [⟨pos.ticket, ctx.sell m.volume none none ""⟩])
  else (m, [])

/-- The loop. -/
def visitAll (ctx : StrategyContext) (tick : Tick) :
    LadderManager → List Position → LadderManager × List LadderEntry :=
  Lib.visitAll fun m pos => m.visit ctx tick pos

/-- Forget the tickets that have left the view. -/
def purge (m : LadderManager) (live : List Ticket) : LadderManager :=
  let gone := m.levels.keys.filter fun ticket => decide (ticket ∉ live)
  { m with
    levels := m.levels.eraseAll gone
    lastPrice := m.lastPrice.eraseAll gone }

/-- `ctx.position.for_symbol`. -/
def watched (m : LadderManager) (positions : List Position) : List Position :=
  positions.filter fun pos => decide (pos.symbol = m.symbol)

def onTick (m : LadderManager) (ctx : StrategyContext)
    (positions : List Position) (tick : Tick) :
    LadderManager × List LadderEntry :=
  if tick.symbol ≠ m.symbol then (m, [])
  else
    let live := m.watched positions
    let visited := visitAll ctx tick m live
    (visited.1.purge (live.map Position.ticket), visited.2)

/-- The position gets a rung at this tick. -/
def Fires (m : LadderManager) (tick : Tick) (pos : Position) : Prop :=
  (m.register pos).levelOf pos.ticket < m.max ∧ (m.register pos).Reaches tick pos

instance (m : LadderManager) (tick : Tick) (pos : Position) :
    Decidable (m.Fires tick pos) := instDecidableAnd

/-! ### What a tick does to the rungs -/

variable {m m' : LadderManager} {ctx : StrategyContext} {tick : Tick}
variable {pos : Position} {positions : List Position}

/-- Two managers that know the same of a ticket. -/
structure Alike (m m' : LadderManager) (ticket : Ticket) : Prop where
  level : m'.levels.get? ticket = m.levels.get? ticket
  price : m'.lastPrice.get? ticket = m.lastPrice.get? ticket

/-- The settings of a manager stay. -/
structure Kept (m m' : LadderManager) : Prop where
  step : m'.step = m.step
  max : m'.max = m.max
  symbol : m'.symbol = m.symbol

theorem Alike.register (alike : m.Alike m' pos.ticket) :
    (m.register pos).Alike (m'.register pos) pos.ticket := by
  have known : m'.levels.contains pos.ticket = m.levels.contains pos.ticket :=
    congrArg Option.isSome alike.level
  unfold LadderManager.register
  rw [known]
  split
  · exact alike
  · exact ⟨by simp, by simp⟩

theorem register_kept (m : LadderManager) (pos : Position) :
    m.Kept (m.register pos) := by
  unfold register
  split <;> exact ⟨rfl, rfl, rfl⟩

theorem Alike.fires_iff (kept : m.Kept m') (alike : m.Alike m' pos.ticket) :
    m'.Fires tick pos ↔ m.Fires tick pos := by
  have registered := alike.register
  have steps : (m'.register pos).step = (m.register pos).step :=
    (m'.register_kept pos).step.trans
      (kept.step.trans (m.register_kept pos).step.symm)
  unfold Fires Reaches levelOf baseOf Dict.getD
  rw [steps, kept.max, registered.level, registered.price]

theorem register_levelOf (m : LadderManager) (pos : Position) :
    (m.register pos).levels.get? pos.ticket = some (m.levelOf pos.ticket) := by
  unfold register levelOf Dict.getD
  split
  · rename_i known
    rcases Option.isSome_iff_exists.mp known with ⟨level, stored⟩
    rw [stored]
    rfl
  · rename_i unknown
    have fresh : m.levels.get? pos.ticket = none :=
      Option.not_isSome_iff_eq_none.mp unknown
    rw [fresh]
    simp

theorem register_others (m : LadderManager) (pos : Position) {ticket : Ticket}
    (apart : ticket ≠ pos.ticket) : m.Alike (m.register pos) ticket := by
  unfold register
  split
  · exact ⟨rfl, rfl⟩
  · exact ⟨Dict.get?_set_of_ne _ _ apart, Dict.get?_set_of_ne _ _ apart⟩

/-- What one visit does: its ticket is known afterwards, with one rung more if an
order was made for it; other tickets are as before. -/
structure Visited (m m' : LadderManager) (tick : Tick) (pos : Position)
    (entries : List LadderEntry) : Prop where
  kept : m.Kept m'
  own : m'.levels.get? pos.ticket =
    some (m.levelOf pos.ticket + entries.length)
  rungs : entries = [] ∨
    m.Fires tick pos ∧ entries.map LadderEntry.rung = [pos.ticket]
  others : ∀ {ticket}, ticket ≠ pos.ticket → m.Alike m' ticket

theorem visited_idle (m : LadderManager) (tick : Tick) (pos : Position) :
    m.Visited (m.register pos) tick pos [] where
  kept := m.register_kept pos
  own := m.register_levelOf pos
  rungs := .inl rfl
  others := m.register_others pos

theorem visited_climb (fires : m.Fires tick pos) (price : ℚ) (signal : Signal) :
    m.Visited ((m.register pos).climb pos.ticket price) tick pos
      [⟨pos.ticket, signal⟩] where
  kept :=
    have kept := m.register_kept pos
    ⟨kept.step, kept.max, kept.symbol⟩
  own := by
    have level : (m.register pos).levelOf pos.ticket = m.levelOf pos.ticket := by
      rw [levelOf, Dict.getD, register_levelOf]
      rfl
    rw [climb, Dict.get?_set_self, level]
    rfl
  rungs := .inr ⟨fires, rfl⟩
  others := fun apart => by
    have before := m.register_others pos apart
    exact ⟨(Dict.get?_set_of_ne _ _ apart).trans before.level,
      (Dict.get?_set_of_ne _ _ apart).trans before.price⟩

theorem visit_spec (m : LadderManager) (ctx : StrategyContext) (tick : Tick)
    (pos : Position) :
    m.Visited (m.visit ctx tick pos).1 tick pos (m.visit ctx tick pos).2 := by
  have same : (m.register pos).max = m.max := (m.register_kept pos).max
  by_cases full : m.max ≤ (m.register pos).levelOf pos.ticket
  · have done : m.visit ctx tick pos = (m.register pos, []) := by
      rw [← same] at full
      exact if_pos full
    rw [done]
    exact m.visited_idle tick pos
  · by_cases reached : (m.register pos).Reaches tick pos
    · have fires : m.Fires tick pos := ⟨not_le.mp full, reached⟩
      rw [← same] at full
      unfold visit
      dsimp only
      rw [if_neg full, if_pos reached]
      cases pos.side with
      | buy => exact visited_climb fires _ _
      | sell => exact visited_climb fires _ _
    · have done : m.visit ctx tick pos = (m.register pos, []) := by
        rw [← same] at full
        exact (if_neg full).trans (if_neg reached)
      rw [done]
      exact m.visited_idle tick pos

/-- What the whole loop does, for positions of different tickets. -/
structure VisitedAll (m m' : LadderManager) (tick : Tick)
    (positions : List Position) (entries : List LadderEntry) : Prop where
  kept : m.Kept m'
  /-- every visited ticket is known, with one rung more for each of its orders -/
  visited : ∀ ticket ∈ positions.map Position.ticket,
    m'.levels.get? ticket =
      some (m.levelOf ticket + (entries.map LadderEntry.rung).count ticket)
  others : ∀ ticket ∉ positions.map Position.ticket, m.Alike m' ticket
  /-- an order is for a rung that the tick reached -/
  fired : ∀ rung ∈ entries.map LadderEntry.rung,
    ∃ pos ∈ positions, pos.ticket = rung ∧ m.Fires tick pos
  single : (entries.map LadderEntry.rung).Nodup

section Rungs

variable {m m' : LadderManager} {tick : Tick} {pos : Position}
variable {entries : List LadderEntry}

/-- The orders of one visit are for its ticket, at a rung that the tick reached. -/
theorem Visited.rung (visited : m.Visited m' tick pos entries) {rung : Ticket}
    (member : rung ∈ entries.map LadderEntry.rung) :
    rung = pos.ticket ∧ m.Fires tick pos := by
  rcases visited.rungs with none | ⟨fires, single⟩
  · rw [none] at member
    cases member
  · rw [single] at member
    exact ⟨List.mem_singleton.mp member, fires⟩

theorem Visited.single (visited : m.Visited m' tick pos entries) :
    (entries.map LadderEntry.rung).Nodup := by
  rcases visited.rungs with none | ⟨-, single⟩
  · rw [none]
    exact List.nodup_nil
  · rw [single]
    exact List.nodup_singleton _

theorem Visited.count_own (visited : m.Visited m' tick pos entries) :
    (entries.map LadderEntry.rung).count pos.ticket = entries.length := by
  rcases visited.rungs with none | ⟨-, single⟩
  · rw [none]
    rfl
  · have length := congrArg List.length single
    rw [List.length_map] at length
    rw [length, single, List.count_singleton_self]
    rfl

theorem Visited.count_other (visited : m.Visited m' tick pos entries)
    {ticket : Ticket} (apart : ticket ≠ pos.ticket) :
    (entries.map LadderEntry.rung).count ticket = 0 :=
  List.count_eq_zero.mpr fun member => apart (visited.rung member).1

/-- One visit before the others, whose tickets are different. -/
theorem Visited.cons {last : LadderManager} {rest : List Position}
    {others : List LadderEntry} (one : m.Visited m' tick pos entries)
    (all : m'.VisitedAll last tick rest others)
    (unique : pos.ticket ∉ rest.map Position.ticket) :
    m.VisitedAll last tick (pos :: rest) (entries ++ others) := by
  -- no later order is for this ticket
  have later : pos.ticket ∉ others.map LadderEntry.rung := by
    intro again
    rcases all.fired _ again with ⟨other, member, same, -⟩
    exact unique (List.mem_map.mpr ⟨other, member, same⟩)
  constructor
  · exact ⟨all.kept.step.trans one.kept.step, all.kept.max.trans one.kept.max,
      all.kept.symbol.trans one.kept.symbol⟩
  · intro ticket member
    rw [List.map_append, List.count_append]
    rcases List.mem_cons.mp member with rfl | inside
    · rw [(all.others _ unique).level, one.own, one.count_own,
        List.count_eq_zero.mpr later]
      rfl
    · have other : ticket ≠ pos.ticket := by
        rintro rfl
        exact unique inside
      have level : m'.levelOf ticket = m.levelOf ticket :=
        congrArg (·.getD 0) (one.others other).level
      rw [all.visited ticket inside, level, one.count_other other, zero_add]
  · intro ticket outside
    rw [List.map_cons, List.mem_cons, not_or] at outside
    have first := one.others outside.1
    have second := all.others ticket outside.2
    exact ⟨second.level.trans first.level, second.price.trans first.price⟩
  · intro rung member
    rw [List.map_append] at member
    rcases List.mem_append.mp member with now | after
    · exact ⟨pos, List.mem_cons_self, (one.rung now).1.symm, (one.rung now).2⟩
    · rcases all.fired rung after with ⟨other, inside, same, fires⟩
      have differs : other.ticket ≠ pos.ticket := by
        intro equal
        exact unique (List.mem_map.mpr ⟨other, inside, equal⟩)
      exact ⟨other, List.mem_cons_of_mem _ inside, same,
        ((one.others differs).fires_iff one.kept).mp fires⟩
  · rw [List.map_append, List.nodup_append]
    refine ⟨one.single, all.single, ?_⟩
    intro rung now other after same
    subst same
    rw [(one.rung now).1] at after
    exact later after

end Rungs

theorem visitAll_spec (ctx : StrategyContext) (tick : Tick)
    (positions : List Position) (m : LadderManager)
    (unique : (positions.map Position.ticket).Nodup) :
    m.VisitedAll (visitAll ctx tick m positions).1 tick positions
      (visitAll ctx tick m positions).2 := by
  induction positions generalizing m with
  | nil =>
      constructor
      · exact ⟨rfl, rfl, rfl⟩
      · exact List.forall_mem_nil _
      · exact fun _ _ => ⟨rfl, rfl⟩
      · exact List.forall_mem_nil _
      · exact List.nodup_nil
  | cons pos rest ih =>
      rw [List.map_cons, List.nodup_cons] at unique
      have one := m.visit_spec ctx tick pos
      have all := ih (m.visit ctx tick pos).1 unique.2
      exact one.cons all unique.1

theorem purge_get? (m : LadderManager) (live : List Ticket) (ticket : Ticket) :
    (m.purge live).levels.get? ticket =
      if ticket ∈ live then m.levels.get? ticket else none := by
  rw [purge, Dict.get?_eraseAll]
  by_cases here : ticket ∈ live
  · rw [if_pos here, if_neg]
    intro gone
    exact of_decide_eq_true (List.mem_filter.mp gone).2 here
  · rw [if_neg here]
    split
    · rfl
    · rename_i kept
      cases stored : m.levels.get? ticket with
      | none => rfl
      | some level =>
          have known : ticket ∈ m.levels.keys :=
            m.levels.get?_isSome_iff.mp (by rw [stored]; rfl)
          exact absurd (List.mem_filter.mpr ⟨known, by simpa using here⟩) kept

end LadderManager

end StingerFx
