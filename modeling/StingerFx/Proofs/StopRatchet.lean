/-
Module: StingerFx.Proofs.StopRatchet
Layer: Proofs
Purpose: When two stop managers never loosen a stop. Each remembers only its own
  stops. The broker's stop ratchets as long as the break-even stop is no looser
  than what the trailing stop has set when it fires, and the trailing stop, once
  the mover has fired, advances to no looser a stop than the break-even one.
Trusted boundary: none (fully proved)
Main exports: StopDesk.Agrees, StopDesk.Ratchets, StopDesk.stops_ratchet,
  StopDesk.late_break_even_ratchets, StopDesk.break_even_loosens
-/
import StingerFx.Proofs.PositionView
import StingerFx.Runtime.StopDesk

namespace StingerFx

open Lib

namespace StopDesk

variable {s s' : StopDesk} {label : StopLabel}

/-- Of two moves of a ticket the later does not loosen the stop in force. -/
def Ratchets (s : StopDesk) : Prop :=
  s.moves.Pairwise fun one two =>
    one.ticket = two.ticket →
      ∃ old new, two.before = some old ∧ two.after = some new ∧
        two.side.NoLooser old new

/-- A trailing stop that advances is no looser than a break-even stop that was
set. -/
def TrailFits (s : StopDesk) (tick : Tick) (pos : Position) : Prop :=
  s.trailing.Advances tick pos → pos.ticket ∈ s.mover.fired →
    pos.side.NoLooser (s.mover.lockStop pos) (s.trailing.desired tick pos)

/-- A break-even stop that is about to be set is no looser than the best trailing
stop. -/
def MoverFits (s : StopDesk) (tick : Tick) (pos : Position) : Prop :=
  s.mover.Triggers tick pos →
    ∀ best ∈ s.trailing.bestSl.get? pos.ticket,
      pos.side.NoLooser best (s.mover.lockStop pos)

/-- Neither manager undercuts the other. -/
def Agrees (s : StopDesk) : StopLabel → Prop
  | .trail tick _ =>
      watches s.trailing.symbol tick.symbol →
        ∀ pos ∈ forSymbol s.runner.positions tick.symbol, s.TrailFits tick pos
  | .breakEven tick _ =>
      watches s.mover.symbol tick.symbol →
        ∀ pos ∈ forSymbol s.runner.positions tick.symbol, s.MoverFits tick pos
  | .opens _ | .closes _ | .route | .handle _ => True

/-! ### The invariant -/

/-- Side and open price are those with which the ticket was opened. -/
def Known (opened : Dict Ticket Position) (pos : Position) : Prop :=
  ∃ first, opened.get? pos.ticket = some first ∧ pos.side = first.side ∧
    pos.openPrice = first.openPrice

/-- The stops that were carried out for a ticket. -/
def applied (s : StopDesk) (ticket : Ticket) : List ℚ :=
  s.moves.filterMap fun move =>
    if move.ticket = ticket then move.after else none

/-- The stops that are still asked for. -/
def asked (s : StopDesk) (ticket : Ticket) : List ℚ :=
  s.requests.filterMap fun request =>
    if request.ticket = ticket then request.sl else none

/-- All stops of a ticket, in the order in which the managers made them. -/
def chain (s : StopDesk) (ticket : Ticket) : List ℚ :=
  s.applied ticket ++ s.asked ticket

/-- What holds of an open position: its stops tighten, the last one is remembered
by the manager that made it, and the last one carried out is in force. -/
structure Tight (s : StopDesk) (pos : Position) : Prop where
  ordered : (s.chain pos.ticket).Pairwise pos.side.NoLooser
  memory : ∀ last ∈ (s.chain pos.ticket).getLast?,
    s.trailing.bestSl.get? pos.ticket = some last ∨
      pos.ticket ∈ s.mover.fired ∧ last = s.mover.lockStop pos
  inForce : ∀ last ∈ (s.applied pos.ticket).getLast?, pos.sl = some last

structure Steady (s : StopDesk) : Prop where
  idle : s.broker.pending = .empty
  router : s.router.expectedMagic s.ctx.strategyId = s.runner.magic
  tidy : s.runner.Tidy
  named : ∀ {ticket pos}, s.broker.positions.get? ticket = some pos →
    pos.ticket = ticket ∧ pos.magic = s.runner.magic ∧ Known s.opened pos
  view : ∀ pos ∈ s.runner.positions, Known s.opened pos
  waiting : ∀ event ∈ s.runner.waiting, ∀ change,
    changeOf s.runner.id s.runner.magic event = some change →
      ∀ pos ∈ change.outcome, Known s.opened pos
  requests : ∀ request ∈ s.requests, request.strategyId = s.ctx.strategyId ∧
    (∃ stop, request.sl = some stop) ∧
      s.opened.get? request.ticket ≠ none
  moves : ∀ move ∈ s.moves, s.opened.get? move.ticket ≠ none ∧
    ∃ stop, move.after = some stop
  tight : ∀ {ticket pos}, s.broker.positions.get? ticket = some pos → s.Tight pos
  ratchets : s.Ratchets

theorem steady_boot (ctx : StrategyContext) (magic : Int)
    (trailing : TrailingStopManager) (mover : BreakEvenMover)
    (initialBalance : ℚ) :
    (boot ctx magic trailing mover initialBalance).Steady where
  idle := rfl
  router := by
    have own : (Dict.empty.set ctx.strategyId magic).get? ctx.strategyId =
        some magic := Dict.get?_set_self _ _ _
    exact congrArg (·.getD 0) own
  tidy := PositionTracking.tidy_start ctx.strategyId magic
  named := fun stored => by cases stored
  view := List.forall_mem_nil _
  waiting := List.forall_mem_nil _
  requests := List.forall_mem_nil _
  moves := List.forall_mem_nil _
  tight := fun stored => by cases stored
  ratchets := .nil

/-! ### Facts of known positions -/

theorem Known.grow {opened : Dict Ticket Position} {pos first : Position}
    {ticket : Ticket} (known : Known opened pos)
    (fresh : opened.get? ticket = none) :
    Known (opened.set ticket first) pos := by
  rcases known with ⟨origin, stored, side, price⟩
  have apart : pos.ticket ≠ ticket := by
    intro same
    rw [same, fresh] at stored
    cases stored
  exact ⟨origin, (Dict.get?_set_of_ne _ _ apart).trans stored, side, price⟩

/-- Two positions of a ticket have the same side and open price. -/
theorem Known.agree {opened : Dict Ticket Position} {one two : Position}
    (first : Known opened one) (second : Known opened two)
    (same : one.ticket = two.ticket) :
    one.side = two.side ∧ one.openPrice = two.openPrice := by
  rcases first with ⟨origin, stored, side, price⟩
  rcases second with ⟨other, stored', side', price'⟩
  rw [← same, stored] at stored'
  cases stored'
  exact ⟨side.trans side'.symm, price.trans price'.symm⟩

theorem lockStop_congr {mover : BreakEvenMover} {one two : Position}
    (same : one.side = two.side ∧ one.openPrice = two.openPrice) :
    mover.lockStop one = mover.lockStop two := by
  unfold BreakEvenMover.lockStop
  rw [same.1, same.2]

theorem asked_append (s : StopDesk) (more : List ModifyOrderRequest)
    (ticket : Ticket) :
    ({ s with requests := s.requests ++ more } : StopDesk).asked ticket =
      s.asked ticket ++ more.filterMap fun request =>
        if request.ticket = ticket then request.sl else none :=
  List.filterMap_append

/-! ### A manager asks for a stop -/

/-- One more stop for a position of the view, which its manager remembers and which
is no looser than the last one. -/
theorem Steady.ask (steady : Steady s) {pos : Position} {stop : ℚ}
    {request : ModifyOrderRequest} (trailing : TrailingStopManager)
    (mover : BreakEvenMover) (shown : pos ∈ s.runner.positions)
    (owner : request.strategyId = s.ctx.strategyId)
    (ticket : request.ticket = pos.ticket) (sl : request.sl = some stop)
    (kept : ∀ other ≠ pos.ticket,
      trailing.bestSl.get? other = s.trailing.bestSl.get? other ∧
        (other ∈ s.mover.fired → other ∈ mover.fired))
    (lock : mover.lock = s.mover.lock)
    (remembered : trailing.bestSl.get? pos.ticket = some stop ∨
      pos.ticket ∈ mover.fired ∧ stop = mover.lockStop pos)
    (fits : ∀ held, s.broker.positions.get? pos.ticket = some held →
      ∀ last ∈ (s.chain pos.ticket).getLast?, pos.side.NoLooser last stop) :
    Steady
      { s with
        trailing := trailing
        mover := mover
        requests := s.requests ++ [request] } :=
  { steady with
    requests := by
      intro other member
      rcases List.mem_append.mp member with old | new
      · exact steady.requests other old
      · rw [List.mem_singleton.mp new]
        refine ⟨owner, ⟨stop, sl⟩, ?_⟩
        rcases steady.view pos shown with ⟨first, stored, -, -⟩
        rw [ticket, stored]
        exact Option.some_ne_none first
    tight := by
      intro held found stored
      have tight := steady.tight stored
      rcases steady.named stored with ⟨sameTicket, -, known⟩
      have chains : ∀ other : Ticket,
          ({ s with
            trailing := trailing
            mover := mover
            requests := s.requests ++ [request] } : StopDesk).chain other =
          s.chain other ++ if pos.ticket = other then [stop] else [] := by
        intro other
        have longer := asked_append s [request] other
        simp only [List.filterMap_cons, List.filterMap_nil, ticket, sl] at longer
        unfold chain
        rw [List.append_assoc]
        refine congrArg (s.applied other ++ ·) (longer.trans ?_)
        by_cases same : pos.ticket = other <;> simp [same]
      have locks : mover.lockStop found = s.mover.lockStop found := by
        unfold BreakEvenMover.lockStop
        rw [lock]
      by_cases same : pos.ticket = found.ticket
      · have facts := (steady.view pos shown).agree known same
        refine ⟨?_, ?_, tight.inForce⟩
        · rw [chains, if_pos same]
          apply Side.NoLooser.pairwise_concat tight.ordered
          intro last final
          rw [← facts.1]
          rw [← sameTicket, ← same] at stored
          rw [← same] at final
          exact fits found stored last final
        · intro last final
          rw [chains, if_pos same, List.getLast?_concat] at final
          cases final
          rw [← same]
          refine remembered.imp_right fun fired => ⟨fired.1, ?_⟩
          rw [fired.2]
          exact lockStop_congr facts
      · refine ⟨?_, ?_, tight.inForce⟩
        · rw [chains, if_neg same, List.append_nil]
          exact tight.ordered
        · intro last final
          rw [chains, if_neg same, List.append_nil] at final
          rcases kept found.ticket (Ne.symm same) with ⟨best, fired⟩
          dsimp only
          rw [best, locks]
          exact (tight.memory last final).imp_right fun old =>
            ⟨fired old.1, old.2⟩ }

/-- The trailing stop's order for one position. -/
theorem Steady.advance (steady : Steady s) {pos : Position} {tick : Tick}
    {ctx : StrategyContext} (same : ctx.strategyId = s.ctx.strategyId)
    (shown : pos ∈ s.runner.positions) (fits : s.TrailFits tick pos) :
    Steady
      { s with
        trailing := (s.trailing.maybeAdvance ctx tick pos).1
        requests :=
          s.requests ++ (s.trailing.maybeAdvance ctx tick pos).2 } := by
  unfold TrailingStopManager.maybeAdvance
  split
  · rename_i advances
    apply steady.ask
      { s.trailing with
        bestSl := s.trailing.bestSl.set pos.ticket
          (s.trailing.desired tick pos) }
      s.mover shown same rfl rfl ?_ rfl (.inl (Dict.get?_set_self _ _ _))
    · intro held stored last final
      have facts : pos.side = held.side ∧ pos.openPrice = held.openPrice :=
        (steady.view pos shown).agree (steady.named stored).2.2
          (steady.named stored).1.symm
      have heldTicket := (steady.named stored).1
      rw [← heldTicket] at final
      rcases (steady.tight stored).memory last final with best | ⟨fired, lock⟩
      · rw [heldTicket] at best
        have beats : s.trailing.prevBest pos = some last := by
          rw [TrailingStopManager.prevBest, best]
          rfl
        unfold TrailingStopManager.Advances at advances
        unfold Side.NoLooser
        cases side : pos.side with
        | buy =>
            rw [side] at advances
            exact (not_le.mp (advances.2 last beats)).le
        | sell =>
            rw [side] at advances
            exact (not_le.mp (advances.2 last beats)).le
      · rw [lock, ← lockStop_congr facts]
        rw [heldTicket] at fired
        exact fits advances fired
    · intro other apart
      exact ⟨Dict.get?_set_of_ne _ _ apart, id⟩
  · rw [List.append_nil]
    exact { steady with tight := fun stored => { steady.tight stored with } }

/-- The break-even mover's order for one position. -/
theorem Steady.fire (steady : Steady s) {pos : Position} {tick : Tick}
    {ctx : StrategyContext} (same : ctx.strategyId = s.ctx.strategyId)
    (shown : pos ∈ s.runner.positions) (fits : s.MoverFits tick pos) :
    Steady
      { s with
        mover := (s.mover.visit ctx tick pos).1
        requests := s.requests ++ (s.mover.visit ctx tick pos).2 } := by
  unfold BreakEvenMover.visit
  split
  · rename_i triggers
    apply steady.ask s.trailing
      { s.mover with fired := pos.ticket :: s.mover.fired }
      shown same rfl rfl ?_ rfl (.inr ⟨List.mem_cons_self, rfl⟩)
    · intro held stored last final
      have heldTicket := (steady.named stored).1
      rw [← heldTicket] at final
      rcases (steady.tight stored).memory last final with best | ⟨fired, -⟩
      · rw [heldTicket] at best
        exact fits triggers last best
      · rw [heldTicket] at fired
        exact absurd fired triggers.1
    · intro other _
      exact ⟨rfl, List.mem_cons_of_mem _⟩
  · rw [List.append_nil]
    exact { steady with tight := fun stored => { steady.tight stored with } }

/-- What a visit of a position reads of the trailing stop. -/
structure SameTrail (first m : TrailingStopManager) (pos : Position) : Prop where
  best : m.bestSl.get? pos.ticket = first.bestSl.get? pos.ticket
  distance : m.distance = first.distance
  activate : m.activate = first.activate

theorem SameTrail.visit {first m : TrailingStopManager} {one two : Position}
    (ctx : StrategyContext) (tick : Tick) (apart : one.ticket ≠ two.ticket)
    (same : SameTrail first m two) :
    SameTrail first (m.maybeAdvance ctx tick one).1 two := by
  unfold TrailingStopManager.maybeAdvance
  split
  · exact
      ⟨(Dict.get?_set_of_ne _ _ (Ne.symm apart)).trans same.best, same.distance,
        same.activate⟩
  · exact same

theorem SameTrail.desired {first m : TrailingStopManager} {pos : Position}
    (same : SameTrail first m pos) (tick : Tick) :
    m.desired tick pos = first.desired tick pos := by
  unfold TrailingStopManager.desired
  rw [same.distance]

theorem SameTrail.advances_iff {first m : TrailingStopManager} {pos : Position}
    (same : SameTrail first m pos) (tick : Tick) :
    m.Advances tick pos ↔ first.Advances tick pos := by
  unfold TrailingStopManager.Advances TrailingStopManager.prevBest
  rw [same.best, same.activate, same.desired]

/-- The positions of a symbol in the view have different tickets. -/
theorem Steady.apart (steady : Steady s) (symbol : Symbol) :
    (forSymbol s.runner.positions symbol).Pairwise
      fun one two => one.ticket ≠ two.ticket := by
  have single := steady.tidy.single
  rw [List.Nodup, List.pairwise_map] at single
  exact single.sublist List.filter_sublist

theorem forSymbol_subset {positions : List Position} {symbol : Symbol} :
    ∀ pos ∈ forSymbol positions symbol, pos ∈ positions :=
  fun _ member => (List.mem_filter.mp member).1

theorem Steady.trail (steady : Steady s) {tick : Tick} {ctx : StrategyContext}
    (same : ctx.strategyId = s.ctx.strategyId)
    (fits : watches s.trailing.symbol tick.symbol →
      ∀ pos ∈ forSymbol s.runner.positions tick.symbol, s.TrailFits tick pos) :
    Steady
      { s with
        trailing := (s.trailing.onTick ctx s.runner.positions tick).1
        requests := s.requests ++
          (s.trailing.onTick ctx s.runner.positions tick).2 } := by
  unfold TrailingStopManager.onTick
  split
  · rename_i watching
    apply visitAll_induct SameTrail
      (fun m out => Steady { s with trailing := m, requests := s.requests ++ out })
      (steady.apart tick.symbol) (fun m pos => ⟨rfl, rfl, rfl⟩)
    · exact fun apart same => same.visit ctx tick apart
    · intro m out pos member same' inv
      rw [← List.append_assoc]
      apply inv.advance same (forSymbol_subset pos member)
      intro advances fired
      dsimp only at advances ⊢
      rw [same'.desired]
      exact fits watching pos member ((same'.advances_iff tick).mp advances) fired
    · rw [List.append_nil]
      exact steady
  · rw [List.append_nil]
    exact steady

/-- What a visit of a position reads of the mover. -/
structure SameMover (first m : BreakEvenMover) (pos : Position) : Prop where
  fired : pos.ticket ∈ m.fired ↔ pos.ticket ∈ first.fired
  trigger : m.trigger = first.trigger
  lock : m.lock = first.lock

theorem SameMover.visit {first m : BreakEvenMover} {one two : Position}
    (ctx : StrategyContext) (tick : Tick) (apart : one.ticket ≠ two.ticket)
    (same : SameMover first m two) :
    SameMover first (m.visit ctx tick one).1 two := by
  unfold BreakEvenMover.visit
  split
  · refine ⟨?_, same.trigger, same.lock⟩
    rw [List.mem_cons, or_iff_right (Ne.symm apart)]
    exact same.fired
  · exact same

theorem SameMover.triggers_iff {first m : BreakEvenMover} {pos : Position}
    (same : SameMover first m pos) (tick : Tick) :
    m.Triggers tick pos ↔ first.Triggers tick pos := by
  unfold BreakEvenMover.Triggers
  rw [same.fired, same.trigger]

theorem Steady.breakEven (steady : Steady s) {tick : Tick}
    {ctx : StrategyContext} (same : ctx.strategyId = s.ctx.strategyId)
    (fits : watches s.mover.symbol tick.symbol →
      ∀ pos ∈ forSymbol s.runner.positions tick.symbol, s.MoverFits tick pos) :
    Steady
      { s with
        mover := (s.mover.onTick ctx s.runner.positions tick).1
        requests := s.requests ++
          (s.mover.onTick ctx s.runner.positions tick).2 } := by
  unfold BreakEvenMover.onTick
  split
  · rename_i watching
    apply visitAll_induct SameMover
      (fun m out => Steady { s with mover := m, requests := s.requests ++ out })
      (steady.apart tick.symbol) (fun m pos => ⟨Iff.rfl, rfl, rfl⟩)
    · exact fun apart same => same.visit ctx tick apart
    · intro m out pos member same' inv
      rw [← List.append_assoc]
      apply inv.fire same (forSymbol_subset pos member)
      intro triggers best set
      have locks : m.lockStop pos = s.mover.lockStop pos := by
        unfold BreakEvenMover.lockStop
        rw [same'.lock]
      dsimp only at triggers ⊢
      rw [locks]
      exact fits watching pos member ((same'.triggers_iff tick).mp triggers)
        best set
    · rw [List.append_nil]
      exact steady
  · rw [List.append_nil]
    exact steady

/-! ### The broker's side -/

/-- The position with the stops of a request. -/
def moved (request : ModifyOrderRequest) (pos : Position) : Position :=
  { pos with
    sl := request.sl <|> (request.sl <|> pos.sl)
    tp := request.tp <|> (request.tp <|> pos.tp) }

/-- The router carries out a request on an open position of the strategy. -/
theorem handleModify_open (steady : Steady s) {request : ModifyOrderRequest}
    {pos : Position} (owner : request.strategyId = s.ctx.strategyId)
    (stored : s.broker.positions.get? request.ticket = some pos) :
    handleModify (simManagePort SimConfig.plain) s.router request s.broker =
      ⟨{ s.broker with
          positions := s.broker.positions.set request.ticket
            (moved request pos) },
        [.orderModified (moved request pos) request.reason], .ok .done⟩ := by
  have noPending : findOrder s.broker.getOpenOrders request.ticket = none := by
    rw [SimBroker.getOpenOrders, steady.idle]
    rfl
  have found : findPosition s.broker.getPositions request.ticket = some pos :=
    (s.broker.positions.find?_values
      fun known => (steady.named known).1).trans stored
  have after : findPosition (s.broker.positions.set request.ticket
      (moved request pos)).values request.ticket = some (moved request pos) := by
    have named : ∀ {key value},
        (s.broker.positions.set request.ticket (moved request pos)).get? key =
          some value → value.ticket = key := by
      intro key value there
      rw [Dict.get?_set] at there
      split at there
      · rename_i same
        cases there
        exact (steady.named stored).1.trans same.symm
      · exact (steady.named there).1
    exact (Dict.find?_values _ named).trans (Dict.get?_set_self _ _ _)
  have magic : ¬ pos.magic ≠ s.router.expectedMagic request.strategyId := by
    rw [owner, steady.router]
    exact not_not.mpr (steady.named stored).2.1
  have none : s.broker.pending.get? request.ticket = none := by
    rw [steady.idle]
    rfl
  have modified : s.broker.modifyOrder request.ticket
      { sl := request.sl <|> pos.sl
        tp := request.tp <|> pos.tp
        price := Option.none
        volume := Option.none } =
      SimBroker.returns
        { s.broker with
          positions := s.broker.positions.set request.ticket
            (moved request pos) }
        ⟨true, some request.ticket, .submitted, Option.none, Option.none⟩ := by
    simp only [SimBroker.modifyOrder, none, stored]
    congr 4
    cases h : request.sl <;> cases h' : request.tp <;>
      simp [OrderChanges.amendPosition, moved, h, h']
  unfold handleModify
  simp only [simManagePort, BrokerCall.returns_andThen, noPending, found]
  unfold modifyOpen
  rw [if_neg magic]
  simp only [SimBroker.asCall, modified, SimBroker.returns, BrokerCall.andThen,
    whenAccepted, BrokerCall.returns, SimBroker.getPositions, after]
  rfl

/-- A request on a position that is gone. -/
theorem handleModify_gone (steady : Steady s) {request : ModifyOrderRequest}
    (gone : s.broker.positions.get? request.ticket = none) :
    handleModify (simManagePort SimConfig.plain) s.router request s.broker =
      .returns s.broker (.refused .unknownTicket) := by
  have noPending : findOrder s.broker.getOpenOrders request.ticket = none := by
    rw [SimBroker.getOpenOrders, steady.idle]
    rfl
  have missing : findPosition s.broker.getPositions request.ticket = none :=
    (s.broker.positions.find?_values
      fun known => (steady.named known).1).trans gone
  unfold handleModify
  simp only [simManagePort, BrokerCall.returns_andThen, noPending, missing]

/-- An event that joins the runner's queues. -/
theorem Steady.hear {event : PositionEvent} {opened : Dict Ticket Position}
    {runner : PositionRunner}
    (waiting : ∀ event ∈ runner.waiting, ∀ change,
      changeOf runner.id runner.magic event = some change →
        ∀ pos ∈ change.outcome, Known opened pos)
    (known : ∀ change, changeOf runner.id runner.magic event = some change →
      ∀ pos ∈ change.outcome, Known opened pos) :
    ∀ heard ∈ receivePosition runner.waiting event, ∀ change,
      changeOf runner.id runner.magic heard = some change →
        ∀ pos ∈ change.outcome, Known opened pos := by
  intro heard member
  rcases PositionTracking.receivePosition_split runner.waiting event with ⟨kept, same, old⟩
  rw [same] at member
  rcases List.mem_append.mp member with before | new
  · exact waiting heard (old.subset before)
  · rw [List.mem_singleton.mp new]
    exact known

/-- The oldest request leaves the bus. -/
theorem asked_cons {request : ModifyOrderRequest}
    {rest : List ModifyOrderRequest} (queue : s.requests = request :: rest)
    (ticket : Ticket) :
    s.asked ticket =
      (if request.ticket = ticket then request.sl else none).toList ++
        ({ s with requests := rest } : StopDesk).asked ticket := by
  unfold asked
  rw [queue, List.filterMap_cons]
  cases (if request.ticket = ticket then request.sl else none) <;> rfl

/-- The state once a request on an open position is carried out. -/
def carried (s : StopDesk) (request : ModifyOrderRequest)
    (rest : List ModifyOrderRequest) (pos : Position) (stop : ℚ) : StopDesk :=
  { s with
    requests := rest
    broker :=
      { s.broker with
        positions := s.broker.positions.set request.ticket (moved request pos) }
    runner :=
      { s.runner with
        waiting := receivePosition s.runner.waiting
          (.modified (moved request pos)) }
    moves := s.moves ++ [⟨request.ticket, pos.side, pos.sl, some stop⟩] }

theorem applied_carried (request : ModifyOrderRequest)
    (rest : List ModifyOrderRequest) (pos : Position) (stop : ℚ)
    (ticket : Ticket) :
    (s.carried request rest pos stop).applied ticket =
      s.applied ticket ++ if request.ticket = ticket then [stop] else [] := by
  unfold applied carried
  rw [List.filterMap_append]
  by_cases same : request.ticket = ticket <;> simp [same]

/-- A stop moves from what is asked for to what is carried out. -/
theorem chain_carried {request : ModifyOrderRequest}
    {rest : List ModifyOrderRequest} {stop : ℚ}
    (queue : s.requests = request :: rest) (sl : request.sl = some stop)
    (pos : Position) (ticket : Ticket) :
    (s.carried request rest pos stop).chain ticket = s.chain ticket := by
  have later : (s.carried request rest pos stop).asked ticket =
      ({ s with requests := rest } : StopDesk).asked ticket := rfl
  unfold chain
  rw [applied_carried, later, asked_cons queue, List.append_assoc, sl]
  by_cases same : request.ticket = ticket <;> simp [same]

/-- If a ticket was moved before, the stop in force is the last one carried out,
and the next in the chain is no looser. -/
theorem Steady.next (steady : Steady s) {request : ModifyOrderRequest}
    {rest : List ModifyOrderRequest} {pos : Position} {stop : ℚ}
    (queue : s.requests = request :: rest) (sl : request.sl = some stop)
    (stored : s.broker.positions.get? request.ticket = some pos)
    {move : StopMove} (member : move ∈ s.moves)
    (same : move.ticket = request.ticket) :
    ∃ old, pos.sl = some old ∧ pos.side.NoLooser old stop := by
  have tight := steady.tight stored
  have named := (steady.named stored).1
  rcases (steady.moves move member).2 with ⟨after, done⟩
  have there : after ∈ s.applied pos.ticket := by
    rw [named]
    exact List.mem_filterMap.mpr ⟨move, member, by rw [if_pos same, done]⟩
  cases final : (s.applied pos.ticket).getLast? with
  | none =>
      rw [List.getLast?_eq_none_iff.mp final] at there
      cases there
  | some old =>
      refine ⟨old, tight.inForce old final, ?_⟩
      have ordered := tight.ordered
      rw [chain, List.pairwise_append] at ordered
      apply ordered.2.2 old (List.mem_of_getLast? final)
      rw [asked_cons queue, if_pos named.symm, sl]
      exact List.mem_append_left _ (List.mem_singleton.mpr rfl)

theorem Steady.carry (steady : Steady s) {request : ModifyOrderRequest}
    {rest : List ModifyOrderRequest} {pos : Position} {stop : ℚ}
    (queue : s.requests = request :: rest) (sl : request.sl = some stop)
    (stored : s.broker.positions.get? request.ticket = some pos) :
    Steady (s.carried request rest pos stop) := by
  have named := steady.named stored
  have known : Known s.opened (moved request pos) := named.2.2
  have newStop : (moved request pos).sl = some stop := by
    rw [moved, sl]
    rfl
  have own := steady.requests request (by rw [queue]; exact List.mem_cons_self)
  exact
    { idle := steady.idle
      router := steady.router
      tidy := ⟨steady.tidy.own, steady.tidy.single⟩
      named := by
        intro ticket found there
        dsimp only [carried] at there
        rw [Dict.get?_set] at there
        split at there
        · rename_i same
          cases there
          exact ⟨named.1.trans same.symm, named.2.1, known⟩
        · exact steady.named there
      view := steady.view
      waiting := by
        apply Steady.hear steady.waiting
        intro change found
        simp only [changeOf] at found
        split at found
        · cases found
          intro shown same
          cases same
          exact known
        · cases found
      requests := by
        intro other member
        apply steady.requests other
        rw [queue]
        exact List.mem_cons_of_mem _ member
      moves := by
        intro move member
        rcases List.mem_append.mp member with old | new
        · exact steady.moves move old
        · rw [List.mem_singleton.mp new]
          exact ⟨own.2.2, stop, rfl⟩
      tight := by
        intro ticket found there
        dsimp only [carried] at there
        rw [Dict.get?_set] at there
        split at there
        · cases there
          have tight := steady.tight stored
          refine ⟨?_, ?_, ?_⟩
          · rw [chain_carried queue sl]
            exact tight.ordered
          · rw [chain_carried queue sl]
            exact tight.memory
          · intro last final
            have here : request.ticket = (moved request pos).ticket :=
              named.1.symm
            rw [applied_carried, if_pos here, List.getLast?_concat] at final
            cases final
            exact newStop
        · rename_i other
          have tight := steady.tight there
          have apart : ¬ request.ticket = found.ticket := by
            rw [(steady.named there).1]
            exact fun same => other same.symm
          refine ⟨?_, ?_, ?_⟩
          · rw [chain_carried queue sl]
            exact tight.ordered
          · rw [chain_carried queue sl]
            exact tight.memory
          · rw [applied_carried, if_neg apart, List.append_nil]
            exact tight.inForce
      ratchets := by
        apply List.pairwise_append.mpr
        refine ⟨steady.ratchets, List.pairwise_singleton _ _, ?_⟩
        intro one member two there same
        rw [List.mem_singleton.mp there] at same ⊢
        rcases steady.next queue sl stored member same with ⟨old, held, bound⟩
        exact ⟨old, stop, held, rfl, bound⟩ }

theorem Steady.route (steady : Steady s) {request : ModifyOrderRequest}
    {rest : List ModifyOrderRequest} (queue : s.requests = request :: rest) :
    Steady ({ s with requests := rest }.applyRequest request) := by
  have own := steady.requests request (by rw [queue]; exact List.mem_cons_self)
  rcases own with ⟨owner, ⟨stop, sl⟩, -⟩
  have fewer : ∀ other ∈ rest, other ∈ s.requests := by
    rw [queue]
    exact fun other member => List.mem_cons_of_mem _ member
  cases stored : s.broker.positions.get? request.ticket with
  | none =>
      have same : { s with requests := rest }.applyRequest request =
          { s with requests := rest } := by
        simp only [applyRequest, handleModify_gone steady stored,
          BrokerCall.returns, modifiedEvents, List.filterMap_nil,
          List.foldl_nil]
      rw [same]
      exact
        { steady with
          requests := fun other member => steady.requests other (fewer other member)
          tight := by
            intro ticket pos found
            have apart : request.ticket ≠ pos.ticket := by
              intro same
              have there : s.broker.positions.get? pos.ticket = some pos := by
                rw [(steady.named found).1]
                exact found
              rw [← same, stored] at there
              cases there
            have tight := steady.tight found
            have chains : ({ s with requests := rest } : StopDesk).chain
                pos.ticket = s.chain pos.ticket := by
              unfold chain
              rw [asked_cons queue, if_neg apart]
              rfl
            refine ⟨?_, ?_, tight.inForce⟩
            · rw [chains]
              exact tight.ordered
            · rw [chains]
              exact tight.memory }
  | some pos =>
      have newStop : (moved request pos).sl = some stop := by
        rw [moved, sl]
        rfl
      have same : { s with requests := rest }.applyRequest request =
          s.carried request rest pos stop := by
        simp only [applyRequest, handleModify_open steady owner stored,
          modifiedEvents, List.filterMap_cons, List.filterMap_nil,
          List.foldl_cons, List.foldl_nil, stored, stopOf, Dict.get?_set_self,
          Option.bind_some, newStop, carried]
      rw [same]
      exact steady.carry queue sl stored

/-! ### Positions come and go -/

theorem Steady.open (steady : Steady s) {order : Order} {pos : Position}
    (opened : order.opened? = some pos)
    (fresh : s.opened.get? order.ticket = none)
    (magic : order.magic = s.runner.magic) :
    Steady
      { s with
        broker :=
          { s.broker with
            positions := s.broker.positions.set order.ticket pos }
        opened := s.opened.set order.ticket pos
        runner :=
          { s.runner with
            waiting := receivePosition s.runner.waiting (.filled order) } } := by
  rcases opened?_spec opened with ⟨ticket, sameMagic, -⟩
  have known : Known (s.opened.set order.ticket pos) pos :=
    ⟨pos, by rw [ticket]; exact Dict.get?_set_self _ _ _, rfl, rfl⟩
  have there : ∀ other, s.opened.get? other ≠ none →
      (s.opened.set order.ticket pos).get? other ≠ none := by
    intro other old
    rw [Dict.get?_set]
    split
    · exact Option.some_ne_none pos
    · exact old
  have unmoved : s.applied order.ticket = [] := by
    apply List.filterMap_eq_nil_iff.mpr
    intro move member
    apply if_neg
    intro same
    exact (steady.moves move member).1 (by rw [same]; exact fresh)
  have unasked : s.asked order.ticket = [] := by
    apply List.filterMap_eq_nil_iff.mpr
    intro request member
    apply if_neg
    intro same
    exact (steady.requests request member).2.2 (by rw [same]; exact fresh)
  exact
    { idle := steady.idle
      router := steady.router
      tidy := ⟨steady.tidy.own, steady.tidy.single⟩
      named := by
        intro key found stored
        dsimp only at stored
        rw [Dict.get?_set] at stored
        split at stored
        · rename_i same
          cases stored
          exact ⟨ticket.trans same.symm, sameMagic.trans magic, known⟩
        · rcases steady.named stored with ⟨named, own, old⟩
          exact ⟨named, own, old.grow fresh⟩
      view := fun shown member => (steady.view shown member).grow fresh
      waiting := by
        apply Steady.hear
        · intro event member change found shown same
          exact (steady.waiting event member change found shown same).grow fresh
        · intro change found
          simp only [changeOf] at found
          split at found
          · rw [opened] at found
            cases found
            intro shown same
            cases same
            exact known
          · cases found
      requests := by
        intro request member
        rcases steady.requests request member with ⟨owner, asks, old⟩
        exact ⟨owner, asks, there _ old⟩
      moves := by
        intro move member
        rcases steady.moves move member with ⟨old, after⟩
        exact ⟨there _ old, after⟩
      tight := by
        intro key found stored
        dsimp only at stored
        rw [Dict.get?_set] at stored
        split at stored
        · cases stored
          have nothing : s.chain pos.ticket = [] := by
            rw [chain, ticket, unmoved, unasked]
            rfl
          have none : s.applied pos.ticket = [] := by
            rw [ticket]
            exact unmoved
          refine ⟨?_, ?_, ?_⟩
          · exact nothing ▸ List.Pairwise.nil
          · intro last final
            have final' : last ∈ (s.chain pos.ticket).getLast? := final
            rw [nothing] at final'
            cases final'
          · intro last final
            have final' : last ∈ (s.applied pos.ticket).getLast? := final
            rw [none] at final'
            cases final'
        · exact { steady.tight stored with }
      ratchets := steady.ratchets }

theorem Steady.close (steady : Steady s) (ticket : Ticket) (pos : Position) :
    Steady
      { s with
        broker :=
          { s.broker with positions := s.broker.positions.erase ticket }
        runner :=
          { s.runner with
            waiting := receivePosition s.runner.waiting (.closed pos) } } := by
  have before : ∀ {key found},
      (s.broker.positions.erase ticket).get? key = some found →
        s.broker.positions.get? key = some found := by
    intro key found there
    rw [Dict.get?_erase] at there
    split at there
    · cases there
    · exact there
  exact
    { steady with
      tidy := ⟨steady.tidy.own, steady.tidy.single⟩
      named := fun there => steady.named (before there)
      waiting := by
        apply Steady.hear steady.waiting
        intro change found
        simp only [changeOf] at found
        split at found
        · cases found
          intro shown none
          cases none
        · cases found
      tight := fun there => { steady.tight (before there) with } }

/-- The view after an event is made of known positions. -/
theorem Steady.listen (steady : Steady s) {kind : EventKind}
    {event : PositionEvent} {rest : List PositionEvent}
    (taken : takeKind kind s.runner.waiting = some (event, rest)) :
    Steady { s with runner := { s.runner with waiting := rest }.handle event } := by
  rcases takeKind_spec taken with ⟨front, back, whole, same, -, -⟩
  have inside : event ∈ s.runner.waiting := by
    rw [whole]
    simp
  have fewer : ∀ other ∈ rest, other ∈ s.runner.waiting := by
    intro other member
    rw [whole]
    rw [same] at member
    rcases List.mem_append.mp member with left | right
    · exact List.mem_append_left _ left
    · exact List.mem_append_right _ (List.mem_cons_of_mem _ right)
  have quiet : Steady { s with runner := { s.runner with waiting := rest } } :=
    { steady with
      tidy := ⟨steady.tidy.own, steady.tidy.single⟩
      waiting := fun other member => steady.waiting other (fewer other member)
      tight := fun there => { steady.tight there with } }
  have tidy : ({ s.runner with waiting := rest } : PositionRunner).Tidy :=
    quiet.tidy
  cases active : ({ s.runner with waiting := rest } :
      PositionRunner).flags.active with
  | false =>
      rw [PositionRunner.handle_idle active]
      exact quiet
  | true =>
      rw [PositionRunner.handle_active tidy active]
      dsimp only
      cases found : changeOf s.runner.id s.runner.magic event with
      | none => exact quiet
      | some change =>
          rcases changeOf_spec found with ⟨named, -, outcome⟩
          exact
            { quiet with
              tidy := by
                apply tidy.changed
                intro shown there
                rw [named]
                exact outcome shown there
              view := by
                intro shown member
                rcases List.mem_append.mp member with old | new
                · exact steady.view shown (List.mem_filter.mp old).1
                · exact steady.waiting event inside change found shown
                    (Option.mem_toList.mp new)
              tight := fun there => { steady.tight there with } }

theorem Steady.step (steady : Steady s) (fits : Agrees s label)
    (taken : Step s label s') : Steady s' := by
  simp only [Step, stepOf?] at taken
  cases label with
  | opens order =>
      simp only [step?] at taken
      cases opened : order.opened? with
      | none => simp [opened] at taken
      | some pos =>
          simp only [opened] at taken
          split at taken
          · rename_i allowed
            cases taken
            exact steady.open opened allowed.1 allowed.2.2
          · cases taken
  | closes ticket =>
      simp only [step?] at taken
      cases stored : s.broker.positions.get? ticket with
      | none => simp [stored] at taken
      | some pos =>
          simp only [stored] at taken
          cases taken
          exact steady.close ticket pos
  | trail tick now =>
      simp only [step?] at taken
      split at taken
      · cases taken
        exact steady.trail rfl fits
      · cases taken
  | breakEven tick now =>
      simp only [step?] at taken
      split at taken
      · cases taken
        exact steady.breakEven rfl fits
      · cases taken
  | route =>
      simp only [step?] at taken
      split at taken
      · cases taken
      · rename_i request rest queue
        cases taken
        exact steady.route queue
  | handle kind =>
      simp only [step?] at taken
      split at taken
      · cases taken
      · rename_i event rest found
        cases taken
        exact steady.listen found

/-- For any two managers, and every run of ticks, fills, closes and events. -/
theorem stops_ratchet {ctx : StrategyContext} {magic : Int}
    {trailing : TrailingStopManager} {mover : BreakEvenMover}
    {initialBalance : ℚ} {labels : List StopLabel}
    (run : Run (Guarded Agrees Step)
      (boot ctx magic trailing mover initialBalance) labels s) :
    s.Ratchets := by
  have steady : Steady s :=
    run.invariant (steady_boot ctx magic trailing mover initialBalance)
      fun taken steady => steady.step taken.1 taken.2
  exact steady.ratchets

/-! ### A late break-even stop, and one that loosens -/

instance (s : StopDesk) (tick : Tick) (pos : Position) :
    Decidable (s.TrailFits tick pos) := by
  unfold TrailFits
  infer_instance

instance (s : StopDesk) (tick : Tick) (pos : Position) :
    Decidable (s.MoverFits tick pos) := by
  unfold MoverFits
  infer_instance

instance (s : StopDesk) (label : StopLabel) : Decidable (Agrees s label) := by
  cases label <;> unfold Agrees <;> infer_instance

/-- A buy of one lot. -/
def buyAt (price : ℚ) : Order where
  ticket := 1
  strategyId := "trend"
  symbol := "EURUSD"
  side := .buy
  type := .market
  volume := 1
  filledVolume := 1
  price := none
  fillPrice := some price
  sl := none
  tp := none
  status := .filled
  comment := ""
  magic := 7
  clientOrderId := ""
  requestedAt := none
  filledAt := some 0
  volume_pos := one_quote_pos

def tickAt (bid : ℚ) (bid_pos : 0 < bid) : Tick where
  symbol := "EURUSD"
  time := 0
  bid := bid
  ask := bid
  bid_pos := bid_pos
  ask_pos := bid_pos

/-- A tick at which both managers have their turn; every request is handled. -/
def bothAt (bid : ℚ) (bid_pos : 0 < bid) (requests : Nat) : List StopLabel :=
  [.trail (tickAt bid bid_pos) 0, .breakEven (tickAt bid bid_pos) 0] ++
    (List.replicate requests [.route, .handle .modify]).flatten

def trendDesk (distance : ℚ) : StopDesk :=
  boot ⟨"trend", "EURUSD", 0, none⟩ 7
    { distance := distance, activate := 0, symbol := none, bestSl := .empty }
    { trigger := 20, lock := 1, symbol := none, fired := [] } 1000

/-- The stops that were carried out. -/
def stops (s : StopDesk) : List (Option ℚ) := s.moves.map StopMove.after

/-- At a distance of 25 the break-even stop is the better one when it is set. -/
def lateBreakEven : List StopLabel :=
  [.opens (buyAt 100), .handle .fill] ++ bothAt 110 (by norm_num) 1 ++
    bothAt 120 (by norm_num) 2 ++ bothAt 130 (by norm_num) 1

theorem late_break_even_ratchets :
    ∃ s : StopDesk, s.stops = [some 85, some 95, some 101, some 105] ∧
      s.Ratchets := by
  have reached :
      (replay? Agrees step? (trendDesk 25) lateBreakEven).map stops =
        some [some 85, some 95, some 101, some 105] := by
    decide +kernel
  rcases Option.map_eq_some_iff.mp reached with ⟨s, replayed, carried⟩
  exact ⟨s, carried, stops_ratchet (run_of_replay? replayed)⟩

/-- At a distance of 5 the trailing stop is ahead of it. -/
def earlyTrail : List StopLabel :=
  [.opens (buyAt 100), .handle .fill] ++ bothAt 110 (by norm_num) 1 ++
    bothAt 120 (by norm_num) 2

/-- The stop goes from 115 back to 101. -/
theorem break_even_loosens :
    ¬ ∀ (ctx : StrategyContext) (magic : Int) (distancePips activateAfterPips
        triggerPips lockPips point : ℚ) (only : Option Symbol)
        (trailing : TrailingStopManager) (mover : BreakEvenMover)
        (initialBalance : ℚ) (labels : List StopLabel) (s : StopDesk),
        TrailingStopManager.create distancePips activateAfterPips only point =
          .ok trailing →
        BreakEvenMover.create triggerPips lockPips only point = .ok mover →
        Run Step (boot ctx magic trailing mover initialBalance) labels s →
        s.Ratchets := by
  intro claim
  have reached :
      (replay? (fun _ _ => True) step? (trendDesk 5) earlyTrail).map moves =
        some
          [⟨1, .buy, none, some 105⟩, ⟨1, .buy, some 105, some 115⟩,
            ⟨1, .buy, some 115, some 101⟩] := by
    decide +kernel
  rcases Option.map_eq_some_iff.mp reached with ⟨s, replayed, carried⟩
  have ratchets := claim ⟨"trend", "EURUSD", 0, none⟩ 7 5 0 20 1 1 none
    { distance := 5, activate := 0, symbol := none, bestSl := .empty }
    { trigger := 20, lock := 1, symbol := none, fired := [] } 1000 earlyTrail s
    (by norm_num [TrailingStopManager.create])
    (by norm_num [BreakEvenMover.create]) (run_of_replay? replayed).unguard
  rw [Ratchets, carried] at ratchets
  simp only [List.pairwise_cons, List.mem_cons, List.not_mem_nil, or_false,
    forall_eq_or_imp, forall_eq] at ratchets
  rcases ratchets.2.1 trivial with ⟨old, new, before, after, bound⟩
  cases before
  cases after
  exact absurd bound (by decide)

end StopDesk

end StingerFx
