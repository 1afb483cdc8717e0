/-
Module: StingerFx.Proofs.TrendHooks
Layer: Proofs
Purpose: What one hook of the daily trend strategy does to the stops of a position. A
  state that is recorded is committed first and then written or not; where a hook
  stops early, what it recorded stays. A strategy that keeps the state of its
  position only tightens the stop, and one that has just started goes on from what
  the file said if its view shows the position.
Trusted boundary: none (fully proved)
Main exports: stopsOf, TrendWork.Kept, TrendWork.Held, TrendWork.Frames,
  TrendScene.Informs, TrendScene.onBar_holds, TrendScene.onBar_frames,
  TrendScene.onOrderFilled_spec, TrendScene.onPositionClosed_spec
-/
import StingerFx.Lib.Attempts
import StingerFx.Strategies.Examples.D1H4Trend

namespace StingerFx

open Lib

theorem Side.NoLooser.refl (side : Side) (stop : ℚ) : side.NoLooser stop stop := by
  cases side with
  | buy => exact le_refl (α := ℚ) stop
  | sell => exact le_refl (α := ℚ) stop

/-- The stops of a ticket in the order of their commits. -/
def stopsOf (commits : List StopCommit) (ticket : Ticket) : List ℚ :=
  commits.filterMap fun c => if c.ticket = ticket then some c.stop else none

section Stops

variable {commits : List StopCommit} {ticket : Ticket}

theorem stopsOf_own (state : PositionState) (mine : state.ticket = ticket) :
    stopsOf (commits ++ [state.commit]) ticket =
      stopsOf commits ticket ++ [state.chandelierStop] := by
  simp [stopsOf, PositionState.commit, mine]

theorem stopsOf_other (state : PositionState) (apart : state.ticket ≠ ticket) :
    stopsOf (commits ++ [state.commit]) ticket = stopsOf commits ticket := by
  simp [stopsOf, PositionState.commit, apart]

theorem mem_of_stopsOf (some_ : stopsOf commits ticket ≠ []) :
    ∃ c ∈ commits, c.ticket = ticket := by
  obtain ⟨stop, member⟩ := List.exists_mem_of_ne_nil _ some_
  rcases List.mem_filterMap.mp member with ⟨c, there, chosen⟩
  by_cases same : c.ticket = ticket
  · exact ⟨c, there, same⟩
  · rw [if_neg same] at chosen
    cases chosen

end Stops

namespace TrendWork

/-- The stops of a position so far: they only get tighter, those of the file are
among those of the memory, and the file has the last that was written to it. -/
structure Kept (id : StrategyId) (ticket : Ticket) (side : Side) (w : TrendWork) :
    Prop where
  ratchets : (stopsOf w.committed ticket).Pairwise side.NoLooser
  among : (stopsOf w.stored ticket).Sublist (stopsOf w.committed ticket)
  file : ∀ stop ∈ (stopsOf w.stored ticket).getLast?,
    ∃ state, w.store.file.get? id = some state ∧ state.ticket = ticket ∧
      state.chandelierStop = stop

/-- The memory goes on from the last stop of the position. -/
structure Held (id : StrategyId) (ticket : Ticket) (side : Side) (w : TrendWork) :
    Prop extends Kept id ticket side w where
  own : ∀ state ∈ w.strategy.state, state.strategyId = id
  current : ∀ state ∈ w.strategy.state, state.ticket = ticket →
    state.side = side ∧
      (stopsOf w.committed ticket).getLast? = some state.chandelierStop
  tracked : w.strategy.reconciled = true → stopsOf w.committed ticket ≠ [] →
    ∃ state ∈ w.strategy.state, state.ticket = ticket

/-- The memory has no other position. -/
def Owned (ticket : Ticket) (w : TrendWork) : Prop :=
  ∀ state ∈ w.strategy.state, state.ticket = ticket

/-- Nothing that is kept of positions changes. -/
structure Same (w w' : TrendWork) : Prop where
  memory : w'.strategy.state = w.strategy.state
  reconciled : w'.strategy.reconciled = w.strategy.reconciled
  signals : w'.signals = w.signals
  committed : w'.committed = w.committed
  stored : w'.stored = w.stored
  store : w'.store = w.store

/-- A state is committed, and then written to the file or not. -/
structure Recorded (w : TrendWork) (state : PositionState) (w' : TrendWork) :
    Prop where
  memory : w'.strategy.state = some state
  reconciled : w'.strategy.reconciled = w.strategy.reconciled
  signals : w'.signals = w.signals
  committed : w'.committed = w.committed ++ [state.commit]
  stored : (w'.stored = w.stored ∧ w'.store = w.store) ∨
    (w'.stored = w.stored ++ [state.commit] ∧
      w'.store.file.get? state.strategyId = some state)

/-- New commits are of some tickets only, and no signal is sent. -/
structure Frames (tickets : List Ticket) (w w' : TrendWork) : Prop where
  signals : w'.signals = w.signals
  named : ∀ c ∈ w'.committed ++ w'.stored,
    c ∈ w.committed ++ w.stored ∨ c.ticket ∈ tickets

section Rules

variable {id : StrategyId} {ticket : Ticket} {side : Side} {tickets : List Ticket}
variable {w w' w'' : TrendWork} {state : PositionState}

theorem Same.refl (w : TrendWork) : Same w w := ⟨rfl, rfl, rfl, rfl, rfl, rfl⟩

theorem Same.held (same : Same w w') (held : Held id ticket side w) :
    Held id ticket side w' where
  ratchets := same.committed ▸ held.ratchets
  among := by
    rw [same.committed, same.stored]
    exact held.among
  file := by
    rw [same.stored, same.store]
    exact held.file
  own := by
    rw [same.memory]
    exact held.own
  current := by
    rw [same.memory, same.committed]
    exact held.current
  tracked := by
    rw [same.reconciled, same.committed, same.memory]
    exact held.tracked

theorem Same.owned (same : Same w w') (owned : Owned ticket w) : Owned ticket w' := by
  intro state member
  rw [same.memory] at member
  exact owned state member

theorem Same.frames (same : Same w w') : Frames tickets w w' where
  signals := same.signals
  named c member := by
    rw [same.committed, same.stored] at member
    exact .inl member

theorem Frames.refl (w : TrendWork) : Frames tickets w w := (Same.refl w).frames

theorem Frames.trans (one : Frames tickets w w') (two : Frames tickets w' w'') :
    Frames tickets w w'' where
  signals := two.signals.trans one.signals
  named c member := by
    rcases two.named c member with before | new
    · exact one.named c before
    · exact .inr new

theorem Recorded.frames (recorded : Recorded w state w')
    (among : state.ticket ∈ tickets) :
    Frames tickets w w' where
  signals := recorded.signals
  named c member := by
    have new : c = state.commit → c.ticket ∈ tickets := by
      rintro rfl
      exact among
    rw [recorded.committed] at member
    rcases List.mem_append.mp member with committed | stored
    · rcases List.mem_append.mp committed with before | last
      · exact .inl (List.mem_append_left _ before)
      · exact .inr (new (List.mem_singleton.mp last))
    · rcases recorded.stored with ⟨same, -⟩ | ⟨more, -⟩
      · exact .inl (List.mem_append_right _ (same ▸ stored))
      · rw [more] at stored
        rcases List.mem_append.mp stored with before | last
        · exact .inl (List.mem_append_right _ before)
        · exact .inr (new (List.mem_singleton.mp last))

/-- A state of the position with a stop that is no looser than the last one. -/
theorem Recorded.held (recorded : Recorded w state w')
    (kept : Kept id ticket side w) (mine : state.ticket = ticket)
    (own : state.strategyId = id) (sides : state.side = side)
    (last : ∀ old ∈ (stopsOf w.committed ticket).getLast?,
      side.NoLooser old state.chandelierStop) :
    Held id ticket side w' := by
  have stops : stopsOf w'.committed ticket =
      stopsOf w.committed ticket ++ [state.chandelierStop] := by
    rw [recorded.committed]
    exact stopsOf_own state mine
  refine
    { ratchets := ?_, among := ?_, file := ?_, own := ?_, current := ?_,
      tracked := ?_ }
  · rw [stops]
    exact Side.NoLooser.pairwise_concat kept.ratchets last
  · rw [stops]
    rcases recorded.stored with ⟨same, -⟩ | ⟨more, -⟩
    · rw [same]
      exact kept.among.trans (List.sublist_append_left _ _)
    · rw [more, stopsOf_own state mine]
      exact kept.among.append (List.Sublist.refl _)
  · rcases recorded.stored with ⟨same, store⟩ | ⟨more, written⟩
    · rw [same, store]
      exact kept.file
    · rw [more, stopsOf_own state mine]
      intro stop newest
      rw [List.getLast?_concat] at newest
      cases newest
      exact ⟨state, own ▸ written, mine, rfl⟩
  · intro other member
    rw [recorded.memory] at member
    cases member
    exact own
  · intro other member _
    rw [recorded.memory] at member
    cases member
    exact ⟨sides, by rw [stops, List.getLast?_concat]⟩
  · intro _ _
    exact ⟨state, recorded.memory, mine⟩

theorem Recorded.owned (recorded : Recorded w state w') (mine : state.ticket = ticket) :
    Owned ticket w' := by
  intro other member
  rw [recorded.memory] at member
  cases member
  exact mine

/-- Saving what has just been committed. -/
theorem save_records (access : StoreAccess) {strategy : D1H4TrendStrategy}
    (holds : strategy.state = some state)
    (same : strategy.reconciled = w.strategy.reconciled) :
    Ends (Recorded w state) (Recorded w state)
      (({ w.commit state with strategy := strategy } : TrendWork).save state access) := by
  have recorded : Recorded w state
      (({ w.commit state with strategy := strategy } : TrendWork).written state
        access) := by
    refine ⟨holds, same, rfl, rfl, ?_⟩
    unfold written
    cases access.write with
    | replaced => exact .inr ⟨rfl, Dict.get?_set_self _ _ _⟩
    | fails => exact .inl ⟨rfl, rfl⟩
    | raises => exact .inl ⟨rfl, rfl⟩
  exact .halt recorded recorded

theorem commit_records (state : PositionState) : Recorded w state (w.commit state) :=
  ⟨rfl, rfl, rfl, rfl, .inl ⟨rfl, rfl⟩⟩

/-- A memory without a position that was never committed. -/
theorem held_of_unknown (empty : stopsOf w.committed ticket = [])
    (among : (stopsOf w.stored ticket).Sublist (stopsOf w.committed ticket))
    (own : ∀ state ∈ w.strategy.state, state.strategyId = id)
    (others : ∀ state ∈ w.strategy.state, state.ticket ≠ ticket) :
    Held id ticket side w := by
  have unsaved : stopsOf w.stored ticket = [] := by
    rw [empty] at among
    exact List.sublist_nil.mp among
  refine
    { ratchets := ?_, among := among, file := ?_, own := own, current := ?_,
      tracked := ?_ }
  · rw [empty]
    exact List.Pairwise.nil
  · rw [unsaved]
    intro stop newest
    cases newest
  · intro state member mine
    exact absurd mine (others state member)
  · intro _ some_
    exact absurd empty some_

/-- A position that was never committed is not in the memory. -/
theorem Held.others (held : Held id ticket side w)
    (empty : stopsOf w.committed ticket = []) :
    ∀ state ∈ w.strategy.state, state.ticket ≠ ticket := by
  intro state member mine
  have last := (held.current state member mine).2
  rw [empty] at last
  cases last

end Rules

end TrendWork

/-! ### What the view shows -/

theorem reconcile_eq_some_iff {persisted : Option PositionState}
    {positions : List Position} {strategyId : StrategyId} {symbol : Symbol}
    {state : PositionState} :
    reconcile persisted positions strategyId symbol = some state ↔
      persisted = some state ∧ state.strategyId = strategyId ∧ state.symbol = symbol ∧
        ∃ pos ∈ positions, state.Matches symbol pos := by
  unfold reconcile
  cases persisted with
  | none => simp
  | some found =>
      constructor
      · intro result
        dsimp only at result
        split at result
        · cases result
        · rename_i own
          split at result
          · rename_i shown
            cases result
            rw [not_or, not_not, not_not] at own
            exact ⟨rfl, own.1, own.2, shown⟩
          · cases result
      · rintro ⟨same, own, symbolSame, shown⟩
        cases same
        dsimp only
        rw [if_neg (by simp [own, symbolSame]), if_pos shown]

namespace TrendScene

open TrendWork

variable {scene : TrendScene} {w : TrendWork} {ticket : Ticket} {side : Side}

/-- The tickets that the view shows. -/
def shown (scene : TrendScene) : List Ticket := scene.own.map Position.ticket

/-- The view shows a position first, and what the file said at the start goes on
from the position's last stop. -/
structure Informs (scene : TrendScene) (ticket : Ticket) (side : Side)
    (w : TrendWork) : Prop where
  first : scene.own.head?.map Position.ticket = some ticket
  sides : ∀ pos ∈ scene.own, pos.ticket = ticket → pos.side = side
  loaded : w.strategy.reconciled = false →
    ∀ stop ∈ (stopsOf w.committed ticket).getLast?,
      ∃ state, w.strategy.loaded = some state ∧ state.ticket = ticket ∧
        state.chandelierStop = stop ∧ state.strategyId = scene.ctx.strategyId ∧
        state.symbol = scene.params.symbol ∧
        ∃ pos ∈ scene.own, state.Matches scene.params.symbol pos

theorem adoptPosition_records (position : Position) (site : StoreSite) :
    Ends (Recorded w (scene.adopted position)) (Recorded w (scene.adopted position))
      (scene.adoptPosition position site w) :=
  save_records _ rfl rfl

theorem setStop_records (state : PositionState) (stop : ℚ) :
    Ends (Recorded w { state with chandelierStop := stop })
      (Recorded w { state with chandelierStop := stop })
      (scene.setStop state stop w) :=
  save_records _ rfl rfl

/-! ### Frames -/

/-- Work that touches neither the commits nor the signals. -/
theorem frames_of_eq {w' : TrendWork} {tickets : List Ticket}
    (signals : w'.signals = w.signals) (committed : w'.committed = w.committed)
    (stored : w'.stored = w.stored) : Frames tickets w w' where
  signals := signals
  named c member := by
    rw [committed, stored] at member
    exact .inl member

/-- The memory is dropped, and the file may be cleared. -/
structure Dropped (w w' : TrendWork) : Prop where
  signals : w'.signals = w.signals
  committed : w'.committed = w.committed
  stored : w'.stored = w.stored
  memory : w'.strategy.state = none

theorem clearState_spec (site : StoreSite) (w : TrendWork) :
    Ends (Dropped w) (Dropped w) (scene.clearState site w) :=
  .halt ⟨rfl, rfl, rfl, rfl⟩ ⟨rfl, rfl, rfl, rfl⟩

theorem adoptPosition_frames {position : Position} (member : position ∈ scene.own)
    (site : StoreSite) :
    Ends (Frames scene.shown w)
      (Frames scene.shown w)
      (scene.adoptPosition position site w) := by
  have among : (scene.adopted position).ticket ∈ scene.shown :=
    List.mem_map_of_mem member
  exact (adoptPosition_records position site).imp
    (fun _ recorded => recorded.frames among)
    fun _ recorded => recorded.frames among

theorem dropLoaded_frames (w : TrendWork) {tickets : List Ticket} :
    Ends (Frames tickets w) (Frames tickets w) (scene.dropLoaded w) := by
  unfold dropLoaded
  split
  · exact Frames.refl w
  · exact .halt (frames_of_eq rfl rfl rfl)
      (frames_of_eq rfl rfl rfl)

theorem settleLoaded_frames (w : TrendWork) :
    Ends (Frames scene.shown w)
      (Frames scene.shown w) (scene.settleLoaded w) := by
  unfold settleLoaded
  split
  · rename_i restored found
    rcases reconcile_eq_some_iff.mp found with ⟨-, -, -, pos, member, fits⟩
    have among : restored.ticket ∈ scene.shown :=
      List.mem_map.mpr ⟨pos, member, fits.1⟩
    exact (commit_records restored).frames among
  · refine (dropLoaded_frames w).bind ?_
    intro w' frames
    have dropped : Frames scene.shown w
        { w' with strategy := { w'.strategy with state := none } } :=
      frames.trans (frames_of_eq rfl rfl rfl)
    unfold adoptFirst
    split
    · exact dropped
    · rename_i position rest own
      have member : position ∈ scene.own := own ▸ List.mem_cons_self
      exact (adoptPosition_frames member .reconcileAdopt).imp
        (fun _ => dropped.trans) fun _ => dropped.trans

theorem reconcileStartup_frames (w : TrendWork) :
    Ends (Frames scene.shown w)
      (Frames scene.shown w) (scene.reconcileStartup w) := by
  unfold reconcileStartup
  split
  · exact Frames.refl w
  · have entered : Frames scene.shown w
        { w with strategy := { w.strategy with reconciled := true } } :=
      frames_of_eq rfl rfl rfl
    refine Ends.bind ((settleLoaded_frames _).imp (fun _ => entered.trans)
      fun _ => entered.trans) ?_
    intro w' frames
    exact frames.trans (frames_of_eq rfl rfl rfl)

/-- Asking for an exit changes nothing that is kept. -/
theorem exitOpen_same (h4 : Bar) (position : Position) (isLong : Bool) (stop : ℚ)
    (w : TrendWork) :
    Ends (Same w) (Same w) (scene.exitOpen h4 position isLong stop w) := by
  unfold exitOpen reading
  split
  · exact Same.refl w
  · rename_i reason _
    cases reason with
    | none => exact Same.refl w
    | some reason => exact ⟨rfl, rfl, rfl, rfl, rfl, rfl⟩

theorem ratcheted_noLooser (state : PositionState) (newStop : ℚ) :
    state.side.NoLooser state.chandelierStop (ratcheted state newStop) := by
  unfold ratcheted
  cases state.side with
  | buy => exact le_max_left (α := ℚ) _ _
  | sell => exact min_le_left (α := ℚ) _ _

/-- A tighter stop of the same state is recorded. -/
def Tightened (state : PositionState) (w w' : TrendWork) : Prop :=
  ∃ stop, state.side.NoLooser state.chandelierStop stop ∧
    Recorded w { state with chandelierStop := stop } w'

theorem ratchet_spec (position : Position) (state : PositionState)
    (newStop : Option ℚ) (w : TrendWork) :
    Ends (fun w' => Same w w' ∨ Tightened state w w') (Tightened state w)
      (scene.ratchet position state newStop w) := by
  cases newStop with
  | none =>
      left
      exact Same.refl w
  | some newStop =>
      unfold ratchet
      dsimp only
      split
      · left
        exact Same.refl w
      · have tighter := ratcheted_noLooser state newStop
        have sets : Ends (Recorded w { state with chandelierStop := ratcheted state newStop })
            (Tightened state w) (scene.setStop state (ratcheted state newStop) w) :=
          (setStop_records state (ratcheted state newStop)).imp (fun _ recorded => recorded)
            fun _ recorded => ⟨_, tighter, recorded⟩
        refine sets.bind ?_
        intro w' recorded
        right
        exact ⟨_, tighter, recorded.memory, recorded.reconciled, recorded.signals,
          recorded.committed, recorded.stored⟩

theorem trackPosition_frames {position : Position} (member : position ∈ scene.own)
    (w : TrendWork) :
    Ends (fun w' => Frames scene.shown w w' ∧
        ∀ state ∈ w'.strategy.state, state.ticket = position.ticket)
      (Frames scene.shown w)
      (scene.trackPosition position w) := by
  unfold trackPosition
  split
  · rename_i tracked
    refine ⟨Frames.refl w, ?_⟩
    intro state found
    have named := congrArg (Option.map PositionState.ticket) found
    exact Option.some.inj (named.symm.trans tracked)
  · have among : (scene.adopted position).ticket ∈ scene.shown :=
      List.mem_map_of_mem member
    exact (adoptPosition_records position .manageAdopt).imp
      (fun _ recorded => ⟨recorded.frames among, recorded.owned rfl⟩)
      fun _ recorded => recorded.frames among

theorem manageOpen_frames {h4 : Bar} {position : Position}
    (member : position ∈ scene.own) :
    Ends (Frames scene.shown w)
      (Frames scene.shown w)
      (scene.manageOpen h4 position w) := by
  unfold manageOpen
  refine Ends.bind (trackPosition_frames member w) ?_
  rintro w' ⟨frames, tracks⟩
  split
  · exact frames
  · rename_i state found
    have among : state.ticket ∈ scene.shown := by
      rw [tracks state found]
      exact List.mem_map_of_mem member
    have tightened : ∀ {w'' : TrendWork}, Tightened state w' w'' →
        Frames scene.shown w w'' := by
      rintro w'' ⟨stop, -, recorded⟩
      exact frames.trans (recorded.frames among)
    dsimp only
    unfold reading
    split
    · exact frames
    · refine Ends.bind (?_ : Ends (Frames scene.shown w) _ _) ?_
      · refine (ratchet_spec position state _ w').imp ?_ fun _ => tightened
        rintro w'' (same | tighter)
        · exact frames.trans same.frames
        · exact tightened tighter
      · intro w'' later
        split
        · exact later
        · exact (exitOpen_same h4 position _ _ w'').imp
            (fun _ same => later.trans same.frames)
            fun _ same => later.trans same.frames

/-- Without a position nothing is committed; a signal is sent with an empty memory
only. -/
def Flat (scene : TrendScene) (w w' : TrendWork) : Prop :=
  Frames scene.shown w { w' with signals := w.signals } ∧
    (w'.signals = w.signals ∨
      ∃ signal, w'.signals = w.signals ++ [signal] ∧ w'.strategy.state = none)

theorem evaluate_flat {h4 : Bar} (empty : scene.own = []) (w : TrendWork) :
    Ends (scene.Flat w) (scene.Flat w) (scene.evaluate h4 w) := by
  have quiet : ∀ {w' : TrendWork}, Frames scene.shown w w' →
      scene.Flat w w' := fun frames =>
    ⟨⟨rfl, frames.named⟩, .inl frames.signals⟩
  unfold evaluate
  rw [empty]
  refine Ends.bind
    (?_ : Ends (fun w' => Frames scene.shown w w' ∧ w'.strategy.state = none) _ _) ?_
  · unfold dropStale
    split
    · rename_i clean
      exact ⟨Frames.refl w, clean.1⟩
    · have dropFrames : ∀ w', Dropped w w' → Frames scene.shown w w' :=
        fun _ dropped => frames_of_eq dropped.signals dropped.committed dropped.stored
      exact (clearState_spec .flatClear w).imp
        (fun w' dropped => ⟨dropFrames w' dropped, dropped.memory⟩)
        fun w' dropped => quiet (dropFrames w' dropped)
  · rintro w' ⟨frames, none_⟩
    unfold maybeEnter reading
    split
    · exact quiet frames
    · rename_i found _
      cases found with
      | none => exact quiet frames
      | some pair =>
          refine ⟨⟨rfl, frames.named⟩, .inr ?_⟩
          rw [← frames.signals]
          exact ⟨_, rfl, none_⟩

/-! ### A position that is open -/

/-- A loaded state that the view does not bear out is of a position that was never
committed. -/
theorem Informs.unknown (informs : scene.Informs ticket side w)
    (starting : w.strategy.reconciled = false)
    (other : ∀ state, reconcile w.strategy.loaded scene.own scene.ctx.strategyId
      scene.params.symbol = some state → state.ticket ≠ ticket) :
    stopsOf w.committed ticket = [] := by
  cases last : (stopsOf w.committed ticket).getLast? with
  | none => exact List.getLast?_eq_none_iff.mp last
  | some stop =>
      rcases informs.loaded starting stop last with
        ⟨state, found, mine, -, own, symbol, shown⟩
      have restored := reconcile_eq_some_iff.mpr ⟨found, own, symbol, shown⟩
      exact absurd mine (other state restored)

theorem settleLoaded_holds (informs : scene.Informs ticket side w)
    (held : Held scene.ctx.strategyId ticket side w) (owned : Owned ticket w)
    (starting : w.strategy.reconciled = false) :
    Ends
      (fun w' => Held scene.ctx.strategyId ticket side w' ∧
        w'.strategy.reconciled = true)
      (fun w' => Held scene.ctx.strategyId ticket side w' ∧ Owned ticket w')
      (scene.settleLoaded
        { w with strategy := { w.strategy with reconciled := true } }) := by
  unfold settleLoaded
  dsimp only
  split
  · rename_i restored found
    rcases reconcile_eq_some_iff.mp found with ⟨loaded, own, -, pos, member, fits⟩
    by_cases mine : restored.ticket = ticket
    · have sides : restored.side = side := by
        rw [← fits.2.2.1]
        exact informs.sides pos member (fits.1.trans mine)
      have last : ∀ old ∈ (stopsOf w.committed ticket).getLast?,
          side.NoLooser old restored.chandelierStop := by
        intro old newest
        rcases informs.loaded starting old newest with ⟨state, same, -, stop, -⟩
        rw [loaded] at same
        cases same
        rw [stop]
        exact Side.NoLooser.refl side old
      exact ⟨(commit_records restored).held
        ⟨held.ratchets, held.among, held.file⟩ mine own sides last, rfl⟩
    · have empty := informs.unknown starting fun state again => by
        rw [found] at again
        cases again
        exact mine
      refine ⟨held_of_unknown ?_ ?_ ?_ ?_, rfl⟩
      · exact (stopsOf_other restored mine).trans empty
      · have same : stopsOf (w.committed ++ [restored.commit]) ticket =
            stopsOf w.committed ticket := stopsOf_other restored mine
        rw [commit, same]
        exact held.among
      · intro state member
        cases member
        exact own
      · intro state member
        cases member
        exact mine
  · rename_i stale
    have empty := informs.unknown starting fun state again => by
      rw [stale] at again
      cases again
    have others := held.others empty
    have waiting : Ends
        (fun w' => w'.committed = w.committed ∧ w'.stored = w.stored ∧
          w'.strategy.reconciled = true)
        (fun w' => Held scene.ctx.strategyId ticket side w' ∧ Owned ticket w')
        (scene.dropLoaded
          { w with strategy := { w.strategy with reconciled := true } }) := by
      unfold dropLoaded
      split
      · exact ⟨rfl, rfl, rfl⟩
      · exact .halt ⟨rfl, rfl, rfl⟩
          ⟨held_of_unknown empty held.among held.own others, owned⟩
    refine waiting.bind ?_
    rintro w' ⟨committed, stored, reconciled⟩
    have kept : Held scene.ctx.strategyId ticket side
        { w' with strategy := { w'.strategy with state := none } } := by
      refine held_of_unknown ?_ ?_ ?_ ?_
      · rw [committed]
        exact empty
      · rw [committed, stored]
        exact held.among
      · intro state member
        cases member
      · intro state member
        cases member
    unfold adoptFirst
    cases shows : scene.own with
    | nil => exact ⟨kept, reconciled⟩
    | cons position rest =>
        have mine : position.ticket = ticket := by
          have first := informs.first
          rw [shows] at first
          exact Option.some.inj first
        have sides := informs.sides position (shows ▸ List.mem_cons_self) mine
        have last : ∀ old ∈ (stopsOf w'.committed ticket).getLast?,
            side.NoLooser old (scene.adopted position).chandelierStop := by
          rw [committed, empty]
          intro old newest
          cases newest
        refine (adoptPosition_records position .reconcileAdopt).imp ?_ ?_
        · intro w'' recorded
          exact ⟨recorded.held kept.toKept mine rfl sides last,
            recorded.reconciled.trans reconciled⟩
        · intro w'' recorded
          exact ⟨recorded.held kept.toKept mine rfl sides last, recorded.owned mine⟩

theorem reconcileStartup_holds (informs : scene.Informs ticket side w)
    (held : Held scene.ctx.strategyId ticket side w) (owned : Owned ticket w) :
    Ends
      (fun w' => Held scene.ctx.strategyId ticket side w' ∧
        w'.strategy.reconciled = true)
      (fun w' => Held scene.ctx.strategyId ticket side w' ∧ Owned ticket w')
      (scene.reconcileStartup w) := by
  unfold reconcileStartup
  split
  · rename_i settled
    exact ⟨held, settled⟩
  · rename_i starting
    refine (settleLoaded_holds informs held owned (Bool.not_eq_true _ ▸ starting)).bind
      ?_
    rintro w' ⟨held', reconciled⟩
    have same : Same w' { w' with strategy := { w'.strategy with loaded := none } } :=
      ⟨rfl, rfl, rfl, rfl, rfl, rfl⟩
    exact ⟨same.held held', reconciled⟩

/-- The strategy has the position, and no other. -/
def Minds (scene : TrendScene) (ticket : Ticket) (side : Side) (w : TrendWork) : Prop :=
  Held scene.ctx.strategyId ticket side w ∧ Owned ticket w

theorem Minds.same {w' : TrendWork} (minds : scene.Minds ticket side w)
    (same : Same w w') : scene.Minds ticket side w' :=
  ⟨same.held minds.1, same.owned minds.2⟩

theorem trackPosition_holds {position : Position} (mine : position.ticket = ticket)
    (sides : position.side = side)
    (held : Held scene.ctx.strategyId ticket side w)
    (reconciled : w.strategy.reconciled = true) :
    Ends (scene.Minds ticket side) (scene.Minds ticket side)
      (scene.trackPosition position w) := by
  unfold trackPosition
  split
  · rename_i tracks
    refine ⟨held, ?_⟩
    intro state found
    have named := congrArg (Option.map PositionState.ticket) found
    exact (Option.some.inj (named.symm.trans tracks)).trans mine
  · rename_i untracked
    have empty : stopsOf w.committed ticket = [] := by
      by_contra known
      rcases held.tracked reconciled known with ⟨state, found, same⟩
      apply untracked
      rw [found, Option.map_some, same, mine]
    have last : ∀ old ∈ (stopsOf w.committed ticket).getLast?,
        side.NoLooser old (scene.adopted position).chandelierStop := by
      rw [empty]
      intro old newest
      cases newest
    have minded : ∀ w', Recorded w (scene.adopted position) w' →
        scene.Minds ticket side w' := fun _ recorded =>
      ⟨recorded.held held.toKept mine rfl sides last, recorded.owned mine⟩
    exact (adoptPosition_records position .manageAdopt).imp minded minded

/-- A tighter stop follows the last one. -/
theorem Minds.tighten {w' : TrendWork} {state : PositionState}
    (minds : scene.Minds ticket side w) (found : w.strategy.state = some state)
    (tighter : Tightened state w w') : scene.Minds ticket side w' := by
  have mine := minds.2 state found
  rcases minds.1.current state found mine with ⟨sides, newest⟩
  rcases tighter with ⟨stop, bound, recorded⟩
  refine ⟨recorded.held minds.1.toKept mine (minds.1.own state found) sides ?_,
    recorded.owned mine⟩
  intro old last
  rw [newest] at last
  cases last
  exact sides ▸ bound

theorem manageOpen_holds {h4 : Bar} {position : Position}
    (mine : position.ticket = ticket) (sides : position.side = side)
    (held : Held scene.ctx.strategyId ticket side w)
    (reconciled : w.strategy.reconciled = true) :
    Ends (scene.Minds ticket side) (scene.Minds ticket side)
      (scene.manageOpen h4 position w) := by
  unfold manageOpen
  refine (trackPosition_holds mine sides held reconciled).bind ?_
  intro w' minds
  split
  · exact minds
  · rename_i state found
    dsimp only
    unfold reading
    split
    · exact minds
    · refine Ends.bind (?_ : Ends (scene.Minds ticket side) _ _) ?_
      · refine (ratchet_spec position state _ w').imp ?_ fun _ => minds.tighten found
        rintro w'' (same | tighter)
        · exact minds.same same
        · exact minds.tighten found tighter
      · intro w'' later
        split
        · exact later
        · exact (exitOpen_same h4 position _ _ w'').imp (fun _ => later.same)
            fun _ => later.same

/-! ### The hooks -/

/-- A bar at which there is nothing to evaluate. -/
theorem onBar_same {h1 : Bar} (nothing : scene.evaluated w.strategy h1 = none) :
    Ends (Same w) (Same w) (scene.onBar h1 w) := by
  unfold onBar
  split
  · exact Same.refl w
  · rw [nothing]
    exact ⟨rfl, rfl, rfl, rfl, rfl, rfl⟩

/-- The work when an H4 bar is about to be evaluated. -/
def begun (w : TrendWork) (h1 newH4 : Bar) : TrendWork :=
  { w with
    strategy := { (w.strategy.ingest h1).1 with lastEvalH4 := some newH4.time } }

theorem begun_same (w : TrendWork) (h1 newH4 : Bar) : Same w (begun w h1 newH4) :=
  ⟨rfl, rfl, rfl, rfl, rfl, rfl⟩

theorem onBar_evaluated {h1 newH4 : Bar}
    (found : scene.evaluated w.strategy h1 = some newH4) :
    scene.onBar h1 w =
      scene.reconcileStartup (begun w h1 newH4) >>= scene.evaluate newH4 := by
  have fits : ¬ (h1.symbol ≠ scene.params.symbol ∨ h1.timeframe ≠ .h1) := by
    intro apart
    rw [evaluated, if_pos apart] at found
    cases found
  unfold onBar
  rw [if_neg fits, found]
  rfl

/-- While the position is open and the view shows it. -/
theorem onBar_holds {h1 newH4 : Bar}
    (found : scene.evaluated w.strategy h1 = some newH4)
    (informs : scene.Informs ticket side w) (minds : scene.Minds ticket side w) :
    Ends (scene.Minds ticket side) (scene.Minds ticket side) (scene.onBar h1 w) := by
  have same := begun_same w h1 newH4
  have informs' : scene.Informs ticket side (begun w h1 newH4) :=
    ⟨informs.first, informs.sides, informs.loaded⟩
  rw [onBar_evaluated found]
  refine (reconcileStartup_holds informs' (same.held minds.1) (same.owned minds.2)).bind
    ?_
  rintro w' ⟨held, reconciled⟩
  unfold evaluate
  cases shows : scene.own with
  | nil =>
      have first := informs.first
      rw [shows] at first
      cases first
  | cons position rest =>
      have mine : position.ticket = ticket := by
        have first := informs.first
        rw [shows] at first
        exact Option.some.inj first
      have sides := informs.sides position (shows ▸ List.mem_cons_self) mine
      exact manageOpen_holds mine sides held reconciled

/-- What an evaluation commits is of positions in the view, and it sends a signal
only if there are none. -/
theorem onBar_frames (h1 : Bar) (w : TrendWork) :
    Ends (fun w' => Frames scene.shown w w' ∨ (scene.own = [] ∧ scene.Flat w w'))
      (fun w' => Frames scene.shown w w' ∨ (scene.own = [] ∧ scene.Flat w w'))
      (scene.onBar h1 w) := by
  cases found : scene.evaluated w.strategy h1 with
  | none =>
      exact (onBar_same found).imp (fun _ same => .inl same.frames)
        fun _ same => .inl same.frames
  | some newH4 =>
      have same := begun_same w h1 newH4
      rw [onBar_evaluated found]
      refine ((reconcileStartup_frames _).imp (fun _ frames => same.frames.trans frames)
        fun _ frames => .inl (same.frames.trans frames)).bind ?_
      intro w' frames
      cases shows : scene.own with
      | nil =>
          have flatter : ∀ w'', scene.Flat w' w'' → scene.Flat w w'' := by
            rintro w'' ⟨later, sent⟩
            refine ⟨⟨rfl, ?_⟩, ?_⟩
            · exact (frames.trans (⟨rfl, later.named⟩ :
                Frames scene.shown w' { w'' with signals := w'.signals })).named
            · rw [frames.signals] at sent
              exact sent
          exact (evaluate_flat shows w').imp
            (fun _ flat => .inr ⟨rfl, flatter _ flat⟩)
            fun _ flat => .inr ⟨rfl, flatter _ flat⟩
      | cons position rest =>
          unfold evaluate
          rw [shows]
          have member : position ∈ scene.own := shows ▸ List.mem_cons_self
          exact (manageOpen_frames member).imp (fun _ later => .inl (frames.trans later))
            fun _ later => .inl (frames.trans later)

/-- A fill is recorded, unless it is not the strategy's. -/
theorem onOrderFilled_spec (order : Order) (w : TrendWork) :
    Ends (fun w' => w' = w ∨ Recorded w (scene.filledState w.strategy order) w')
      (Recorded w (scene.filledState w.strategy order))
      (scene.onOrderFilled order w) := by
  unfold onOrderFilled
  split
  · exact .inl rfl
  · have saved : Ends (Recorded w (scene.filledState w.strategy order))
        (Recorded w (scene.filledState w.strategy order))
        (({ w.commit (scene.filledState w.strategy order) with
            strategy :=
              { (w.commit (scene.filledState w.strategy order)).strategy with
                pendingExit := false
                entryStop := none } } : TrendWork).save
          (scene.filledState w.strategy order) (scene.disk .filled)) :=
      save_records _ rfl rfl
    exact saved.imp (fun _ recorded => .inr recorded) fun _ recorded => recorded

/-- A close of another position changes nothing. -/
theorem onPositionClosed_other {position : Position}
    (minds : scene.Minds ticket side w) (apart : position.ticket ≠ ticket) :
    scene.onPositionClosed position w = .ok w := by
  unfold onPositionClosed
  rw [if_neg]
  intro tracks
  rcases Option.map_eq_some_iff.mp tracks with ⟨state, found, same⟩
  exact apart (same.symm.trans (minds.2 state found))

/-- A close at most drops the memory. -/
theorem onPositionClosed_spec (position : Position) (w : TrendWork) :
    Ends (fun w' => w' = w ∨ Dropped w w') (Dropped w)
      (scene.onPositionClosed position w) := by
  unfold onPositionClosed
  split
  · exact (clearState_spec .closed w).imp (fun _ dropped => .inr dropped)
      fun _ dropped => dropped
  · exact .inl rfl

end TrendScene

end StingerFx
