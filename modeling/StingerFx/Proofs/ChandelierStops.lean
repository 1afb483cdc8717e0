/-
Module: StingerFx.Proofs.ChandelierStops
Layer: Proofs
Purpose: When the chandelier stops of the daily trend strategy never loosen across
  restarts. The view learns of positions from events alone, and after a restart it
  is empty; the first H4 bar then takes the saved state for stale, clears it, and
  the strategy may enter again. It is safe as long as the view shows an open position
  whenever a bar is evaluated, and after a start the file still has its last stop.
Trusted boundary: none (fully proved)
Main exports: TrendDesk.Keeps, TrendDesk.Current, TrendDesk.Informed,
  TrendDesk.chandelier_stops_keep, TrendDesk.restored_after_restart,
  TrendDesk.restart_clears_the_stop
-/
import StingerFx.Proofs.PositionView
import StingerFx.Proofs.StateStores
import StingerFx.Proofs.TrendHooks
import StingerFx.Runtime.TrendDesk

namespace StingerFx

open Lib

/-- The side of what an event is about. -/
def PositionEvent.side : PositionEvent → Side
  | .filled order => order.side
  | .modified position | .partialClosed position | .closed position => position.side

/-- The event that a call is going to publish; a call that has yet to read the
position again counts with what it has read. -/
def BrokerJob.event : BrokerJob → PositionEvent
  | .publish event => event
  | .reread read => .modified read

namespace TrendHook

def event? : TrendHook → Option PositionEvent
  | .bar _ => none
  | .filled order => some (.filled order)
  | .closed position => some (.closed position)

def bar? : TrendHook → Option Bar
  | .bar h1 => some h1
  | .filled _ | .closed _ => none

end TrendHook

/-- Another strategy's save that could not read the file and writes it. -/
def StoreCall.UnreadSave : StoreCall → Prop
  | .save _ read write => read = .fails ∧ write = .replaced
  | .clear _ _ _ | .load _ _ => False

instance (call : StoreCall) : Decidable call.UnreadSave := by
  cases call <;> unfold StoreCall.UnreadSave <;> infer_instance

namespace TrendDesk

open TrendWork TrendScene

variable {s s' : TrendDesk} {label : TrendLabel}

/-- The broker keeps the position open. -/
def Open (s : TrendDesk) (ticket : Ticket) (position : Position) : Prop :=
  s.tracking.account.get? ticket = some position

/-- As long as the broker keeps a position open: its stops only get tighter, in
memory and in the file, it is the only one, and the file has its last stop. -/
structure Keeps (s : TrendDesk) : Prop where
  ratchets : ∀ ticket position, s.Open ticket position →
    (stopsOf s.committed ticket).Pairwise position.side.NoLooser ∧
      (stopsOf s.stored ticket).Pairwise position.side.NoLooser
  single : ∀ one two p q, s.Open one p → s.Open two q → one = two
  file : ∀ ticket position, s.Open ticket position →
    ∀ stop ∈ (stopsOf s.stored ticket).getLast?,
      ∃ state, s.store.file.get? s.id = some state ∧ state.ticket = ticket ∧
        state.chandelierStop = stop

/-! ### When a bar may be evaluated -/

/-- The events that are on their way to a hook. -/
def pending (s : TrendDesk) : List PositionEvent :=
  s.tracking.jobs.map BrokerJob.event ++ s.tracking.runner.waiting ++
    s.hooks.filterMap TrendHook.event?

/-- The strategy's positions in the view. -/
def own (s : TrendDesk) : List Position :=
  forSymbol s.tracking.runner.positions s.params.symbol

/-- Nothing that the strategy sent is under way, the view shows a position that is
open first, and a strategy that has just started has loaded the position's last stop
with what the view shows of it. -/
structure Current (s : TrendDesk) : Prop where
  settled : s.orders = [] ∧ ∀ event ∈ s.pending, event.kind ≠ .fill
  shown : ∀ ticket ∈ s.tracking.account.keys,
    s.own.head?.map Position.ticket = some ticket
  loaded : s.strategy.reconciled = false → ∀ ticket ∈ s.tracking.account.keys,
    ∀ stop ∈ (stopsOf s.committed ticket).getLast?, ∃ state ∈ s.strategy.loaded,
      state.ticket = ticket ∧ state.chandelierStop = stop ∧
        state.strategyId = s.id ∧ state.symbol = s.params.symbol ∧
        ∃ pos ∈ s.own, state.Matches s.params.symbol pos

/-- Bars are evaluated when the view is current, and no other strategy overwrites the
file of an open position. -/
def Informed (s : TrendDesk) : TrendLabel → Prop
  | .turn disk now lastPrice =>
      ∀ h1 ∈ s.hooks.head?.bind TrendHook.bar?,
        (s.scene disk now lastPrice).evaluated s.strategy h1 ≠ none → s.Current
  | .other call =>
      s.tracking.account.keys ≠ [] → s.store.file.get? s.id ≠ none →
        ¬ call.UnreadSave
  | _ => True

/-! ### What holds between the steps -/

/-- Fills that are on their way to the strategy. -/
def fills (events : List PositionEvent) : Nat :=
  events.countP fun event => decide (event.kind = .fill)

structure Steady (s : TrendDesk) : Prop where
  account : ∀ ticket position, s.Open ticket position →
    position.ticket = ticket ∧ s.sides.get? ticket = some position.side
  mentions : ∀ event ∈ s.pending, s.sides.get? event.ticket = some event.side
  view : ∀ pos ∈ s.tracking.runner.positions,
    s.sides.get? pos.ticket = some pos.side
  opened : ∀ ticket, s.tracking.opened.get? ticket = none → s.sides.get? ticket = none
  gone : ∀ event ∈ s.pending, event.kind = .close →
    s.tracking.account.get? event.ticket = none
  single : ∀ one two p q, s.Open one p → s.Open two q → one = two
  /-- one order at a time -/
  flow : s.orders.length + fills s.pending ≤ 1
  idle : s.orders ≠ [] →
    (∀ ticket, s.tracking.account.get? ticket = none) ∧ s.strategy.state = none
  /-- a position whose fill is on its way has no stop yet -/
  fresh : ∀ event ∈ s.pending, event.kind = .fill → ∀ ticket position,
    s.Open ticket position → event.ticket = ticket ∧ stopsOf s.committed ticket = []
  named : ∀ c ∈ s.committed ++ s.stored, s.sides.get? c.ticket ≠ none
  minds : ∀ ticket position, s.Open ticket position →
    Held s.id ticket position.side s.work ∧ Owned ticket s.work

theorem steady_boot (id : StrategyId) (magic : Int) (params : D1H4TrendParams) :
    Steady (boot id magic params) where
  account := by
    intro ticket position found
    cases found
  mentions := by
    intro event member
    cases member
  view := by
    intro pos member
    cases member
  opened := by
    intro ticket _
    exact Dict.get?_empty ticket
  gone := by
    intro event member
    cases member
  single := by
    intro one two p q found
    cases found
  flow := Nat.zero_le 1
  idle := by
    intro some_
    exact absurd rfl some_
  fresh := by
    intro event member
    cases member
  named := by
    intro c member
    cases member
  minds := by
    intro ticket position found
    cases found

theorem Steady.keeps (steady : Steady s) : s.Keeps where
  ratchets ticket position found := by
    have held := (steady.minds ticket position found).1
    exact ⟨held.ratchets, held.ratchets.sublist held.among⟩
  single := steady.single
  file ticket position found := (steady.minds ticket position found).1.file

/-! ### Steps without a word from the strategy -/

/-- Positions only shrink or go, and the events on their way are among the earlier
ones but for some that fill nothing. The memory stays or is lost. -/
structure Passive (s s' : TrendDesk) : Prop where
  id : s'.id = s.id
  opened : s'.tracking.opened = s.tracking.opened
  sides : s'.sides = s.sides
  committed : s'.committed = s.committed
  stored : s'.stored = s.stored
  orders : s'.orders.length ≤ s.orders.length
  account : ∀ ticket position', s'.Open ticket position' → ∃ position,
    s.Open ticket position ∧ position'.side = position.side ∧
      position'.ticket = position.ticket
  view : ∀ pos ∈ s'.tracking.runner.positions, s.sides.get? pos.ticket = some pos.side
  pending : ∀ event ∈ s'.pending, event ∈ s.pending ∨
    (s.sides.get? event.ticket = some event.side ∧ event.kind ≠ .fill ∧
      (event.kind = .close → s'.tracking.account.get? event.ticket = none))
  fills : fills s'.pending ≤ fills s.pending
  memory : (s'.strategy.state = s.strategy.state ∧
      s'.strategy.reconciled = s.strategy.reconciled) ∨
    (s'.strategy.state = none ∧ s'.strategy.reconciled = false)
  file : ∀ ticket position', s'.Open ticket position' →
    s'.store.file.get? s.id = s.store.file.get? s.id

theorem Passive.gone (passive : Passive s s') {ticket : Ticket}
    (gone : s.tracking.account.get? ticket = none) :
    s'.tracking.account.get? ticket = none := by
  cases found : s'.tracking.account.get? ticket with
  | none => rfl
  | some position' =>
      rcases passive.account ticket position' found with ⟨position, there, -⟩
      rw [Open, gone] at there
      cases there

theorem Passive.minds (passive : Passive s s') {ticket : Ticket} {side : Side}
    (same : s'.store.file.get? s.id = s.store.file.get? s.id)
    (minds : Held s.id ticket side s.work ∧ Owned ticket s.work) :
    Held s'.id ticket side s'.work ∧ Owned ticket s'.work := by
  obtain ⟨held, owned⟩ := minds
  rw [passive.id]
  have kept : Kept s.id ticket side s'.work := by
    refine ⟨?_, ?_, ?_⟩
    · rw [work, passive.committed]
      exact held.ratchets
    · rw [work, passive.committed, passive.stored]
      exact held.among
    · intro stop newest
      rw [work, passive.stored] at newest
      rw [work, same]
      exact held.file stop newest
  rcases passive.memory with ⟨state, reconciled⟩ | ⟨none_, fresh⟩
  · refine ⟨⟨kept, ?_, ?_, ?_⟩, ?_⟩
    · rw [work, state]
      exact held.own
    · rw [work, state, passive.committed]
      exact held.current
    · rw [work, state, reconciled, passive.committed]
      exact held.tracked
    · rw [Owned, work, state]
      exact owned
  · refine ⟨⟨kept, ?_, ?_, ?_⟩, ?_⟩
    · rw [work, none_]
      intro state member
      cases member
    · rw [work, none_]
      intro state member
      cases member
    · rw [work, fresh]
      intro settled
      cases settled
    · rw [Owned, work, none_]
      intro state member
      cases member

theorem Steady.passive (steady : Steady s) (passive : Passive s s') : Steady s' where
  account ticket position' found := by
    rcases passive.account ticket position' found with ⟨position, there, side, named⟩
    rcases steady.account ticket position there with ⟨mine, known⟩
    rw [passive.sides, side]
    exact ⟨named.trans mine, known⟩
  mentions event member := by
    rw [passive.sides]
    rcases passive.pending event member with before | ⟨known, -⟩
    · exact steady.mentions event before
    · exact known
  view pos member := by
    rw [passive.sides]
    exact passive.view pos member
  opened ticket unknown := by
    rw [passive.sides]
    rw [passive.opened] at unknown
    exact steady.opened ticket unknown
  gone event member closes := by
    rcases passive.pending event member with before | ⟨-, -, gone⟩
    · exact passive.gone (steady.gone event before closes)
    · exact gone closes
  single one two p q first second := by
    rcases passive.account one p first with ⟨p', first', -⟩
    rcases passive.account two q second with ⟨q', second', -⟩
    exact steady.single one two p' q' first' second'
  flow := (Nat.add_le_add passive.orders passive.fills).trans steady.flow
  idle some_ := by
    have before : s.orders ≠ [] := by
      intro empty
      have shorter := passive.orders
      rw [empty] at shorter
      exact some_ (List.length_eq_zero_iff.mp (Nat.le_zero.mp shorter))
    rcases steady.idle before with ⟨closed, none_⟩
    refine ⟨fun ticket => passive.gone (closed ticket), ?_⟩
    rcases passive.memory with ⟨state, -⟩ | ⟨state, -⟩
    · exact state.trans none_
    · exact state
  fresh event member filled ticket position' found := by
    rcases passive.account ticket position' found with ⟨position, there, -⟩
    rw [passive.committed]
    rcases passive.pending event member with before | ⟨-, other, -⟩
    · exact steady.fresh event before filled ticket position there
    · exact absurd filled other
  named c member := by
    rw [passive.committed, passive.stored] at member
    rw [passive.sides]
    exact steady.named c member
  minds ticket position' found := by
    rcases passive.account ticket position' found with ⟨position, there, side, -⟩
    rw [side]
    exact passive.minds (passive.file ticket position' found)
      (steady.minds ticket position there)

/-! ### Events on their way -/

theorem fills_append (front back : List PositionEvent) :
    fills (front ++ back) = fills front + fills back :=
  List.countP_append

theorem fills_cons (event : PositionEvent) (events : List PositionEvent) :
    fills (event :: events) = fills [event] + fills events :=
  fills_append [event] events

theorem fills_sublist {one two : List PositionEvent} (shorter : one.Sublist two) :
    fills one ≤ fills two :=
  shorter.countP_le

theorem fills_other {event : PositionEvent} (other : event.kind ≠ .fill) :
    fills [event] = 0 := by
  simp [fills, other]

/-- A job that leaves the list. -/
theorem fills_eraseIdx {jobs : List BrokerJob} {index : Nat} {job : BrokerJob}
    (found : jobs[index]? = some job) :
    fills (jobs.map BrokerJob.event) =
      fills [job.event] + fills ((jobs.eraseIdx index).map BrokerJob.event) := by
  obtain ⟨bound, same⟩ := List.getElem?_eq_some_iff.mp found
  have shuffled := (List.getElem_cons_eraseIdx_perm bound).map BrokerJob.event
  rw [same] at shuffled
  rw [← fills_cons]
  exact (shuffled.countP_eq _).symm

/-- A job that is replaced by one that fills nothing. -/
theorem fills_set {jobs : List BrokerJob} {index : Nat} {job : BrokerJob}
    (other : job.event.kind ≠ .fill) :
    fills ((jobs.set index job).map BrokerJob.event) ≤
      fills (jobs.map BrokerJob.event) := by
  induction jobs generalizing index with
  | nil => exact le_rfl
  | cons first rest ih =>
      cases index with
      | zero =>
          rw [List.set_cons_zero, List.map_cons, List.map_cons, fills_cons job.event,
            fills_cons first.event, fills_other other]
          exact Nat.add_le_add_right (Nat.zero_le _) _
      | succ index =>
          rw [List.set_cons_succ, List.map_cons, List.map_cons,
            fills_cons _ (rest.map _), fills_cons _ (List.map _ (rest.set _ _))]
          exact Nat.add_le_add_left ih _

/-- A runner that handles an event only changes its view, by the event's position. -/
theorem handle_spec (runner : PositionRunner) (event : PositionEvent) :
    (runner.handle event).id = runner.id ∧
      (runner.handle event).waiting = runner.waiting ∧
      ∀ pos ∈ (runner.handle event).positions, pos ∈ runner.positions ∨
        (pos.ticket = event.ticket ∧ pos.side = event.side) := by
  have tracked : ∀ position : Position,
      (runner.trackOpen position).id = runner.id ∧
        (runner.trackOpen position).waiting = runner.waiting ∧
        ∀ pos ∈ (runner.trackOpen position).positions,
          pos ∈ runner.positions ∨ pos = position := by
    intro position
    unfold PositionRunner.trackOpen
    split
    · refine ⟨rfl, rfl, ?_⟩
      intro pos member
      rcases List.mem_append.mp (List.mem_filter.mp member).1 with before | new
      · exact .inl (List.mem_filter.mp before).1
      · exact .inr (List.mem_singleton.mp new)
    · exact ⟨rfl, rfl, fun _ member => .inl member⟩
  have unchanged : runner.id = runner.id ∧ runner.waiting = runner.waiting ∧
      ∀ pos ∈ runner.positions, pos ∈ runner.positions ∨
        (pos.ticket = event.ticket ∧ pos.side = event.side) :=
    ⟨rfl, rfl, fun _ member => .inl member⟩
  cases event with
  | filled order =>
      simp only [PositionRunner.handle, PositionRunner.onOrderFilled]
      split
      · exact unchanged
      · split
        · exact unchanged
        · rename_i position opened
          rcases opened?_spec opened with ⟨ticket, -, side⟩
          rcases tracked position with ⟨id, waiting, positions⟩
          refine ⟨id, waiting, fun pos member => ?_⟩
          rcases positions pos member with before | rfl
          · exact .inl before
          · exact .inr ⟨ticket, side⟩
  | modified position =>
      simp only [PositionRunner.handle, PositionRunner.onOrderModified]
      split
      · exact unchanged
      · rcases tracked position with ⟨id, waiting, positions⟩
        refine ⟨id, waiting, fun pos member => ?_⟩
        rcases positions pos member with before | rfl
        · exact .inl before
        · exact .inr ⟨rfl, rfl⟩
  | partialClosed position =>
      simp only [PositionRunner.handle, PositionRunner.onPartialClosed]
      split
      · exact unchanged
      · rcases tracked position with ⟨id, waiting, positions⟩
        refine ⟨id, waiting, fun pos member => ?_⟩
        rcases positions pos member with before | rfl
        · exact .inl before
        · exact .inr ⟨rfl, rfl⟩
  | closed position =>
      simp only [PositionRunner.handle, PositionRunner.onPositionClosed]
      split
      · exact unchanged
      · refine ⟨rfl, rfl, fun pos member => .inl ?_⟩
        exact (List.mem_filter.mp (List.mem_filter.mp member).1).1

theorem mem_hookOf {runner : PositionRunner} {event : PositionEvent}
    {hook : TrendHook} (member : hook ∈ hookOf runner event) :
    hook.event? = some event := by
  unfold hookOf at member
  split at member
  · cases event with
    | filled order =>
        dsimp only at member
        split at member
        · rw [List.mem_singleton.mp member]
          rfl
        · cases member
    | closed position =>
        dsimp only at member
        split at member
        · rw [List.mem_singleton.mp member]
          rfl
        · cases member
    | modified position => cases member
    | partialClosed position => cases member
  · cases member

theorem hookOf_events (runner : PositionRunner) (event : PositionEvent) :
    ((hookOf runner event).filterMap TrendHook.event?).Sublist [event] := by
  have short : (hookOf runner event).length ≤ 1 := by
    unfold hookOf
    split
    · cases event with
      | filled order =>
          dsimp only
          split <;> simp
      | closed position =>
          dsimp only
          split <;> simp
      | modified position => simp
      | partialClosed position => simp
    · simp
  match queued : hookOf runner event with
  | [] => simp
  | [hook] =>
      have same := mem_hookOf (queued ▸ List.mem_singleton_self hook)
      simp [same]
  | one :: two :: rest =>
      rw [queued] at short
      simp at short

/-! ### Passive steps -/

/-- A step that changes only what the runner and the broker have. -/
theorem passive_queue {tracking : PositionTracking} {hooks : List TrendHook}
    (id : tracking.runner.id = s.tracking.runner.id)
    (opened : tracking.opened = s.tracking.opened)
    (account : ∀ ticket position', tracking.account.get? ticket = some position' →
      ∃ position, s.Open ticket position ∧ position'.side = position.side ∧
        position'.ticket = position.ticket)
    (view : ∀ pos ∈ tracking.runner.positions,
      s.sides.get? pos.ticket = some pos.side)
    (pending : ∀ event ∈ ({ s with tracking := tracking, hooks := hooks } :
        TrendDesk).pending, event ∈ s.pending ∨
      (s.sides.get? event.ticket = some event.side ∧ event.kind ≠ .fill ∧
        (event.kind = .close → tracking.account.get? event.ticket = none)))
    (fewer : fills ({ s with tracking := tracking, hooks := hooks } :
      TrendDesk).pending ≤ fills s.pending) :
    Passive s { s with tracking := tracking, hooks := hooks } where
  id := id
  opened := opened
  sides := rfl
  committed := rfl
  stored := rfl
  orders := le_rfl
  account := account
  view := view
  pending := pending
  fills := fewer
  memory := .inl ⟨rfl, rfl⟩
  file _ _ _ := rfl

theorem mem_pending_iff {event : PositionEvent} :
    event ∈ s.pending ↔ event ∈ s.tracking.jobs.map BrokerJob.event ∨
      event ∈ s.tracking.runner.waiting ∨
      event ∈ s.hooks.filterMap TrendHook.event? := by
  rw [pending, List.mem_append, List.mem_append, or_assoc]

theorem fills_pending :
    fills s.pending = fills (s.tracking.jobs.map BrokerJob.event) +
      fills s.tracking.runner.waiting +
      fills (s.hooks.filterMap TrendHook.event?) := by
  rw [pending, fills_append, fills_append]

/-- A call that changes a position and is going to publish something else than a
fill. -/
theorem Steady.call (steady : Steady s) {account : Dict Ticket Position}
    {job : BrokerJob}
    (shrinks : ∀ ticket position', account.get? ticket = some position' →
      ∃ position, s.Open ticket position ∧ position'.side = position.side ∧
        position'.ticket = position.ticket)
    (known : s.sides.get? job.event.ticket = some job.event.side)
    (other : job.event.kind ≠ .fill)
    (closes : job.event.kind = .close → account.get? job.event.ticket = none) :
    Passive s
      { s with
        tracking :=
          { s.tracking with account := account, jobs := s.tracking.jobs ++ [job] } } := by
  refine passive_queue rfl rfl shrinks steady.view ?_ ?_
  · intro event member
    rcases mem_pending_iff.mp member with called | elsewhere
    · rw [List.map_append] at called
      rcases List.mem_append.mp called with before | new
      · exact .inl (mem_pending_iff.mpr (.inl before))
      · rw [List.mem_singleton.mp new]
        exact .inr ⟨known, other, closes⟩
    · exact .inl (mem_pending_iff.mpr (.inr elsewhere))
  · rw [fills_pending, fills_pending, List.map_append, fills_append]
    have none_ : fills ([job].map BrokerJob.event) = 0 := fills_other other
    rw [none_]
    exact le_rfl

/-- A position that is set again under its ticket. -/
theorem reset_shrinks {read position kept : Position}
    (there : s.tracking.current? read = some position)
    (side : kept.side = position.side) (ticket : kept.ticket = position.ticket) :
    ∀ other position', (s.tracking.account.set read.ticket kept).get? other =
      some position' → ∃ position, s.Open other position ∧
        position'.side = position.side ∧ position'.ticket = position.ticket := by
  intro other position' found
  rw [Dict.get?_set] at found
  split at found
  · rename_i same
    cases found
    exact ⟨position, same ▸ (PositionTracking.current?_spec there).1, side, ticket⟩
  · exact ⟨position', found, rfl, rfl⟩

theorem erase_shrinks (ticket : Ticket) :
    ∀ other position', (s.tracking.account.erase ticket).get? other =
      some position' → ∃ position, s.Open other position ∧
        position'.side = position.side ∧ position'.ticket = position.ticket := by
  intro other position' found
  rw [Dict.get?_erase] at found
  split at found
  · cases found
  · exact ⟨position', found, rfl, rfl⟩

/-- The account changes, or a call goes on. -/
theorem Steady.change (steady : Steady s) {label : TrackingLabel}
    {tracking : PositionTracking} (only : label.ChangesOnly s.sides)
    (moved : PositionTracking.Moved s.tracking label tracking) :
    Passive s { s with tracking := tracking } := by
  have stays : ∀ ticket position', s.tracking.account.get? ticket = some position' →
      ∃ position, s.Open ticket position ∧ position'.side = position.side ∧
        position'.ticket = position.ticket :=
    fun _ position' found => ⟨position', found, rfl, rfl⟩
  cases moved with
  | fill => exact only.elim
  | modify there =>
      refine steady.call (reset_shrinks there rfl rfl) ?_ ?_ ?_
      · exact only
      · intro fill
        cases fill
      · intro close
        cases close
  | reduce there left announced =>
      rcases PositionTracking.remaining?_spec left with ⟨ticket, -, side⟩
      rcases PositionTracking.remaining?_spec announced with ⟨told, -, toldSide⟩
      refine steady.call (reset_shrinks there side ticket) ?_ ?_ ?_
      · change s.sides.get? (Position.ticket _) = some (Position.side _)
        rw [told, toldSide]
        exact only
      · intro fill
        cases fill
      · intro close
        cases close
  | close there =>
      refine steady.call (erase_shrinks _) ?_ ?_ ?_
      · exact only
      · intro fill
        cases fill
      · intro _
        exact Dict.get?_erase_self _ _
  | reread found =>
      rename_i index read
      have known : s.sides.get?
          ((s.tracking.account.get? read.ticket).getD read).ticket =
            some ((s.tracking.account.get? read.ticket).getD read).side := by
        cases there : s.tracking.account.get? read.ticket with
        | none =>
            have mentioned := List.mem_map_of_mem (f := BrokerJob.event)
              (List.mem_of_getElem? found)
            exact steady.mentions _ (mem_pending_iff.mpr (.inl mentioned))
        | some position =>
            rcases steady.account read.ticket position there with ⟨mine, side⟩
            rw [Option.getD_some, mine]
            exact side
      refine passive_queue rfl rfl stays steady.view ?_ ?_
      · intro event member
        rcases mem_pending_iff.mp member with called | elsewhere
        · rcases List.mem_map.mp called with ⟨job, there, rfl⟩
          rcases List.mem_or_eq_of_mem_set there with before | rfl
          · exact .inl (mem_pending_iff.mpr (.inl (List.mem_map_of_mem before)))
          · refine .inr ⟨known, ?_, ?_⟩
            · intro fill
              cases fill
            · intro close
              cases close
        · exact .inl (mem_pending_iff.mpr (.inr elsewhere))
      · rw [fills_pending, fills_pending]
        apply Nat.add_le_add_right
        apply Nat.add_le_add_right
        apply fills_set
        intro fill
        cases fill
  | publish found =>
      rename_i index event
      rcases PositionTracking.receivePosition_split s.tracking.runner.waiting event with
        ⟨kept, split, shorter⟩
      have heard : ∀ told ∈ receivePosition s.tracking.runner.waiting event,
          told ∈ s.pending := by
        intro told member
        rw [split] at member
        rcases List.mem_append.mp member with before | new
        · exact mem_pending_iff.mpr (.inr (.inl (shorter.subset before)))
        · rw [List.mem_singleton.mp new]
          exact mem_pending_iff.mpr
            (.inl (List.mem_map_of_mem (f := BrokerJob.event)
              (List.mem_of_getElem? found)))
      refine passive_queue rfl rfl stays steady.view ?_ ?_
      · intro told member
        rcases mem_pending_iff.mp member with called | waits | hooked
        · rcases List.mem_map.mp called with ⟨job, there, rfl⟩
          have before := List.mem_of_mem_eraseIdx there
          exact .inl (mem_pending_iff.mpr (.inl (List.mem_map_of_mem before)))
        · exact .inl (heard told waits)
        · exact .inl (mem_pending_iff.mpr (.inr (.inr hooked)))
      · have jobs := fills_eraseIdx found
        have waits := fills_sublist shorter
        rw [fills_pending, fills_pending]
        dsimp only
        rw [split, fills_append]
        change fills _ + (fills kept + fills [event]) + _ ≤ _
        change _ = fills [event] + _ at jobs
        omega
  | handle => exact only.elim
  | pause paused =>
      exact passive_queue rfl rfl stays steady.view (fun _ member => .inl member) le_rfl
  | quarantine =>
      exact passive_queue rfl rfl stays steady.view (fun _ member => .inl member) le_rfl
  | replace => exact only.elim
  | restart => exact only.elim

/-- The runner handles an event, and its hook waits. -/
theorem Steady.handle (steady : Steady s) {kind : EventKind} {event : PositionEvent}
    {rest : List PositionEvent}
    (popped : takeKind kind s.tracking.runner.waiting = some (event, rest)) :
    Passive s
      { s with
        tracking :=
          { s.tracking with
            runner := { s.tracking.runner with waiting := rest }.handle event }
        hooks := s.hooks ++ hookOf s.tracking.runner event } := by
  rcases takeKind_spec popped with ⟨front, back, whole, parts, -, -⟩
  rcases handle_spec { s.tracking.runner with waiting := rest } event with
    ⟨id, waiting, positions⟩
  have heard : event ∈ s.pending := by
    apply mem_pending_iff.mpr
    rw [whole]
    exact .inr (.inl (List.mem_append_right _ List.mem_cons_self))
  have queued := hookOf_events s.tracking.runner event
  refine passive_queue id rfl ?_ ?_ ?_ ?_
  · intro ticket position' found
    exact ⟨position', found, rfl, rfl⟩
  · intro pos member
    rcases positions pos member with before | ⟨ticket, side⟩
    · exact steady.view pos before
    · rw [ticket, side]
      exact steady.mentions event heard
  · intro told member
    rcases mem_pending_iff.mp member with called | waits | hooked
    · exact .inl (mem_pending_iff.mpr (.inl called))
    · dsimp only at waits
      rw [waiting, parts] at waits
      left
      apply mem_pending_iff.mpr
      right
      left
      rw [whole]
      rcases List.mem_append.mp waits with before | after
      · exact List.mem_append_left _ before
      · exact List.mem_append_right _ (List.mem_cons_of_mem _ after)
    · rw [List.filterMap_append] at hooked
      rcases List.mem_append.mp hooked with before | new
      · exact .inl (mem_pending_iff.mpr (.inr (.inr before)))
      · rw [List.mem_singleton.mp (queued.subset new)]
        exact .inl heard
  · have fewer := fills_sublist queued
    rw [fills_pending, fills_pending]
    dsimp only
    rw [waiting, whole, parts, List.filterMap_append, fills_append, fills_append,
      fills_append, fills_cons event]
    omega

/-- A bar is no event of a position. -/
theorem Steady.bar (steady : Steady s) (h1 : Bar) :
    Passive s { s with hooks := s.hooks ++ [.bar h1] } := by
  have same : ({ s with hooks := s.hooks ++ [.bar h1] } : TrendDesk).pending =
      s.pending := by
    rw [pending, pending, List.filterMap_append]
    exact congrArg _ (List.append_nil _)
  refine passive_queue rfl rfl ?_ steady.view ?_ ?_
  · intro ticket position' found
    exact ⟨position', found, rfl, rfl⟩
  · intro event member
    exact .inl (same ▸ member)
  · exact (congrArg fills same).le

theorem Steady.vanish (steady : Steady s) (ticket : Ticket) :
    Passive s
      { s with
        tracking := { s.tracking with account := s.tracking.account.erase ticket } } :=
  passive_queue rfl rfl (erase_shrinks ticket) steady.view
    (fun _ member => .inl member) le_rfl

/-- A step that leaves the runner and the broker alone. -/
theorem Steady.aside (steady : Steady s) {params : D1H4TrendParams}
    {store : JsonFileStateStore} {orders : List TrendOrder}
    (fewer : orders.length ≤ s.orders.length)
    (file : ∀ ticket position, s.Open ticket position →
      store.file.get? s.id = s.store.file.get? s.id) :
    Passive s { s with params := params, store := store, orders := orders } where
  id := rfl
  opened := rfl
  sides := rfl
  committed := rfl
  stored := rfl
  orders := fewer
  account _ position' found := ⟨position', found, rfl, rfl⟩
  view := steady.view
  pending _ member := .inl member
  fills := le_rfl
  memory := .inl ⟨rfl, rfl⟩
  file := file

/-- A new runner knows no position, and its strategy has nothing in memory. -/
theorem passive_started {tracking : PositionTracking} {read : ReadResult}
    {orders : List TrendOrder} (fewer : orders.length ≤ s.orders.length)
    (id : tracking.runner = .start s.id s.tracking.runner.magic)
    (opened : tracking.opened = s.tracking.opened)
    (account : tracking.account = s.tracking.account)
    (jobs : tracking.jobs.Sublist s.tracking.jobs) :
    Passive s { s.started tracking read with orders := orders } where
  id := by
    have named := congrArg PositionRunner.id id
    exact named
  opened := opened
  sides := rfl
  committed := rfl
  stored := rfl
  orders := fewer
  account ticket position' found := by
    rw [Open, started, account] at found
    exact ⟨position', found, rfl, rfl⟩
  view := by
    rw [started, id]
    intro pos member
    cases member
  pending event member := by
    left
    rcases mem_pending_iff.mp member with called | waits | hooked
    · exact mem_pending_iff.mpr (.inl ((jobs.map _).subset called))
    · rw [started, id] at waits
      cases waits
    · cases hooked
  fills := by
    have fewerJobs := fills_sublist (jobs.map BrokerJob.event)
    rw [fills_pending, fills_pending, started, id]
    exact fewerJobs.trans ((Nat.le_add_right _ _).trans (Nat.le_add_right _ _))
  memory := .inr ⟨rfl, rfl⟩
  file _ _ _ := rfl

/-- Another strategy's call leaves the entry alone, unless it overwrites the file. -/
theorem other_frames {call : StoreCall} (apart : call.strategyId ≠ s.id)
    (entry : s.store.file.get? s.id ≠ none → ¬ call.UnreadSave) :
    (s.store.call call).file.get? s.id = s.store.file.get? s.id := by
  by_cases unread : call.UnreadSave
  · have absent : s.store.file.get? s.id = none := by
      by_contra stored
      exact entry stored unread
    cases call with
    | save state read write =>
        obtain ⟨rfl, rfl⟩ := unread
        rw [absent]
        exact Dict.get?_set_of_ne _ _ apart.symm
    | clear strategyId read write => exact unread.elim
    | load strategyId read => exact unread.elim
  · have safe : ¬ s.store.Forgets call := by
      rintro ⟨state, rfl, -⟩
      exact unread ⟨rfl, rfl⟩
    exact JsonFileStateStore.frames_of_not_forgets safe s.id apart.symm

/-! ### A fill, and a hook's turn -/

/-- Only one order is under way, and no position is open. -/
theorem Steady.alone (steady : Steady s) {index : Nat} {sent : TrendOrder}
    (found : s.orders[index]? = some sent) :
    s.orders.eraseIdx index = [] ∧ fills s.pending = 0 ∧
      (∀ ticket, s.tracking.account.get? ticket = none) ∧ s.strategy.state = none := by
  obtain ⟨bound, -⟩ := List.getElem?_eq_some_iff.mp found
  have some_ : s.orders ≠ [] := by
    intro empty
    rw [empty] at bound
    cases bound
  have flow := steady.flow
  refine ⟨?_, by omega, steady.idle some_⟩
  apply List.length_eq_zero_iff.mp
  rw [List.length_eraseIdx, if_pos bound]
  omega

/-- What was known stays known under a new ticket. -/
theorem sides_grow {sides : Dict Ticket Side} {ticket other : Ticket} {side known : Side}
    (unused : sides.get? ticket = none) (old : sides.get? other = some known) :
    (sides.set ticket side).get? other = some known := by
  have apart : other ≠ ticket := by
    rintro rfl
    rw [unused] at old
    cases old
  exact (Dict.get?_set_of_ne _ _ apart).trans old

theorem not_fill_of_fills {events : List PositionEvent} (none_ : fills events = 0) :
    ∀ event ∈ events, event.kind ≠ .fill := by
  intro event member filled
  exact absurd (decide_eq_true filled) (List.countP_eq_zero.mp none_ event member)

/-- The broker fills the only order that is under way. -/
theorem Steady.fill (steady : Steady s) {index : Nat} {sent : TrendOrder}
    {order : Order} {position : Position} (found : s.orders[index]? = some sent)
    (ticket : position.ticket = order.ticket) (side : position.side = order.side)
    (unused : s.tracking.opened.get? order.ticket = none) {jobs : List BrokerJob}
    (told : jobs = s.tracking.jobs ++ [.publish (.filled order)] ∨
      jobs = s.tracking.jobs) :
    Steady
      { s with
        tracking :=
          { s.tracking with
            account := s.tracking.account.set order.ticket position
            opened := s.tracking.opened.set order.ticket order.magic
            jobs := jobs }
        orders := s.orders.eraseIdx index
        sides := s.sides.set order.ticket order.side } := by
  rcases steady.alone found with ⟨last, unfilled, closed, none_⟩
  have unknown := steady.opened order.ticket unused
  have only : ∀ other p, (s.tracking.account.set order.ticket position).get? other =
      some p → other = order.ticket ∧ p = position := by
    intro other p there
    rw [Dict.get?_set] at there
    split at there
    · rename_i same
      cases there
      exact ⟨same, rfl⟩
    · rw [closed other] at there
      cases there
  have new : ∀ event, event ∈ ({ s with
        tracking :=
          { s.tracking with
            account := s.tracking.account.set order.ticket position
            opened := s.tracking.opened.set order.ticket order.magic
            jobs := jobs }
        orders := s.orders.eraseIdx index
        sides := s.sides.set order.ticket order.side } : TrendDesk).pending →
      event ∈ s.pending ∨ event = .filled order := by
    intro event member
    rcases mem_pending_iff.mp member with called | elsewhere
    · rcases told with rfl | rfl
      · rw [List.map_append] at called
        rcases List.mem_append.mp called with before | now
        · exact .inl (mem_pending_iff.mpr (.inl before))
        · exact .inr (List.mem_singleton.mp now)
      · exact .inl (mem_pending_iff.mpr (.inl called))
    · exact .inl (mem_pending_iff.mpr (.inr elsewhere))
  have uncommitted : ∀ c ∈ s.committed ++ s.stored, c.ticket ≠ order.ticket := by
    intro c member same
    exact steady.named c member (same ▸ unknown)
  have unstopped : ∀ commits : List StopCommit,
      (∀ c ∈ commits, c ∈ s.committed ++ s.stored) →
        stopsOf commits order.ticket = [] := by
    intro commits among
    by_contra some_
    rcases mem_of_stopsOf some_ with ⟨c, there, same⟩
    exact uncommitted c (among c there) same
  have empty := unstopped s.committed fun _ => List.mem_append_left _
  have unsaved := unstopped s.stored fun _ => List.mem_append_right _
  exact
    { account := by
        intro other p there
        obtain ⟨rfl, rfl⟩ := only other p there
        exact ⟨ticket, side ▸ Dict.get?_set_self _ _ _⟩
      mentions := by
        intro event member
        rcases new event member with before | rfl
        · exact sides_grow unknown (steady.mentions event before)
        · exact Dict.get?_set_self _ _ _
      view := fun pos member => sides_grow unknown (steady.view pos member)
      opened := by
        intro other free
        dsimp only at free ⊢
        rw [Dict.get?_set] at free ⊢
        split at free
        · cases free
        · rename_i apart
          rw [if_neg apart]
          exact steady.opened other free
      gone := by
        intro event member closes
        rcases new event member with before | rfl
        · have apart : event.ticket ≠ order.ticket := by
            intro same
            have known := steady.mentions event before
            rw [same, unknown] at known
            cases known
          exact (Dict.get?_set_of_ne _ _ apart).trans (closed event.ticket)
        · cases closes
      single := by
        intro one two p q first second
        exact (only one p first).1.trans (only two q second).1.symm
      flow := by
        rw [fills_pending] at unfilled ⊢
        dsimp only
        rw [last]
        rcases told with rfl | rfl
        · rw [List.map_append, fills_append]
          change 0 + (_ + 1 + _ + _) ≤ 1
          omega
        · change 0 + _ ≤ 1
          omega
      idle := by
        intro some_
        exact absurd last some_
      fresh := by
        intro event member filled other p there
        obtain ⟨rfl, -⟩ := only other p there
        rcases new event member with before | rfl
        · exact absurd filled (not_fill_of_fills unfilled event before)
        · exact ⟨rfl, empty⟩
      named := by
        intro c member
        have known := steady.named c member
        cases old : s.sides.get? c.ticket with
        | none => exact absurd old known
        | some before =>
            dsimp only
            rw [sides_grow unknown old]
            exact Option.some_ne_none before
      minds := by
        intro other p there
        obtain ⟨rfl, rfl⟩ := only other p there
        have blank : ∀ state ∈ s.strategy.state, False := by
          rw [none_]
          intro state member
          cases member
        refine ⟨held_of_unknown empty ?_ ?_ ?_, ?_⟩
        · change (stopsOf s.stored order.ticket).Sublist _
          rw [unsaved]
          exact List.nil_sublist _
        · exact fun state member => (blank state member).elim
        · exact fun state member => (blank state member).elim
        · exact fun state member => (blank state member).elim }

/-- A hook that waits no longer. -/
theorem pending_tail {hook : TrendHook} {hooks : List TrendHook}
    (queue : s.hooks = hook :: hooks) :
    ({ s with hooks := hooks } : TrendDesk).pending.Sublist s.pending := by
  unfold pending
  rw [queue]
  exact (List.Sublist.refl _).append ((List.sublist_cons_self hook hooks).filterMap _)

/-- A hook has taken its turn: what it committed is known, it kept what is open, and
it sent an order only if there was room for one. -/
theorem Steady.worked (steady : Steady s) {hook : TrendHook} {hooks : List TrendHook}
    (queue : s.hooks = hook :: hooks) {w : TrendWork}
    (minds : ∀ ticket position, s.Open ticket position →
      Held s.id ticket position.side w ∧ Owned ticket w)
    (named : ∀ c ∈ w.committed ++ w.stored, s.sides.get? c.ticket ≠ none)
    (idle : s.orders ≠ [] → w.strategy.state = none)
    (sent : w.signals = [] ∨ ∃ signal, w.signals = [signal] ∧ s.orders = [] ∧
      fills s.pending = 0 ∧ (∀ ticket, s.tracking.account.get? ticket = none) ∧
      w.strategy.state = none)
    (fresh : w.committed = s.committed ∨
      ∀ event ∈ ({ s with hooks := hooks } : TrendDesk).pending, event.kind ≠ .fill) :
    Steady ({ s with hooks := hooks }.worked w) := by
  have fewer := (pending_tail queue).subset
  have count := fills_sublist (pending_tail queue)
  have flow := steady.flow
  exact
    { account := steady.account
      mentions := fun event member => steady.mentions event (fewer member)
      view := steady.view
      opened := steady.opened
      gone := fun event member => steady.gone event (fewer member)
      single := steady.single
      flow := by
        change (s.orders ++ _).length + fills ({ s with hooks := hooks } :
          TrendDesk).pending ≤ 1
        rw [List.length_append, List.length_map]
        rcases sent with none_ | ⟨signal, one, empty, unfilled, -⟩
        · rw [none_]
          exact (Nat.add_le_add_left count _).trans flow
        · have quiet : fills ({ s with hooks := hooks } : TrendDesk).pending = 0 := by
            omega
          rw [quiet, one, empty]
          exact le_rfl
      idle := by
        intro some_
        rcases sent with none_ | ⟨signal, -, -, -, closed, blank⟩
        · have before : s.orders ≠ [] := by
            intro empty
            apply some_
            change s.orders ++ _ = []
            rw [empty, none_]
            rfl
          exact ⟨(steady.idle before).1, idle before⟩
        · exact ⟨closed, blank⟩
      fresh := by
        intro event member filled ticket position there
        rcases fresh with same | none_
        · have before := steady.fresh event (fewer member) filled ticket position
            there
          exact ⟨before.1, (congrArg (stopsOf · ticket) same).trans before.2⟩
        · exact absurd filled (none_ event member)
      named := named
      minds := by
        intro ticket position there
        obtain ⟨held, owned⟩ := minds ticket position there
        exact ⟨⟨⟨held.ratchets, held.among, held.file⟩, held.own, held.current,
          held.tracked⟩, owned⟩ }

section Turn

variable {disk : StoreSite → StoreAccess} {now : Time} {lastPrice : Option ℚ}
variable {hooks : List TrendHook}

/-- A commit of a ticket in the view is of a ticket that is known. -/
theorem Steady.shown_known (steady : Steady s) {ticket : Ticket}
    (member : ticket ∈ (s.scene disk now lastPrice).shown) :
    s.sides.get? ticket ≠ none := by
  rcases List.mem_map.mp member with ⟨pos, own, rfl⟩
  rw [steady.view pos (List.mem_filter.mp own).1]
  exact Option.some_ne_none pos.side

/-- The view is current when a bar is evaluated. -/
theorem Current.informs (current : s.Current) (steady : Steady s) {ticket : Ticket}
    {position : Position} (there : s.Open ticket position) :
    (s.scene disk now lastPrice).Informs ticket position.side s.work where
  first := current.shown ticket (Dict.get?_isSome_iff _ |>.mp (by rw [there]; rfl))
  sides pos member mine := by
    have known := steady.view pos (List.mem_filter.mp member).1
    rw [mine, (steady.account ticket position there).2] at known
    exact (Option.some.inj known).symm
  loaded starting stop newest := by
    have listed : ticket ∈ s.tracking.account.keys :=
      Dict.get?_isSome_iff _ |>.mp (by rw [there]; rfl)
    rcases current.loaded starting ticket listed stop newest with
      ⟨state, found, mine, same, own, symbol, shown⟩
    exact ⟨state, found, mine, same, own, symbol, shown⟩

theorem Steady.turn_same (steady : Steady s) {hook : TrendHook}
    (queue : s.hooks = hook :: hooks) {w : TrendWork} (same : Same s.work w) :
    Steady ({ s with hooks := hooks }.worked w) := by
  apply steady.worked queue
  · intro ticket position there
    obtain ⟨held, owned⟩ := steady.minds ticket position there
    exact ⟨same.held held, same.owned owned⟩
  · rw [same.committed, same.stored]
    exact steady.named
  · intro some_
    rw [same.memory]
    exact (steady.idle some_).2
  · left
    exact same.signals
  · left
    exact same.committed

/-- A bar that is evaluated while the view is current. -/
theorem Steady.evaluated (steady : Steady s) {h1 : Bar} (current : s.Current)
    (queue : s.hooks = .bar h1 :: hooks) {w : TrendWork}
    (minds : ∀ ticket position, s.Open ticket position →
      Held s.id ticket position.side w ∧ Owned ticket w)
    (changed : Frames (s.scene disk now lastPrice).shown s.work w ∨
      ((s.scene disk now lastPrice).own = [] ∧
        (s.scene disk now lastPrice).Flat s.work w)) :
    Steady ({ s with hooks := hooks }.worked w) := by
  have known : ∀ c ∈ w.committed ++ w.stored,
      (c ∈ s.committed ++ s.stored ∨ c.ticket ∈ (s.scene disk now lastPrice).shown) →
        s.sides.get? c.ticket ≠ none := by
    rintro c - (before | shown)
    · exact steady.named c before
    · exact steady.shown_known shown
  apply steady.worked queue minds
  · intro c member
    apply known c member
    rcases changed with frames | ⟨-, flat, -⟩
    · exact frames.named c member
    · exact flat.named c member
  · intro some_
    exact absurd current.settled.1 some_
  · rcases changed with frames | ⟨empty, -, quiet | ⟨signal, one, blank⟩⟩
    · left
      exact frames.signals
    · left
      exact quiet
    · right
      refine ⟨signal, one, current.settled.1, ?_, ?_, blank⟩
      · apply List.countP_eq_zero.mpr
        intro event member filled
        exact current.settled.2 event member (of_decide_eq_true filled)
      · intro ticket
        cases there : s.tracking.account.get? ticket with
        | none => rfl
        | some position =>
            have informs : (s.scene disk now lastPrice).Informs ticket position.side s.work :=
              current.informs steady there
            have first := informs.first
            rw [empty] at first
            cases first
  · right
    intro event member
    exact current.settled.2 event ((pending_tail queue).subset member)

theorem Steady.turn_bar (steady : Steady s) {h1 : Bar}
    (queue : s.hooks = .bar h1 :: hooks)
    (informed : (s.scene disk now lastPrice).evaluated s.strategy h1 ≠ none →
      s.Current) :
    Ends (fun w => Steady ({ s with hooks := hooks }.worked w))
      (fun w => Steady ({ s with hooks := hooks }.worked w))
      ((s.scene disk now lastPrice).onBar h1 s.work) := by
  cases found : (s.scene disk now lastPrice).evaluated s.strategy h1 with
  | none =>
      exact (onBar_same found).imp (fun _ => steady.turn_same queue)
        fun _ => steady.turn_same queue
  | some newH4 =>
      have current : s.Current := informed (by rw [found]; exact Option.some_ne_none _)
      have minds : Ends
          (fun w => ∀ kept : { pair : Ticket × Position // s.Open pair.1 pair.2 },
            (s.scene disk now lastPrice).Minds kept.1.1 kept.1.2.side w)
          (fun w => ∀ kept : { pair : Ticket × Position // s.Open pair.1 pair.2 },
            (s.scene disk now lastPrice).Minds kept.1.1 kept.1.2.side w)
          ((s.scene disk now lastPrice).onBar h1 s.work) :=
        Ends.all fun kept => onBar_holds found (current.informs steady kept.2)
          (steady.minds kept.1.1 kept.1.2 kept.2)
      have finish : ∀ w,
          (∀ kept : { pair : Ticket × Position // s.Open pair.1 pair.2 },
            (s.scene disk now lastPrice).Minds kept.1.1 kept.1.2.side w) ∧
          (Frames (s.scene disk now lastPrice).shown s.work w ∨
            ((s.scene disk now lastPrice).own = [] ∧
              (s.scene disk now lastPrice).Flat s.work w)) →
          Steady ({ s with hooks := hooks }.worked w) := by
        rintro w ⟨kept, changed⟩
        exact steady.evaluated current queue
          (fun ticket position there => kept ⟨(ticket, position), there⟩) changed
      exact (minds.both (onBar_frames h1 s.work)).imp finish finish

/-- The strategy hears of its fill. -/
theorem Steady.turn_filled (steady : Steady s) {order : Order}
    (queue : s.hooks = .filled order :: hooks) :
    Ends (fun w => Steady ({ s with hooks := hooks }.worked w))
      (fun w => Steady ({ s with hooks := hooks }.worked w))
      ((s.scene disk now lastPrice).onOrderFilled order s.work) := by
  have heard : PositionEvent.filled order ∈ s.pending := by
    apply mem_pending_iff.mpr
    rw [queue]
    exact .inr (.inr List.mem_cons_self)
  have known := steady.mentions _ heard
  have flow := steady.flow
  have counted : fills s.pending =
      1 + fills ({ s with hooks := hooks } : TrendDesk).pending := by
    rw [fills_pending, fills_pending, queue]
    change _ + fills (.filled order :: _) = _
    rw [fills_cons]
    change _ + (1 + _) = _
    dsimp only
    omega
  have sole : s.orders = [] :=
    List.length_eq_zero_iff.mp (by omega)
  have records : ∀ w, Recorded s.work
      ((s.scene disk now lastPrice).filledState s.strategy order) w →
        Steady ({ s with hooks := hooks }.worked w) := by
    intro w recorded
    apply steady.worked queue
    · intro ticket position there
      obtain ⟨mine, empty⟩ := steady.fresh _ heard rfl ticket position there
      obtain ⟨held, -⟩ := steady.minds ticket position there
      have side : order.side = position.side := by
        have again := (steady.account ticket position there).2
        rw [← mine] at again
        exact Option.some.inj (known.symm.trans again)
      refine ⟨recorded.held held.toKept mine rfl side ?_, recorded.owned mine⟩
      intro old newest
      change old ∈ (stopsOf s.committed ticket).getLast? at newest
      rw [empty] at newest
      cases newest
    · intro c member
      have frames : Frames [order.ticket] s.work w :=
        recorded.frames (List.mem_singleton_self order.ticket)
      rcases frames.named c member with before | new
      · exact steady.named c before
      · rw [List.mem_singleton.mp new]
        exact known ▸ Option.some_ne_none _
    · intro some_
      exact absurd sole some_
    · left
      exact recorded.signals
    · right
      apply not_fill_of_fills
      omega
  refine (onOrderFilled_spec order s.work).imp ?_ records
  rintro w (rfl | recorded)
  · exact steady.turn_same queue (Same.refl _)
  · exact records w recorded

/-- The strategy hears of a close. -/
theorem Steady.turn_closed (steady : Steady s) {closed : Position}
    (queue : s.hooks = .closed closed :: hooks) :
    Ends (fun w => Steady ({ s with hooks := hooks }.worked w))
      (fun w => Steady ({ s with hooks := hooks }.worked w))
      ((s.scene disk now lastPrice).onPositionClosed closed s.work) := by
  have heard : PositionEvent.closed closed ∈ s.pending := by
    apply mem_pending_iff.mpr
    rw [queue]
    exact .inr (.inr List.mem_cons_self)
  have gone := steady.gone _ heard rfl
  by_cases some_ : ∃ ticket position, s.Open ticket position
  · obtain ⟨ticket, position, there⟩ := some_
    have apart : closed.ticket ≠ ticket := by
      rintro rfl
      exact Option.some_ne_none _ (there.symm.trans gone)
    have minds : (s.scene disk now lastPrice).Minds ticket position.side s.work :=
      steady.minds ticket position there
    rw [onPositionClosed_other minds apart]
    exact steady.turn_same queue (Same.refl _)
  · have drops : ∀ w, Dropped s.work w →
        Steady ({ s with hooks := hooks }.worked w) := by
      intro w dropped
      apply steady.worked queue
      · intro ticket position there
        exact absurd ⟨ticket, position, there⟩ some_
      · rw [dropped.committed, dropped.stored]
        exact steady.named
      · exact fun _ => dropped.memory
      · left
        exact dropped.signals
      · left
        exact dropped.committed
    refine (onPositionClosed_spec closed s.work).imp ?_ drops
    rintro w (rfl | dropped)
    · exact steady.turn_same queue (Same.refl _)
    · exact drops w dropped

end Turn

/-! ### Runs -/

theorem Steady.step (steady : Steady s) (informed : s.Informed label)
    (taken : Step s label s') : Steady s' := by
  simp only [Step, stepOf?] at taken
  cases label with
  | bar h1 =>
      simp only [step?] at taken
      split at taken
      · cases taken
        exact steady.passive (steady.bar h1)
      · cases taken
  | handle kind =>
      simp only [step?] at taken
      split at taken
      · rename_i event rest tracking popped handled
        cases taken
        cases PositionTracking.moved_of_step handled with
        | handle again =>
            rw [popped] at again
            cases again
            exact steady.passive (steady.handle popped)
      · cases taken
  | turn disk now lastPrice =>
      simp only [step?] at taken
      cases queue : s.hooks with
      | nil => simp [queue] at taken
      | cons hook hooks =>
          have turned : Ends (fun w => Steady ({ s with hooks := hooks }.worked w))
              (fun w => Steady ({ s with hooks := hooks }.worked w))
              (hook.run (s.scene disk now lastPrice) s.work) := by
            cases hook with
            | bar h1 =>
                apply steady.turn_bar queue
                intro evaluates
                refine informed h1 ?_ evaluates
                rw [queue]
                rfl
            | filled order => exact steady.turn_filled queue
            | closed position => exact steady.turn_closed queue
          simp only [queue] at taken
          cases ended : hook.run (s.scene disk now lastPrice) s.work with
          | ok w =>
              rw [ended] at taken turned
              cases taken
              exact turned
          | error w =>
              rw [ended] at taken turned
              cases taken
              exact turned
  | fill index order position =>
      simp only [step?] at taken
      split at taken
      · cases taken
      · rename_i sent found
        split at taken
        · rename_i fits
          split at taken
          · cases taken
          · rename_i tracking filled
            cases taken
            cases PositionTracking.moved_of_step filled with
            | fill ticket magic unused =>
                cases orphaned : sent.orphaned with
                | true => exact steady.fill found ticket fits.2.2.2.2.2 unused (.inr rfl)
                | false => exact steady.fill found ticket fits.2.2.2.2.2 unused (.inl rfl)
        · cases taken
  | refuse index =>
      simp only [step?] at taken
      split at taken
      · cases taken
        exact steady.passive (steady.aside (List.length_eraseIdx_le _ _) fun _ _ _ => rfl)
      · cases taken
  | account label =>
      simp only [step?] at taken
      split at taken
      · rename_i only
        split at taken
        · cases taken
        · rename_i tracking changed
          cases taken
          exact steady.passive (steady.change only (PositionTracking.moved_of_step changed))
      · cases taken
  | vanish ticket =>
      cases taken
      exact steady.passive (steady.vanish ticket)
  | other call =>
      have framed : call.strategyId ≠ s.id → Passive s { s with store := s.store.call call } := by
        intro apart
        apply steady.aside le_rfl
        intro ticket position there
        apply other_frames apart
        apply informed
        intro empty
        have listed : ticket ∈ s.tracking.account.keys :=
          Dict.get?_isSome_iff _ |>.mp (by rw [there]; rfl)
        rw [empty] at listed
        cases listed
      cases call with
      | save state read write =>
          simp only [step?] at taken
          split at taken
          · cases taken
          · rename_i apart
            cases taken
            exact steady.passive (framed apart)
      | clear strategyId read write =>
          simp only [step?] at taken
          split at taken
          · cases taken
          · rename_i apart
            cases taken
            exact steady.passive (framed apart)
      | load strategyId read =>
          simp only [step?] at taken
          split at taken
          · cases taken
          · rename_i apart
            cases taken
            exact steady.passive (framed apart)
  | reload params =>
      cases taken
      exact steady.passive (steady.aside le_rfl fun _ _ _ => rfl)
  | replace read =>
      cases taken
      exact steady.passive (passive_started le_rfl rfl rfl rfl (List.Sublist.refl _))
  | restart read =>
      cases taken
      exact steady.passive
        (passive_started (List.length_map _).le rfl rfl rfl (List.nil_sublist _))

/-- For every strategy, and every run of bars, fills, changes at the broker and
restarts. -/
theorem chandelier_stops_keep {id : StrategyId} {magic : Int} {params : D1H4TrendParams}
    {labels : List TrendLabel}
    (run : Run (Guarded Informed Step) (boot id magic params) labels s) :
    s.Keeps := by
  have steady : Steady s :=
    run.invariant (steady_boot id magic params) fun taken steady =>
      steady.step taken.1 taken.2
  exact steady.keeps

/-! ### A restart that goes well, and one that does not -/

instance (s : TrendDesk) : Decidable s.Current :=
  decidable_of_iff
    ((s.orders = [] ∧ ∀ event ∈ s.pending, event.kind ≠ .fill) ∧
      (∀ ticket ∈ s.tracking.account.keys,
        s.own.head?.map Position.ticket = some ticket) ∧
      (s.strategy.reconciled = false → ∀ ticket ∈ s.tracking.account.keys,
        ∀ stop ∈ (stopsOf s.committed ticket).getLast?.toList,
          ∃ state ∈ s.strategy.loaded.toList,
            state.ticket = ticket ∧ state.chandelierStop = stop ∧
              state.strategyId = s.id ∧ state.symbol = s.params.symbol ∧
              ∃ pos ∈ s.own, state.Matches s.params.symbol pos))
    ⟨fun h => ⟨h.1, h.2.1, by simpa only [Option.mem_toList, Option.mem_def] using h.2.2⟩,
      fun h => ⟨h.settled, h.shown, by simpa only [Option.mem_toList, Option.mem_def] using h.loaded⟩⟩

instance (s : TrendDesk) (label : TrendLabel) : Decidable (s.Informed label) := by
  cases label <;> unfold Informed <;> infer_instance

/-- The shortest lengths that validation allows, and one open hour a day: each day is
one bar of every timeframe. -/
def briskParams : D1H4TrendParams where
  symbol := "XAUUSD"
  dailyAnchorHour := 0
  weekOpenHour := 0
  weekCloseHour := 24
  sessionBreakHours := (List.range 24).tail
  d1FastEma := 1
  d1SlowEma := 2
  d1SlopeLookback := 1
  d1AdxLength := 2
  d1LongAdxMin := 0
  d1ShortAdxMin := 0
  d1ExitEma := 1
  h4FastEma := 1
  h4SlowEma := 2
  breakoutLookback := 1
  atrLength := 2
  initialStopAtr := 1
  maxBreakoutAtr := 100
  maxChannelBreakoutAtr := 100
  chandelierLookback := 1
  chandelierAtr := 1
  allowShort := true
  volume := 1
  weekCloseHour_bounds := by decide
  d1Emas_bounds := by decide
  d1Lengths_bounds := by decide
  d1AdxMins_nonneg := by norm_num
  h4Emas_bounds := by decide
  h4Lengths_bounds := by decide
  entryFactors_pos := by norm_num
  chandelier_bounds := by norm_num
  volume_pos := one_quote_pos

/-- The bar of a day, counted from a Thursday; the price rises by ten a day. -/
def risingBar (day : Nat) : Bar where
  symbol := "XAUUSD"
  timeframe := .h1
  time := day * Time.usPerDay
  openPrice := 100 + 10 * day
  high := 100 + 10 * day
  low := 100 + 10 * day
  close := 100 + 10 * day
  tickVolume := 1
  low_pos := by positivity
  low_le_open := le_rfl
  open_le_high := le_rfl
  low_le_close := le_rfl
  close_le_high := le_rfl

/-- The strategy's turn at the bars of some days, with a file that works. -/
def days (numbers : List Nat) : List TrendLabel :=
  numbers.flatMap fun day =>
    [.bar (risingBar day), .turn (fun _ => ⟨.fine, .replaced, false⟩) 0 none]

def entryPosition : Position where
  ticket := 1
  symbol := "XAUUSD"
  side := .buy
  volume := 1
  openPrice := 170
  openTime := 0
  sl := some 150
  tp := none
  comment := "d1h4_long"
  magic := 7
  volume_pos := one_quote_pos
  openPrice_pos := by norm_num

def entryOrder : Order where
  ticket := 1
  strategyId := "d1h4"
  symbol := "XAUUSD"
  side := .buy
  type := .market
  volume := 1
  filledVolume := 1
  price := none
  fillPrice := some 170
  sl := some 150
  tp := none
  status := .filled
  comment := "d1h4_long"
  magic := 7
  clientOrderId := ""
  requestedAt := none
  filledAt := some 0
  volume_pos := one_quote_pos

/-- An entry, its fill, a first tighter stop, and a restart. -/
def heldOverRestart : List TrendLabel :=
  days [3, 4, 5, 6, 7] ++
    [.fill 0 entryOrder entryPosition, .account (.publish 0), .handle .fill,
      .turn (fun _ => ⟨.fine, .replaced, false⟩) 0 none] ++
    days [8] ++ [.restart .fine]

/-- The stop is moved by hand before the next two bars, so the view has the position
again. -/
def seenAgain : List TrendLabel :=
  heldOverRestart ++
    [.account (.modify entryPosition (some 160) none), .account (.reread 0),
      .account (.publish 0), .handle .modify] ++
    days [10, 11]

theorem restored_after_restart :
    ∃ s : TrendDesk, s.committed = [⟨1, 150⟩, ⟨1, 160⟩, ⟨1, 160⟩] ∧ s.Keeps := by
  have reached :
      (replay? Informed step? (boot "d1h4" 7 briskParams) seenAgain).map
          TrendDesk.committed = some [⟨1, 150⟩, ⟨1, 160⟩, ⟨1, 160⟩] := by
    decide +kernel
  rcases Option.map_eq_some_iff.mp reached with ⟨s, replayed, committed⟩
  exact ⟨s, committed, chandelier_stops_keep (run_of_replay? replayed)⟩

/-- Without a word on the position the first H4 bar clears its stop. -/
theorem restart_clears_the_stop :
    ¬ ∀ (id : StrategyId) (magic : Int) (params : D1H4TrendParams)
        (labels : List TrendLabel) (s : TrendDesk),
        Run Step (boot id magic params) labels s → s.Keeps := by
  intro claim
  have reached :
      (replay? (fun _ _ => True) step? (boot "d1h4" 7 briskParams)
          (heldOverRestart ++ days [10, 11])).map
        (fun s => (s.tracking.account.get? 1, stopsOf s.stored 1,
          s.store.file.get? s.id)) =
      some (some entryPosition, [150, 160], none) := by
    decide +kernel
  rcases Option.map_eq_some_iff.mp reached with ⟨s, replayed, seen⟩
  simp only [Prod.mk.injEq] at seen
  rcases seen with ⟨there, stops, cleared⟩
  have keeps := claim _ _ _ _ s (run_of_replay? replayed).unguard
  rcases keeps.file 1 entryPosition there 160 (by rw [stops]; rfl) with
    ⟨state, found, -⟩
  rw [cleared] at found
  cases found

end TrendDesk

end StingerFx
