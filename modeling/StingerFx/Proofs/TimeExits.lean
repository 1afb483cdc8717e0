/-
Module: StingerFx.Proofs.TimeExits
Layer: Proofs
Purpose: When the bar mode of the time exit manager counts the bars of the primary
  feed. It does for a ticket as long as each bar that it handles opens at or after
  the position's open time exactly if it is a primary bar that ends after it. A bar
  of another timeframe of the symbol counts too much, a bar inside which the entry
  lies counts too little.
Trusted boundary: none (fully proved)
Main exports: Counts, counted, ExitedOnTime, TimeExitDesk.CountsRight,
  TimeExitDesk.OnTime, TimeExitDesk.exits_on_time,
  TimeExitDesk.exits_early_and_late
-/
import StingerFx.Proofs.PositionView
import StingerFx.Runtime.TimeExitDesk

namespace StingerFx

open Lib

/-! ### The claim -/

/-- A bar of the primary feed whose period ends after the position's open time. -/
def Counts (primary : Subscription) (pos : Position) (bar : Bar) : Prop :=
  bar.subscription = primary ∧ pos.openTime < bar.closeTime

instance (primary : Subscription) (pos : Position) (bar : Bar) :
    Decidable (Counts primary pos bar) := by
  unfold Counts
  infer_instance

def counted (primary : Subscription) (pos : Position) (bars : List Bar) : Nat :=
  bars.countP fun bar => decide (Counts primary pos bar)

/-- Closes asked for a position, by the index of the bar: none before the bar that
is number `limit`, one when this bar is handled, and no other. -/
structure ExitedOnTime (limit : Int) (primary : Subscription) (pos : Position)
    (handled : List Bar) (requested : List Nat) : Prop where
  never_before : (counted primary pos handled : Int) < limit → requested = []
  at_limit : ∀ earlier bar later, handled = earlier ++ bar :: later →
    Counts primary pos bar → (counted primary pos earlier : Int) + 1 = limit →
    requested = [earlier.length]

section Counting

variable {primary : Subscription} {pos : Position} {handled : List Bar} {bar : Bar}
  {limit : Int} {requested : List Nat}

theorem counted_concat (primary : Subscription) (pos : Position)
    (handled : List Bar) (bar : Bar) :
    counted primary pos (handled ++ [bar]) =
      counted primary pos handled + if Counts primary pos bar then 1 else 0 := by
  unfold counted
  rw [List.countP_append, List.countP_singleton]
  by_cases counts : Counts primary pos bar
  · rw [if_pos (decide_eq_true counts), if_pos counts]
  · rw [if_neg (by simpa using counts), if_neg counts]

theorem counted_le_of_prefix (earlier later : List Bar)
    (counts : Counts primary pos bar) :
    counted primary pos earlier + 1 ≤
      counted primary pos (earlier ++ bar :: later) := by
  unfold counted
  rw [List.countP_append, List.countP_cons, if_pos (decide_eq_true counts)]
  omega

/-- What one more bar has to do to the requests. -/
theorem ExitedOnTime.grow (before : ExitedOnTime limit primary pos handled requested)
    {after : List Nat}
    (early : (counted primary pos (handled ++ [bar]) : Int) < limit → after = [])
    (now : (counted primary pos handled : Int) < limit →
      limit ≤ counted primary pos (handled ++ [bar]) → after = [handled.length])
    (past : limit ≤ counted primary pos handled → after = requested) :
    ExitedOnTime limit primary pos (handled ++ [bar]) after where
  never_before := early
  at_limit := by
    intro earlier hit later whole counts number
    rcases List.eq_nil_or_concat later with rfl | ⟨front, last, rfl⟩
    · -- the new bar is the one
      obtain ⟨rfl, same⟩ := List.append_inj' whole rfl
      cases same
      have step := counted_concat primary pos handled bar
      rw [if_pos counts] at step
      exact now (by omega) (by omega)
    · have longer : handled ++ [bar] = (earlier ++ hit :: front) ++ [last] := by
        rw [whole]
        simp
      obtain ⟨rfl, -⟩ := List.append_inj' longer rfl
      have reached := counted_le_of_prefix earlier front counts
      rw [past (by omega)]
      exact before.at_limit earlier hit front rfl counts number

end Counting

/-! ### One bar at the manager -/

namespace TimeExitManager

/-- What the manager knows of a ticket. -/
def share (ticket : Ticket) (m : TimeExitManager) : Nat × Bool :=
  (m.bars.getD ticket 0, decide (ticket ∈ m.closing))

theorem share_countBar (m : TimeExitManager) (bar : Bar) (pos : Position) :
    (m.countBar bar pos).share pos.ticket =
      (m.bars.getD pos.ticket 0 + if pos.openTime ≤ bar.time then 1 else 0,
        decide (pos.ticket ∈ m.closing)) := by
  unfold countBar
  split
  · rw [share, Dict.getD_set, if_pos rfl]
  · rfl

/-- A visit touches its own ticket only. -/
theorem visitBar_frame (ctx : StrategyContext) (bar : Bar) (limit : Int)
    (m : TimeExitManager) (pos : Position) (other : Ticket)
    (apart : other ≠ pos.ticket) :
    share other (visitBar ctx bar limit m pos).1 = share other m := by
  have counts : (m.countBar bar pos).share other = m.share other := by
    unfold countBar
    split
    · rw [share, Dict.getD_set, if_neg apart]
      rfl
    · rfl
  unfold visitBar
  split
  · rfl
  · dsimp only
    split
    · rw [← counts, requestClose, share, share]
      simp [apart]
    · exact counts

theorem visitBar_own (ctx : StrategyContext) (bar : Bar) (limit : Int)
    (m : TimeExitManager) (pos : Position) :
    ∀ request ∈ (visitBar ctx bar limit m pos).2, request.ticket = pos.ticket := by
  unfold visitBar
  split
  · exact List.forall_mem_nil _
  · dsimp only
    split
    · intro request member
      rw [List.mem_singleton.mp member]
      rfl
    · exact List.forall_mem_nil _

theorem visitBar_keeps (ctx : StrategyContext) (bar : Bar) (limit : Int)
    (m : TimeExitManager) (pos : Position) :
    (visitBar ctx bar limit m pos).1.maxBars = m.maxBars ∧
      (visitBar ctx bar limit m pos).1.maxSeconds = m.maxSeconds ∧
      (visitBar ctx bar limit m pos).1.symbol = m.symbol := by
  have counts : (m.countBar bar pos).maxBars = m.maxBars ∧
      (m.countBar bar pos).maxSeconds = m.maxSeconds ∧
      (m.countBar bar pos).symbol = m.symbol := by
    unfold countBar
    split <;> exact ⟨rfl, rfl, rfl⟩
  unfold visitBar
  split
  · exact ⟨rfl, rfl, rfl⟩
  · dsimp only
    split
    · exact counts
    · exact counts

theorem share_purge (m : TimeExitManager) {live : List Ticket} {ticket : Ticket}
    (alive : ticket ∈ live) :
    ((m.purgeBars live).purgeClosing live).share ticket = m.share ticket := by
  have kept : ticket ∉ m.bars.keys.filter fun ticket => decide (ticket ∉ live) := by
    intro member
    exact of_decide_eq_true (List.mem_filter.mp member).2 alive
  have bars : (m.purgeBars live).bars.getD ticket 0 = m.bars.getD ticket 0 := by
    rw [purgeBars, Dict.getD, Dict.get?_eraseAll, if_neg kept]
    rfl
  have closing : decide (ticket ∈ ((m.purgeBars live).purgeClosing live).closing) =
      decide (ticket ∈ m.closing) := by
    apply decide_eq_decide.mpr
    constructor
    · exact fun member => (List.mem_filter.mp member).1
    · exact fun member => List.mem_filter.mpr ⟨member, decide_eq_true alive⟩
  exact Prod.ext bars closing

/-- Nothing is known of a ticket, and nothing gets known of it by a purge. -/
theorem share_purge_fresh (m : TimeExitManager) (live : List Ticket)
    {ticket : Ticket} (fresh : m.share ticket = (0, false)) :
    ((m.purgeBars live).purgeClosing live).share ticket = (0, false) := by
  obtain ⟨noBars, notClosing⟩ := Prod.mk.inj fresh
  have bars : (m.purgeBars live).bars.getD ticket 0 = 0 := by
    rw [purgeBars, Dict.getD, Dict.get?_eraseAll]
    split
    · rfl
    · exact noBars
  have closing : decide (ticket ∈ ((m.purgeBars live).purgeClosing live).closing) =
      false := by
    apply decide_eq_false
    intro member
    exact of_decide_eq_false notClosing (List.mem_filter.mp member).1
  exact Prod.ext bars closing

section OnBar

variable {m : TimeExitManager} (ctx : StrategyContext) {positions : List Position}
  (bar : Bar) {limit : Int} {pos : Position}

theorem onBar_elsewhere {bar : Bar} (limited : m.maxBars = some limit)
    (elsewhere : bar.symbol ≠ m.symbol) : m.onBar ctx positions bar = (m, []) := by
  rw [onBar, limited]
  exact if_pos elsewhere

theorem onBar_here {bar : Bar} (limited : m.maxBars = some limit) (here : bar.symbol = m.symbol) :
    m.onBar ctx positions bar =
      let mine := forSymbol positions m.symbol
      let live := mine.map Position.ticket
      let visited := visitAll (visitBar ctx bar limit) m mine
      ((visited.1.purgeBars live).purgeClosing live, visited.2) := by
  rw [onBar, limited]
  exact if_neg (not_not.mpr here)

theorem onBar_keeps (positions : List Position) (limited : m.maxBars = some limit) :
    (m.onBar ctx positions bar).1.maxBars = m.maxBars ∧
      (m.onBar ctx positions bar).1.maxSeconds = m.maxSeconds ∧
      (m.onBar ctx positions bar).1.symbol = m.symbol := by
  by_cases here : bar.symbol = m.symbol
  · rw [onBar_here ctx limited here]
    change (visitAll (visitBar ctx bar limit) m _).1.maxBars = _ ∧
      (visitAll (visitBar ctx bar limit) m _).1.maxSeconds = _ ∧
      (visitAll (visitBar ctx bar limit) m _).1.symbol = _
    generalize forSymbol positions m.symbol = mine
    clear here limited
    induction mine generalizing m with
    | nil => exact ⟨rfl, rfl, rfl⟩
    | cons pos rest ih =>
        obtain ⟨bars, seconds, symbol⟩ := visitBar_keeps ctx bar limit m pos
        obtain ⟨bars', seconds', symbol'⟩ := @ih (visitBar ctx bar limit m pos).1
        exact ⟨bars'.trans bars, seconds'.trans seconds, symbol'.trans symbol⟩
  · rw [onBar_elsewhere ctx limited here]
    exact ⟨rfl, rfl, rfl⟩

/-- A ticket outside the view of which nothing is known. -/
theorem onBar_fresh (limited : m.maxBars = some limit) {ticket : Ticket}
    (absent : ticket ∉ positions.map Position.ticket)
    (fresh : m.share ticket = (0, false)) :
    (m.onBar ctx positions bar).1.share ticket = (0, false) ∧
      (m.onBar ctx positions bar).2.filter (fun request =>
        decide (request.ticket = ticket)) = [] := by
  by_cases here : bar.symbol = m.symbol
  · have notMine : ticket ∉ (forSymbol positions m.symbol).map Position.ticket := by
      intro member
      obtain ⟨pos, inside, same⟩ := List.mem_map.mp member
      exact absent (List.mem_map.mpr ⟨pos, (List.mem_filter.mp inside).1, same⟩)
    obtain ⟨kept, none⟩ := visitAll_absent share
      (visitBar_frame ctx bar limit) (visitBar_own ctx bar limit) notMine m
    rw [onBar_here ctx limited here]
    exact ⟨share_purge_fresh _ _ (kept.trans fresh), none⟩
  · rw [onBar_elsewhere ctx limited here]
    exact ⟨fresh, rfl⟩

/-- For a position of the view the loop is one visit. -/
theorem onBar_visits {bar : Bar} (limited : m.maxBars = some limit)
    (single : (positions.map Position.ticket).Nodup) (shown : pos ∈ positions)
    (mine : pos.symbol = m.symbol) (here : bar.symbol = m.symbol) :
    ∃ before : TimeExitManager, before.share pos.ticket = m.share pos.ticket ∧
      (m.onBar ctx positions bar).1.share pos.ticket =
        (visitBar ctx bar limit before pos).1.share pos.ticket ∧
      (m.onBar ctx positions bar).2.filter (fun request =>
        decide (request.ticket = pos.ticket)) =
        (visitBar ctx bar limit before pos).2 := by
  have member : pos ∈ forSymbol positions m.symbol :=
    List.mem_filter.mpr ⟨shown, decide_eq_true mine⟩
  have unique : ((forSymbol positions m.symbol).map Position.ticket).Nodup :=
    single.sublist (List.filter_sublist.map Position.ticket)
  obtain ⟨before, same, after, given⟩ := visitAll_present share
    (visitBar_frame ctx bar limit) (visitBar_own ctx bar limit) unique member m
  refine ⟨before, same, ?_, ?_⟩
  · rw [onBar_here ctx limited here, ← after]
    exact share_purge _ (List.mem_map_of_mem member)
  · rw [onBar_here ctx limited here]
    exact given

/-- A close that is asked for is not asked for again. -/
theorem visitBar_closing {before : TimeExitManager}
    (closing : (before.share pos.ticket).2 = true) :
    visitBar ctx bar limit before pos = (before, []) :=
  if_pos (of_decide_eq_true closing)

/-- The count decides. -/
theorem visitBar_counting (limit : Int) {before : TimeExitManager} {count : Nat}
    (known : before.share pos.ticket = (count, false)) :
    (visitBar ctx bar limit before pos).1.share pos.ticket =
        (count + if pos.openTime ≤ bar.time then 1 else 0,
          decide (limit ≤ (count + if pos.openTime ≤ bar.time then 1 else 0 : Nat))) ∧
      (visitBar ctx bar limit before pos).2 =
        if limit ≤ (count + if pos.openTime ≤ bar.time then 1 else 0 : Nat) then
          [ctx.close pos.ticket "time_exit_bars"]
        else [] := by
  obtain ⟨bars, notClosing⟩ := Prod.mk.inj known
  have after := share_countBar before bar pos
  rw [bars, notClosing] at after
  obtain ⟨bars', closing'⟩ := Prod.mk.inj after
  unfold visitBar
  rw [if_neg (of_decide_eq_false notClosing)]
  dsimp only
  rw [bars']
  generalize count + (if pos.openTime ≤ bar.time then 1 else 0) = total at *
  by_cases reached : limit ≤ (total : Int)
  · rw [if_pos reached, if_pos reached, decide_eq_true reached]
    exact ⟨Prod.ext bars' (decide_eq_true List.mem_cons_self), rfl⟩
  · rw [if_neg reached, if_neg reached, decide_eq_false reached]
    exact ⟨after, rfl⟩

theorem onBar_closing (limited : m.maxBars = some limit)
    (single : (positions.map Position.ticket).Nodup) (shown : pos ∈ positions)
    (mine : pos.symbol = m.symbol) (closing : (m.share pos.ticket).2 = true) :
    ((m.onBar ctx positions bar).1.share pos.ticket).2 = true ∧
      (m.onBar ctx positions bar).2.filter (fun request =>
        decide (request.ticket = pos.ticket)) = [] := by
  by_cases here : bar.symbol = m.symbol
  · obtain ⟨before, same, after, given⟩ :=
      onBar_visits ctx limited single shown mine here
    have still : (before.share pos.ticket).2 = true := by rwa [same]
    rw [visitBar_closing ctx bar still] at after given
    exact ⟨by rw [after]; exact still, given⟩
  · rw [onBar_elsewhere ctx limited here]
    exact ⟨closing, rfl⟩

/-- What the manager makes of a bar for a ticket that it still counts for. -/
theorem onBar_counting (limited : m.maxBars = some limit)
    (single : (positions.map Position.ticket).Nodup) (shown : pos ∈ positions)
    (mine : pos.symbol = m.symbol) {count total : Nat} (early : (count : Int) < limit)
    (known : m.share pos.ticket = (count, false))
    (sum : total = count +
      if bar.symbol = m.symbol ∧ pos.openTime ≤ bar.time then 1 else 0) :
    (m.onBar ctx positions bar).1.share pos.ticket =
        (total, decide (limit ≤ (total : Int))) ∧
      (m.onBar ctx positions bar).2.filter (fun request =>
        decide (request.ticket = pos.ticket)) =
        if limit ≤ (total : Int) then [ctx.close pos.ticket "time_exit_bars"]
        else [] := by
  by_cases here : bar.symbol = m.symbol
  · obtain ⟨before, same, after, given⟩ :=
      onBar_visits ctx limited single shown mine here
    have visited := visitBar_counting ctx bar limit (same.trans known)
    simp only [here, true_and] at sum
    rw [← sum] at visited
    exact ⟨after.trans visited.1, given.trans visited.2⟩
  · rw [if_neg fun both => here both.1, Nat.add_zero] at sum
    subst sum
    rw [onBar_elsewhere ctx limited here, decide_eq_false (not_le.mpr early),
      if_neg (not_le.mpr early)]
    exact ⟨known, rfl⟩

end OnBar

end TimeExitManager

/-! ### Runs -/

namespace TimeExitDesk

variable {s s' : TimeExitDesk} {label : ExitLabel} {ticket : Ticket} {limit : Int}

/-- The bars at which the close of a ticket was asked for. -/
def requested (s : TimeExitDesk) (ticket : Ticket) : List Nat :=
  (s.requests.filter fun request => decide (request.ticket = ticket)).map
    ExitRequest.bar

/-- As long as no close is asked for, a bar that the manager handles is counted for
the ticket exactly if it is one to count. The position enters the view once, before
such a bar is handled, and keeps its symbol and open time. -/
def CountsRight (ticket : Ticket) (s : TimeExitDesk) : ExitLabel → Prop
  | .bar isClosed bar =>
      s.Reaches isClosed bar → s.requested ticket = [] →
        ∀ pos ∈ s.runner.positions, pos.ticket = ticket →
          ((bar.symbol = s.manager.symbol ∧ pos.openTime ≤ bar.time) ↔
            Counts s.primary pos bar)
  | .position event =>
      ∀ pos ∈ (s.runner.handle event).positions, pos.ticket = ticket →
        (∃ old ∈ s.runner.positions, old.ticket = ticket ∧
          old.symbol = pos.symbol ∧ old.openTime = pos.openTime) ∨
        (ticket ∉ s.entered ∧ pos.symbol = s.manager.symbol ∧
          ∀ bar ∈ s.handled, ¬Counts s.primary pos bar)
  | .tick _ | .flags _ => True

instance (ticket : Ticket) (s : TimeExitDesk) (label : ExitLabel) :
    Decidable (CountsRight ticket s label) := by
  unfold CountsRight
  split <;> infer_instance

/-- What holds of a position in the view. -/
structure Tracked (limit : Int) (s : TimeExitDesk) (pos : Position) : Prop where
  managed : pos.symbol = s.manager.symbol
  exits : ExitedOnTime limit s.primary pos s.handled (s.requested pos.ticket)
  counting : (counted s.primary pos s.handled : Int) < limit →
    s.manager.share pos.ticket = (counted s.primary pos s.handled, false)
  closing : limit ≤ (counted s.primary pos s.handled : Int) →
    (s.manager.share pos.ticket).2 = true ∧ s.requested pos.ticket ≠ []

structure OnTime (ticket : Ticket) (limit : Int) (s : TimeExitDesk) : Prop where
  tidy : s.runner.Tidy
  limited : s.manager.maxBars = some limit
  untimed : s.manager.maxSeconds = none
  positive : 1 ≤ limit
  shown : ∀ pos ∈ s.runner.positions, pos.ticket ∈ s.entered
  fresh : ticket ∉ s.entered →
    s.manager.share ticket = (0, false) ∧ s.requested ticket = []
  tracked : ∀ pos ∈ s.runner.positions, pos.ticket = ticket → s.Tracked limit pos

theorem counted_of_none {primary : Subscription} {pos : Position} {bars : List Bar}
    (none : ∀ bar ∈ bars, ¬Counts primary pos bar) : counted primary pos bars = 0 := by
  unfold counted
  rw [List.countP_eq_zero]
  intro bar member counts
  exact none bar member (of_decide_eq_true counts)

/-- The view changes. -/
theorem OnTime.position (onTime : s.OnTime ticket limit) {event : PositionEvent}
    (right : s.CountsRight ticket (.position event)) :
    (s.next (.position event)).OnTime ticket limit where
  tidy := onTime.tidy.handle event
  limited := onTime.limited
  untimed := onTime.untimed
  positive := onTime.positive
  shown := fun pos member =>
    List.mem_append_right s.entered (List.mem_map_of_mem member)
  fresh := fun new => onTime.fresh fun old => new (List.mem_append_left _ old)
  tracked := by
    intro pos member same
    rcases right pos member same with ⟨old, inside, oldTicket, symbol, time⟩ | entry
    · have tracked := onTime.tracked old inside oldTicket
      have ticketSame : old.ticket = pos.ticket := oldTicket.trans same.symm
      have counts : ∀ bar, Counts s.primary old bar ↔ Counts s.primary pos bar := by
        intro bar
        rw [Counts, Counts, time]
      have count : ∀ bars, counted s.primary old bars = counted s.primary pos bars := by
        intro bars
        unfold counted
        simp only [counts]
      refine ⟨symbol.symm.trans tracked.managed, ⟨?_, ?_⟩, ?_, ?_⟩
      · intro early
        rw [← ticketSame]
        exact tracked.exits.never_before (by rwa [count])
      · intro earlier bar later whole hit number
        rw [← ticketSame]
        exact tracked.exits.at_limit earlier bar later whole ((counts bar).mpr hit)
          (by rwa [count])
      · intro early
        have known := tracked.counting (by rwa [count])
        rw [ticketSame, count] at known
        exact known
      · intro reached
        have known := tracked.closing (by rwa [count])
        rw [ticketSame] at known
        exact known
    · obtain ⟨new, symbol, none⟩ := entry
      obtain ⟨nothing, noRequest⟩ := onTime.fresh new
      have zero : counted s.primary pos s.handled = 0 := counted_of_none none
      have positive := onTime.positive
      refine ⟨symbol, ⟨?_, ?_⟩, ?_, ?_⟩
      · intro _
        rw [same]
        exact noRequest
      · intro earlier bar later whole hit _
        have inside : bar ∈ s.handled := by
          change s.handled = _ at whole
          rw [whole]
          simp
        exact absurd hit (none bar inside)
      · intro _
        change s.manager.share pos.ticket = (counted s.primary pos s.handled, false)
        rw [same, zero]
        exact nothing
      · intro reached
        change limit ≤ (counted s.primary pos s.handled : Int) at reached
        omega

/-- The requests after a bar that the manager handles. -/
theorem requested_bar (s : TimeExitDesk) (ticket : Ticket) (manager : TimeExitManager)
    (handled : List Bar) (asked : List ClosePositionRequest) :
    ({ s with
      manager := manager
      handled := handled
      requests := s.requests ++
        asked.map fun request => ⟨request.ticket, s.handled.length⟩ } :
        TimeExitDesk).requested ticket =
      s.requested ticket ++
        (asked.filter fun request => decide (request.ticket = ticket)).map
          fun _ => s.handled.length := by
  unfold requested
  rw [List.filter_append, List.map_append, List.filter_map, List.map_map]
  rfl

/-- A position of the view when the manager handles a bar. -/
theorem Tracked.bar {pos : Position} (tracked : s.Tracked limit pos)
    (limited : s.manager.maxBars = some limit)
    (single : (s.runner.positions.map Position.ticket).Nodup)
    (shown : pos ∈ s.runner.positions) {bar : Bar}
    (right : s.requested pos.ticket = [] →
      ((bar.symbol = s.manager.symbol ∧ pos.openTime ≤ bar.time) ↔
        Counts s.primary pos bar)) :
    Tracked limit
      { s with
        manager := (s.manager.onBar s.ctx s.runner.positions bar).1
        handled := s.handled ++ [bar]
        requests := s.requests ++
          (s.manager.onBar s.ctx s.runner.positions bar).2.map fun request =>
            ⟨request.ticket, s.handled.length⟩ } pos := by
  have asked := requested_bar s pos.ticket
    (s.manager.onBar s.ctx s.runner.positions bar).1 (s.handled ++ [bar])
    (s.manager.onBar s.ctx s.runner.positions bar).2
  obtain ⟨-, -, symbol⟩ :=
    TimeExitManager.onBar_keeps s.ctx bar s.runner.positions limited
  have total := counted_concat s.primary pos s.handled bar
  by_cases reached : limit ≤ (counted s.primary pos s.handled : Int)
  · -- the close is asked for, more bars change nothing
    obtain ⟨closing, once⟩ := tracked.closing reached
    obtain ⟨still, none⟩ := TimeExitManager.onBar_closing s.ctx bar limited single
      shown tracked.managed closing
    rw [none, List.map_nil, List.append_nil] at asked
    refine ⟨tracked.managed.trans symbol.symm, ?_, ?_, ?_⟩
    · apply tracked.exits.grow
      · intro early
        omega
      · intro early
        omega
      · exact fun _ => asked
    · intro early
      change (counted s.primary pos (s.handled ++ [bar]) : Int) < limit at early
      omega
    · intro _
      rw [asked]
      exact ⟨still, once⟩
  · have early : (counted s.primary pos s.handled : Int) < limit := not_le.mp reached
    have noRequest := tracked.exits.never_before early
    have sum : counted s.primary pos (s.handled ++ [bar]) =
        counted s.primary pos s.handled +
          if bar.symbol = s.manager.symbol ∧ pos.openTime ≤ bar.time then 1
          else 0 := by
      rw [total]
      by_cases counts : Counts s.primary pos bar
      · rw [if_pos counts, if_pos ((right noRequest).mpr counts)]
      · rw [if_neg counts, if_neg fun counted => counts ((right noRequest).mp counted)]
    obtain ⟨share, given⟩ := TimeExitManager.onBar_counting s.ctx bar limited single
      shown tracked.managed early (tracked.counting early) sum
    rw [noRequest, given, List.nil_append] at asked
    refine ⟨tracked.managed.trans symbol.symm, ?_, ?_, ?_⟩
    · apply tracked.exits.grow
      · intro below
        rw [asked, if_neg (not_le.mpr below)]
        rfl
      · intro _ hit
        rw [asked, if_pos hit]
        rfl
      · exact fun past => absurd past reached
    · intro below
      change (counted s.primary pos (s.handled ++ [bar]) : Int) < limit at below
      rw [share, decide_eq_false (not_le.mpr below)]
      rfl
    · intro hit
      change limit ≤ (counted s.primary pos (s.handled ++ [bar]) : Int) at hit
      refine ⟨?_, ?_⟩
      · rw [share]
        exact decide_eq_true hit
      · rw [asked, if_pos hit]
        exact List.cons_ne_nil _ _

/-- A bar is handed to the manager, or nothing happens. -/
theorem OnTime.bar (onTime : s.OnTime ticket limit) {isClosed : Bool} {bar : Bar}
    (right : s.CountsRight ticket (.bar isClosed bar)) :
    (s.next (.bar isClosed bar)).OnTime ticket limit := by
  by_cases reaches : s.Reaches isClosed bar
  · obtain ⟨bars, seconds, symbol⟩ :=
      TimeExitManager.onBar_keeps s.ctx bar s.runner.positions onTime.limited
    rw [next, if_pos reaches]
    exact
      { tidy := onTime.tidy
        limited := bars.trans onTime.limited
        untimed := seconds.trans onTime.untimed
        positive := onTime.positive
        shown := onTime.shown
        fresh := by
          intro new
          have absent : ticket ∉ s.runner.positions.map Position.ticket := by
            intro member
            obtain ⟨pos, inside, same⟩ := List.mem_map.mp member
            exact new (same ▸ onTime.shown pos inside)
          obtain ⟨nothing, noRequest⟩ := onTime.fresh new
          obtain ⟨still, none⟩ :=
            TimeExitManager.onBar_fresh s.ctx bar onTime.limited absent nothing
          refine ⟨still, ?_⟩
          rw [requested_bar, noRequest, none]
          rfl
        tracked := by
          intro pos inside same
          apply (onTime.tracked pos inside same).bar onTime.limited onTime.tidy.single
            inside
          intro noRequest
          exact right reaches (same ▸ noRequest) pos inside same }
  · rw [next, if_neg reaches]
    exact onTime

/-- In bar mode a tick does nothing. -/
theorem OnTime.tick (onTime : s.OnTime ticket limit) (tick : Tick) :
    (s.next (.tick tick)).OnTime ticket limit := by
  have idle : s.manager.onTick s.ctx s.runner.positions tick = (s.manager, []) := by
    rw [TimeExitManager.onTick, onTime.untimed]
  have same : s.next (.tick tick) = s := by
    rw [next]
    split
    · simp only [idle, List.map_nil, List.append_nil]
    · rfl
  rw [same]
  exact onTime

theorem OnTime.flags (onTime : s.OnTime ticket limit) (flags : RunnerFlags) :
    (s.next (.flags flags)).OnTime ticket limit where
  tidy := ⟨onTime.tidy.own, onTime.tidy.single⟩
  limited := onTime.limited
  untimed := onTime.untimed
  positive := onTime.positive
  shown := onTime.shown
  fresh := onTime.fresh
  tracked := fun pos inside same =>
    let tracked := onTime.tracked pos inside same
    ⟨tracked.managed, tracked.exits, tracked.counting, tracked.closing⟩

theorem OnTime.step (onTime : s.OnTime ticket limit)
    (taken : Guarded (CountsRight ticket) Step s label s') :
    s'.OnTime ticket limit := by
  obtain ⟨right, rfl⟩ := taken
  cases label with
  | bar isClosed bar => exact onTime.bar right
  | tick tick => exact onTime.tick tick
  | position event => exact onTime.position right
  | flags flags => exact onTime.flags flags

theorem onTime_boot {ctx : StrategyContext} {symbol : Option Symbol}
    {manager : TimeExitManager}
    (created : TimeExitManager.create ctx none (some limit) symbol = .ok manager)
    (timeframe : Timeframe) (feeds : List Subscription) (magic : Int)
    (ticket : Ticket) :
    (boot ctx timeframe feeds magic manager).OnTime ticket limit := by
  unfold TimeExitManager.create at created
  dsimp only at created
  split at created
  · cases created
  · rename_i accepted
    cases created
    exact
      { tidy := PositionTracking.tidy_start ctx.strategyId magic
        limited := rfl
        untimed := rfl
        positive := not_lt.mp accepted
        shown := List.forall_mem_nil _
        fresh := fun _ => ⟨rfl, rfl⟩
        tracked := List.forall_mem_nil _ }

def exitContext : StrategyContext := ⟨"trend", "EURUSD", 0, none⟩

/-- A manager that closes after some bars. -/
def exitManager (bars : Int) : TimeExitManager where
  maxSeconds := none
  maxBars := some bars
  symbol := "EURUSD"
  bars := .empty
  closing := []

/-- A flat bar of a timeframe. -/
def flatBar (timeframe : Timeframe) (time : Time) : Bar where
  symbol := "EURUSD"
  timeframe := timeframe
  time := time
  openPrice := 1
  high := 1
  low := 1
  close := 1
  tickVolume := 1
  low_pos := one_quote_pos
  low_le_open := le_refl 1
  open_le_high := le_refl 1
  low_le_close := le_refl 1
  close_le_high := le_refl 1

/-- The strategy trades on hourly bars and looks at five minutes too. -/
def exitDesk (bars : Int) : TimeExitDesk :=
  boot exitContext .h1 [⟨"EURUSD", .h1⟩, ⟨"EURUSD", .m5⟩] 42 (exitManager bars)

/-- An entry at some time. -/
def entryAt (time : Time) : ExitLabel :=
  .position (.filled { PositionTracking.entryFill with filledAt := some time })

/-- An entry between two hourly bars, and two more of them. -/
def hourlyBars : List ExitLabel :=
  [entryAt 0, .bar true (flatBar .h1 0), .bar true (flatBar .h1 Time.usPerHour)]

/-- An entry at the start of an hour, and the first five minutes of it. -/
def fiveMinutes : List ExitLabel := [entryAt 0, .bar true (flatBar .m5 0)]

/-- An entry half an hour into the hourly bar. -/
def entryInside : List ExitLabel :=
  [entryAt (30 * Time.usPerMinute), .bar true (flatBar .h1 0)]

end TimeExitDesk

end StingerFx
