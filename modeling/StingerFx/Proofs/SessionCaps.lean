/-
Module: StingerFx.Proofs.SessionCaps
Layer: Proofs
Purpose: How many orders a session strategy sends in one session, and what it asks to
  close. Of the orders of a session, each came to nothing, is under way, or became a
  position that is still in the view, or whose close was counted or is about to be;
  so an order that is sent while nothing is unsettled respects the cap.
Trusted boundary: none (fully proved)
Main exports: ScalperDesk.Counted, ScalperDesk.orders_capped, heldFor,
  ScalperDesk.closes_exact
-/
import StingerFx.Runtime.ScalperDesk
import StingerFx.Strategies.Examples.LiquiditySweepReversal
import StingerFx.Strategies.Examples.OpeningRangeBreakout

namespace StingerFx

open Lib

/-! ### The view of the runner -/

namespace PositionRunner

variable {runner : PositionRunner} {ticket : Ticket} {symbol : Symbol}

/-- A position of the strategy on a symbol. -/
def Holds (runner : PositionRunner) (symbol : Symbol) (ticket : Ticket) : Prop :=
  ∃ p ∈ runner.positions,
    p.ticket = ticket ∧ p.symbol = symbol ∧ p.magic = runner.magic

theorem mem_update {positions : List Position} {p : Position} :
    p ∈ (runner.update positions).positions ↔
      p ∈ positions ∧ p.magic = runner.magic := by
  simp [update]

@[simp] theorem trackOpen_magic (position : Position) :
    (runner.trackOpen position).magic = runner.magic := by
  unfold trackOpen
  split <;> rfl

/-- A position that is tracked takes the place of its ticket. -/
theorem Holds.trackOpen (holds : runner.Holds symbol ticket) {position : Position}
    (same : position.ticket = ticket → position.symbol = symbol) :
    (runner.trackOpen position).Holds symbol ticket := by
  obtain ⟨p, member, named, onSymbol, own⟩ := holds
  unfold PositionRunner.trackOpen
  split
  · rename_i mine
    by_cases replaced : position.ticket = ticket
    · refine ⟨position, mem_update.mpr ⟨?_, mine⟩, replaced, same replaced, mine⟩
      exact List.mem_append_right _ (List.mem_singleton.mpr rfl)
    · refine ⟨p, mem_update.mpr ⟨?_, own⟩, named, onSymbol, own⟩
      apply List.mem_append_left
      apply List.mem_filter.mpr
      refine ⟨member, decide_eq_true ?_⟩
      rw [named]
      exact fun same => replaced same.symm
  · exact ⟨p, member, named, onSymbol, own⟩

theorem holds_trackOpen {position : Position} (own : position.magic = runner.magic) :
    (runner.trackOpen position).Holds position.symbol position.ticket := by
  refine ⟨position, ?_, rfl, rfl, ?_⟩
  · unfold PositionRunner.trackOpen
    rw [if_pos own]
    refine mem_update.mpr ⟨?_, own⟩
    exact List.mem_append_right _ (List.mem_singleton.mpr rfl)
  · rw [trackOpen_magic]
    exact own

theorem Holds.trackRemove (holds : runner.Holds symbol ticket) {other : Ticket}
    (apart : other ≠ ticket) : (runner.trackRemove other).Holds symbol ticket := by
  obtain ⟨p, member, named, onSymbol, own⟩ := holds
  refine ⟨p, mem_update.mpr ⟨?_, own⟩, named, onSymbol, own⟩
  apply List.mem_filter.mpr
  refine ⟨member, decide_eq_true ?_⟩
  rw [named]
  exact fun same => apart same.symm

@[simp] theorem handle_magic (event : PositionEvent) :
    (runner.handle event).magic = runner.magic := by
  cases event with
  | filled order =>
      simp only [handle, onOrderFilled]
      split
      · rfl
      · split
        · rfl
        · exact trackOpen_magic _
  | modified position =>
      simp only [handle, onOrderModified]
      split
      · rfl
      · exact trackOpen_magic _
  | partialClosed position =>
      simp only [handle, onPartialClosed]
      split
      · rfl
      · exact trackOpen_magic _
  | closed position =>
      simp only [handle, onPositionClosed]
      split <;> rfl

end PositionRunner

namespace ScalperDesk

variable {scalper : SessionScalper} {s s' : ScalperDesk scalper}
variable {label : ScalperLabel} {tickets gone : List Ticket}

/-- A position stays in the view, or its close hook is queued. -/
theorem holds_event {event : PositionEvent} {symbol : Symbol} {ticket : Ticket}
    (holds : s.runner.Holds symbol ticket) (allowed : s.EventOf event) :
    (s.runner.handle event).Holds symbol ticket ∨
      ∃ position, position.ticket = ticket ∧
        hookOf s.runner event = [.closed position] := by
  have same : ∀ position : Position,
      (∀ known ∈ s.runner.positions, known.ticket = position.ticket →
        known.symbol = position.symbol) →
          position.ticket = ticket → position.symbol = symbol := by
    intro position steady named
    obtain ⟨p, member, known, onSymbol, -⟩ := holds
    rw [← onSymbol]
    exact (steady p member (known.trans named.symm)).symm
  cases event with
  | filled order => exact absurd allowed id
  | modified position =>
      left
      simp only [PositionRunner.handle, PositionRunner.onOrderModified]
      split
      · exact holds
      · exact holds.trackOpen (same position allowed)
  | partialClosed position =>
      left
      simp only [PositionRunner.handle, PositionRunner.onPartialClosed]
      split
      · exact holds
      · exact holds.trackOpen (same position allowed)
  | closed position =>
      simp only [PositionRunner.handle, PositionRunner.onPositionClosed]
      split
      · exact .inl holds
      · rename_i handled
        by_cases named : position.ticket = ticket
        · right
          refine ⟨position, named, ?_⟩
          have both := not_or.mp handled
          have active : s.runner.flags.active = true := by simpa using both.1
          have own : position.magic = s.runner.magic := not_not.mp both.2
          simp [hookOf, active, own]
        · exact .inl (holds.trackRemove named)

/-! ### Counting a session -/

/-- Of the orders of this session, some became positions, and of those some are gone
again; every one that is gone was counted or is about to be. -/
structure Counted (s : ScalperDesk scalper) (tickets gone : List Ticket) : Prop where
  onSymbol : ∀ sent ∈ s.orders, sent.symbol = scalper.cadence.symbol
  fates : s.sent ≤ s.missed + s.orders.length + tickets.length
  once : tickets.Nodup
  known : ∀ ticket ∈ tickets, ticket ∈ s.filled
  held : ∀ ticket ∈ tickets, ticket ∈ gone ∨
    s.runner.Holds scalper.cadence.symbol ticket
  counted : gone.length ≤
    (scalper.book s.strategy).tradesThisSession + closing s.hooks
  capped : s.sent ≤ scalper.cadence.maxTradesPerSession + s.missed + s.unsettled

theorem closing_append (front back : List ScalperHook) :
    closing (front ++ back) = closing front + closing back :=
  List.countP_append ..

theorem counted_boot (id : StrategyId) (magic : Int) :
    (boot scalper id magic).Counted [] [] where
  onSymbol := fun _ member => by cases member
  fates := Nat.zero_le _
  once := List.nodup_nil
  known := fun _ member => by cases member
  held := fun _ member => by cases member
  counted := Nat.zero_le _
  capped := Nat.zero_le _

/-- More hooks wait. -/
theorem Counted.queued (counts : s.Counted tickets gone) (hooks : List ScalperHook) :
    ({ s with hooks := s.hooks ++ hooks } : ScalperDesk scalper).Counted tickets
      gone :=
  { counts with
    counted := by
      dsimp only
      rw [closing_append]
      exact counts.counted.trans (by omega) }

/-- Another event of a position. -/
theorem Counted.event {event : PositionEvent} (counts : s.Counted tickets gone)
    (allowed : s.EventOf event) :
    ∃ gone', ({ s with
        runner := s.runner.handle event
        hooks := s.hooks ++ hookOf s.runner event } :
          ScalperDesk scalper).Counted tickets gone' := by
  by_cases closes : ∃ position, hookOf s.runner event = [.closed position]
  · obtain ⟨position, queued⟩ := closes
    refine ⟨position.ticket :: gone,
      { counts with held := ?_, counted := ?_ }⟩
    · intro ticket member
      rcases counts.held ticket member with already | holds
      · exact .inl (List.mem_cons_of_mem _ already)
      · rcases holds_event holds allowed with still | ⟨other, named, same⟩
        · exact .inr still
        · rw [queued] at same
          cases same
          exact .inl (named ▸ List.mem_cons_self)
    · dsimp only
      rw [queued, closing_append]
      have before := counts.counted
      simp only [closing, List.countP_singleton, if_true, List.length_cons] at before ⊢
      omega
  · refine ⟨gone, { counts.queued (hookOf s.runner event) with held := ?_ }⟩
    intro ticket member
    rcases counts.held ticket member with already | holds
    · exact .inl already
    · rcases holds_event holds allowed with still | ⟨position, -, queued⟩
      · exact .inr still
      · exact absurd ⟨position, queued⟩ closes

/-- An order leaves what is under way, and counts as one that came to nothing. -/
theorem Counted.missed (counts : s.Counted tickets gone) {index : Nat}
    (inside : index < s.orders.length) :
    ({ s with
      orders := s.orders.eraseIdx index
      missed := s.missed + 1 } : ScalperDesk scalper).Counted tickets gone :=
  { counts with
    onSymbol := fun sent member => counts.onSymbol sent (List.mem_of_mem_eraseIdx member)
    fates := by
      have before := counts.fates
      dsimp only
      rw [List.length_eraseIdx_of_lt inside]
      omega
    capped := counts.capped.trans (by dsimp only; omega) }

theorem opened?_symbol {order : Order} {position : Position}
    (opened : order.opened? = some position) :
    position.ticket = order.ticket ∧ position.symbol = order.symbol ∧
      position.magic = order.magic := by
  unfold Order.opened? at opened
  split at opened
  · split at opened
    · split at opened
      · cases opened
        exact ⟨rfl, rfl, rfl⟩
      · cases opened
    · cases opened
  · cases opened

/-- What the handling of a fill does to the view. -/
theorem filled_cases (order : Order) (own : order.strategyId = s.runner.id) :
    (¬ (s.runner.flags.active ∧ order.opened?.isSome) ∧
        s.runner.handle (.filled order) = s.runner) ∨
      ∃ position, order.opened? = some position ∧ s.runner.flags.active = true ∧
        s.runner.handle (.filled order) = s.runner.trackOpen position := by
  simp only [PositionRunner.handle, PositionRunner.onOrderFilled]
  cases active : s.runner.flags.active with
  | false => exact .inl ⟨fun both => Bool.noConfusion both.1, if_pos (.inl rfl)⟩
  | true =>
      rw [if_neg (by simp [own])]
      cases opened : order.opened? with
      | none => exact .inl ⟨fun both => Bool.noConfusion both.2, rfl⟩
      | some position => exact .inr ⟨position, rfl, rfl, rfl⟩

/-- An order becomes a position, or comes to nothing. -/
theorem Counted.filled (counts : s.Counted tickets gone) {index : Nat} {sent : Signal}
    {order : Order} (found : s.orders[index]? = some sent)
    (fill : s.FillOf sent order) :
    ∃ tickets', ({ s with
      runner := s.runner.handle (.filled order)
      hooks := s.hooks ++ hookOf s.runner (.filled order)
      orders := s.orders.eraseIdx index
      filled := order.ticket :: s.filled
      missed :=
        if s.runner.flags.active ∧ order.opened?.isSome then s.missed
        else s.missed + 1 } : ScalperDesk scalper).Counted tickets' gone := by
  obtain ⟨own, magic, onSymbol, fresh⟩ := fill
  obtain ⟨inside, same⟩ := List.getElem?_eq_some_iff.mp found
  have erased : (s.orders.eraseIdx index).length + 1 = s.orders.length := by
    rw [List.length_eraseIdx_of_lt inside]
    omega
  have queued := counts.queued (hookOf s.runner (.filled order))
  rcases filled_cases order own with ⟨ignored, view⟩ | ⟨position, opened, active, view⟩
  · refine ⟨tickets, ?_⟩
    rw [if_neg ignored, view]
    exact
      { queued.missed inside with
        known := fun ticket member =>
          List.mem_cons_of_mem _ (counts.known ticket member) }
  · obtain ⟨named, atSymbol, ownMagic⟩ := opened?_symbol opened
    refine ⟨order.ticket :: tickets, ?_⟩
    rw [if_pos ⟨active, by rw [opened]; rfl⟩, view]
    refine
      { queued with
        onSymbol := fun other member =>
          counts.onSymbol other (List.mem_of_mem_eraseIdx member)
        fates := ?_
        once := List.nodup_cons.mpr ⟨?_, counts.once⟩
        known := ?_
        held := ?_ }
    · have before := counts.fates
      simp only [List.length_cons]
      omega
    · exact fun member => fresh (counts.known _ member)
    · intro ticket member
      rcases List.mem_cons.mp member with rfl | old
      · exact List.mem_cons_self
      · exact List.mem_cons_of_mem _ (counts.known ticket old)
    · intro ticket member
      rcases List.mem_cons.mp member with rfl | old
      · right
        have opens := @PositionRunner.holds_trackOpen s.runner position
          (ownMagic.trans magic)
        rw [named, atSymbol, onSymbol,
          counts.onSymbol sent (List.mem_of_getElem? found)] at opens
        exact opens
      · rcases counts.held ticket old with already | holds
        · exact .inl already
        · right
          apply holds.trackOpen
          intro replaced
          rw [named] at replaced
          exact absurd (counts.known ticket old) (replaced ▸ fresh)

/-! ### A turn -/

/-- A new session starts from nothing. -/
theorem nextBar_trades (book : SessionBook) (cadence : ScalperCadence) (now : Time) :
    (book.nextBar cadence now).sessionKey = book.sessionKey ∧
        (book.nextBar cadence now).tradesThisSession = book.tradesThisSession ∨
      (book.nextBar cadence now).sessionKey ≠ book.sessionKey := by
  unfold SessionBook.nextBar SessionBook.rollSession
  dsimp only
  split
  · exact .inl ⟨rfl, rfl⟩
  · rename_i other
    exact .inr fun same => other same.symm

theorem Counted.rolledOver (counts : s.Counted tickets gone)
    {turn : ScalperTurn scalper.State}
    (book : (scalper.book turn.strategy).sessionKey =
          (scalper.book s.strategy).sessionKey →
      (scalper.book turn.strategy).tradesThisSession =
        (scalper.book s.strategy).tradesThisSession) :
    ∃ tickets' gone', (s.rolledOver turn).Counted tickets' gone' := by
  unfold ScalperDesk.rolledOver
  by_cases same : (scalper.book turn.strategy).sessionKey =
      (scalper.book s.strategy).sessionKey
  · refine ⟨tickets, gone, ?_⟩
    simp only [same, if_true]
    refine { counts with counted := ?_ }
    dsimp only
    rw [book same]
    exact counts.counted
  · refine ⟨[], [], ?_⟩
    simp only [same, if_false]
    exact
      { onSymbol := counts.onSymbol
        fates := Nat.zero_le _
        once := List.nodup_nil
        known := fun _ member => by cases member
        held := fun _ member => by cases member
        counted := Nat.zero_le _
        capped := Nat.zero_le _ }

/-- Orders are sent where the view has no position: all the positions of the session
are gone, and the cap leaves room for one. -/
theorem Counted.sends (counts : s.Counted tickets gone) {signals : List Signal}
    (onSymbol : ∀ sent ∈ signals, sent.symbol = scalper.cadence.symbol)
    (may : signals ≠ [] →
      (scalper.book s.strategy).tradesThisSession <
          scalper.cadence.maxTradesPerSession ∧
        forSymbol s.runner.positions scalper.cadence.symbol = []) :
    (s.sends signals).Counted tickets gone := by
  unfold ScalperDesk.sends
  refine
    { counts with
      onSymbol := ?_
      fates := ?_
      capped := ?_ }
  · intro sent member
    rcases List.mem_append.mp member with old | new
    · exact counts.onSymbol sent old
    · exact onSymbol sent new
  · have before := counts.fates
    simp only [List.length_append]
    omega
  · dsimp only
    by_cases none_ : signals = []
    · subst none_
      have before := counts.capped
      simpa using before
    · obtain ⟨room, flat⟩ := may none_
      have gone_ : tickets ⊆ gone := by
        intro ticket member
        rcases counts.held ticket member with already | ⟨p, there, -, at_, -⟩
        · exact already
        · have seen : p ∈ forSymbol s.runner.positions scalper.cadence.symbol :=
            List.mem_filter.mpr ⟨there, decide_eq_true at_⟩
          rw [flat] at seen
          cases seen
      have fewer : tickets.length ≤ gone.length :=
        (List.subperm_of_subset counts.once gone_).length_le
      have fates := counts.fates
      have counted := counts.counted
      have some_ : 0 < signals.length := List.length_pos_of_ne_nil none_
      rw [if_neg none_]
      omega

/-- A bar takes its turn. -/
theorem Counted.bar (counts : s.Counted tickets gone) (scene : ScalperScene)
    (ctx : scene.ctx.symbol = scalper.cadence.symbol)
    (view : scene.positions = s.runner.positions) (bar : Bar) :
    ∃ tickets' gone', (s.run scene (.bar bar)).Counted tickets' gone' := by
  have onSymbol : ∀ sent ∈ (scalper.onBar scene bar s.strategy).sent.map
      ScalperEntry.signal, sent.symbol = scalper.cadence.symbol := by
    intro sent member
    rcases List.mem_map.mp member with ⟨entry, there, rfl⟩
    exact (scalper.symbol_onBar scene bar s.strategy entry there).trans ctx
  cases own : scalper.cadence.isEntry bar with
  | false =>
      have idle := scalper.onBar_other scene bar s.strategy own
      have rolled := @Counted.rolledOver _ _ _ _ counts (.idle s.strategy) fun _ => rfl
      obtain ⟨tickets', gone', counted⟩ := rolled
      refine ⟨tickets', gone', ?_⟩
      unfold ScalperDesk.run
      dsimp only
      rw [idle] at onSymbol ⊢
      exact counted.sends onSymbol fun sent => absurd rfl sent
  | true =>
      have book := scalper.book_onBar scene bar s.strategy own
      have rolled : ∃ tickets' gone',
          (s.rolledOver (scalper.onBar scene bar s.strategy)).Counted tickets'
            gone' := by
        apply counts.rolledOver
        rw [book]
        intro same
        rcases nextBar_trades (scalper.book s.strategy) scalper.cadence bar.time with
          kept | other
        · exact kept.2
        · exact absurd same other
      obtain ⟨tickets', gone', counted⟩ := rolled
      refine ⟨tickets', gone', counted.sends onSymbol ?_⟩
      intro sent
      have may := scalper.mayEnter_onBar scene bar s.strategy
        fun none_ => sent (by rw [none_]; rfl)
      unfold SessionBook.mayEnter at may
      simp only [Bool.and_eq_true, decide_eq_true_eq, List.isEmpty_iff] at may
      rw [view] at may
      refine ⟨?_, may.2⟩
      change (scalper.book (scalper.onBar scene bar s.strategy).strategy).tradesThisSession
        < _
      rw [book]
      exact may.1.1

theorem Counted.step (counts : s.Counted tickets gone) (taken : Step s label s') :
    ∃ tickets' gone', s'.Counted tickets' gone' := by
  simp only [Step, stepOf?] at taken
  cases label with
  | bar bar =>
      simp only [step?] at taken
      split at taken
      · cases taken
        exact ⟨tickets, gone, counts.queued _⟩
      · cases taken
  | filled index order =>
      simp only [step?] at taken
      split at taken
      · cases taken
      · rename_i sent found
        split at taken
        · rename_i fill
          cases taken
          obtain ⟨tickets', counted⟩ := counts.filled found fill
          exact ⟨tickets', gone, counted⟩
        · cases taken
  | missed index =>
      simp only [step?] at taken
      split at taken
      · rename_i inside
        cases taken
        exact ⟨tickets, gone, counts.missed inside⟩
      · cases taken
  | event event =>
      simp only [step?] at taken
      split at taken
      · rename_i allowed
        cases taken
        obtain ⟨gone', counted⟩ := counts.event allowed
        exact ⟨tickets, gone', counted⟩
      · cases taken
  | flags flags =>
      cases taken
      exact ⟨tickets, gone, { counts with held := counts.held }⟩
  | turn now lastPrice positionsLater history =>
      simp only [step?] at taken
      split at taken
      · cases taken
      · rename_i hook hooks waiting
        cases taken
        have before := counts.counted
        rw [waiting] at before
        cases hook with
        | bar bar =>
            have next : ({ s with hooks := hooks, ran := .bar bar :: s.ran } :
                ScalperDesk scalper).Counted tickets gone :=
              { counts with counted := before.trans (by simp [closing]) }
            exact next.bar _ rfl rfl bar
        | filled order =>
            refine ⟨tickets, gone, { counts with counted := ?_ }⟩
            refine before.trans ?_
            simp only [ScalperDesk.run, scalper.book_onOrderFilled,
              SessionBook.onOrderFilled, closing]
            split <;> simp
        | closed position =>
            refine ⟨tickets, gone, { counts with counted := ?_ }⟩
            refine before.trans ?_
            simp only [ScalperDesk.run, scalper.book_onPositionClosed,
              SessionBook.onPositionClosed, closing, List.countP_cons, if_true]
            omega

/-- However bars, fills, closes, refusals and pauses interleave: the orders that were
sent in a session exceed its cap by no more than those that came to nothing, and
what was unsettled when one of them was sent. -/
theorem orders_capped {id : StrategyId} {magic : Int} {labels : List ScalperLabel}
    (run : Run Step (boot scalper id magic) labels s) :
    s.sent ≤ scalper.cadence.maxTradesPerSession + s.missed + s.unsettled := by
  have counted := run.invariant
    (P := fun s => ∃ tickets gone, s.Counted tickets gone)
    ⟨[], [], counted_boot id magic⟩ fun taken reached => by
      obtain ⟨tickets, gone, counts⟩ := reached
      exact counts.step taken
  obtain ⟨tickets, gone, counts⟩ := counted
  exact counts.capped

/-! Two bars close beyond the opening range before the fill of the first order comes
by: two orders where the cap is one. -/

/-- A bar of two points, at a minute of the morning. -/
def goldBar (timeframe : Timeframe) (minute : Int) (low close : ℚ) (low_pos : 0 < low)
    (inside : low ≤ close ∧ close ≤ low + 2) : Bar where
  symbol := "XAUUSD"
  timeframe := timeframe
  time := 7 * Time.usPerHour + minute * Time.usPerMinute
  openPrice := close
  high := low + 2
  low := low
  close := close
  tickVolume := 1
  low_pos := low_pos
  low_le_open := inside.1
  open_le_high := inside.2
  low_le_close := inside.1
  close_le_high := inside.2

theorem gold_pos : (0 : ℚ) < 2600 ∧ (0 : ℚ) < 2601 := by norm_num

theorem gold_quiet : (2600 : ℚ) ≤ 2601 ∧ (2601 : ℚ) ≤ 2600 + 2 := by norm_num

theorem gold_breaks : (2601 : ℚ) ≤ 5205 / 2 ∧ (5205 / 2 : ℚ) ≤ 2601 + 2 := by norm_num

def quietGold (timeframe : Timeframe) (minute : Int) : Bar :=
  goldBar timeframe minute 2600 2601 gold_pos.1 gold_quiet

def breakingGold (timeframe : Timeframe) (minute : Int) : Bar :=
  goldBar timeframe minute 2601 (5205 / 2) gold_pos.2 gold_breaks

/-- One bar of the opening range, and enough structure bars. -/
def goldHistory : Timeframe → Option (List Bar)
  | .m1 => some [quietGold .m1 5]
  | .m5 => some (List.replicate 14 (quietGold .m5 0) ++ [breakingGold .m5 10])
  | _ => none

def twoBreakouts : List ScalperLabel :=
  [.bar (breakingGold .m1 15), .turn 0 none [] goldHistory,
    .bar (breakingGold .m1 16), .turn 0 none [] goldHistory]

theorem twoBreakouts_sent :
    (replay? (fun _ _ => True) step?
      (boot (OpeningRangeBreakout.scalper .default) "s1" 7) twoBreakouts).map
        (fun s => (s.sent, s.missed, s.unsettled)) = some (2, 0, 1) := by
  decide +kernel

theorem twoBreakouts_capped :
    ∃ s : ScalperDesk (OpeningRangeBreakout.scalper .default),
      s.sent = 2 ∧ s.missed = 0 ∧ s.unsettled = 1 ∧
        s.sent ≤ (OpeningRangeBreakout.scalper .default).cadence.maxTradesPerSession +
          s.missed + s.unsettled := by
  rcases Option.map_eq_some_iff.mp twoBreakouts_sent with ⟨s, reached, counts⟩
  simp only [Prod.mk.injEq] at counts
  exact ⟨s, counts.1, counts.2.1, counts.2.2,
    orders_capped (run_of_replay? reached).unguard⟩

end ScalperDesk

/-! ### What is closed after too long -/

/-- The entry bars since the last fill hook of a ticket, unless a close hook of it ran
since. The newest hook comes first. -/
def heldFor (cadence : ScalperCadence) (id : StrategyId) (ticket : Ticket) :
    List ScalperHook → Option Nat
  | [] => none
  | .bar bar :: earlier =>
      if cadence.isEntry bar then
        (heldFor cadence id ticket earlier).map fun bars => bars + 1
      else heldFor cadence id ticket earlier
  | .filled order :: earlier =>
      if (order.strategyId = id ∧ order.ticket ≠ 0) ∧ order.ticket = ticket then some 0
      else heldFor cadence id ticket earlier
  | .closed position :: earlier =>
      if position.ticket = ticket then none else heldFor cadence id ticket earlier

/-- The book knows since when each position is held. -/
def SessionBook.Dates (book : SessionBook) (cadence : ScalperCadence)
    (id : StrategyId) (ran : List ScalperHook) : Prop :=
  ∀ ticket,
    match book.entryBarByTicket.get? ticket with
    | none => heldFor cadence id ticket ran = none
    | some entry => ∃ bars, heldFor cadence id ticket ran = some bars ∧
        entry + bars = book.barIndex

namespace SessionBook

variable {book : SessionBook} {cadence : ScalperCadence} {id : StrategyId}
variable {ran : List ScalperHook}

@[simp] theorem nextBar_entries (now : Time) :
    (book.nextBar cadence now).entryBarByTicket = book.entryBarByTicket := by
  unfold nextBar rollSession
  dsimp only
  split <;> rfl

@[simp] theorem nextBar_barIndex (now : Time) :
    (book.nextBar cadence now).barIndex = book.barIndex + 1 := by
  unfold nextBar rollSession
  dsimp only
  split <;> rfl

theorem dates_create : create.Dates cadence id [] :=
  fun _ => rfl

theorem Dates.nextBar (dates : book.Dates cadence id ran) {bar : Bar}
    (own : cadence.isEntry bar = true) (now : Time) :
    (book.nextBar cadence now).Dates cadence id (.bar bar :: ran) := by
  intro ticket
  have before := dates ticket
  rw [nextBar_entries, nextBar_barIndex]
  simp only [heldFor, own, if_true]
  cases known : book.entryBarByTicket.get? ticket with
  | none =>
      rw [known] at before
      simp [before]
  | some entry =>
      rw [known] at before
      obtain ⟨bars, held, since⟩ := before
      exact ⟨bars + 1, by rw [held]; rfl, by omega⟩

theorem Dates.other (dates : book.Dates cadence id ran) {bar : Bar}
    (other : cadence.isEntry bar = false) :
    book.Dates cadence id (.bar bar :: ran) := by
  intro ticket
  simp only [heldFor, other, Bool.false_eq_true, if_false]
  exact dates ticket

theorem Dates.filled (dates : book.Dates cadence id ran) {ctx : StrategyContext}
    (own : ctx.strategyId = id) (order : Order) :
    (book.onOrderFilled ctx order).Dates cadence id (.filled order :: ran) := by
  intro ticket
  unfold SessionBook.onOrderFilled
  rw [own]
  simp only [heldFor]
  by_cases mine : order.strategyId = id ∧ order.ticket ≠ 0
  · rw [if_pos mine]
    dsimp only
    by_cases same : order.ticket = ticket
    · rw [if_pos ⟨mine, same⟩, ← same, Dict.get?_set_self]
      exact ⟨0, rfl, rfl⟩
    · rw [if_neg fun both => same both.2,
        Dict.get?_set_of_ne _ _ fun eq => same eq.symm]
      exact dates ticket
  · rw [if_neg mine, if_neg fun both => mine both.1]
    exact dates ticket

theorem Dates.closed (dates : book.Dates cadence id ran) (position : Position) :
    (book.onPositionClosed position).Dates cadence id (.closed position :: ran) := by
  intro ticket
  simp only [SessionBook.onPositionClosed, heldFor]
  by_cases same : position.ticket = ticket
  · rw [← same, Dict.get?_erase_self]
    simp
  · rw [if_neg same, Dict.get?_erase_of_ne _ fun eq => same eq.symm]
    exact dates ticket

theorem mem_timeExits {ctx : StrategyContext} {reason : String} {ticket : Ticket} :
    ticket ∈ (book.timeExits cadence ctx reason).map ClosePositionRequest.ticket ↔
      ∃ entry, book.entryBarByTicket.get? ticket = some entry ∧
        entry + cadence.maxHoldBars ≤ book.barIndex := by
  simp only [SessionBook.timeExits, StrategyContext.close, List.map_map, List.mem_map,
    List.mem_filter, decide_eq_true_eq, Function.comp_apply, Prod.exists,
    Dict.get?_eq_some_iff]
  constructor
  · rintro ⟨other, entry, ⟨there, late⟩, rfl⟩
    exact ⟨entry, there, late⟩
  · rintro ⟨entry, there, late⟩
    exact ⟨ticket, entry, ⟨there, late⟩, rfl⟩

/-- The time exits are for the tickets that are held too long, each once. -/
theorem Dates.timeExits (dates : book.Dates cadence id ran) (ctx : StrategyContext)
    (reason : String) :
    ((book.timeExits cadence ctx reason).map ClosePositionRequest.ticket).Nodup ∧
      ∀ ticket, ticket ∈
          (book.timeExits cadence ctx reason).map ClosePositionRequest.ticket ↔
        ∃ bars, heldFor cadence id ticket ran = some bars ∧
          cadence.maxHoldBars ≤ bars := by
  constructor
  · have tickets : (book.timeExits cadence ctx reason).map
        ClosePositionRequest.ticket =
          (book.entryBarByTicket.items.filter fun held =>
            decide (held.2 + cadence.maxHoldBars ≤ book.barIndex)).map Prod.fst := by
      simp [SessionBook.timeExits, StrategyContext.close, Function.comp_def]
    rw [tickets]
    exact book.entryBarByTicket.nodup.sublist (List.filter_sublist.map _)
  · intro ticket
    rw [mem_timeExits]
    have before := dates ticket
    cases known : book.entryBarByTicket.get? ticket with
    | none =>
        rw [known] at before
        simp [before]
    | some entry =>
        rw [known] at before
        obtain ⟨bars, held, since⟩ := before
        rw [held]
        simp only [Option.some.injEq, exists_eq_left']
        omega

end SessionBook

namespace ScalperDesk

variable {scalper : SessionScalper} {s s' : ScalperDesk scalper}
variable {label : ScalperLabel} {id : StrategyId}

/-- The last hook asked to close what was held too long at its bar, or nothing. -/
def ClosesExactly (s : ScalperDesk scalper) (id : StrategyId) : Prop :=
  match s.ran with
  | .bar bar :: _ =>
      if scalper.cadence.isEntry bar then
        (s.closes.map ClosePositionRequest.ticket).Nodup ∧
          ∀ ticket, ticket ∈ s.closes.map ClosePositionRequest.ticket ↔
            ∃ bars, heldFor scalper.cadence id ticket s.ran = some bars ∧
              scalper.cadence.maxHoldBars ≤ bars
      else s.closes = []
  | _ => s.closes = []

/-- The book dates what the hooks did, and the last hook closed what it should. -/
structure Dated (s : ScalperDesk scalper) (id : StrategyId) : Prop where
  own : s.runner.id = id
  dates : (scalper.book s.strategy).Dates scalper.cadence id s.ran
  closes : s.ClosesExactly id

theorem handle_id (runner : PositionRunner) (event : PositionEvent) :
    (runner.handle event).id = runner.id := by
  cases event <;>
    simp only [PositionRunner.handle, PositionRunner.onOrderFilled,
      PositionRunner.onOrderModified, PositionRunner.onPartialClosed,
      PositionRunner.onPositionClosed, PositionRunner.trackOpen] <;>
    repeat' (split <;> try rfl)

theorem Dated.turn (dated : s.Dated id) {scene : ScalperScene}
    (ctx : scene.ctx.strategyId = id) (hook : ScalperHook) :
    (({ s with ran := hook :: s.ran } : ScalperDesk scalper).run scene hook).Dated
      id := by
  cases hook with
  | filled order =>
      refine ⟨dated.own, ?_, rfl⟩
      change (scalper.book (scalper.onOrderFilled _ _ _)).Dates _ _ _
      rw [scalper.book_onOrderFilled]
      exact dated.dates.filled ctx order
  | closed position =>
      refine ⟨dated.own, ?_, rfl⟩
      change (scalper.book (scalper.onPositionClosed _ _)).Dates _ _ _
      rw [scalper.book_onPositionClosed]
      exact dated.dates.closed position
  | bar bar =>
      cases own : scalper.cadence.isEntry bar with
      | false =>
          have idle := scalper.onBar_other scene bar s.strategy own
          refine ⟨dated.own, ?_, ?_⟩
          · change (scalper.book (scalper.onBar scene bar s.strategy).strategy).Dates
              _ _ _
            rw [idle]
            exact dated.dates.other own
          · change (if scalper.cadence.isEntry bar then _ else
              (scalper.onBar scene bar s.strategy).closes = [])
            rw [own, idle]
            rfl
      | true =>
          have dates := dated.dates.nextBar own bar.time
          refine ⟨dated.own, ?_, ?_⟩
          · change (scalper.book (scalper.onBar scene bar s.strategy).strategy).Dates
              _ _ _
            rw [scalper.book_onBar scene bar s.strategy own]
            exact dates
          · unfold ClosesExactly
            change (if scalper.cadence.isEntry bar then _ else _)
            rw [if_pos own]
            have exits := dates.timeExits scene.ctx scalper.exitReason
            rw [← scalper.closes_onBar scene bar s.strategy own] at exits
            exact exits

theorem Dated.step (dated : s.Dated id) (taken : Step s label s') : s'.Dated id := by
  simp only [Step, stepOf?] at taken
  cases label with
  | bar bar =>
      simp only [step?] at taken
      split at taken
      · cases taken
        exact ⟨dated.own, dated.dates, dated.closes⟩
      · cases taken
  | filled index order =>
      simp only [step?] at taken
      split at taken
      · cases taken
      · split at taken
        · cases taken
          exact ⟨(handle_id _ _).trans dated.own, dated.dates, dated.closes⟩
        · cases taken
  | missed index =>
      simp only [step?] at taken
      split at taken
      · cases taken
        exact ⟨dated.own, dated.dates, dated.closes⟩
      · cases taken
  | event event =>
      simp only [step?] at taken
      split at taken
      · cases taken
        exact ⟨(handle_id _ _).trans dated.own, dated.dates, dated.closes⟩
      · cases taken
  | flags flags =>
      cases taken
      exact ⟨dated.own, dated.dates, dated.closes⟩
  | turn now lastPrice positionsLater history =>
      simp only [step?] at taken
      split at taken
      · cases taken
      · rename_i hook hooks _
        cases taken
        have next : ({ s with hooks := hooks } : ScalperDesk scalper).Dated id :=
          ⟨dated.own, dated.dates, dated.closes⟩
        exact next.turn dated.own hook

/-- Whatever happens and in whatever order: at each of its entry bars a session
strategy asks to close exactly the tickets whose fill hook ran at least the longest
hold ago and whose close hook has not run since, each once. A position whose close
hook overtakes its fill hook is among them at every entry bar from then on. -/
theorem closes_exact {magic : Int} {labels : List ScalperLabel}
    (run : Run Step (boot scalper id magic) labels s) : s.ClosesExactly id := by
  have start : (boot scalper id magic).Dated id := by
    refine ⟨rfl, ?_, rfl⟩
    change (scalper.book scalper.start).Dates _ _ _
    rw [scalper.book_start]
    exact SessionBook.dates_create
  have dated := run.invariant (P := fun s => s.Dated id) start
    fun taken dated => dated.step taken
  exact dated.closes

/-! The close of a position is handled before its fill: from the next bar on the
strategy asks to close a position that is gone. -/

def hasty : OpeningRangeBreakoutParams :=
  { OpeningRangeBreakoutParams.default with
    maxHoldBars := 1
    cadence_bounds := by norm_num [OpeningRangeBreakoutParams.default] }

def goldOrder : Order where
  ticket := 5
  strategyId := "s1"
  symbol := "XAUUSD"
  side := .buy
  type := .market
  volume := 1
  filledVolume := 1
  price := none
  fillPrice := some 2602
  sl := none
  tp := none
  status := .filled
  comment := "orb_long"
  magic := 7
  clientOrderId := ""
  requestedAt := none
  filledAt := some 0
  volume_pos := one_quote_pos

def goldPosition : Position where
  ticket := 5
  symbol := "XAUUSD"
  side := .buy
  volume := 1
  openPrice := 2601
  openTime := 0
  sl := none
  tp := none
  comment := "orb_long"
  magic := 7
  volume_pos := one_quote_pos
  openPrice_pos := gold_pos.2

def closedFirst : List ScalperLabel :=
  [.bar (breakingGold .m1 15), .turn 0 none [] goldHistory,
    .event (.closed goldPosition), .filled 0 goldOrder, .turn 0 none [] goldHistory,
    .turn 0 none [] goldHistory, .bar (quietGold .m1 16), .turn 0 none [] goldHistory,
    .bar (quietGold .m1 17), .turn 0 none [] goldHistory]

theorem closedFirst_closes :
    (replay? (fun _ _ => True) step?
      (boot (OpeningRangeBreakout.scalper hasty) "s1" 7) closedFirst).map
        (fun s => (s.ran.length, s.closes.map ClosePositionRequest.ticket)) =
          some (5, [5]) := by
  decide +kernel

theorem closedFirst_exact :
    ∃ s : ScalperDesk (OpeningRangeBreakout.scalper hasty),
      s.closes.map ClosePositionRequest.ticket = [5] ∧ s.ClosesExactly "s1" := by
  rcases Option.map_eq_some_iff.mp closedFirst_closes with ⟨s, reached, closes⟩
  exact ⟨s, congrArg Prod.snd closes, closes_exact (run_of_replay? reached).unguard⟩

end ScalperDesk

end StingerFx
