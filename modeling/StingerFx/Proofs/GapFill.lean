/-
Module: StingerFx.Proofs.GapFill
Layer: Proofs
Purpose: When a gap-fill reaches the bars. The replay of a gap is published in one
  go, so the aggregators' queues take it all before a consumer runs. As long as no
  publish evicts a replayed tick from the queue of an aggregator of its symbol,
  each of them handles all the ticks of the replay in order, and a bucket inside
  the window gives exactly one bar, made of all its ticks. A replay longer than a
  queue loses its oldest ticks.
Trusted boundary: none (fully proved)
Main exports: TickFeed.SdkOrdered, TickFeed.SparesReplay, TickFeed.Inside,
  TickFeed.ReachesBars, TickFeed.gap_fill_reaches_bars,
  TickFeed.long_gap_misses_bars
-/
import StingerFx.Brokers.BarBuckets
import StingerFx.Runtime.TickFeed

namespace StingerFx

open Lib

namespace TickFeed

variable {s s' : TickFeed}

/-! ### The condition and the claim -/

/-- The terminal reports the ticks of a symbol in the order of their times. -/
def SdkOrdered (s : TickFeed) : FeedLabel → Prop
  | .poll symbol raw => ∀ last ∈ s.memory.get? symbol, last ≤ raw.tickTime
  | .gapFill _ rows => (rows.map RawTick.tickTime).Pairwise (· ≤ ·)
  | .consume _ | .subscribe _ => True

/-- What a burst evicts from the queue of a subscription. -/
def evicted (sub : FeedSubscription) (events : List TickEvent) :
    List TickEvent :=
  (sub.queue.items ++ events).take (sub.queue.overflow events)

/-- A replayed tick of the aggregator's symbol. -/
def ReplayFor (agg : BarAggregator) (event : TickEvent) : Prop :=
  event.replayed = true ∧ agg.Own event.tick

/-- A burst evicts no replayed tick of the symbol of the listening aggregator. -/
def Spared (sub : FeedSubscription) (events : List TickEvent) : Prop :=
  match sub.handler with
  | .aggregator agg _ => ∀ event ∈ evicted sub events, ¬ ReplayFor agg event
  | .other => True

/-- The step evicts no replayed tick from the queue of an aggregator of its
symbol. A burst that the queue has room for evicts nothing. -/
def SparesReplay (s : TickFeed) (label : FeedLabel) : Prop :=
  ∀ sub ∈ s.bus.subs, Spared sub (s.publishes label)

/-- A bucket lies inside the window of a replay: it opens after the last tick
before the window and after what the aggregator started with, it was traded in,
and a tick of a later bucket was handled, none after the window being of this
bucket or an earlier one. -/
structure Inside (agg : BarAggregator) (lastSeen : Time)
    (replay back : List TickEvent) (b : Time) : Prop where
  opensAfter : barOpenTime lastSeen agg.tf < b
  warmedBefore : agg.Before b
  traded : ∃ event ∈ replay, agg.bucket event.tick = b
  beyond : ∀ event ∈ back, agg.Own event.tick → b < agg.bucket event.tick
  closed : ∃ event ∈ replay ++ back, agg.Own event.tick ∧
    b < agg.bucket event.tick

/-- The ticks of a bucket among some events. -/
def ticksOf (agg : BarAggregator) (b : Time) (events : List TickEvent) :
    List Tick :=
  (events.map TickEvent.tick).filter fun tick => decide (agg.bucket tick = b)

/-- The aggregator handles the whole replay in order, and emits one bar for each
bucket inside the window, with the prices and the volume of all its ticks. -/
def ReachesBars (agg : BarAggregator) (lastSeen : Time)
    (replay : List TickEvent) (sub : FeedSubscription) : Prop :=
  ∃ front back, sub.handled = front ++ replay ++ back ∧
    ∀ b, Inside agg lastSeen replay back b →
      ∃ first rest bar, ticksOf agg b replay = first :: rest ∧
        sub.bars.filter (fun bar => decide (bar.time = b)) = [bar] ∧
        bar.openPrice = first.bid ∧ BarOf bar (first :: rest)

theorem not_replay_of_spared {agg : BarAggregator}
    {emits : agg.emitBars = true} {sub : FeedSubscription}
    {events : List TickEvent} (spared : Spared sub events)
    (listens : sub.handler = .aggregator agg emits) :
    ∀ event ∈ evicted sub events, ¬ ReplayFor agg event := by
  unfold Spared at spared
  rw [listens] at spared
  exact spared

/-! ### The bus at every point -/

/-- Live subscriptions with bounded queues, and no tick on its way that is later
than the last one of its symbol. -/
structure Wired (s : TickFeed) : Prop where
  opened : s.bus.closed = false
  drops : ∀ sub ∈ s.bus.subs, sub.overflow = .dropOldest
  alive : ∀ sub ∈ s.bus.subs, sub.closed = false
  bounded : ∀ sub ∈ s.bus.subs, sub.queue.capacity = busQueueSize ∧
    sub.queue.items.length ≤ sub.queue.capacity
  timely : ∀ sub ∈ s.bus.subs, ∀ event ∈ sub.handled ++ sub.queue.items,
    ∃ last, s.memory.get? event.tick.symbol = some last ∧
      event.tick.time ≤ last

theorem wired_boot : Wired boot where
  opened := rfl
  drops := fun _ member => by cases member
  alive := fun _ member => by cases member
  bounded := fun _ member => by cases member
  timely := fun _ member => by cases member

/-- A subscription after a burst. -/
def afterBurst (events : List TickEvent) (sub : FeedSubscription) :
    FeedSubscription :=
  { sub with queue := sub.queue.pushAll events }

theorem Wired.publishAll (wired : Wired s) (events : List TickEvent) :
    s.bus.publishAll isTick events =
      { s.bus with
        subs := s.bus.subs.map (afterBurst events)
        published := s.bus.published ++ events } := by
  have bursts : ∀ sub ∈ s.bus.subs,
      events.foldl (fun sub event => sub.receive isTick event) sub =
        afterBurst events sub := by
    intro sub member
    have all : events.filter (sub.wants isTick) = events :=
      List.filter_eq_self.mpr fun _ _ => rfl
    rw [sub.receiveAll_of_open (wired.alive sub member), all]
    rfl
  rw [AsyncEventBus.publishAll_of_dropOldest _ wired.drops wired.opened,
    List.map_congr_left bursts]

theorem Wired.items_afterBurst (wired : Wired s) {sub : FeedSubscription}
    (member : sub ∈ s.bus.subs) (events : List TickEvent) :
    (afterBurst events sub).queue.items =
      (sub.queue.items ++ events).drop (sub.queue.overflow events) := by
  rcases wired.bounded sub member with ⟨size, within⟩
  have room : 0 < sub.queue.capacity := by
    rw [size]
    decide
  exact Mailbox.items_pushAll room within events

/-! ### One step -/

/-- What a step does: it publishes a burst, hands one tick over, or adds a
subscription. -/
theorem step_cases {label : FeedLabel} (taken : Step s label s') :
    (s' = ⟨s.remembers label,
        s.bus.publishAll isTick (s.publishes label)⟩) ∨
      (∃ front sub event rest back,
        s.publishes label = [] ∧ s.bus.subs = front ++ sub :: back ∧
          sub.queue.pop? = some (event, rest) ∧
          s' = { s with
            bus := { s.bus with
              subs := front ++
                { sub with queue := rest, handled := sub.handled ++ [event] } ::
                  back } }) ∨
      ∃ handler, s.publishes label = [] ∧
        s' = { s with
          bus := { s.bus with
            subs := s.bus.subs ++
              [.create () handler busQueueSize .dropOldest] } } := by
  cases label with
  | poll symbol raw =>
      cases taken
      exact .inl rfl
  | gapFill symbol rows =>
      cases taken
      exact .inl rfl
  | consume index =>
      simp only [Step, stepOf?, step?] at taken
      cases found : s.bus.take? index with
      | none => simp [found] at taken
      | some delivery =>
          obtain ⟨handler, event, bus⟩ := delivery
          rw [found] at taken
          cases taken
          rcases AsyncEventBus.take?_spec found with
            ⟨front, sub, rest, back, split, -, -, -, popped, rfl⟩
          exact .inr (.inl ⟨front, sub, event, rest, back, rfl, split, popped,
            rfl⟩)
  | subscribe handler =>
      simp only [Step, stepOf?, step?, AsyncEventBus.subscribe?] at taken
      cases shut : s.bus.closed with
      | true => simp [shut] at taken
      | false =>
          simp only [shut, Bool.false_eq_true, if_false,
            Option.some.injEq] at taken
          exact .inr (.inr ⟨handler, rfl, by simp [← taken, shut]⟩)

/-- The last times only go up. -/
theorem remembers_mono {label : FeedLabel} (ordered : SdkOrdered s label)
    {symbol : Symbol} {last : Time} (known : s.memory.get? symbol = some last) :
    ∃ last', (s.remembers label).get? symbol = some last' ∧ last ≤ last' := by
  cases label with
  | poll polled raw =>
      by_cases seen : s.memory.get? polled = some raw.tickTime
      · simp only [remembers, TickMemory.handlePoll_of_seen seen]
        exact ⟨last, known, le_rfl⟩
      · simp only [remembers, TickMemory.handlePoll_of_fresh seen]
        by_cases same : symbol = polled
        · subst same
          exact ⟨raw.tickTime, Dict.get?_set_self _ _ _, ordered last known⟩
        · exact ⟨last, (Dict.get?_set_of_ne _ _ same).trans known, le_rfl⟩
  | gapFill filled rows =>
      simp only [remembers]
      cases base : s.memory.get? filled with
      | none => exact ⟨last, known, le_rfl⟩
      | some lastSeen =>
          dsimp only
          rw [TickMemory.replayRows_memory]
          by_cases same : symbol = filled
          · subst same
            rw [if_pos rfl]
            cases final : (TickMemory.freshRows lastSeen rows).getLast? with
            | none => exact ⟨last, known, le_rfl⟩
            | some raw =>
                refine ⟨raw.tickTime, rfl, ?_⟩
                have fresh := List.mem_of_getLast? final
                have newer := of_decide_eq_true (List.mem_filter.mp fresh).2
                rw [known] at base
                cases base
                exact newer.le
          · rw [if_neg same]
            exact ⟨last, known, le_rfl⟩
  | consume index => exact ⟨last, known, le_rfl⟩
  | subscribe handler => exact ⟨last, known, le_rfl⟩

/-- A published tick is no later than the last time of its symbol. -/
theorem publishes_timely {label : FeedLabel} (ordered : SdkOrdered s label)
    {event : TickEvent} (member : event ∈ s.publishes label) :
    ∃ last, (s.remembers label).get? event.tick.symbol = some last ∧
      event.tick.time ≤ last := by
  cases label with
  | poll symbol raw =>
      by_cases seen : s.memory.get? symbol = some raw.tickTime
      · simp only [publishes, TickMemory.handlePoll_of_seen seen] at member
        cases member
      · simp only [publishes, TickMemory.handlePoll_of_fresh seen] at member
        simp only [remembers, TickMemory.handlePoll_of_fresh seen]
        cases made : raw.tick? symbol with
        | none =>
            rw [made] at member
            cases member
        | some tick =>
            rw [made] at member
            rw [List.mem_singleton.mp member]
            rcases RawTick.tick?_spec made with ⟨same, time⟩
            refine ⟨raw.tickTime, ?_, time.le⟩
            rw [same]
            exact Dict.get?_set_self _ _ _
  | gapFill symbol rows =>
      simp only [publishes] at member
      simp only [remembers]
      cases base : s.memory.get? symbol with
      | none =>
          rw [base] at member
          cases member
      | some lastSeen =>
          rw [base] at member
          rcases TickMemory.mem_replayRows member with ⟨raw, fresh, -, same, time⟩
          dsimp only
          rw [TickMemory.replayRows_memory, if_pos same]
          cases final : (TickMemory.freshRows lastSeen rows).getLast? with
          | none =>
              rw [List.getLast?_eq_none_iff.mp final] at fresh
              cases fresh
          | some last =>
              refine ⟨last.tickTime, rfl, ?_⟩
              rw [time]
              exact RawTick.le_getLast (TickMemory.freshRows_sorted ordered) fresh final
  | consume index => cases member
  | subscribe handler => cases member

theorem Wired.mem_afterBurst (wired : Wired s) {sub : FeedSubscription}
    (member : sub ∈ s.bus.subs) {events : List TickEvent} {event : TickEvent}
    (queued : event ∈ (afterBurst events sub).queue.items) :
    event ∈ sub.queue.items ∨ event ∈ events := by
  rw [wired.items_afterBurst member] at queued
  exact List.mem_append.mp (List.mem_of_mem_drop queued)

theorem Wired.step (wired : Wired s) {label : FeedLabel}
    (ordered : SdkOrdered s label) (taken : Step s label s') : Wired s' := by
  rcases step_cases taken with rfl |
    ⟨front, sub, event, rest, back, -, split, popped, rfl⟩ | ⟨handler, -, rfl⟩
  · rw [wired.publishAll]
    refine ⟨wired.opened, ?_, ?_, ?_, ?_⟩
    · intro sub member
      rcases List.mem_map.mp member with ⟨old, there, rfl⟩
      exact wired.drops old there
    · intro sub member
      rcases List.mem_map.mp member with ⟨old, there, rfl⟩
      exact wired.alive old there
    · intro sub member
      rcases List.mem_map.mp member with ⟨old, there, rfl⟩
      rcases wired.bounded old there with ⟨size, within⟩
      have kept : (afterBurst (s.publishes label) old).queue.capacity =
          busQueueSize := (Mailbox.capacity_pushAll _ _).trans size
      refine ⟨kept, ?_⟩
      rw [kept, wired.items_afterBurst there, List.length_drop,
        List.length_append, Mailbox.overflow, size]
      omega
    · intro sub member event queued
      rcases List.mem_map.mp member with ⟨old, there, rfl⟩
      rcases List.mem_append.mp queued with handled | waiting
      · rcases wired.timely old there event (List.mem_append_left _ handled)
          with ⟨last, known, before⟩
        rcases remembers_mono ordered known with ⟨last', known', later⟩
        exact ⟨last', known', before.trans later⟩
      · rcases wired.mem_afterBurst there waiting with old' | new
        · rcases wired.timely old there event (List.mem_append_right _ old')
            with ⟨last, known, before⟩
          rcases remembers_mono ordered known with ⟨last', known', later⟩
          exact ⟨last', known', before.trans later⟩
        · exact publishes_timely ordered new
  · have items := Mailbox.items_of_pop? popped
    have here : sub ∈ s.bus.subs := by simp [split]
    have drops := wired.drops
    have alive := wired.alive
    have bounded := wired.bounded
    have timely := wired.timely
    rw [split] at drops alive bounded timely
    refine ⟨wired.opened, forall_mem_replaced drops (wired.drops sub here),
      forall_mem_replaced alive (wired.alive sub here),
      forall_mem_replaced bounded ?_, forall_mem_replaced timely ?_⟩
    · rcases wired.bounded sub here with ⟨size, within⟩
      have same : rest.capacity = sub.queue.capacity :=
        Mailbox.capacity_of_pop? popped
      rw [items, List.length_cons] at within
      dsimp only
      rw [same]
      exact ⟨size, by omega⟩
    · intro seen member
      apply wired.timely sub here seen
      rw [items]
      simpa using member
  · refine ⟨wired.opened, ?_, ?_, ?_, ?_⟩
    · intro sub member
      rcases List.mem_append.mp member with old | new
      · exact wired.drops sub old
      · rw [List.mem_singleton.mp new]
        rfl
    · intro sub member
      rcases List.mem_append.mp member with old | new
      · exact wired.alive sub old
      · rw [List.mem_singleton.mp new]
        rfl
    · intro sub member
      rcases List.mem_append.mp member with old | new
      · exact wired.bounded sub old
      · rw [List.mem_singleton.mp new]
        exact ⟨rfl, Nat.zero_le _⟩
    · intro sub member
      rcases List.mem_append.mp member with old | new
      · exact wired.timely sub old
      · rw [List.mem_singleton.mp new]
        intro event queued
        cases queued

/-! ### The replay on its way -/

/-- The replay lies in one piece in what the aggregator has handled and what
waits for it, after ticks up to the last time seen. -/
def Carries (agg : BarAggregator) (lastSeen : Time) (replay : List TickEvent)
    (sub : FeedSubscription) : Prop :=
  ∃ front back, sub.handled ++ sub.queue.items = front ++ replay ++ back ∧
    ∀ event ∈ front, agg.Own event.tick → event.tick.time ≤ lastSeen

/-- A burst moves a queue, and spares the replay. -/
theorem carries_afterBurst {agg : BarAggregator} {lastSeen : Time}
    {replay events : List TickEvent} {sub : FeedSubscription}
    (wired : Wired s) (member : sub ∈ s.bus.subs)
    (mine : ∀ event ∈ replay, ReplayFor agg event)
    (spares : ∀ event ∈ evicted sub events, ¬ ReplayFor agg event)
    {front back : List TickEvent}
    (whole : sub.handled ++ (sub.queue.items ++ events) =
      front ++ replay ++ back)
    (early : ∀ event ∈ front, agg.Own event.tick →
      event.tick.time ≤ lastSeen) :
    Carries agg lastSeen replay (afterBurst events sub) := by
  rcases stretch_of_drop mine spares whole with
    ⟨front', back', whole', smaller⟩
  refine ⟨front', back', ?_, ?_⟩
  · rw [wired.items_afterBurst member]
    exact whole'
  · intro event there
    exact early event (smaller.subset there)

/-- The subscription of an aggregator that carries a replay, under its index. -/
def Tracks (agg : BarAggregator) (lastSeen : Time) (replay : List TickEvent)
    (index : Nat) (s : TickFeed) : Prop :=
  ∃ sub emits, s.bus.subs[index]? = some sub ∧
    sub.handler = .aggregator agg emits ∧ Carries agg lastSeen replay sub

theorem Tracks.step {agg : BarAggregator} {lastSeen : Time}
    {replay : List TickEvent} {index : Nat}
    (mine : ∀ event ∈ replay, ReplayFor agg event) (wired : Wired s)
    (tracks : Tracks agg lastSeen replay index s) {label : FeedLabel}
    (spares : SparesReplay s label) (taken : Step s label s') :
    Tracks agg lastSeen replay index s' := by
  rcases tracks with ⟨sub, emits, found, listens, front, back, whole, early⟩
  have member : sub ∈ s.bus.subs := List.mem_of_getElem? found
  rcases step_cases taken with rfl |
    ⟨ahead, other, event, rest, behind, -, split, popped, rfl⟩ |
    ⟨handler, -, rfl⟩
  · refine ⟨afterBurst (s.publishes label) sub, emits, ?_, listens, ?_⟩
    · rw [wired.publishAll]
      simp [found]
    · apply carries_afterBurst wired member mine
        (not_replay_of_spared (spares sub member) listens) ?_ early
      · exact back ++ s.publishes label
      · rw [← List.append_assoc, whole, List.append_assoc]
  · rw [split] at found
    by_cases here : index = ahead.length
    · have same : sub = other := by simpa [here] using found.symm
      subst same
      refine ⟨{ sub with queue := rest, handled := sub.handled ++ [event] },
        emits, by simp [here], listens, front, back, ?_, early⟩
      rw [Mailbox.items_of_pop? popped] at whole
      rw [← whole]
      simp
    · refine ⟨sub, emits, ?_, listens, front, back, whole, early⟩
      rw [← found]
      rcases Nat.lt_or_gt_of_ne here with less | more
      · simp [List.getElem?_append_left less]
      · obtain ⟨further, rfl⟩ := Nat.exists_eq_add_of_lt more
        simp [List.getElem?_append_right, Nat.add_assoc]
  · refine ⟨sub, emits, ?_, listens, front, back, whole, early⟩
    have inside := (List.getElem?_eq_some_iff.mp found).1
    rw [← found]
    exact List.getElem?_append_left inside

theorem publishes_gapFill {symbol : Symbol} {lastSeen : Time}
    (seen : s.memory.get? symbol = some lastSeen) (rows : List RawTick) :
    s.publishes (.gapFill symbol rows) =
      (s.memory.replayRows symbol lastSeen rows).2 := by
  simp only [publishes, seen]

/-- The replay of a gap enters the queue of an aggregator in one piece. -/
theorem tracks_gapFill {symbol : Symbol} {rows : List RawTick}
    {lastSeen : Time} (wired : Wired s)
    (seen : s.memory.get? symbol = some lastSeen) {index : Nat}
    {sub : FeedSubscription} {agg : BarAggregator}
    {emits : agg.emitBars = true} (live : s.bus.subs[index]? = some sub)
    (listens : sub.handler = .aggregator agg emits) (own : agg.symbol = symbol)
    (spares : SparesReplay s (.gapFill symbol rows))
    (taken : Step s (.gapFill symbol rows) s') :
    (∀ event ∈ s.publishes (.gapFill symbol rows), ReplayFor agg event) ∧
      Tracks agg lastSeen (s.publishes (.gapFill symbol rows)) index s' := by
  have member : sub ∈ s.bus.subs := List.mem_of_getElem? live
  have mine : ∀ event ∈ s.publishes (.gapFill symbol rows),
      ReplayFor agg event := by
    intro event there
    rw [publishes_gapFill seen] at there
    rcases TickMemory.mem_replayRows there with ⟨raw, -, again, same, -⟩
    exact ⟨again, same.trans own.symm⟩
  refine ⟨mine, ?_⟩
  cases taken
  refine ⟨afterBurst (s.publishes (.gapFill symbol rows)) sub, emits, ?_,
    listens, ?_⟩
  · dsimp only
    rw [wired.publishAll]
    simp [live]
  · have whole : sub.handled ++ (sub.queue.items ++
        s.publishes (.gapFill symbol rows)) =
          sub.handled ++ sub.queue.items ++
            s.publishes (.gapFill symbol rows) ++ [] := by
      simp
    apply carries_afterBurst wired member mine
      (not_replay_of_spared (spares sub member) listens) whole
    intro event there ownTick
    rcases wired.timely sub member event there with ⟨last, known, before⟩
    have same : event.tick.symbol = symbol :=
      (show event.tick.symbol = agg.symbol from ownTick).trans own
    rw [same, seen] at known
    cases known
    exact before

/-- The replayed ticks come in the order of their times. -/
theorem replay_sorted (symbol : Symbol) (lastSeen : Time)
    (memory : TickMemory) {rows : List RawTick}
    (sorted : (rows.map RawTick.tickTime).Pairwise (· ≤ ·)) :
    ((memory.replayRows symbol lastSeen rows).2.map
      fun event => event.tick.time).Pairwise (· ≤ ·) := by
  rw [TickMemory.replayRows_events]
  have fresh : ((TickMemory.freshRows lastSeen rows).map
      RawTick.tickTime).Pairwise (· ≤ ·) := TickMemory.freshRows_sorted sorted
  generalize TickMemory.freshRows lastSeen rows = list at fresh
  induction list with
  | nil => exact .nil
  | cons raw rest ih =>
      rw [List.map_cons, List.pairwise_cons] at fresh
      cases made : raw.tick? symbol with
      | none =>
          simp only [List.filterMap_cons, made, Option.map_none]
          exact ih fresh.2
      | some tick =>
          simp only [List.filterMap_cons, made, Option.map_some, List.map_cons,
            List.pairwise_cons]
          refine ⟨?_, ih fresh.2⟩
          intro time member
          rcases List.mem_map.mp member with ⟨event, there, rfl⟩
          rcases List.mem_filterMap.mp there with ⟨other, later, built⟩
          rcases Option.map_eq_some_iff.mp built with ⟨otherTick, madeOther, rfl⟩
          rw [(RawTick.tick?_spec made).2, (RawTick.tick?_spec madeOther).2]
          exact fresh.1 _ (List.mem_map_of_mem later)

/-! ### The bars -/

/-- What a drained aggregator has made of a replay. -/
theorem reachesBars_of_handled {agg : BarAggregator}
    {emits : agg.emitBars = true} {lastSeen : Time}
    {front replay back : List TickEvent} {sub : FeedSubscription}
    (listens : sub.handler = .aggregator agg emits)
    (mine : ∀ event ∈ replay, ReplayFor agg event)
    (sorted : (replay.map fun event => event.tick.time).Pairwise (· ≤ ·))
    (handled : sub.handled = front ++ replay ++ back)
    (early : ∀ event ∈ front, agg.Own event.tick →
      event.tick.time ≤ lastSeen) : ReachesBars agg lastSeen replay sub := by
  refine ⟨front, back, handled, ?_⟩
  intro b inside
  have own : ∀ tick ∈ replay.map TickEvent.tick, agg.Own tick := by
    intro tick member
    rcases List.mem_map.mp member with ⟨event, there, rfl⟩
    exact (mine event there).2
  have buckets : ((replay.map TickEvent.tick).map agg.bucket).Pairwise
      (· ≤ ·) := by
    rw [List.map_map]
    rw [List.pairwise_map] at sorted ⊢
    exact sorted.imp fun order => barOpenTime_mono order agg.tf
  have earlier : ∀ tick ∈ front.map TickEvent.tick,
      agg.Own tick → agg.bucket tick < b := by
    intro tick member ownTick
    rcases List.mem_map.mp member with ⟨event, there, rfl⟩
    exact lt_of_le_of_lt
      (barOpenTime_mono (early event there ownTick) agg.tf) inside.opensAfter
  have beyond : ∀ tick ∈ back.map TickEvent.tick,
      agg.Own tick → b < agg.bucket tick := by
    intro tick member ownTick
    rcases List.mem_map.mp member with ⟨event, there, rfl⟩
    exact inside.beyond event there ownTick
  have closed : ∃ tick ∈ replay.map TickEvent.tick ++ back.map TickEvent.tick,
      agg.Own tick ∧ b < agg.bucket tick := by
    rcases inside.closed with ⟨event, there, ownEvent, later⟩
    rw [← List.map_append]
    exact ⟨event.tick, List.mem_map_of_mem there, ownEvent, later⟩
  cases ticks : ticksOf agg b replay with
  | nil =>
      rcases inside.traded with ⟨event, there, same⟩
      have member : event.tick ∈ ticksOf agg b replay :=
        List.mem_filter.mpr ⟨List.mem_map_of_mem there, decide_eq_true same⟩
      rw [ticks] at member
      cases member
  | cons first rest =>
      have emitted := BarAggregator.feed_sorted_bucket inside.warmedBefore own
        buckets earlier beyond closed ticks
      have bars : sub.bars = (agg.feed (front.map TickEvent.tick ++
          replay.map TickEvent.tick ++ back.map TickEvent.tick)).2 := by
        simp only [FeedSubscription.bars, listens, handled, List.map_append]
      rw [← bars, BarAggregator.emit, if_pos emits] at emitted
      exact ⟨first, rest, _, rfl, emitted,
        OpenBar.ofTicks_openPrice b first rest,
        OpenBar.ofTicks_of b first rest⟩

/-- Whatever happened before a disconnect, and whatever happens after the replay:
as long as the replay and the later publishes evict no replayed tick, every live
aggregator of the symbol that has worked off its queue has handled the whole replay
in order, and has emitted each bar inside the window once and right. -/
theorem gap_fill_reaches_bars {history later : List FeedLabel}
    {s s' s'' : TickFeed} {symbol : Symbol} {rows : List RawTick}
    {lastSeen : Time} {index : Nat} {sub sub' : FeedSubscription}
    {agg : BarAggregator} {emits : agg.emitBars = true}
    (run : Run (Guarded SdkOrdered Step) boot history s)
    (seen : s.memory.get? symbol = some lastSeen)
    (gap : Guarded (fun s label => SdkOrdered s label ∧ SparesReplay s label)
      Step s (.gapFill symbol rows) s')
    (after : Run
      (Guarded (fun s label => SdkOrdered s label ∧ SparesReplay s label) Step)
      s' later s'')
    (live : s.bus.subs[index]? = some sub)
    (listens : sub.handler = .aggregator agg emits) (own : agg.symbol = symbol)
    (found : s''.bus.subs[index]? = some sub')
    (drained : sub'.queue.items = []) :
    ReachesBars agg lastSeen (s.publishes (.gapFill symbol rows)) sub' := by
  have wired : Wired s :=
    run.invariant wired_boot fun taken wired => wired.step taken.1 taken.2
  rcases gap with ⟨⟨ordered, spares⟩, taken⟩
  rcases tracks_gapFill wired seen live listens own spares taken with
    ⟨mine, tracks⟩
  have carried : Wired s'' ∧
      Tracks agg lastSeen (s.publishes (.gapFill symbol rows)) index s'' := by
    apply after.invariant (P := fun state => Wired state ∧
      Tracks agg lastSeen (s.publishes (.gapFill symbol rows)) index state)
    · exact ⟨wired.step ordered taken, tracks⟩
    · intro one label two step both
      exact ⟨both.1.step step.1.1 step.2,
        both.2.step mine both.1 step.1.2 step.2⟩
  rcases carried.2 with
    ⟨same, emits', found', listens', front, back, whole, early⟩
  rw [found] at found'
  cases found'
  rw [drained, List.append_nil] at whole
  have sorted := replay_sorted symbol lastSeen s.memory ordered
  rw [← publishes_gapFill seen] at sorted
  exact reachesBars_of_handled listens' mine sorted whole early

/-! ### A short gap and a long one -/

def minuteBars : BarAggregator := .create "EURUSD" .m1 minute_ne_tick

/-- A raw tick some milliseconds after the epoch. -/
def rawAt (msc : Int) : RawTick where
  time := msc / 1000
  timeMsc := some msc
  bid := 1
  ask := 1
  last := 0
  volume := 0
  flags := 0

/-- An aggregator is wired and one tick is seen. -/
def beforeGap : List FeedLabel :=
  [.subscribe (.aggregator minuteBars rfl), .poll "EURUSD" (rawAt 1)]

instance (s : TickFeed) (label : FeedLabel) :
    Decidable (SdkOrdered s label) := by
  cases label <;> unfold SdkOrdered <;> infer_instance

instance (agg : BarAggregator) (event : TickEvent) :
    Decidable (ReplayFor agg event) := by
  unfold ReplayFor BarAggregator.Own
  infer_instance

instance (sub : FeedSubscription) (events : List TickEvent) :
    Decidable (Spared sub events) := by
  unfold Spared
  cases sub.handler <;> infer_instance

instance (s : TickFeed) (label : FeedLabel) :
    Decidable (SparesReplay s label) := by
  unfold SparesReplay
  infer_instance

/-- Two ticks of the second minute and one of the third, during a gap. -/
def shortGap : List RawTick := [rawAt 61000, rawAt 62000, rawAt 125000]

/-- The bar of the second minute is emitted, after that of the first. -/
theorem short_gap_reaches_bars :
    ∃ sub replay, replay.length = 3 ∧ sub.bars.length = 2 ∧
      ReachesBars minuteBars 1000 replay sub := by
  have run : Run (Guarded SdkOrdered Step) boot beforeGap _ :=
    .step ⟨trivial, rfl⟩ (.step ⟨by decide, rfl⟩ (.refl _))
  refine ⟨_, _, ?_, ?_, @gap_fill_reaches_bars beforeGap
    (List.replicate 4 (.consume 0)) _ _ _ "EURUSD" shortGap _ 0 _ _ minuteBars
    rfl run rfl ⟨⟨?_, ?_⟩, rfl⟩
    (.step ⟨⟨trivial, ?_⟩, rfl⟩ (.step ⟨⟨trivial, ?_⟩, rfl⟩
      (.step ⟨⟨trivial, ?_⟩, rfl⟩ (.step ⟨⟨trivial, ?_⟩, rfl⟩ (.refl _)))))
    rfl rfl rfl rfl rfl⟩
  all_goals decide +kernel

/-- A live consumer works off its queue. -/
theorem drain_run (s : TickFeed) (sub : FeedSubscription)
    (back : List FeedSubscription) (first : s.bus.subs = sub :: back)
    (alive : sub.closed = false) :
    ∃ s', Run (Guarded SdkOrdered Step) s
        (List.replicate sub.queue.items.length (.consume 0)) s' ∧
      s'.bus.subs = { sub with
          queue := { sub.queue with items := [] }
          handled := sub.handled ++ sub.queue.items } :: back := by
  induction waiting : sub.queue.items generalizing s sub with
  | nil =>
      refine ⟨s, .refl s, ?_⟩
      have whole : { sub.queue with items := [] } = sub.queue := by
        rw [← waiting]
      rw [List.append_nil, whole, ← first]
  | cons event rest ih =>
      have takes := AsyncEventBus.take?_first first alive waiting
      let taken : FeedSubscription :=
        { sub with
          queue := { sub.queue with items := rest }
          handled := sub.handled ++ [event] }
      have head : Guarded SdkOrdered Step s (.consume 0)
          { s with bus := { s.bus with subs := taken :: back } } := by
        refine ⟨trivial, ?_⟩
        simp only [Step, stepOf?, step?, takes, taken]
      rcases ih { s with bus := { s.bus with subs := taken :: back } } taken
        rfl alive rfl with ⟨s', tail, drained⟩
      refine ⟨s', .step head tail, ?_⟩
      rw [drained]
      simp [taken]

/-- Every row of a replay is published when all are new and valid. -/
theorem length_replayRows {symbol : Symbol} {lastSeen : Time}
    {rows : List RawTick} (memory : TickMemory)
    (fresh : ∀ raw ∈ rows, lastSeen < raw.tickTime ∧ raw.Valid) :
    (memory.replayRows symbol lastSeen rows).2.length = rows.length := by
  have all : TickMemory.freshRows lastSeen rows = rows := by
    apply List.filter_eq_self.mpr
    intro raw member
    exact decide_eq_true (fresh raw member).1
  rw [TickMemory.replayRows_events, all]
  clear all
  induction rows with
  | nil => rfl
  | cons raw rest ih =>
      rcases RawTick.tick?_of_valid (fresh raw List.mem_cons_self).2 symbol with
        ⟨tick, made, -, -⟩
      have later := ih fun other member =>
        fresh other (List.mem_cons_of_mem raw member)
      simp only [List.filterMap_cons, made, Option.map_some, List.length_cons,
        later]

/-- A replay that is longer than the queue of an aggregator: once the aggregator
has worked off its queue, some ticks of the replay are gone for good. -/
theorem long_replay_misses {symbol : Symbol} {rows : List RawTick}
    {lastSeen : Time} {sub : FeedSubscription} {back : List FeedSubscription}
    {agg : BarAggregator} (wired : Wired s) (first : s.bus.subs = sub :: back)
    (untouched : sub.handled = [])
    (long : busQueueSize < (s.publishes (.gapFill symbol rows)).length)
    (taken : Step s (.gapFill symbol rows) s') :
    ∃ later s'' sub', Run (Guarded SdkOrdered Step) s' later s'' ∧
      s''.bus.subs[0]? = some sub' ∧ sub'.queue.items = [] ∧
        ¬ ReachesBars agg lastSeen (s.publishes (.gapFill symbol rows)) sub' := by
  cases taken
  generalize s.publishes (.gapFill symbol rows) = replay at long ⊢
  have member : sub ∈ s.bus.subs := by
    rw [first]
    exact List.mem_cons_self
  rcases drain_run ⟨_, s.bus.publishAll isTick replay⟩ (afterBurst replay sub)
    (back.map (afterBurst replay))
    (by simp only [wired.publishAll, first, List.map_cons])
    (wired.alive sub member) with ⟨s'', run, drained⟩
  refine ⟨_, s'', _, run, by rw [drained]; rfl, rfl, ?_⟩
  rintro ⟨front, behind, handled, -⟩
  have whole : sub.handled ++ (afterBurst replay sub).queue.items =
      front ++ replay ++ behind := handled
  have lengths := congrArg List.length whole
  rcases wired.bounded sub member with ⟨size, within⟩
  rw [untouched, List.nil_append, wired.items_afterBurst member,
    List.length_drop, Mailbox.overflow] at lengths
  simp only [List.length_append] at lengths
  omega

/-- One tick every millisecond, one more than a queue holds. -/
def longGap : List RawTick :=
  (List.range (busQueueSize + 1)).map fun i : Nat => rawAt (61000 + (i : Int))

theorem rawAt_tickTime (i : Nat) :
    (rawAt (61000 + (i : Int))).tickTime = (61000 + (i : Int)) * 1000 := by
  have positive : 0 < (61000 + i : Int) := by omega
  simp [RawTick.tickTime, rawAt, positive]

theorem longGap_fresh :
    ∀ raw ∈ longGap, (1000 : Time) < raw.tickTime ∧ raw.Valid := by
  intro raw member
  rcases List.mem_map.mp member with ⟨i, -, rfl⟩
  refine ⟨?_, one_pos, one_pos⟩
  rw [rawAt_tickTime]
  show (1000 : Int) < (61000 + (i : Int)) * 1000
  omega

theorem longGap_ordered : (longGap.map RawTick.tickTime).Pairwise (· ≤ ·) := by
  rw [longGap, List.map_map, List.pairwise_map]
  refine List.pairwise_lt_range.imp ?_
  intro i j before
  dsimp only [Function.comp_apply]
  rw [rawAt_tickTime, rawAt_tickTime]
  show (61000 + (i : Int)) * 1000 ≤ (61000 + (j : Int)) * 1000
  omega

theorem longGap_long (seen : s.memory.get? "EURUSD" = some 1000) :
    busQueueSize < (s.publishes (.gapFill "EURUSD" longGap)).length := by
  rw [publishes_gapFill seen, length_replayRows s.memory longGap_fresh, longGap,
    List.length_map, List.length_range]
  exact Nat.lt_succ_self busQueueSize

/-- A replay of one tick more than a queue holds, with one tick waiting already:
the aggregator never sees the whole replay. -/
theorem long_gap_misses_bars :
    ¬ ∀ (history later : List FeedLabel) (s s' s'' : TickFeed)
        (symbol : Symbol) (rows : List RawTick) (lastSeen : Time) (index : Nat)
        (sub sub' : FeedSubscription) (agg : BarAggregator)
        (emits : agg.emitBars = true),
        Run (Guarded SdkOrdered Step) boot history s →
          s.memory.get? symbol = some lastSeen →
          Guarded SdkOrdered Step s (.gapFill symbol rows) s' →
          Run (Guarded SdkOrdered Step) s' later s'' →
          s.bus.subs[index]? = some sub →
          sub.handler = .aggregator agg emits → agg.symbol = symbol →
          s''.bus.subs[index]? = some sub' → sub'.queue.items = [] →
            ReachesBars agg lastSeen (s.publishes (.gapFill symbol rows))
              sub' := by
  intro claim
  have run : Run (Guarded SdkOrdered Step) boot beforeGap _ :=
    .step ⟨trivial, rfl⟩ (.step ⟨by decide, rfl⟩ (.refl _))
  have wired := run.invariant wired_boot fun taken wired =>
    wired.step taken.1 taken.2
  have missed : ∃ later s'' sub', _ ∧ _ ∧ _ ∧
      ¬ ReachesBars minuteBars 1000 _ sub' :=
    long_replay_misses wired rfl rfl (longGap_long rfl) rfl
  rcases missed with ⟨later, s'', sub', after, found, drained, misses⟩
  exact misses (claim beforeGap later _ _ s'' "EURUSD" longGap 1000 0 _ sub'
    minuteBars rfl run rfl ⟨longGap_ordered, rfl⟩ after rfl rfl rfl found
    drained)

end TickFeed

end StingerFx
