/-
Module: StingerFx.Proofs.TickStream
Layer: Proofs
Purpose: When the tick events of a symbol are an ordered stream without gaps over
  a disconnect. A poll round looks at the connection once, so a round that was
  under way at the loss goes on publishing; a tick it publishes moves the baseline
  of the gap-fill past the ticks it has not seen. As long as no baseline leaves a
  tick behind, none moves under a replay, and every fetch returns, each stored tick
  is published at most once, in order, and all that were missed are published
  before the connection is reported.
Trusted boundary: none (fully proved)
Main exports: Mt5Feed.SdkOrdered, Mt5Feed.Undisturbed, Mt5Feed.Gapless,
  Mt5Feed.stream_gapless, Mt5Feed.straddling_round_skips
-/
import StingerFx.Brokers.Mt5Feed

namespace StingerFx

open Lib

namespace Mt5Feed

variable {s s' : Mt5Feed}

/-! ### The condition and the claim -/

/-- The terminal gets the ticks of a symbol in the order of their times. -/
def SdkOrdered (s : Mt5Feed) : Mt5Label → Prop
  | .arrive symbol raw =>
      ∀ last ∈ (s.held symbol).getLast?, last.tickTime ≤ raw.tickTime
  | _ => True

/-- A tick of the terminal was published. -/
def Sent (s : Mt5Feed) (symbol : Symbol) (tick : HeldTick) : Prop :=
  ∃ published ∈ s.stream symbol, published.number = tick.number

/-- The symbols whose replay is still to come. -/
def remaining : Recovery → List Symbol
  | .filling _ todo => todo
  | .fetching _ symbol _ todo => symbol :: todo
  | .replaying _ symbol _ _ todo => symbol :: todo
  | .watching | .backingOff | .selecting => []

/-- Poller and gap-fill do not get in each other's way, and the gap-fill is not
cut short while something is owed. -/
def Undisturbed (s : Mt5Feed) : Mt5Label → Prop
  | .pollHandle =>
      match s.poller with
      -- no answer from before the last tick of its symbol
      | .holding symbol (some tick) _ =>
          ∀ last ∈ s.memory.get? symbol, last ≤ tick.raw.tickTime
      | _ => True
  | .fetch =>
      match s.recovery with
      -- the baseline leaves no owed tick behind
      | .filling _ (symbol :: _) =>
          ∀ lastSeen ∈ s.memory.get? symbol, ∀ tick ∈ s.owed symbol,
            s.Sent symbol tick ∨ lastSeen < tick.raw.tickTime
      | _ => True
  | .sdkTicks returns =>
      match s.recovery with
      -- the rows come, and reach up to the owed ticks
      | .fetching now symbol _ _ =>
          ∀ tick ∈ s.owed symbol,
            s.Sent symbol tick ∨ returns = true ∧ tick.raw.tickTime ≤ now
      | _ => True
  | .replay =>
      match s.recovery with
      -- the baseline is still the time of the last tick, or the replay is empty
      | .replaying _ symbol lastSeen rows _ =>
          (s.memory.get? symbol = some lastSeen ∨
            ∀ tick ∈ rows, tick.raw.tickTime ≤ lastSeen) ∧
          ∀ tick ∈ s.owed symbol, s.Sent symbol tick ∨ tick.raw.Valid
      | _ => True
  | .timeout =>
      ∀ symbol ∈ remaining s.recovery, ∀ tick ∈ s.owed symbol,
        s.Sent symbol tick
  | _ => True

/-- The published ticks of a symbol are ticks of the terminal, in the order of
their times, each at most once; when the broker is connected again, all that the
terminal held at the reconnect after the last one before the loss are among them. -/
structure Gapless (s : Mt5Feed) : Prop where
  genuine : ∀ published ∈ s.published, ∃ raw,
    (s.held published.symbol)[published.number]? = some raw ∧
      raw.tick? published.symbol = some published.event.tick
  inOrder : ∀ symbol, (s.stream symbol).Pairwise fun a b => a.time ≤ b.time
  once : ∀ symbol, ((s.stream symbol).map PublishedTick.number).Nodup
  whole : s.connected = true →
    ∀ symbol, ∀ tick ∈ s.owed symbol, s.Sent symbol tick

/-! ### What a step can do -/

/-- The moves of the two tasks and of the terminal. -/
inductive Move (s : Mt5Feed) : Mt5Label → Mt5Feed → Prop where
  | arrive (symbol : Symbol) (raw : RawTick) :
      Move s (.arrive symbol raw)
        { s with
          held := Function.update s.held symbol (s.held symbol ++ [raw]) }
  | round (rests : s.poller = .resting) (up : s.connected = true) :
      Move s .pollRound { s with poller := .next s.tickSubs }
  | answer {symbol : Symbol} {rest : List Symbol} {answer : Option HeldTick}
      {answers : Bool} (asks : s.poller = .asking symbol rest)
      (told : ∀ tick ∈ answer, tick ∈ s.holdings symbol) :
      Move s (.sdkTick answers)
        { s with poller := .holding symbol answer rest }
  | quiet {symbol : Symbol} {rest : List Symbol} {answer : Option HeldTick}
      (holds : s.poller = .holding symbol answer rest) :
      Move s .pollHandle { s with poller := .next rest }
  | publish {symbol : Symbol} {rest : List Symbol} {tick : HeldTick}
      {made : Tick} (holds : s.poller = .holding symbol (some tick) rest)
      (fresh : s.memory.get? symbol ≠ some tick.raw.tickTime)
      (built : tick.raw.tick? symbol = some made) :
      Move s .pollHandle
        { s with
          memory := s.memory.set symbol tick.raw.tickTime
          poller := .next rest
          published := s.published ++ [⟨⟨made, false⟩, tick.number⟩] }
  | refuse {symbol : Symbol} {rest : List Symbol} {tick : HeldTick}
      (holds : s.poller = .holding symbol (some tick) rest) :
      Move s .pollHandle
        { s with
          memory := s.memory.set symbol tick.raw.tickTime
          poller := .dead }
  | detect (watches : s.recovery = .watching) :
      Move s .detect
        { s with
          connected := false
          recovery := .backingOff
          lost := s.published }
  | reconnect (waits : s.recovery = .backingOff) :
      Move s .reconnect { s with recovery := .selecting, owed := s.missed }
  | startFill (now : Time) (selects : s.recovery = .selecting) :
      Move s (.startFill now) { s with recovery := .filling now s.tickSubs }
  | skip {now : Time} {symbol : Symbol} {todo : List Symbol}
      (fills : s.recovery = .filling now (symbol :: todo))
      (unknown : s.memory.get? symbol = none) :
      Move s .fetch { s with recovery := .filling now todo }
  | fetch {now lastSeen : Time} {symbol : Symbol} {todo : List Symbol}
      (fills : s.recovery = .filling now (symbol :: todo))
      (known : s.memory.get? symbol = some lastSeen) :
      Move s .fetch { s with recovery := .fetching now symbol lastSeen todo }
  | rows {now lastSeen : Time} {symbol : Symbol} {todo : List Symbol}
      (fetches : s.recovery = .fetching now symbol lastSeen todo) :
      Move s (.sdkTicks true)
        { s with
          recovery := .replaying now symbol lastSeen
            (s.copyTicksRange symbol lastSeen now) todo }
  | raises {now lastSeen : Time} {symbol : Symbol} {todo : List Symbol}
      (fetches : s.recovery = .fetching now symbol lastSeen todo) :
      Move s (.sdkTicks false) { s with recovery := .filling now todo }
  | replay {now lastSeen : Time} {symbol : Symbol} {rows : List HeldTick}
      {todo : List Symbol}
      (returned : s.recovery = .replaying now symbol lastSeen rows todo) :
      Move s .replay
        { s with
          memory :=
            (s.memory.replayRows symbol lastSeen (rows.map HeldTick.raw)).1
          recovery := .filling now todo
          published := s.published ++ replayed symbol lastSeen rows }
  | timeout {now : Time} (lost : s.recovery ≠ .watching)
      (started : s.recovery ≠ .selecting) :
      Move s .timeout { s with recovery := .filling now [] }
  | finish {now : Time} (done : s.recovery = .filling now []) :
      Move s .finish { s with connected := true, recovery := .watching }

theorem move_of_step {label : Mt5Label} (taken : Step s label s') :
    Move s label s' := by
  cases label with
  | arrive symbol raw =>
      cases taken
      exact .arrive symbol raw
  | pollRound =>
      simp only [Step, stepOf?, step?] at taken
      cases rests : s.poller <;> simp only [rests, reduceCtorEq] at taken
      by_cases up : s.connected = true
      · rw [if_pos up] at taken
        cases taken
        exact .round rests up
      · rw [if_neg up] at taken
        cases taken
  | sdkTick answers =>
      simp only [Step, stepOf?, step?] at taken
      cases asks : s.poller <;> simp only [asks, reduceCtorEq] at taken
      cases taken
      apply Move.answer asks
      intro tick told
      cases answers with
      | false => cases told
      | true => exact List.mem_of_getLast? told
  | pollHandle =>
      simp only [Step, stepOf?, step?] at taken
      cases holds : s.poller <;> simp only [holds, reduceCtorEq] at taken
      rename_i symbol answer rest
      cases answer with
      | none =>
          cases taken
          exact .quiet holds
      | some tick =>
          by_cases seen : s.memory.get? symbol = some tick.raw.tickTime
          · simp only [TickMemory.handlePoll_of_seen seen] at taken
            cases taken
            exact .quiet holds
          · simp only [TickMemory.handlePoll_of_fresh seen] at taken
            cases built : tick.raw.tick? symbol with
            | none =>
                simp only [built] at taken
                cases taken
                exact .refuse holds
            | some made =>
                simp only [built] at taken
                cases taken
                exact .publish holds seen built
  | detect =>
      simp only [Step, stepOf?, step?] at taken
      cases watches : s.recovery <;> simp only [watches, reduceCtorEq] at taken
      cases taken
      exact .detect watches
  | reconnect =>
      simp only [Step, stepOf?, step?] at taken
      cases waits : s.recovery <;> simp only [waits, reduceCtorEq] at taken
      cases taken
      exact .reconnect waits
  | startFill now =>
      simp only [Step, stepOf?, step?] at taken
      cases selects : s.recovery <;> simp only [selects, reduceCtorEq] at taken
      cases taken
      exact .startFill now selects
  | fetch =>
      simp only [Step, stepOf?, step?] at taken
      cases fills : s.recovery <;> simp only [fills, reduceCtorEq] at taken
      rename_i now todo
      cases todo with
      | nil => cases taken
      | cons symbol todo =>
          cases known : s.memory.get? symbol with
          | none =>
              simp only [known] at taken
              cases taken
              exact .skip fills known
          | some lastSeen =>
              simp only [known] at taken
              cases taken
              exact .fetch fills known
  | sdkTicks returns =>
      simp only [Step, stepOf?, step?] at taken
      cases fetches : s.recovery <;> simp only [fetches, reduceCtorEq] at taken
      cases returns with
      | false =>
          cases taken
          exact .raises fetches
      | true =>
          cases taken
          exact .rows fetches
  | replay =>
      simp only [Step, stepOf?, step?] at taken
      cases returned : s.recovery <;>
        simp only [returned, reduceCtorEq] at taken
      cases taken
      exact .replay returned
  | timeout =>
      simp only [Step, stepOf?, step?] at taken
      cases started : s.recovery <;> simp only [started, reduceCtorEq] at taken
      all_goals
        cases taken
        exact .timeout (by simp [started]) (by simp [started])
  | finish =>
      simp only [Step, stepOf?, step?] at taken
      cases done : s.recovery <;> simp only [done, reduceCtorEq] at taken
      rename_i now todo
      cases todo with
      | nil =>
          cases taken
          exact .finish done
      | cons symbol todo => cases taken

/-! ### The published ticks -/

/-- Published ticks are ticks of the terminal, in its order, and no later than the
last time of their symbol. -/
structure Sound (tickSubs : List Symbol) (memory : TickMemory)
    (held : Symbol → List RawTick) (published : List PublishedTick) :
    Prop where
  timed : ∀ symbol, ((held symbol).map RawTick.tickTime).Pairwise (· ≤ ·)
  genuine : ∀ tick ∈ published, ∃ raw,
    (held tick.symbol)[tick.number]? = some raw ∧
      raw.tick? tick.symbol = some tick.event.tick
  ordered : ∀ symbol,
    (streamOf published symbol).Pairwise fun a b => a.number < b.number
  remembered : ∀ tick ∈ published, ∃ last,
    memory.get? tick.symbol = some last ∧ tick.time ≤ last
  subscribed : ∀ tick ∈ published, tick.symbol ∈ tickSubs

section Published

variable {tickSubs : List Symbol} {memory memory' : TickMemory}
variable {held : Symbol → List RawTick} {published later : List PublishedTick}
variable {symbol : Symbol}

/-- Along the ticks of the terminal times do not go down. -/
theorem time_le {rows : List RawTick} {earlier later : RawTick} {m n : Nat}
    (timed : (rows.map RawTick.tickTime).Pairwise (· ≤ ·)) (order : m ≤ n)
    (atM : rows[m]? = some earlier) (atN : rows[n]? = some later) :
    earlier.tickTime ≤ later.tickTime := by
  rcases Nat.eq_or_lt_of_le order with rfl | before
  · rw [atM] at atN
    cases atN
    exact le_rfl
  · rw [List.pairwise_map, List.pairwise_iff_getElem] at timed
    rcases List.getElem?_eq_some_iff.mp atM with ⟨insideM, rfl⟩
    rcases List.getElem?_eq_some_iff.mp atN with ⟨insideN, rfl⟩
    exact timed m n insideM insideN before

/-- A later tick has a greater number. -/
theorem number_lt {rows : List RawTick} {earlier later : RawTick} {m n : Nat}
    (timed : (rows.map RawTick.tickTime).Pairwise (· ≤ ·))
    (atM : rows[m]? = some earlier) (atN : rows[n]? = some later)
    (newer : earlier.tickTime < later.tickTime) : m < n := by
  by_contra behind
  have older := time_le timed (Nat.not_lt.mp behind) atN atM
  exact absurd newer (not_lt_of_ge older)

theorem mem_streamOf {tick : PublishedTick} :
    tick ∈ streamOf published symbol ↔
      tick ∈ published ∧ tick.symbol = symbol := by
  simp [streamOf]

theorem streamOf_append :
    streamOf (published ++ later) symbol =
      streamOf published symbol ++ streamOf later symbol :=
  List.filter_append published later

/-- A tick that the terminal gets last changes nothing about the others. -/
theorem getElem?_arrive {raw old : RawTick} {other : Symbol} {number : Nat}
    (found : (held other)[number]? = some old) :
    (Function.update held symbol (held symbol ++ [raw]) other)[number]? =
      some old := by
  by_cases same : other = symbol
  · subst same
    rw [Function.update_self,
      List.getElem?_append_left (List.getElem?_eq_some_iff.mp found).1]
    exact found
  · rw [Function.update_of_ne same]
    exact found

theorem Sound.arrive (sound : Sound tickSubs memory held published)
    {raw : RawTick}
    (ordered : ∀ last ∈ (held symbol).getLast?,
      last.tickTime ≤ raw.tickTime) :
    Sound tickSubs memory
      (Function.update held symbol (held symbol ++ [raw])) published where
  timed := by
    intro other
    by_cases same : other = symbol
    · subst same
      rw [Function.update_self, List.map_append, List.pairwise_append]
      refine ⟨sound.timed other, List.pairwise_singleton _ _, ?_⟩
      intro time earlier new last
      rw [List.map_singleton, List.mem_singleton] at last
      rcases List.mem_map.mp earlier with ⟨old, member, rfl⟩
      rw [last]
      cases final : (held other).getLast? with
      | none =>
          rw [List.getLast?_eq_none_iff.mp final] at member
          cases member
      | some latest =>
          exact le_trans (RawTick.le_getLast (sound.timed other) member final)
            (ordered latest final)
    · rw [Function.update_of_ne same]
      exact sound.timed other
  genuine := by
    intro tick member
    rcases sound.genuine tick member with ⟨old, found, made⟩
    exact ⟨old, getElem?_arrive found, made⟩
  ordered := sound.ordered
  remembered := sound.remembered
  subscribed := sound.subscribed

/-- Ticks of one symbol are published that are later than all before. -/
theorem Sound.append (sound : Sound tickSubs memory held published)
    (listed : symbol ∈ tickSubs) (own : ∀ tick ∈ later, tick.symbol = symbol)
    (genuine : ∀ tick ∈ later, ∃ raw, (held symbol)[tick.number]? = some raw ∧
      raw.tick? symbol = some tick.event.tick)
    (rising : later.Pairwise fun a b => a.number < b.number)
    (newer : ∀ old ∈ published, old.symbol = symbol →
      ∀ tick ∈ later, old.time < tick.time)
    (remembered : ∀ tick ∈ published ++ later, ∃ last,
      memory'.get? tick.symbol = some last ∧ tick.time ≤ last) :
    Sound tickSubs memory' held (published ++ later) where
  timed := sound.timed
  genuine := by
    intro tick member
    rcases List.mem_append.mp member with old | new
    · exact sound.genuine tick old
    · rw [own tick new]
      exact genuine tick new
  ordered := by
    intro other
    rw [streamOf_append, List.pairwise_append]
    refine ⟨sound.ordered other, rising.sublist List.filter_sublist, ?_⟩
    intro old before new after
    rcases mem_streamOf.mp before with ⟨oldThere, oldSymbol⟩
    rcases mem_streamOf.mp after with ⟨newThere, newSymbol⟩
    have same : other = symbol := newSymbol.symm.trans (own new newThere)
    subst same
    rcases sound.genuine old oldThere with ⟨oldRaw, oldFound, oldMade⟩
    rcases genuine new newThere with ⟨newRaw, newFound, newMade⟩
    have order := newer old oldThere oldSymbol new newThere
    rw [oldSymbol] at oldFound oldMade
    apply number_lt (sound.timed other) oldFound newFound
    rw [← (RawTick.tick?_spec oldMade).2, ← (RawTick.tick?_spec newMade).2]
    exact order
  remembered := remembered
  subscribed := by
    intro tick member
    rcases List.mem_append.mp member with old | new
    · exact sound.subscribed tick old
    · rw [own tick new]
      exact listed

/-- The memory of a symbol moves forward, nothing else does. -/
theorem Sound.remember (sound : Sound tickSubs memory held published)
    {time : Time} (later : ∀ last ∈ memory.get? symbol, last ≤ time) :
    ∀ tick ∈ published, ∃ last,
      (memory.set symbol time).get? tick.symbol = some last ∧
        tick.time ≤ last := by
  intro tick member
  rcases sound.remembered tick member with ⟨last, known, before⟩
  by_cases same : tick.symbol = symbol
  · rw [same] at known ⊢
    exact ⟨time, Dict.get?_set_self _ _ _, le_trans before (later last known)⟩
  · exact ⟨last, (Dict.get?_set_of_ne _ _ same).trans known, before⟩

/-- The live poller publishes an answer that is later than the last tick. -/
theorem Sound.publish (sound : Sound tickSubs memory held published)
    {tick : HeldTick} {made : Tick} (listed : symbol ∈ tickSubs)
    (found : (held symbol)[tick.number]? = some tick.raw)
    (built : tick.raw.tick? symbol = some made)
    (later : ∀ last ∈ memory.get? symbol, last ≤ tick.raw.tickTime)
    (fresh : memory.get? symbol ≠ some tick.raw.tickTime) :
    Sound tickSubs (memory.set symbol tick.raw.tickTime) held
      (published ++ [⟨⟨made, false⟩, tick.number⟩]) := by
  rcases RawTick.tick?_spec built with ⟨own, time⟩
  apply sound.append listed
  · intro new member
    rw [List.mem_singleton.mp member]
    exact own
  · intro new member
    rw [List.mem_singleton.mp member]
    exact ⟨tick.raw, found, built⟩
  · exact List.pairwise_singleton _ _
  · intro old member same new there
    rw [List.mem_singleton.mp there]
    rcases sound.remembered old member with ⟨last, known, before⟩
    rw [same] at known
    have apart : last ≠ tick.raw.tickTime := by
      rintro rfl
      exact fresh known
    have after : last < tick.raw.tickTime := lt_of_le_of_ne (later last known) apart
    exact lt_of_le_of_lt before (after.trans_eq time.symm)
  · intro new member
    rcases List.mem_append.mp member with old | last
    · exact sound.remember later new old
    · rw [List.mem_singleton.mp last]
      refine ⟨tick.raw.tickTime, ?_, time.le⟩
      rw [PublishedTick.symbol, own]
      exact Dict.get?_set_self _ _ _

theorem mem_replayed {lastSeen : Time} {rows : List HeldTick}
    {new : PublishedTick} (member : new ∈ replayed symbol lastSeen rows) :
    ∃ tick ∈ rows, lastSeen < tick.raw.tickTime ∧
      new.number = tick.number ∧ new.event.replayed = true ∧
        tick.raw.tick? symbol = some new.event.tick := by
  rcases List.mem_filterMap.mp member with ⟨tick, there, made⟩
  rcases List.mem_filter.mp there with ⟨row, fresh⟩
  rcases Option.map_eq_some_iff.mp made with ⟨built, done, rfl⟩
  exact ⟨tick, row, of_decide_eq_true fresh, rfl, rfl, done⟩

/-- The gap-fill publishes rows after a baseline that is still the time of the last
tick. -/
theorem Sound.replay (sound : Sound tickSubs memory held published)
    {lastSeen : Time} {rows : List HeldTick} (listed : symbol ∈ tickSubs)
    (found : ∀ tick ∈ rows, (held symbol)[tick.number]? = some tick.raw)
    (rising : rows.Pairwise fun a b => a.number < b.number)
    (baseline : memory.get? symbol = some lastSeen ∨
      ∀ tick ∈ rows, tick.raw.tickTime ≤ lastSeen) :
    Sound tickSubs
      (memory.replayRows symbol lastSeen (rows.map HeldTick.raw)).1 held
      (published ++ replayed symbol lastSeen rows) := by
  have before : replayed symbol lastSeen rows ≠ [] →
      memory.get? symbol = some lastSeen := by
    intro some
    rcases baseline with known | stale
    · exact known
    · rcases List.exists_mem_of_ne_nil _ some with ⟨new, member⟩
      rcases mem_replayed member with ⟨tick, row, fresh, -⟩
      exact absurd fresh (not_lt_of_ge (stale tick row))
  have sorted : (((rows.map HeldTick.raw)).map
      RawTick.tickTime).Pairwise (· ≤ ·) := by
    rw [List.map_map, List.pairwise_map]
    apply List.Pairwise.imp_of_mem _ rising
    intro a b rowA rowB order
    exact time_le (sound.timed symbol) order.le (found a rowA) (found b rowB)
  apply sound.append listed
  · intro new member
    rcases mem_replayed member with ⟨tick, -, -, -, -, made⟩
    exact (RawTick.tick?_spec made).1
  · intro new member
    rcases mem_replayed member with ⟨tick, row, -, number, -, made⟩
    rw [number]
    exact ⟨tick.raw, found tick row, made⟩
  · apply List.Pairwise.filterMap _ _ (rising.sublist List.filter_sublist)
    intro a b order new madeA other madeB
    rcases Option.map_eq_some_iff.mp madeA with ⟨-, -, rfl⟩
    rcases Option.map_eq_some_iff.mp madeB with ⟨-, -, rfl⟩
    exact order
  · intro old member same new there
    rcases sound.remembered old member with ⟨last, known, upTo⟩
    rw [same, before (List.ne_nil_of_mem there)] at known
    cases known
    rcases mem_replayed there with ⟨tick, -, fresh, -, -, made⟩
    exact lt_of_le_of_lt upTo
      (fresh.trans_eq (RawTick.tick?_spec made).2.symm)
  · intro tick member
    rw [TickMemory.replayRows_memory]
    by_cases own : tick.symbol = symbol
    · rw [if_pos own]
      rcases List.mem_append.mp member with old | new
      · rcases sound.remembered tick old with ⟨last, known, upTo⟩
        cases final : (TickMemory.freshRows lastSeen
            (rows.map HeldTick.raw)).getLast? with
        | none => exact ⟨last, known, upTo⟩
        | some raw =>
            refine ⟨raw.tickTime, rfl, ?_⟩
            rcases List.mem_filter.mp (List.mem_of_getLast? final) with
              ⟨row, fresh⟩
            rcases List.mem_map.mp row with ⟨held, there, rfl⟩
            rcases baseline with current | stale
            · rw [own, current] at known
              cases known
              exact upTo.trans (of_decide_eq_true fresh).le
            · exact absurd (of_decide_eq_true fresh)
                (not_lt_of_ge (stale held there))
      · rcases mem_replayed new with ⟨row, there, fresh, -, -, made⟩
        have kept : row.raw ∈ TickMemory.freshRows lastSeen
            (rows.map HeldTick.raw) :=
          List.mem_filter.mpr
            ⟨List.mem_map_of_mem there, decide_eq_true fresh⟩
        cases final : (TickMemory.freshRows lastSeen
            (rows.map HeldTick.raw)).getLast? with
        | none =>
            rw [List.getLast?_eq_none_iff.mp final] at kept
            cases kept
        | some raw =>
            refine ⟨raw.tickTime, rfl, ?_⟩
            rw [PublishedTick.time, (RawTick.tick?_spec made).2]
            exact RawTick.le_getLast (TickMemory.freshRows_sorted sorted) kept
              final
    · rw [if_neg own]
      rcases List.mem_append.mp member with old | new
      · exact sound.remembered tick old
      · rcases mem_replayed new with ⟨row, -, -, -, -, made⟩
        exact absurd (RawTick.tick?_spec made).1 own

end Published

/-! ### The two tasks -/

def PollerFits (tickSubs : List Symbol) (held : Symbol → List RawTick) :
    Poller → Prop
  | .resting | .dead => True
  | .asking symbol rest => ∀ other ∈ symbol :: rest, other ∈ tickSubs
  | .holding symbol answer rest =>
      (∀ other ∈ symbol :: rest, other ∈ tickSubs) ∧
        ∀ tick ∈ answer, (held symbol)[tick.number]? = some tick.raw

def RecoveryFits (tickSubs : List Symbol) (held : Symbol → List RawTick) :
    Recovery → Prop
  | .watching | .backingOff | .selecting => True
  | .filling _ todo => ∀ other ∈ todo, other ∈ tickSubs
  | .fetching _ symbol _ todo => ∀ other ∈ symbol :: todo, other ∈ tickSubs
  | .replaying _ symbol _ rows todo =>
      (∀ other ∈ symbol :: todo, other ∈ tickSubs) ∧
        (∀ tick ∈ rows, (held symbol)[tick.number]? = some tick.raw) ∧
          rows.Pairwise fun a b => a.number < b.number

/-- An owed tick that the recovery has still to publish. -/
def Pending (symbol : Symbol) (tick : HeldTick) : Recovery → Prop
  | .watching | .backingOff => False
  | .selecting => True
  | .filling _ todo => symbol ∈ todo
  | .fetching _ asked lastSeen todo =>
      (symbol = asked ∧ lastSeen < tick.raw.tickTime) ∨ symbol ∈ todo
  | .replaying _ asked lastSeen rows todo =>
      (symbol = asked ∧ lastSeen < tick.raw.tickTime ∧ tick ∈ rows) ∨
        symbol ∈ todo

/-- Both tasks know only ticks of the terminal and subscribed symbols, and what is
owed is published or pending. -/
structure Flowing (s : Mt5Feed) : Prop where
  sound : Sound s.tickSubs s.memory s.held s.published
  polls : PollerFits s.tickSubs s.held s.poller
  recovers : RecoveryFits s.tickSubs s.held s.recovery
  live : s.connected = true → s.recovery = .watching
  lost : ∀ tick ∈ s.lost, tick ∈ s.published
  owed : ∀ symbol, ∀ tick ∈ s.owed symbol, symbol ∈ s.tickSubs ∧
    (s.held symbol)[tick.number]? = some tick.raw ∧
      ∃ last, s.memory.get? symbol = some last
  covered : ∀ symbol, ∀ tick ∈ s.owed symbol,
    s.Sent symbol tick ∨ Pending symbol tick s.recovery

theorem flowing_boot (tickSubs : List Symbol) : Flowing (boot tickSubs) where
  sound :=
    { timed := fun _ => .nil
      genuine := fun _ member => by cases member
      ordered := fun _ => .nil
      remembered := fun _ member => by cases member
      subscribed := fun _ member => by cases member }
  polls := trivial
  recovers := trivial
  live := fun _ => rfl
  lost := fun _ member => by cases member
  owed := fun _ _ member => by cases member
  covered := fun _ _ member => by cases member

theorem PollerFits.next {tickSubs : List Symbol}
    {held : Symbol → List RawTick} {rest : List Symbol}
    (listed : ∀ other ∈ rest, other ∈ tickSubs) :
    PollerFits tickSubs held (.next rest) := by
  cases rest with
  | nil => trivial
  | cons symbol rest => exact listed

theorem PollerFits.arrive {tickSubs : List Symbol}
    {held : Symbol → List RawTick} {poller : Poller} (symbol : Symbol)
    (raw : RawTick) (fits : PollerFits tickSubs held poller) :
    PollerFits tickSubs
      (Function.update held symbol (held symbol ++ [raw])) poller := by
  cases poller with
  | holding asked answer rest =>
      refine ⟨fits.1, ?_⟩
      intro tick told
      exact getElem?_arrive (fits.2 tick told)
  | asking _ _ => exact fits
  | resting => trivial
  | dead => trivial

theorem RecoveryFits.arrive {tickSubs : List Symbol}
    {held : Symbol → List RawTick} {recovery : Recovery} (symbol : Symbol)
    (raw : RawTick) (fits : RecoveryFits tickSubs held recovery) :
    RecoveryFits tickSubs
      (Function.update held symbol (held symbol ++ [raw])) recovery := by
  cases recovery with
  | replaying _ _ _ _ _ =>
      refine ⟨fits.1, ?_, fits.2.2⟩
      intro tick row
      exact getElem?_arrive (fits.2.1 tick row)
  | watching => trivial
  | backingOff => trivial
  | selecting => trivial
  | filling _ _ => exact fits
  | fetching _ _ _ _ => exact fits

theorem mem_copyTicksRange {symbol : Symbol} {start stop : Time}
    {tick : HeldTick} :
    tick ∈ s.copyTicksRange symbol start stop ↔
      (s.held symbol)[tick.number]? = some tick.raw ∧
        start ≤ tick.raw.tickTime ∧ tick.raw.tickTime ≤ stop := by
  rw [copyTicksRange, List.mem_filter, mem_holdings, decide_eq_true_iff]

/-- What was published stays published. -/
theorem sent_append {symbol : Symbol} {tick : HeldTick}
    {later : List PublishedTick} (sent : s.Sent symbol tick) :
    ∃ old ∈ streamOf (s.published ++ later) symbol,
      old.number = tick.number := by
  rcases sent with ⟨old, member, number⟩
  refine ⟨old, ?_, number⟩
  rw [streamOf_append]
  exact List.mem_append_left _ member

theorem pending_remaining {symbol : Symbol} {tick : HeldTick}
    {recovery : Recovery} (pending : Pending symbol tick recovery)
    (started : recovery ≠ .selecting) : symbol ∈ remaining recovery := by
  cases recovery with
  | watching => cases pending
  | backingOff => cases pending
  | selecting => exact absurd rfl started
  | filling _ todo => exact pending
  | fetching _ asked _ todo =>
      rcases pending with ⟨same, -⟩ | later
      · exact same ▸ List.mem_cons_self
      · exact List.mem_cons_of_mem _ later
  | replaying _ asked _ _ todo =>
      rcases pending with ⟨same, -⟩ | later
      · exact same ▸ List.mem_cons_self
      · exact List.mem_cons_of_mem _ later

/-- What the terminal held after the last published tick. -/
theorem mem_missed {symbol : Symbol} {tick : HeldTick}
    (member : tick ∈ s.missed symbol) :
    (s.held symbol)[tick.number]? = some tick.raw ∧
      ∃ last ∈ s.lost, last.symbol = symbol := by
  unfold missed at member
  cases final : (streamOf s.lost symbol).getLast? with
  | none =>
      rw [final] at member
      cases member
  | some last =>
      rw [final] at member
      refine ⟨mem_holdings.mp (List.mem_filter.mp member).1, last, ?_⟩
      exact mem_streamOf.mp (List.mem_of_getLast? final)

theorem known_set {memory : TickMemory} {symbol other : Symbol} {time : Time}
    (known : ∃ last, memory.get? other = some last) :
    ∃ last, (memory.set symbol time).get? other = some last := by
  by_cases same : other = symbol
  · subst same
    exact ⟨time, Dict.get?_set_self _ _ _⟩
  · rw [Dict.get?_set_of_ne _ _ same]
    exact known

theorem known_replayRows {memory : TickMemory} {symbol other : Symbol}
    {lastSeen : Time} {rows : List RawTick}
    (known : ∃ last, memory.get? other = some last) :
    ∃ last, (memory.replayRows symbol lastSeen rows).1.get? other =
      some last := by
  rw [TickMemory.replayRows_memory]
  split
  · split
    · exact ⟨_, rfl⟩
    · exact known
  · exact known

/-- A row of a replay is published. -/
theorem sent_replayed {symbol : Symbol} {lastSeen : Time} {tick : HeldTick}
    {rows : List HeldTick} {published : List PublishedTick}
    (valid : tick.raw.Valid) (after : lastSeen < tick.raw.tickTime)
    (row : tick ∈ rows) :
    ∃ new ∈ streamOf (published ++ replayed symbol lastSeen rows) symbol,
      new.number = tick.number := by
  rcases RawTick.tick?_of_valid valid symbol with ⟨made, built, own, -⟩
  refine ⟨⟨⟨made, true⟩, tick.number⟩, ?_, rfl⟩
  apply mem_streamOf.mpr
  refine ⟨List.mem_append_right _ (List.mem_filterMap.mpr ?_), own⟩
  refine ⟨tick, List.mem_filter.mpr ⟨row, decide_eq_true after⟩, ?_⟩
  rw [built]
  rfl

/-- A recovery goes on. Nothing else changes, and what was pending is published or
pending still; until it is through, the broker stays disconnected. -/
theorem Flowing.recover (flowing : Flowing s) (busy : s.recovery ≠ .watching)
    {next : Recovery} (recovers : RecoveryFits s.tickSubs s.held next)
    (goesOn : ∀ symbol, ∀ tick ∈ s.owed symbol,
      Pending symbol tick s.recovery →
        s.Sent symbol tick ∨ Pending symbol tick next) :
    Flowing { s with recovery := next } where
  sound := flowing.sound
  polls := flowing.polls
  recovers := recovers
  live := fun up => absurd (flowing.live up) busy
  lost := flowing.lost
  owed := flowing.owed
  covered := fun symbol tick member =>
    (flowing.covered symbol tick member).elim .inl (goesOn symbol tick member)

section Moves

variable {now lastSeen : Time} {symbol : Symbol} {rest todo : List Symbol}

/-- A poll publishes a tick of the terminal that is not behind its symbol. -/
theorem Flowing.publish (flowing : Flowing s) {tick : HeldTick} {made : Tick}
    (holds : s.poller = .holding symbol (some tick) rest)
    (fresh : s.memory.get? symbol ≠ some tick.raw.tickTime)
    (built : tick.raw.tick? symbol = some made)
    (later : ∀ last ∈ s.memory.get? symbol, last ≤ tick.raw.tickTime) :
    Flowing
      { s with
        memory := s.memory.set symbol tick.raw.tickTime
        poller := .next rest
        published := s.published ++ [⟨⟨made, false⟩, tick.number⟩] } := by
  have fits := flowing.polls
  rw [holds] at fits
  exact
    { flowing with
      sound := flowing.sound.publish (fits.1 symbol List.mem_cons_self)
        (fits.2 tick rfl) built later fresh
      polls := .next fun other member =>
        fits.1 other (List.mem_cons_of_mem _ member)
      lost := fun old member =>
        List.mem_append_left _ (flowing.lost old member)
      owed := fun other tick member =>
        have old := flowing.owed other tick member
        ⟨old.1, old.2.1, known_set old.2.2⟩
      covered := fun other tick member =>
        (flowing.covered other tick member).imp_left sent_append }

/-- What the reconnect finds missed is of subscribed symbols with a baseline. -/
theorem Flowing.reconnect (flowing : Flowing s)
    (waits : s.recovery = .backingOff) :
    Flowing { s with recovery := .selecting, owed := s.missed } where
  sound := flowing.sound
  polls := flowing.polls
  recovers := trivial
  live := fun up => by
    have watching := flowing.live up
    rw [waits] at watching
    cases watching
  lost := flowing.lost
  owed := by
    intro symbol tick member
    rcases mem_missed member with ⟨found, last, before, same⟩
    have there := flowing.lost last before
    rcases flowing.sound.remembered last there with ⟨time, known, -⟩
    have listed := flowing.sound.subscribed last there
    rw [same] at known listed
    exact ⟨listed, found, time, known⟩
  covered := fun _ _ _ => .inr trivial

/-- Only a symbol without a baseline is skipped, and to it nothing is owed. -/
theorem Flowing.skip (flowing : Flowing s)
    (fills : s.recovery = .filling now (symbol :: todo))
    (unknown : s.memory.get? symbol = none) :
    Flowing { s with recovery := .filling now todo } := by
  have fits := flowing.recovers
  rw [fills] at fits
  apply flowing.recover (by simp [fills])
  · exact fun other member => fits other (List.mem_cons_of_mem _ member)
  · intro other tick member pending
    rw [fills] at pending
    rcases List.mem_cons.mp pending with rfl | later
    · rcases (flowing.owed other tick member).2.2 with ⟨last, known⟩
      rw [unknown] at known
      cases known
    · exact .inr later

theorem Flowing.fetch (flowing : Flowing s)
    (fills : s.recovery = .filling now (symbol :: todo))
    (behind : ∀ tick ∈ s.owed symbol,
      s.Sent symbol tick ∨ lastSeen < tick.raw.tickTime) :
    Flowing { s with recovery := .fetching now symbol lastSeen todo } := by
  have fits := flowing.recovers
  rw [fills] at fits
  have known : RecoveryFits s.tickSubs s.held
      (.fetching now symbol lastSeen todo) := fits
  apply flowing.recover (by simp [fills]) known
  intro other tick member pending
  rw [fills] at pending
  rcases List.mem_cons.mp pending with rfl | later
  · exact (behind tick member).imp_right fun after => .inl ⟨rfl, after⟩
  · exact .inr (.inr later)

theorem Flowing.rows (flowing : Flowing s)
    (fetches : s.recovery = .fetching now symbol lastSeen todo)
    (reaches : ∀ tick ∈ s.owed symbol,
      s.Sent symbol tick ∨ tick.raw.tickTime ≤ now) :
    Flowing
      { s with
        recovery := .replaying now symbol lastSeen
          (s.copyTicksRange symbol lastSeen now) todo } := by
  have fits := flowing.recovers
  rw [fetches] at fits
  apply flowing.recover (by simp [fetches])
  · exact ⟨fits, fun tick row => (mem_copyTicksRange.mp row).1,
      (holdings_sorted s symbol).sublist List.filter_sublist⟩
  · intro other tick member pending
    rw [fetches] at pending
    rcases pending with ⟨rfl, after⟩ | later
    · rcases reaches tick member with sent | upTo
      · exact .inl sent
      · have found := (flowing.owed other tick member).2.1
        exact .inr (.inl ⟨rfl, after,
          mem_copyTicksRange.mpr ⟨found, after.le, upTo⟩⟩)
    · exact .inr (.inr later)

theorem Flowing.raises (flowing : Flowing s)
    (fetches : s.recovery = .fetching now symbol lastSeen todo)
    (served : ∀ tick ∈ s.owed symbol, s.Sent symbol tick) :
    Flowing { s with recovery := .filling now todo } := by
  have fits := flowing.recovers
  rw [fetches] at fits
  apply flowing.recover (by simp [fetches])
  · exact fun other member => fits other (List.mem_cons_of_mem _ member)
  · intro other tick member pending
    rw [fetches] at pending
    rcases pending with ⟨rfl, -⟩ | later
    · exact .inl (served tick member)
    · exact .inr later

/-- A replay publishes every row after its baseline, so the owed ones among them. -/
theorem Flowing.replay (flowing : Flowing s) {rows : List HeldTick}
    (returned : s.recovery = .replaying now symbol lastSeen rows todo)
    (baseline : s.memory.get? symbol = some lastSeen ∨
      ∀ tick ∈ rows, tick.raw.tickTime ≤ lastSeen)
    (valid : ∀ tick ∈ s.owed symbol, s.Sent symbol tick ∨ tick.raw.Valid) :
    Flowing
      { s with
        memory := (s.memory.replayRows symbol lastSeen (rows.map HeldTick.raw)).1
        recovery := .filling now todo
        published := s.published ++ replayed symbol lastSeen rows } := by
  have fits := flowing.recovers
  rw [returned] at fits
  have listed : symbol ∈ s.tickSubs := fits.1 symbol List.mem_cons_self
  refine
    { flowing with
      sound := flowing.sound.replay listed fits.2.1 fits.2.2 baseline
      recovers := fun other member =>
        fits.1 other (List.mem_cons_of_mem _ member)
      live := fun up => absurd (flowing.live up) (by simp [returned])
      lost := fun old member =>
        List.mem_append_left _ (flowing.lost old member)
      owed := ?_
      covered := ?_ }
  · intro other tick member
    have old := flowing.owed other tick member
    exact ⟨old.1, old.2.1, known_replayRows old.2.2⟩
  · intro other tick member
    rcases flowing.covered other tick member with sent | pending
    · exact .inl (sent_append sent)
    · rw [returned] at pending
      rcases pending with ⟨rfl, after, row⟩ | later
      · rcases valid tick member with sent | valid
        · exact .inl (sent_append sent)
        · exact .inl (sent_replayed valid after row)
      · exact .inr later

end Moves

theorem Flowing.step (flowing : Flowing s) {label : Mt5Label}
    (ordered : SdkOrdered s label) (undisturbed : Undisturbed s label)
    (taken : Step s label s') : Flowing s' := by
  cases move_of_step taken with
  | arrive symbol raw =>
      exact
        { flowing with
          sound := flowing.sound.arrive ordered
          polls := flowing.polls.arrive symbol raw
          recovers := flowing.recovers.arrive symbol raw
          owed := fun other tick member =>
            have old := flowing.owed other tick member
            ⟨old.1, getElem?_arrive old.2.1, old.2.2⟩ }
  | round rests up =>
      exact { flowing with polls := .next fun _ member => member }
  | answer asks told =>
      have fits := flowing.polls
      rw [asks] at fits
      exact
        { flowing with
          polls := ⟨fits, fun tick told' => mem_holdings.mp (told tick told')⟩ }
  | quiet holds =>
      have fits := flowing.polls
      rw [holds] at fits
      exact
        { flowing with
          polls := .next fun other member =>
            fits.1 other (List.mem_cons_of_mem _ member) }
  | @publish symbol rest tick made holds fresh built =>
      apply flowing.publish holds fresh built
      simpa only [Undisturbed, holds] using undisturbed
  | @refuse symbol rest tick holds =>
      have later : ∀ last ∈ s.memory.get? symbol,
          last ≤ tick.raw.tickTime := by
        simpa only [Undisturbed, holds] using undisturbed
      exact
        { flowing with
          sound := { flowing.sound with
            remembered := flowing.sound.remember later }
          polls := trivial
          owed := fun other tick member =>
            have old := flowing.owed other tick member
            ⟨old.1, old.2.1, known_set old.2.2⟩ }
  | detect watches =>
      refine
        { flowing with
          recovers := trivial
          live := fun up => by cases up
          lost := fun _ member => member
          covered := ?_ }
      intro symbol tick member
      have old := flowing.covered symbol tick member
      rw [watches] at old
      exact old
  | reconnect waits => exact flowing.reconnect waits
  | startFill now selects =>
      apply flowing.recover (by simp [selects]) (fun _ member => member)
      intro symbol tick member _
      exact .inr (flowing.owed symbol tick member).1
  | skip fills unknown => exact flowing.skip fills unknown
  | fetch fills known =>
      apply flowing.fetch fills
      simp only [Undisturbed, fills, known] at undisturbed
      exact undisturbed _ rfl
  | rows fetches =>
      apply flowing.rows fetches
      simpa only [Undisturbed, fetches, true_and] using undisturbed
  | raises fetches =>
      apply flowing.raises fetches
      simpa [Undisturbed, fetches] using undisturbed
  | replay returned =>
      simp only [Undisturbed, returned] at undisturbed
      exact flowing.replay returned undisturbed.1 undisturbed.2
  | timeout lost started =>
      apply flowing.recover lost (fun _ member => by cases member)
      intro symbol tick member pending
      exact .inl
        (undisturbed symbol (pending_remaining pending started) tick member)
  | finish done =>
      refine
        { flowing with
          recovers := trivial
          live := fun _ => rfl
          covered := ?_ }
      intro symbol tick member
      have old := flowing.covered symbol tick member
      rw [done] at old
      rcases old with sent | pending
      · exact .inl sent
      · cases pending

/-! ### Every run -/

theorem Flowing.gapless (flowing : Flowing s) : Gapless s where
  genuine := flowing.sound.genuine
  inOrder := by
    intro symbol
    apply List.Pairwise.imp_of_mem _ (flowing.sound.ordered symbol)
    intro a b thereA thereB order
    rcases mem_streamOf.mp thereA with ⟨memberA, rfl⟩
    rcases mem_streamOf.mp thereB with ⟨memberB, same⟩
    rcases flowing.sound.genuine a memberA with ⟨rawA, foundA, madeA⟩
    rcases flowing.sound.genuine b memberB with ⟨rawB, foundB, madeB⟩
    rw [same] at foundB
    calc a.time = rawA.tickTime := (RawTick.tick?_spec madeA).2
      _ ≤ rawB.tickTime :=
          time_le (flowing.sound.timed a.symbol) order.le foundA foundB
      _ = b.time := (RawTick.tick?_spec madeB).2.symm
  once := by
    intro symbol
    rw [List.Nodup, List.pairwise_map]
    exact (flowing.sound.ordered symbol).imp fun order => Nat.ne_of_lt order
  whole := by
    intro up symbol tick member
    rcases flowing.covered symbol tick member with sent | pending
    · exact sent
    · rw [flowing.live up] at pending
      cases pending

/-- Any interleaving of the poller, the recovery and the terminal in which they do
not get in each other's way gives a gapless stream. -/
theorem stream_gapless {tickSubs : List Symbol} {labels : List Mt5Label}
    (run : Run
      (Guarded (fun s label => SdkOrdered s label ∧ Undisturbed s label) Step)
      (boot tickSubs) labels s) : Gapless s := by
  have flowing : Flowing s :=
    run.invariant (flowing_boot tickSubs) fun taken flowing =>
      flowing.step taken.1.1 taken.1.2 taken.2
  exact flowing.gapless

/-! ### An outage that is filled, and one that is not -/

instance (s : Mt5Feed) (label : Mt5Label) : Decidable (SdkOrdered s label) := by
  cases label <;> unfold SdkOrdered <;> infer_instance

instance (s : Mt5Feed) (symbol : Symbol) (tick : HeldTick) :
    Decidable (s.Sent symbol tick) := by
  unfold Sent
  infer_instance

instance (s : Mt5Feed) (label : Mt5Label) :
    Decidable (Undisturbed s label) := by
  cases label <;> unfold Undisturbed <;> dsimp only <;>
    first
    | infer_instance
    | split <;> infer_instance

/-- A raw tick some milliseconds after the epoch. -/
def flatTick (msc : Int) : RawTick where
  time := msc / 1000
  timeMsc := some msc
  bid := 1
  ask := 1
  last := 0
  volume := 0
  flags := 0

/-- A first tick, polled and published. -/
def firstTick : List Mt5Label :=
  [.arrive "EURUSD" (flatTick 1), .pollRound, .sdkTick true, .pollHandle]

/-- The SDK comes up again and the gap-fill of one symbol goes through. -/
def recovered : List Mt5Label :=
  [.reconnect, .startFill 5000, .fetch, .sdkTicks true, .replay, .finish]

/-- Two ticks during the outage. -/
def quietOutage : List Mt5Label :=
  firstTick ++ [.detect, .arrive "EURUSD" (flatTick 2),
    .arrive "EURUSD" (flatTick 3)] ++ recovered

theorem quiet_outage_gapless :
    ∃ s : Mt5Feed, s.published.length = 3 ∧ s.connected = true ∧ Gapless s := by
  have reached :
      ((replay? (fun s label => SdkOrdered s label ∧ Undisturbed s label) step?
        (boot ["EURUSD"]) quietOutage).filter
          (fun s => s.connected)).map (fun s => s.published.length) =
            some 3 := by
    decide +kernel
  rcases Option.map_eq_some_iff.mp reached with ⟨s, filtered, three⟩
  rcases Option.filter_eq_some_iff.mp filtered with ⟨replayed, up⟩
  exact ⟨s, three, up, stream_gapless (run_of_replay? replayed)⟩

/-- Two ticks arrive between two polls. The loss is noticed after the round has
looked at the connection, and the round publishes the newer one. -/
def straddlingRound : List Mt5Label :=
  firstTick ++ [.arrive "EURUSD" (flatTick 2), .arrive "EURUSD" (flatTick 3),
    .pollRound, .detect, .sdkTick true, .pollHandle] ++ recovered

/-- The baseline of the gap-fill is then the newer tick: the older one, which the
terminal holds, is never published. -/
theorem straddling_round_skips :
    ¬ ∀ (tickSubs : List Symbol) (labels : List Mt5Label) (s : Mt5Feed),
        Run (Guarded SdkOrdered Step) (boot tickSubs) labels s →
          Gapless s := by
  intro claim
  have reached :
      (replay? SdkOrdered step? (boot ["EURUSD"]) straddlingRound).any
        (fun s => s.connected && decide (∃ tick ∈ s.owed "EURUSD",
          ¬ s.Sent "EURUSD" tick)) = true := by
    decide +kernel
  rcases (Option.any_eq_true _ _).mp reached with ⟨s, replayed, skipped⟩
  rcases Bool.and_eq_true_iff.mp skipped with ⟨up, missing⟩
  rcases of_decide_eq_true missing with ⟨tick, owed, unsent⟩
  have gapless := claim ["EURUSD"] straddlingRound s (run_of_replay? replayed)
  exact unsent (gapless.whole up "EURUSD" tick owed)

end Mt5Feed

end StingerFx
