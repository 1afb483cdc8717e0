/-
Module: StingerFx.Proofs.TickReplayChunks
Layer: Proofs
Purpose: The tick replay, chunk by chunk, takes up the ticks of one merge of the
  whole range, in the same order and with the same effect. The ticks of a symbol in
  a range are a window of one sorted stream, merging commutes with taking a window,
  and the windows of the chunks make up the window of the range.
Trusted boundary: none (fully proved)
Main exports: TickStore.Sound, stream, mergedTicks_eq_window, replayChunks_eq,
  chunked_replay_is_one_merge
-/
import StingerFx.Backtest.TickReplay

namespace StingerFx

open Lib ParquetStore

/-! ### Stores that ticks were appended to -/

/-- Every folder holds a history of ticks on whole microseconds. -/
def TickStore.Sound (store : TickStore) : Prop :=
  ∀ symbol folder, store.get? symbol = some folder →
    ∃ history, Holds tickSchema folder history ∧
      ∀ row ∈ history, ∃ t, row.time = tickSchema.scalar t

theorem TickStore.sound_empty : TickStore.Sound .empty := by
  intro symbol folder found
  cases found

theorem TickStore.Sound.history {store : TickStore} (sound : store.Sound)
    (symbol : Symbol) :
    ∃ history, Holds tickSchema (store.getD symbol .empty) history ∧
      ∀ row ∈ history, ∃ t, row.time = tickSchema.scalar t := by
  cases found : store.get? symbol with
  | none =>
      rw [Dict.getD, found]
      exact ⟨[], holds_empty tickSchema, fun _ none => absurd none List.not_mem_nil⟩
  | some folder =>
      rw [Dict.getD, found]
      exact sound symbol folder found

theorem TickStore.Sound.append {store : TickStore} (sound : store.Sound)
    (symbol : Symbol) (batch : Batch TickValues) :
    (store.append symbol batch).Sound := by
  unfold TickStore.append
  split
  · exact sound
  · intro other folder found
    rw [Dict.get?_set] at found
    split at found
    · cases found
      obtain ⟨history, holds, whole⟩ := sound.history symbol
      refine ⟨_, holds.appendRows, ?_⟩
      intro row member
      rcases List.mem_append.mp member with old | new
      · exact whole row old
      · exact mem_written new
    · exact sound other folder found

/-- The store after any appends to any symbols. -/
def storeOf (calls : List (Symbol × Batch TickValues)) : TickStore :=
  calls.foldl (fun store call => store.append call.1 call.2) .empty

theorem sound_storeOf (calls : List (Symbol × Batch TickValues)) :
    (storeOf calls).Sound := by
  have general : ∀ (calls : List (Symbol × Batch TickValues)) (store : TickStore),
      store.Sound →
      (calls.foldl (fun store call => store.append call.1 call.2) store).Sound := by
    intro calls
    induction calls with
    | nil => exact fun _ sound => sound
    | cons call calls ih => exact fun store sound => ih _ (sound.append call.1 call.2)
  exact general calls .empty TickStore.sound_empty

/-! ### Windows of a stream -/

/-- The stamp lies in `[start, stop)`. -/
def inWindow (start stop : Time) (tick : StoredTick) : Bool :=
  decide (start ≤ tick.time ∧ tick.time < stop)

/-- All ticks of a symbol in the order of time. -/
def stream (store : TickStore) (symbol : Symbol) : List StoredTick :=
  iterTicksFromTable symbol
    (sortBy Row.time (dataset (store.getD symbol .empty)))

theorem sorted_stream (store : TickStore) (symbol : Symbol) :
    SortedBy StoredTick.time (stream store symbol) := by
  apply List.pairwise_map.mpr
  refine (sorted_sortBy _).imp fun {one two} ordered => ?_
  show one.time / 1000 ≤ two.time / 1000
  omega

/-- Reading a range is taking a window of the stream. -/
theorem iterTicks_eq_window (store : TickStore) (symbol : Symbol)
    (start stop : Time) :
    iterTicksFromTable symbol (store.readTicks symbol start stop) =
      (stream store symbol).filter (inWindow start stop) := by
  have whole : store.readTicks symbol start stop =
      ParquetStore.readTicks (store.getD symbol .empty) start stop := by
    unfold TickStore.readTicks Dict.getD
    cases store.get? symbol <;> rfl
  rw [whole, ParquetStore.readTicks, readRange, ← filter_sortBy, stream,
    iterTicksFromTable, iterTicksFromTable, List.filter_map]
  congr 1
  apply List.filter_congr
  intro row _
  -- `start * 1000 ≤ ns` and `start ≤ ns / 1000` are the same
  apply decide_eq_decide.mpr
  show (start * 1000 ≤ row.time ∧ row.time < stop * 1000) ↔
    (start ≤ row.time / 1000 ∧ row.time / 1000 < stop)
  dsimp only [Time] at *
  omega

/-- The merge over all time. -/
def allTicks (store : TickStore) (symbols : List Symbol) : List StoredTick :=
  mergeFeeds StoredTick.time (symbols.map (stream store))

theorem sorted_allTicks (store : TickStore) (symbols : List Symbol) :
    SortedBy StoredTick.time (allTicks store symbols) := by
  apply sorted_mergeFeeds
  intro feed member
  obtain ⟨symbol, _, rfl⟩ := List.mem_map.mp member
  exact sorted_stream store symbol

theorem mergedTicks_eq_window (store : TickStore) (symbols : List Symbol)
    (start stop : Time) :
    mergedTicks store symbols start stop =
      (allTicks store symbols).filter (inWindow start stop) := by
  have feeds : (symbols.map fun symbol =>
      iterTicksFromTable symbol (store.readTicks symbol start stop)) =
      (symbols.map (stream store)).map (List.filter (inWindow start stop)) := by
    rw [List.map_map]
    apply List.map_congr_left
    intro symbol _
    exact iterTicks_eq_window store symbol start stop
  unfold mergedTicks allTicks
  rw [feeds]
  apply filter_mergeFeeds
  intro feed member
  obtain ⟨symbol, _, rfl⟩ := List.mem_map.mp member
  exact sorted_stream store symbol

theorem mergedTicks_cut (store : TickStore) (symbols : List Symbol)
    {start cut stop : Time} (early : start ≤ cut) (late : cut ≤ stop) :
    mergedTicks store symbols start cut ++ mergedTicks store symbols cut stop =
      mergedTicks store symbols start stop := by
  rw [mergedTicks_eq_window, mergedTicks_eq_window, mergedTicks_eq_window]
  exact filter_cut (sorted_allTicks store symbols) early late

theorem mergedTicks_of_le (store : TickStore) (symbols : List Symbol)
    {start stop : Time} (none : stop ≤ start) :
    mergedTicks store symbols start stop = [] := by
  rw [mergedTicks_eq_window]
  apply List.filter_eq_nil_iff.mpr
  intro tick _
  simp only [inWindow, decide_eq_true_eq]
  dsimp only [Time] at *
  omega

theorem time_of_mergedTicks {store : TickStore} {symbols : List Symbol}
    {start stop : Time} {tick : StoredTick}
    (member : tick ∈ mergedTicks store symbols start stop) :
    start ≤ tick.time ∧ tick.time < stop := by
  rw [mergedTicks_eq_window] at member
  exact of_decide_eq_true (List.mem_filter.mp member).2

theorem sorted_mergedTicks (store : TickStore) (symbols : List Symbol)
    (start stop : Time) :
    SortedBy StoredTick.time (mergedTicks store symbols start stop) := by
  rw [mergedTicks_eq_window]
  exact (sorted_allTicks store symbols).filter _

/-! ### The loops -/

section Loops

variable {S : Type} (handle : S → StoredTick → S)

/-- What the loop leaves when the clock never objects. -/
def played (ticks : List StoredTick) (replay : TickReplay S) : TickReplay S where
  clock := ticks.foldl (fun _ tick => ⟨tick.time⟩) replay.clock
  state := ticks.foldl handle replay.state
  ticks := replay.ticks ++ ticks

/-- Ticks in order that begin no earlier than the clock are all taken up. -/
theorem processTicks_eq {ticks : List StoredTick} {replay : TickReplay S}
    (sorted : SortedBy StoredTick.time ticks)
    (after : ∀ tick ∈ ticks, replay.clock.now ≤ tick.time) :
    processTicks handle ticks replay = (played handle ticks replay, none) := by
  induction ticks generalizing replay with
  | nil => simp [processTicks, played]
  | cons tick rest ih =>
      obtain ⟨least, sorted⟩ := List.pairwise_cons.mp sorted
      have onward : ¬ tick.time < replay.clock.now :=
        not_lt.mpr (after tick List.mem_cons_self)
      unfold processTicks SimClock.advance
      rw [if_neg onward]
      dsimp only
      rw [ih sorted least]
      simp [played, List.append_assoc]

theorem played_append (one two : List StoredTick) (replay : TickReplay S) :
    played handle two (played handle one replay) =
      played handle (one ++ two) replay := by
  simp [played, List.foldl_append, List.append_assoc]

theorem played_clock_le {ticks : List StoredTick} {replay : TickReplay S}
    {bound : Time} (start : replay.clock.now ≤ bound)
    (within : ∀ tick ∈ ticks, tick.time ≤ bound) :
    (played handle ticks replay).clock.now ≤ bound := by
  show (ticks.foldl (fun _ tick => SimClock.mk tick.time) replay.clock).now ≤ bound
  cases lastOne : ticks.getLast? with
  | none =>
      rw [List.getLast?_eq_none_iff.mp lastOne]
      exact start
  | some last =>
      rw [← List.dropLast_append_getLast? last lastOne, List.foldl_append]
      exact within last (List.mem_of_getLast? lastOne)

/-- From any cursor that the clock has not passed, the chunks take up the merge of
what is left of the range. -/
theorem replayChunks_eq (store : TickStore) (symbols : List Symbol) (stop : Time)
    (cursor : Time) (replay : TickReplay S)
    (behind : replay.clock.now ≤ cursor) :
    replayChunks handle store symbols stop cursor replay =
      (played handle (mergedTicks store symbols cursor stop) replay, none) := by
  induction cursor, replay using replayChunks.induct handle store symbols stop with
  | case1 cursor replay before chunkEnd replay' error failed =>
      have ran := processTicks_eq handle
        (sorted_mergedTicks store symbols cursor chunkEnd)
        fun tick member => behind.trans (time_of_mergedTicks member).1
      rw [failed] at ran
      cases ran
  | case2 cursor replay before chunkEnd replay' ended ih =>
      have ran := processTicks_eq handle
        (sorted_mergedTicks store symbols cursor chunkEnd)
        fun tick member => behind.trans (time_of_mergedTicks member).1
      rw [ended] at ran
      obtain ⟨rfl, _⟩ := Prod.mk.inj ran
      have ahead : cursor ≤ chunkEnd :=
        le_min (lt_nextMidnight cursor).le before.le
      have notPast : (played handle (mergedTicks store symbols cursor chunkEnd)
          replay).clock.now ≤ chunkEnd :=
        played_clock_le handle (behind.trans ahead) fun tick member =>
          (time_of_mergedTicks member).2.le
      rw [replayChunks, dif_pos before]
      dsimp only
      rw [ended]
      dsimp only
      rw [ih notPast, played_append,
        mergedTicks_cut store symbols ahead (min_le_right _ _)]
  | case3 cursor replay over_ =>
      rw [replayChunks, dif_neg over_, mergedTicks_of_le store symbols (not_lt.mp over_)]
      simp [played]

end Loops

/-! ### What is replayed -/

theorem replaySymbols_nodup (feedList : List Subscription) :
    (replaySymbols feedList).Nodup :=
  ((sortBy_perm _).nodup_iff).mpr (List.nodup_dedup _)

/-- Whether a file of the symbol holds the tick. -/
def TickStore.Has (store : TickStore) (tick : StoredTick) : Prop :=
  ∃ folder day rows, store.get? tick.symbol = some folder ∧
    folder.get? day = some rows ∧
      ⟨tickSchema.scalar tick.time, tick.values⟩ ∈ rows

/-- Rows of a sound store lie on whole microseconds. -/
theorem TickStore.Sound.whole {store : TickStore} (sound : store.Sound)
    {symbol : Symbol} {row : Row TickValues}
    (member : row ∈ dataset (store.getD symbol .empty)) :
    tickSchema.scalar (fromTimestamp row.time) = row.time := by
  obtain ⟨history, holds, whole⟩ := sound.history symbol
  have inGroup : row ∈ groupOf Row.time (dataset (store.getD symbol .empty))
      row.time := mem_groupOf.mpr ⟨member, rfl⟩
  rw [groupOf_dataset holds] at inGroup
  obtain ⟨t, rowTime⟩ :=
    whole row (mem_groupOf.mp ((keepLast_sublist _).subset inGroup)).1
  rw [rowTime]
  show t * 1000 / 1000 * 1000 = t * 1000
  rw [Int.mul_ediv_cancel t (by norm_num)]

theorem mem_stream {store : TickStore} (sound : store.Sound) {symbol : Symbol}
    {tick : StoredTick} :
    tick ∈ stream store symbol ↔ tick.symbol = symbol ∧ store.Has tick := by
  constructor
  · intro member
    obtain ⟨row, inside, rfl⟩ := List.mem_map.mp member
    have stored := mem_sortBy.mp inside
    obtain ⟨entry, listed, inRows⟩ := List.mem_flatMap.mp stored
    have found : (store.getD symbol .empty).get? entry.1 = some entry.2 :=
      (Dict.get?_eq_some_iff _).mpr (mem_sortBy.mp listed)
    refine ⟨rfl, ?_⟩
    cases folderIs : store.get? symbol with
    | none =>
        rw [Dict.getD, folderIs] at found
        cases found
    | some folder =>
        rw [Dict.getD, folderIs] at found
        refine ⟨folder, entry.1, entry.2, folderIs, found, ?_⟩
        simp only [tickOfRow, sound.whole stored]
        exact inRows
  · rintro ⟨rfl, folder, day, rows, folderIs, found, member⟩
    apply List.mem_map.mpr
    refine ⟨_, mem_sortBy.mpr (List.mem_flatMap.mpr ⟨(day, rows), ?_, member⟩), ?_⟩
    · rw [mem_sortBy, Dict.getD, folderIs]
      exact (Dict.get?_eq_some_iff folder).mp found
    · have back : fromTimestamp (tickSchema.scalar tick.time) = tick.time :=
        Int.mul_ediv_cancel tick.time (by norm_num)
      simp [tickOfRow, back]

theorem nodup_stream {store : TickStore} (sound : store.Sound) (symbol : Symbol) :
    (stream store symbol).Nodup := by
  obtain ⟨history, holds, _⟩ := sound.history symbol
  have rows : (sortBy Row.time (dataset (store.getD symbol .empty))).Nodup := by
    rw [sortBy_dataset holds]
    have distinct : ((keepLast tickSchema.key history).map id).Nodup :=
      keepLast_nodup history
    rw [List.map_id] at distinct
    exact ((sortBy_perm _).nodup_iff).mpr distinct
  refine List.Nodup.map_on ?_ rows
  intro one first two second same
  have times : fromTimestamp one.time = fromTimestamp two.time :=
    congrArg StoredTick.time same
  have values : one.values = two.values := congrArg StoredTick.values same
  have oneTime := sound.whole (mem_sortBy.mp first)
  have twoTime := sound.whole (mem_sortBy.mp second)
  rw [times, twoTime] at oneTime
  obtain ⟨_, _⟩ := one
  obtain ⟨_, _⟩ := two
  simp_all

theorem nodup_allTicks {store : TickStore} (sound : store.Sound)
    {symbols : List Symbol} (distinct : symbols.Nodup) :
    (allTicks store symbols).Nodup := by
  rw [allTicks, (mergeFeeds_perm _).nodup_iff, List.nodup_flatten]
  constructor
  · intro feed member
    obtain ⟨symbol, _, rfl⟩ := List.mem_map.mp member
    exact nodup_stream sound symbol
  · apply List.pairwise_map.mpr
    refine distinct.imp fun {one two} apart => ?_
    intro tick first second
    have firstSymbol := ((mem_stream sound).mp first).1
    have secondSymbol := ((mem_stream sound).mp second).1
    exact apart (firstSymbol.symm.trans secondSymbol)

/-- Everything the chunked replay promises: the clock accepts every tick; the ticks
are those of one merge over `[start, stop)`, with the same effect; their times do
not decrease; each stored tick of the range occurs, and none twice. -/
structure OneMerge {S : Type} (handle : S → StoredTick → S) (store : TickStore)
    (feedList : List Subscription) (start stop : Time) (state : S)
    (replay : TickReplay S × Option ClockError) : Prop where
  clock_accepts : replay.2 = none
  same_ticks : replay.1.ticks =
    mergedTicks store (replaySymbols feedList) start stop
  same_state : replay.1.state =
    (mergedTicks store (replaySymbols feedList) start stop).foldl handle state
  ordered : replay.1.ticks.Pairwise fun a b => a.time ≤ b.time
  each : ∀ tick, tick ∈ replay.1.ticks ↔
    (∃ sub ∈ feedList, sub.symbol = tick.symbol) ∧ start ≤ tick.time ∧
      tick.time < stop ∧ store.Has tick
  once : replay.1.ticks.Nodup

theorem mem_mergedTicks {store : TickStore} (sound : store.Sound)
    {symbols : List Symbol} {start stop : Time} {tick : StoredTick} :
    tick ∈ mergedTicks store symbols start stop ↔
      tick.symbol ∈ symbols ∧ start ≤ tick.time ∧ tick.time < stop ∧
        store.Has tick := by
  rw [mergedTicks_eq_window, List.mem_filter, inWindow, decide_eq_true_iff, allTicks,
    mem_mergeFeeds]
  constructor
  · rintro ⟨⟨feed, listed, member⟩, after, before⟩
    obtain ⟨symbol, known, rfl⟩ := List.mem_map.mp listed
    obtain ⟨rfl, has⟩ := (mem_stream sound).mp member
    exact ⟨known, after, before, has⟩
  · rintro ⟨known, after, before, has⟩
    exact ⟨⟨_, List.mem_map_of_mem known, (mem_stream sound).mpr ⟨rfl, has⟩⟩,
      after, before⟩

/-- For every stored tick data, every feed list, every range and whatever a tick
does: the replay by chunks is the replay of one merge over the whole range. -/
theorem chunked_replay_is_one_merge {S : Type} (handle : S → StoredTick → S)
    (calls : List (Symbol × Batch TickValues)) (feedList : List Subscription)
    (start stop : Time) (state : S) :
    OneMerge handle (storeOf calls) feedList start stop state
      (replayTicks handle (storeOf calls) feedList start stop state) := by
  have sound := sound_storeOf calls
  have ran : replayTicks handle (storeOf calls) feedList start stop state = _ :=
    replayChunks_eq handle (storeOf calls) (replaySymbols feedList) stop start
      ⟨⟨start⟩, state, []⟩ le_rfl
  have symbols : ∀ symbol, symbol ∈ replaySymbols feedList ↔
      ∃ sub ∈ feedList, sub.symbol = symbol := by
    intro symbol
    simp [replaySymbols]
  rw [ran]
  constructor
  case clock_accepts => rfl
  case same_ticks => rfl
  case same_state => rfl
  case ordered => exact sorted_mergedTicks _ _ start stop
  case each =>
    intro tick
    rw [← symbols]
    exact mem_mergedTicks sound
  case once =>
    have all := nodup_allTicks sound (replaySymbols_nodup feedList)
    show (mergedTicks _ _ start stop).Nodup
    rw [mergedTicks_eq_window]
    exact all.filter _

end StingerFx
