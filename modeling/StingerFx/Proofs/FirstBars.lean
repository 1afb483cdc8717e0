/-
Module: StingerFx.Proofs.FirstBars
Layer: Proofs
Purpose: When the bars after a warm-up are right. They are when at its end the
  aggregator was last given all that the broker has of a bucket so far, in order
  and once, and when the live stream goes on where that ended.
Trusted boundary: none (fully proved)
Main exports: WarmUp.InOrder, WarmUp.Exact, WarmUp.first_bars_exact,
  WarmUp.resumed_minute_exact, WarmUp.tick_counted_twice
-/
import StingerFx.Proofs.BarGroups
import StingerFx.Runtime.WarmUp

namespace StingerFx

open Lib

namespace BarAggregator

/-- A tick of a later bucket starts the bar of its bucket, whatever came before. -/
theorem feed_resets {agg : BarAggregator} (cold : agg.current = none)
    (earlier : List Tick) (tick : Tick) (rest : List Tick)
    (own : agg.Own tick)
    (below : ∀ t ∈ earlier, agg.bucket t < agg.bucket tick) :
    (agg.feed (earlier ++ tick :: rest)).1 = (agg.feed (tick :: rest)).1 := by
  have before : agg.Before (agg.bucket tick) := by
    intro bar current
    rw [cold] at current
    cases current
  have kept := (feed_before before earlier fun t member _ => below t member).1
  have key := agg.feed_key earlier
  rw [feed_append, feed_cons, feed_cons]
  have fresh : agg.onTick tick = (agg.opening tick, none) := by
    rcases agg.onTick_cases tick with ⟨other, -⟩ | ⟨-, -, done⟩ |
      ⟨bar, -, current, -⟩ | ⟨bar, -, current, -⟩
    · exact absurd own other
    · exact done
    · rw [cold] at current
      cases current
    · rw [cold] at current
      cases current
  generalize (agg.feed earlier).1 = mid at kept key
  rcases key with ⟨symbol, tf, emits⟩
  have opens : mid.opening tick = agg.opening tick := by
    obtain ⟨midSymbol, midTf, midEmits, midCurrent, midNe⟩ := mid
    dsimp only at symbol tf emits
    subst symbol tf emits
    rfl
  have bucket : mid.bucket tick = agg.bucket tick :=
    congrArg (barOpenTime tick.time) tf
  have same : (mid.onTick tick).1 = agg.opening tick := by
    rcases mid.onTick_cases tick with ⟨other, -⟩ | ⟨-, -, done⟩ |
      ⟨bar, -, -, -, done⟩ | ⟨bar, -, current, stays, -⟩
    · exact absurd (own.trans symbol.symm) other
    · rw [done]
      exact opens
    · rw [done]
      exact opens
    · rw [bucket] at stays
      exact absurd (kept bar current) stays
  rw [same, fresh]

end BarAggregator

namespace WarmUp

variable {symbol : Symbol} {tf : Timeframe} {tf_ne : tf ≠ .tick}
variable {s s' : WarmUp} {label : WarmUpLabel}

/-- The bars hold exactly the broker's ticks of their bucket. -/
def Exact (symbol : Symbol) (tf : Timeframe) (s : WarmUp) : Prop :=
  ∀ bar ∈ s.emitted, GroupBar symbol tf bar
    (bar.time,
      groupOf (fun tick => barOpenTime tick.time tf) s.history bar.time)

/-- No tick before this one is of its bucket. -/
def BeginsBucket (s : WarmUp) (index : Nat) : Prop :=
  ∀ earlier ∈ s.history.take index, ∀ tick ∈ s.history[index]?,
    s.agg.bucket earlier < s.agg.bucket tick

/-- What comes last of some ticks is a stretch of the history without a gap, which
begins a bucket; what comes before is older. -/
def Whole (s : WarmUp) (given : List Nat) : Prop :=
  ∀ last ∈ given.getLast?, ∃ start ∈ List.range (last + 1),
    s.BeginsBucket start ∧
      given = given.filter (fun index => decide (index < start)) ++
        List.range' start (last + 1 - start)

/-- The tick is the next one, or the first and begins a bucket. -/
def Continues (s : WarmUp) (index : Nat) : Prop :=
  match s.given.getLast? with
  | none => s.BeginsBucket index
  | some last => index = last + 1

/-- The warm-up ends with a whole bucket, and live ticks go on from there. -/
def InOrder (s : WarmUp) : WarmUpLabel → Prop
  | .fetchFails => s.Whole s.given
  | .replay =>
      match s.phase with
      | .fetched rows => s.Whole (s.given ++ rows)
      | .starting | .started => True
  | .handle =>
      s.phase = .started → ∀ index ∈ s.queue.items.head?, s.Continues index
  | .arrive _ | .publish _ | .fetch _ _ => True

/-! ### Stretches of the history -/

/-- The ticks at places that follow one another. -/
theorem ticksAt_range' (s : WarmUp) (start count : Nat)
    (within : start + count ≤ s.history.length) :
    s.ticksAt (List.range' start count) =
      (s.history.drop start).take count := by
  induction count generalizing start with
  | zero => simp [ticksAt]
  | succ count ih =>
      have here : start < s.history.length := by omega
      have found : s.history[start]? = some s.history[start] :=
        List.getElem?_eq_getElem here
      rw [List.range'_succ, ticksAt, List.filterMap_cons, found]
      have rest := ih (start + 1) (by omega)
      unfold ticksAt at rest
      rw [rest, List.drop_eq_getElem_cons here, List.take_succ_cons]

theorem ticksAt_append (s : WarmUp) (one two : List Nat) :
    s.ticksAt (one ++ two) = s.ticksAt one ++ s.ticksAt two :=
  List.filterMap_append

theorem mem_ticksAt {indices : List Nat} {tick : Tick}
    (member : tick ∈ s.ticksAt indices) :
    ∃ index ∈ indices, s.history[index]? = some tick :=
  List.mem_filterMap.mp member

theorem take_drop_concat (history : List Tick) (start count : Nat) (tick : Tick)
    (found : history[start + count]? = some tick) :
    (history.drop start).take (count + 1) =
      (history.drop start).take count ++ [tick] := by
  have there : (history.drop start)[count]? = some tick := by
    rw [List.getElem?_drop]
    exact found
  rw [List.take_add_one, there]
  rfl

/-! ### The invariant -/

/-- What the aggregator was given last is a stretch of the history that begins a
bucket, and the aggregator and its bars are what a single aggregator makes of it. -/
structure Stretch (symbol : Symbol) (tf : Timeframe) (tf_ne : tf ≠ .tick)
    (s : WarmUp) (start count : Nat) : Prop where
  last : ∀ last, s.given.getLast? = some last ↔
    count ≠ 0 ∧ last + 1 = start + count
  within : start + count ≤ s.history.length
  begins : count ≠ 0 → s.BeginsBucket start
  agg : s.agg =
    ((BarAggregator.create symbol tf tf_ne).feed
      ((s.history.drop start).take count)).1
  emitted : ∀ bar ∈ s.emitted,
    bar ∈ ((BarAggregator.create symbol tf tf_ne).feed
      ((s.history.drop start).take count)).2

structure Steady (symbol : Symbol) (tf : Timeframe) (tf_ne : tf ≠ .tick)
    (s : WarmUp) : Prop where
  sorted : (s.history.map Tick.time).Pairwise (· ≤ ·)
  own : ∀ tick ∈ s.history, tick.symbol = symbol
  key : s.agg.symbol = symbol ∧ s.agg.tf = tf ∧ s.agg.emitBars = true
  known : ∀ index ∈ s.given, index < s.history.length
  fetched : ∀ rows, s.phase = .fetched rows →
    ∀ index ∈ rows, index < s.history.length
  /-- before the end of the warm-up -/
  waiting : s.phase ≠ .started →
    s.emitted = [] ∧
      s.agg = ((BarAggregator.create symbol tf tf_ne).feed
        (s.ticksAt s.given)).1
  stretch : s.phase = .started →
    ∃ start count, Stretch symbol tf tf_ne s start count

theorem steady_boot (symbol : Symbol) (tf : Timeframe) (tf_ne : tf ≠ .tick) :
    Steady symbol tf tf_ne (boot symbol tf tf_ne) where
  sorted := .nil
  own := List.forall_mem_nil _
  key := ⟨rfl, rfl, rfl⟩
  known := List.forall_mem_nil _
  fetched := fun _ none => by cases none
  waiting := fun _ => ⟨rfl, rfl⟩
  stretch := fun none => by cases none

theorem Steady.bucket_mono (steady : Steady symbol tf tf_ne s) :
    (s.history.map s.agg.bucket).Pairwise (· ≤ ·) := by
  have sorted := steady.sorted
  rw [List.pairwise_map] at sorted ⊢
  exact sorted.imp fun order => barOpenTime_mono order s.agg.tf

/-- The ticks at known places stay what they are. -/
theorem ticksAt_arrive (s : WarmUp) (tick : Tick) (indices : List Nat)
    (known : ∀ index ∈ indices, index < s.history.length) :
    ({ s with history := s.history ++ [tick] } : WarmUp).ticksAt indices =
      s.ticksAt indices := by
  unfold ticksAt
  apply List.filterMap_congr
  intro index member
  exact List.getElem?_append_left (known index member)

theorem BeginsBucket.arrive {start : Nat} {tick : Tick}
    (begins : s.BeginsBucket start) (inside : start < s.history.length) :
    ({ s with history := s.history ++ [tick] } : WarmUp).BeginsBucket start := by
  intro earlier before first found
  dsimp only at before found
  rw [List.take_append_of_le_length inside.le] at before
  rw [List.getElem?_append_left inside] at found
  exact begins earlier before first found

/-- A tick at the end of the history changes no stretch of it. -/
theorem Stretch.arrive {start count : Nat} {tick : Tick}
    (stretch : Stretch symbol tf tf_ne s start count) :
    Stretch symbol tf tf_ne { s with history := s.history ++ [tick] }
      start count := by
  have within := stretch.within
  have same : ((s.history ++ [tick]).drop start).take count =
      (s.history.drop start).take count := by
    rw [List.drop_append_of_le_length (by omega),
      List.take_append_of_le_length (by rw [List.length_drop]; omega)]
  exact
    { last := stretch.last
      within := by
        rw [List.length_append]
        omega
      begins := fun some_ => (stretch.begins some_).arrive (by omega)
      agg := by
        dsimp only
        rw [same]
        exact stretch.agg
      emitted := by
        dsimp only
        rw [same]
        exact stretch.emitted }

theorem Steady.arrive {tick : Tick} (steady : Steady symbol tf tf_ne s)
    (own : tick.symbol = symbol)
    (order : ∀ last ∈ s.history.getLast?, last.time ≤ tick.time) :
    Steady symbol tf tf_ne { s with history := s.history ++ [tick] } where
  sorted := by
    rw [List.map_append, List.pairwise_append]
    refine ⟨steady.sorted, List.pairwise_singleton _ _, ?_⟩
    intro time old new added
    rw [List.map_singleton, List.mem_singleton] at added
    subst added
    rcases List.mem_map.mp old with ⟨earlier, member, rfl⟩
    cases last : s.history.getLast? with
    | none =>
        rw [List.getLast?_eq_none_iff.mp last] at member
        cases member
    | some final =>
        have bound := order final last
        obtain ⟨front, whole⟩ := List.getLast?_eq_some_iff.mp last
        have sorted := steady.sorted
        rw [whole, List.map_append, List.pairwise_append] at sorted
        rw [whole] at member
        rcases List.mem_append.mp member with before | final_
        · have below := sorted.2.2 _ (List.mem_map_of_mem before) final.time
            (by simp)
          exact below.trans bound
        · rw [List.mem_singleton.mp final_]
          exact bound
  own := by
    intro other member
    rcases List.mem_append.mp member with old | new
    · exact steady.own other old
    · rw [List.mem_singleton.mp new]
      exact own
  key := steady.key
  known := by
    intro index member
    have bound := steady.known index member
    rw [List.length_append]
    omega
  fetched := by
    intro rows phase index member
    have bound := steady.fetched rows phase index member
    rw [List.length_append]
    omega
  waiting := by
    intro phase
    dsimp only
    rw [ticksAt_arrive s tick s.given steady.known]
    exact steady.waiting phase
  stretch := by
    intro phase
    rcases steady.stretch phase with ⟨start, count, stretch⟩
    exact ⟨start, count, stretch.arrive⟩

/-- A warm-up that ends with a whole bucket. -/
theorem Steady.settle {agg : BarAggregator} {given : List Nat}
    (steady : Steady symbol tf tf_ne s)
    (known : ∀ index ∈ given, index < s.history.length)
    (fed : agg = ((BarAggregator.create symbol tf tf_ne).feed
      (s.ticksAt given)).1)
    (whole : s.Whole given) (quiet : s.emitted = []) :
    Steady symbol tf tf_ne
      { s with phase := .started, agg := agg, given := given } where
  sorted := steady.sorted
  own := steady.own
  key := by
    dsimp only
    rw [fed]
    exact BarAggregator.feed_key _ _
  known := known
  fetched := fun _ none => by cases none
  waiting := fun other => absurd rfl other
  stretch := by
    intro _
    have sameTf : s.agg.tf = agg.tf := by
      rw [fed, (BarAggregator.feed_key _ _).2.1]
      exact steady.key.2.1
    cases final : given.getLast? with
    | none =>
        have empty := List.getLast?_eq_none_iff.mp final
        subst empty
        refine ⟨0, 0, ?_, Nat.zero_le _, fun some_ => absurd rfl some_, fed, ?_⟩
        · intro last
          dsimp only
          rw [final]
          constructor
          · intro none
            cases none
          · rintro ⟨some_, -⟩
            exact absurd rfl some_
        · dsimp only
          rw [quiet]
          exact List.forall_mem_nil _
    | some last =>
        rcases whole last final with ⟨start, early, begins, split⟩
        have order : start ≤ last := by
          have bound := List.mem_range.mp early
          omega
        have inside : last < s.history.length :=
          known last (List.mem_of_getLast? final)
        have length : start + (last + 1 - start) ≤ s.history.length := by omega
        have first : s.history[start]? = some s.history[start] :=
          List.getElem?_eq_getElem (by omega)
        refine ⟨start, last + 1 - start, ?_, length, ?_, ?_, ?_⟩
        · intro other
          dsimp only
          rw [final, Option.some_inj]
          omega
        · intro _ earlier before tick found
          have below := begins earlier before tick found
          unfold BarAggregator.bucket at below ⊢
          rw [sameTf] at below
          exact below
        · dsimp only
          rw [fed, split, ticksAt_append, ticksAt_range' s _ _ length,
            List.drop_eq_getElem_cons (by omega : start < s.history.length)]
          have more : last + 1 - start = last - start + 1 := by omega
          rw [more, List.take_succ_cons]
          apply BarAggregator.feed_resets rfl
          · exact steady.own _ (List.getElem_mem _)
          · intro tick member
            rcases mem_ticksAt member with ⟨index, kept, found⟩
            have older := of_decide_eq_true (List.mem_filter.mp kept).2
            have before : tick ∈ s.history.take start := by
              apply List.mem_of_getElem? (i := index)
              rw [List.getElem?_take_of_lt older]
              exact found
            have below := begins tick before _ first
            unfold BarAggregator.bucket at below
            rw [steady.key.2.1] at below
            exact below
        · dsimp only
          rw [quiet]
          exact List.forall_mem_nil _

/-- The window of a query holds places of the history. -/
theorem window_known (s : WarmUp) (fromTime now : Time) :
    ∀ index ∈ s.window fromTime now, index < s.history.length := by
  intro index member
  exact List.mem_range.mp (List.mem_filter.mp member).1

theorem Steady.replay {rows : List Nat} (steady : Steady symbol tf tf_ne s)
    (phase : s.phase = .fetched rows) (fits : InOrder s .replay) :
    Steady symbol tf tf_ne
      { s with
        phase := .started
        agg := s.warmed rows
        given := s.given ++ rows } := by
  have open_ : s.phase ≠ .started := by
    rw [phase]
    intro other
    cases other
  rcases steady.waiting open_ with ⟨quiet, fed⟩
  simp only [InOrder, phase] at fits
  apply steady.settle ?_ ?_ fits quiet
  · intro index member
    rcases List.mem_append.mp member with old | new
    · exact steady.known index old
    · exact steady.fetched rows phase index new
  · have warm : s.warmed rows = (s.agg.feed (s.ticksAt rows)).1 := by
      rw [warmed, BarAggregator.feed_silent]
      have on : (s.agg.feed (s.ticksAt rows)).1.emitBars = true :=
        (BarAggregator.feed_key _ _).2.2.trans steady.key.2.2
      rw [← on]
      rfl
    rw [warm, ticksAt_append, BarAggregator.feed_append, ← fed]

/-- A live tick before the end of the warm-up. -/
theorem Steady.handle_early {index : Nat} {rest : Mailbox Nat} {tick : Tick}
    (steady : Steady symbol tf tf_ne s) (open_ : s.phase ≠ .started)
    (found : s.history[index]? = some tick) :
    Steady symbol tf tf_ne
      { s with
        queue := rest
        agg := (s.agg.onTick tick).1
        given := s.given ++ [index] } where
  sorted := steady.sorted
  own := steady.own
  key := by
    rcases s.agg.onTick_key tick with ⟨symbol', tf', emits'⟩
    rcases steady.key with ⟨symbol_, tf_, emits_⟩
    exact ⟨symbol'.trans symbol_, tf'.trans tf_, emits'.trans emits_⟩
  known := by
    intro other member
    rcases List.mem_append.mp member with old | new
    · exact steady.known other old
    · rw [List.mem_singleton.mp new]
      exact (List.getElem?_eq_some_iff.mp found).1
  fetched := steady.fetched
  waiting := by
    intro _
    rcases steady.waiting open_ with ⟨quiet, fed⟩
    refine ⟨quiet, ?_⟩
    have last : s.ticksAt [index] = [tick] := by
      rw [ticksAt, List.filterMap_cons, found]
      rfl
    have same : s.ticksAt (s.given ++ [index]) = s.ticksAt s.given ++ [tick] := by
      rw [ticksAt_append, last]
    calc (s.agg.onTick tick).1
        = ((BarAggregator.create symbol tf tf_ne).feed
            (s.ticksAt s.given ++ [tick])).1 := by
          rw [BarAggregator.feed_concat, ← fed]
      _ = ((BarAggregator.create symbol tf tf_ne).feed
            (s.ticksAt (s.given ++ [index]))).1 := by
          rw [same]
  stretch := fun started => absurd started open_

/-- A live tick that is the next one. -/
theorem Stretch.handle {start count index : Nat} {tick : Tick}
    (rest : Mailbox Nat) (stretch : Stretch symbol tf tf_ne s start count)
    (found : s.history[index]? = some tick) (next : s.Continues index) :
    ∃ start', Stretch symbol tf tf_ne
      { s with
        queue := rest
        agg := (s.agg.onTick tick).1
        given := s.given ++ [index]
        emitted := s.emitted ++ (s.agg.onTick tick).2.toList }
      start' (count + 1) := by
  have inside := (List.getElem?_eq_some_iff.mp found).1
  have keptTf : (s.agg.onTick tick).1.tf = s.agg.tf := (s.agg.onTick_key tick).2.1
  -- where the stretch begins once the tick is given
  have placed : ∃ start', index = start' + count ∧
      (count ≠ 0 → start' = start) ∧ s.BeginsBucket start' := by
    unfold Continues at next
    rcases Nat.eq_zero_or_pos count with rfl | some_
    · have untouched : s.given.getLast? = none := by
        cases final : s.given.getLast? with
        | none => rfl
        | some last => exact absurd rfl ((stretch.last last).mp final).1
      rw [untouched] at next
      exact ⟨index, rfl, fun some_ => absurd rfl some_, next⟩
    · have final := (stretch.last (start + count - 1)).mpr
        ⟨by omega, by omega⟩
      rw [final] at next
      dsimp only at next
      exact ⟨start, by omega, fun _ => rfl, stretch.begins (by omega)⟩
  rcases placed with ⟨start', place, same, begins⟩
  have slice : (s.history.drop start').take count =
      (s.history.drop start).take count := by
    cases count with
    | zero => rfl
    | succ count => rw [same (Nat.succ_ne_zero _)]
  have grown : (s.history.drop start').take (count + 1) =
      (s.history.drop start).take count ++ [tick] := by
    rw [take_drop_concat s.history start' count tick (place ▸ found), slice]
  refine ⟨start', ?_, by dsimp only; omega, ?_, ?_, ?_⟩
  · intro last
    dsimp only
    rw [List.getLast?_concat, Option.some_inj]
    omega
  · intro _ earlier before first here
    dsimp only [BarAggregator.bucket]
    rw [keptTf]
    exact begins earlier before first here
  · dsimp only
    rw [grown, BarAggregator.feed_concat, ← stretch.agg]
  · dsimp only
    intro bar member
    rw [grown, BarAggregator.feed_concat, ← stretch.agg]
    rcases List.mem_append.mp member with old | new
    · exact List.mem_append_left _ (stretch.emitted bar old)
    · exact List.mem_append_right _ new

theorem Steady.handle {index : Nat} {rest : Mailbox Nat} {tick : Tick}
    (steady : Steady symbol tf tf_ne s)
    (popped : s.queue.pop? = some (index, rest))
    (found : s.history[index]? = some tick) (fits : InOrder s .handle) :
    Steady symbol tf tf_ne
      { s with
        queue := rest
        agg := (s.agg.onTick tick).1
        given := s.given ++ [index]
        emitted :=
          if s.phase = .started then
            s.emitted ++ (s.agg.onTick tick).2.toList
          else s.emitted } := by
  by_cases started : s.phase = .started
  · rw [if_pos started]
    have head : index ∈ s.queue.items.head? := by
      rw [Mailbox.items_of_pop? popped]
      rfl
    rcases steady.stretch started with ⟨start, count, stretch⟩
    have next : s.Continues index := fits started index head
    rcases stretch.handle rest found next with ⟨start', grown⟩
    rcases s.agg.onTick_key tick with ⟨symbol', tf', emits'⟩
    rcases steady.key with ⟨symbol_, tf_, emits_⟩
    exact
      { sorted := steady.sorted
        own := steady.own
        key := ⟨symbol'.trans symbol_, tf'.trans tf_, emits'.trans emits_⟩
        known := by
          intro other member
          rcases List.mem_append.mp member with old | new
          · exact steady.known other old
          · rw [List.mem_singleton.mp new]
            exact (List.getElem?_eq_some_iff.mp found).1
        fetched := steady.fetched
        waiting := fun other => absurd started other
        stretch := fun _ => ⟨start', count + 1, grown⟩ }
  · rw [if_neg started]
    exact steady.handle_early started found

theorem Steady.step (steady : Steady symbol tf tf_ne s)
    (fits : InOrder s label) (taken : Step s label s') :
    Steady symbol tf tf_ne s' := by
  simp only [Step, stepOf?] at taken
  cases label with
  | arrive tick =>
      simp only [step?] at taken
      split at taken
      · rename_i newest
        cases taken
        exact steady.arrive (newest.1.trans steady.key.1) newest.2
      · cases taken
  | publish index =>
      simp only [step?] at taken
      split at taken
      · cases taken
        exact
          { steady with
            stretch := fun started => by
              rcases steady.stretch started with ⟨start, count, stretch⟩
              exact ⟨start, count, { stretch with }⟩ }
      · cases taken
  | fetch fromTime now =>
      simp only [step?] at taken
      split at taken
      · rename_i phase
        cases taken
        have open_ : s.phase ≠ .started := by
          rw [phase]
          intro other
          cases other
        exact
          { steady with
            fetched := fun rows same => by
              cases same
              exact s.window_known fromTime now
            waiting := fun _ => steady.waiting open_
            stretch := fun other => by cases other }
      · cases taken
      · cases taken
  | fetchFails =>
      simp only [step?] at taken
      split at taken
      · rename_i phase
        cases taken
        have open_ : s.phase ≠ .started := by
          rw [phase]
          intro other
          cases other
        rcases steady.waiting open_ with ⟨quiet, fed⟩
        exact steady.settle steady.known fed fits quiet
      · cases taken
      · cases taken
  | replay =>
      simp only [step?] at taken
      split at taken
      · rename_i rows phase
        cases taken
        exact steady.replay phase fits
      · cases taken
      · cases taken
  | handle =>
      simp only [step?] at taken
      cases popped : s.queue.pop? with
      | none => simp [popped] at taken
      | some pair =>
          obtain ⟨index, rest⟩ := pair
          simp only [popped] at taken
          cases found : s.history[index]? with
          | none => simp [found] at taken
          | some tick =>
              simp only [found] at taken
              cases taken
              exact steady.handle popped found fits

/-! ### Every run -/

/-- A published bar is that of a closed group: a tick of a later bucket has come. -/
theorem closed_group {ticks : List Tick} (own : ∀ tick ∈ ticks, tick.symbol = symbol)
    (sorted : (ticks.map fun tick => barOpenTime tick.time tf).Pairwise (· ≤ ·))
    {bar : Bar} (there : bar ∈ ((BarAggregator.create symbol tf tf_ne).feed ticks).2) :
    ∃ group ∈ groups (fun tick : Tick => barOpenTime tick.time tf) ticks,
      GroupBar symbol tf bar group ∧
        ∃ tick ∈ ticks, group.1 < barOpenTime tick.time tf := by
  have follows : (BarAggregator.create symbol tf tf_ne).Follows ticks :=
    BarAggregator.follows_of_sorted rfl rfl ticks own sorted
  cases follows with
  | idle none same =>
      rw [same] at there
      cases there
  | making closed openTime first rest split current bars =>
      have split' : groups (fun tick : Tick => barOpenTime tick.time tf) ticks =
          closed ++ [(openTime, first :: rest)] := split
      rcases List.forall₂_iff_get.mp bars with ⟨sameLength, matched⟩
      rcases List.mem_iff_get.mp there with ⟨place, rfl⟩
      have inClosed : place.1 < closed.length := sameLength ▸ place.2
      have grouped := matched place.1 place.2 inClosed
      have entry : closed.get ⟨place.1, inClosed⟩ ∈ closed := List.get_mem _ _
      refine ⟨_, ?_, grouped, ?_⟩
      · rw [split']
        exact List.mem_append_left _ entry
      · have last : (openTime, first :: rest) ∈
            groups (fun tick : Tick => barOpenTime tick.time tf) ticks := by
          rw [split']
          simp
        rcases (mem_groups.mp last).1 with ⟨tick, inside, bucket⟩
        refine ⟨tick, inside, ?_⟩
        have increasing := groups_increasing sorted
        rw [split', List.map_append, List.pairwise_append] at increasing
        rw [bucket]
        exact increasing.2.2 _ (List.mem_map_of_mem entry) _ (by simp)

/-- A slice of a list that is not empty begins where it should. -/
theorem getElem?_of_slice {α : Type} {items others : List α} {start count : Nat}
    {head : α} (slice : (items.drop start).take count = head :: others) :
    count ≠ 0 ∧ items[start]? = some head := by
  have first := congrArg (fun list => list[0]?) slice
  simp only [List.getElem?_take, List.getElem?_drop, List.getElem?_cons_zero] at first
  split at first
  · rename_i some_
    exact ⟨by omega, first⟩
  · cases first

/-- The ticks before a stretch are of earlier buckets than those of the stretch. -/
theorem Stretch.older {start count : Nat}
    (stretch : Stretch symbol tf tf_ne s start count)
    (mono : (s.history.map s.agg.bucket).Pairwise (· ≤ ·)) :
    ∀ earlier ∈ s.history.take start, ∀ tick ∈ (s.history.drop start).take count,
      s.agg.bucket earlier < s.agg.bucket tick := by
  intro earlier old tick inside
  cases slice : (s.history.drop start).take count with
  | nil =>
      rw [slice] at inside
      cases inside
  | cons head others =>
      rcases getElem?_of_slice slice with ⟨some_, found⟩
      have begins := stretch.begins some_ earlier old head found
      rw [slice] at inside
      rcases List.mem_cons.mp inside with rfl | later
      · exact begins
      · have part : (head :: others).Sublist s.history :=
          slice ▸ (List.take_sublist _ _).trans (List.drop_sublist _ _)
        have sorted := mono.sublist (part.map s.agg.bucket)
        rw [List.map_cons, List.pairwise_cons] at sorted
        exact begins.trans_le (sorted.1 _ (List.mem_map_of_mem later))

/-- The closed groups of a stretch that begins a bucket are groups of the whole
history. -/
theorem Steady.exact (steady : Steady symbol tf tf_ne s) : Exact symbol tf s := by
  rcases steady.key with ⟨-, sameTf, -⟩
  intro bar member
  have started : s.phase = .started := by
    by_contra open_
    rw [(steady.waiting open_).1] at member
    cases member
  rcases steady.stretch started with ⟨start, count, stretch⟩
  have mono := steady.bucket_mono
  have older := stretch.older mono
  unfold BarAggregator.bucket at mono older
  rw [sameTf] at mono older
  have there := stretch.emitted bar member
  have whole : s.history = s.history.take start ++
      ((s.history.drop start).take count ++ s.history.drop (start + count)) := by
    rw [← List.drop_drop, List.take_append_drop, List.take_append_drop]
  generalize (s.history.drop start).take count = ticks at *
  rw [whole, List.map_append, List.map_append, List.pairwise_append,
    List.pairwise_append] at mono
  rcases mono with ⟨-, ⟨sorted, -, after⟩, -⟩
  have own : ∀ tick ∈ ticks, tick.symbol = symbol := by
    intro tick here
    apply steady.own
    rw [whole]
    exact List.mem_append_right _ (List.mem_append_left _ here)
  rcases closed_group own sorted there with ⟨group, known, grouped, tick, inside, before⟩
  have none_before : groupOf (fun tick : Tick => barOpenTime tick.time tf)
      (s.history.take start) group.1 = [] := by
    apply groupOf_eq_nil
    intro earlier old hit
    rcases (mem_groups.mp known).1 with ⟨own, here, bucket⟩
    have lower := older earlier old own here
    rw [hit, bucket] at lower
    exact lt_irrefl _ lower
  have none_after : groupOf (fun tick : Tick => barOpenTime tick.time tf)
      (s.history.drop (start + count)) group.1 = [] := by
    apply groupOf_eq_nil
    intro later new hit
    have bound := after _ (List.mem_map_of_mem inside) _ (List.mem_map_of_mem new)
    rw [hit] at bound
    exact absurd (lt_of_lt_of_le before bound) (lt_irrefl _)
  have all : groupOf (fun tick => barOpenTime tick.time tf) s.history
      bar.time = group.2 := by
    rw [grouped.time, whole, groupOf_append, groupOf_append, none_before, none_after,
      List.nil_append, List.append_nil]
    exact (mem_groups.mp known).2.symm
  rw [all, grouped.time]
  exact grouped

/-- Whatever arrives, is published, fetched and handled, and whenever: if the
warm-up ends with a whole bucket and the live ticks go on from there, the bars are
those of the history. -/
theorem first_bars_exact (symbol : Symbol) (tf : Timeframe) (tf_ne : tf ≠ .tick)
    {labels : List WarmUpLabel}
    (run : Run (Guarded InOrder Step) (boot symbol tf tf_ne) labels s) :
    Exact symbol tf s := by
  have steady : Steady symbol tf tf_ne s :=
    run.invariant (steady_boot symbol tf tf_ne) fun taken steady =>
      steady.step taken.1 taken.2
  exact steady.exact

/-! ### A minute that is resumed, and a tick that is counted twice -/

instance (s : WarmUp) (index : Nat) : Decidable (s.BeginsBucket index) := by
  unfold BeginsBucket
  infer_instance

instance (s : WarmUp) (given : List Nat) : Decidable (s.Whole given) := by
  unfold Whole
  infer_instance

instance (s : WarmUp) (index : Nat) : Decidable (s.Continues index) := by
  unfold Continues
  split <;> infer_instance

instance (s : WarmUp) (label : WarmUpLabel) : Decidable (InOrder s label) := by
  cases label <;> unfold InOrder <;> dsimp only <;>
    first
    | infer_instance
    | split <;> infer_instance

/-- Two ticks of a minute that are fetched, and a live one of the next. -/
def resumedMinute : List WarmUpLabel :=
  [.arrive (BarAggregator.quoteAt "EURUSD" 10 100 (by positivity)),
    .arrive (BarAggregator.quoteAt "EURUSD" 20 103 (by norm_num)),
    .fetch 0 30000000, .replay,
    .arrive (BarAggregator.quoteAt "EURUSD" 65 101 (by norm_num)), .publish 2,
    .handle]

theorem resumed_minute_exact :
    ∃ s : WarmUp, s.emitted.map (fun bar => (bar.time, bar.tickVolume)) =
        [(0, 2)] ∧ Exact "EURUSD" .m1 s := by
  have reached :
      (replay? InOrder step? (boot "EURUSD" .m1 (by decide))
        resumedMinute).map (fun s =>
          s.emitted.map fun bar => (bar.time, bar.tickVolume)) =
            some [(0, 2)] := by
    decide +kernel
  rcases Option.map_eq_some_iff.mp reached with ⟨s, replayed, bars⟩
  exact ⟨s, bars,
    first_bars_exact "EURUSD" .m1 (by decide) (run_of_replay? replayed)⟩

/-- The second tick is also live: it waits in the queue during the replay. -/
def doubledTick : List WarmUpLabel :=
  [.arrive (BarAggregator.quoteAt "EURUSD" 10 100 (by positivity)),
    .arrive (BarAggregator.quoteAt "EURUSD" 20 103 (by norm_num)), .publish 1,
    .fetch 0 30000000, .replay, .handle,
    .arrive (BarAggregator.quoteAt "EURUSD" 65 101 (by norm_num)), .publish 2,
    .handle]

/-- The bar then has three ticks, where the broker has two. -/
theorem tick_counted_twice :
    ¬ ∀ (symbol : Symbol) (tf : Timeframe) (tf_ne : tf ≠ .tick)
        (labels : List WarmUpLabel) (s : WarmUp),
        Run Step (boot symbol tf tf_ne) labels s → Exact symbol tf s := by
  intro claim
  have reached :
      (replay? (fun _ _ => True) step? (boot "EURUSD" .m1 (by decide))
        doubledTick).any (fun s => decide
          (∃ bar ∈ s.emitted, bar.tickVolume = 3 ∧
            (groupOf (fun tick => barOpenTime tick.time .m1) s.history
              bar.time).length = 2)) = true := by
    decide +kernel
  rcases (Option.any_eq_true _ _).mp reached with ⟨s, replayed, wrong⟩
  rcases of_decide_eq_true wrong with ⟨bar, member, three, two⟩
  have exact := claim "EURUSD" .m1 (by decide) doubledTick s
    (run_of_replay? replayed).unguard bar member
  have volume := exact.tickVolume
  dsimp only at volume
  rw [three, two] at volume
  cases volume

end WarmUp

end StingerFx
