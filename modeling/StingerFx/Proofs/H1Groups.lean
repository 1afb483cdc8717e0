/-
Module: StingerFx.Proofs.H1Groups
Layer: Proofs
Purpose: The H4 and D1 bars are groups of the accepted H1 bars by the key of their
  bucket: all groups but the last, without those that have no open hour or miss
  one. Bars that are not newer than an accepted one change nothing, and nothing
  that was emitted is taken back.
Trusted boundary: none (fully proved)
Main exports: FoldedBar, FoldsTo, acceptedBars, Complete,
  MultiTimeframeAggregator.folds_accepted_h1,
  MultiTimeframeAggregator.closed_hours_dropped
-/
import StingerFx.Lib.Groups
import StingerFx.Strategies.BucketKeys

namespace StingerFx

open Lib

/-- A bar of a timeframe that holds exactly the bars of a group. -/
structure FoldedBar (symbol : Symbol) (tf : Timeframe) (bar : Bar)
    (group : Time × List Bar) : Prop where
  symbol : bar.symbol = symbol
  timeframe : bar.timeframe = tf
  time : bar.time = group.1
  openPrice : group.2.head?.map Bar.openPrice = some bar.openPrice
  high : IsGreatest {price | ∃ part ∈ group.2, part.high = price} bar.high
  low : IsLeast {price | ∃ part ∈ group.2, part.low = price} bar.low
  close : group.2.getLast?.map Bar.close = some bar.close
  tickVolume : bar.tickVolume = (group.2.map Bar.tickVolume).sum

/-- The bars of a feed that are newer than all before them. -/
def newerBars (last : Option Time) : List Bar → List Bar
  | [] => []
  | bar :: bars =>
      if ∀ time ∈ last, time < bar.time then
        bar :: newerBars (some bar.time) bars
      else newerBars last bars

/-- The H1 bars of a symbol, without duplicates and late bars. -/
def acceptedBars (symbol : Symbol) (bars : List Bar) : List Bar :=
  newerBars none (bars.filter fun bar =>
    decide (bar.symbol = symbol ∧ bar.timeframe = .h1))

/-- A group that has the bar of each of some hours. -/
def HasAll (expected : Time → Time → Prop) (group : Time × List Bar) : Prop :=
  ∀ slot, expected group.1 slot → ∃ bar ∈ group.2, bar.time = slot

/-- A group with an expected hour and with the bars of all of them. -/
def Complete (expected : Time → Time → Prop) (group : Time × List Bar) : Prop :=
  (∃ slot, expected group.1 slot) ∧ HasAll expected group

open Classical in
/-- Bars of a timeframe are the kept ones of all groups but the last. -/
structure FoldsTo (symbol : Symbol) (tf : Timeframe) (keyFn : Time → Time)
    (keeps : Time × List Bar → Prop) (parts emitted : List Bar) : Prop where
  groups : List.Forall₂ (FoldedBar symbol tf) emitted
    ((groups (fun bar => keyFn bar.time) parts).dropLast.filter
      fun group => decide (keeps group))
  increasing : (emitted.map Bar.time).Pairwise (· < ·)

/-! ### The bar of a bucket -/

theorem foldBars_folded (symbol : Symbol) (tf : Timeframe) (key : Time)
    (first : Bar) (rest : List Bar) :
    FoldedBar symbol tf (foldBars symbol tf key first rest)
      (key, first :: rest) where
  symbol := rfl
  timeframe := rfl
  time := rfl
  openPrice := rfl
  high := by
    constructor
    · rcases List.mem_cons.mp (foldl_max_mem first.high (rest.map Bar.high)) with
        base | later
      · exact ⟨first, List.mem_cons_self, base.symm⟩
      · rcases List.mem_map.mp later with ⟨part, member, same⟩
        exact ⟨part, List.mem_cons_of_mem _ member, same⟩
    · rintro price ⟨part, member, rfl⟩
      rcases List.mem_cons.mp member with rfl | later
      · exact (foldl_max_ge _ _).1
      · exact (foldl_max_ge _ _).2 _ (List.mem_map_of_mem later)
  low := by
    constructor
    · rcases List.mem_cons.mp (foldl_min_mem first.low (rest.map Bar.low)) with
        base | later
      · exact ⟨first, List.mem_cons_self, base.symm⟩
      · rcases List.mem_map.mp later with ⟨part, member, same⟩
        exact ⟨part, List.mem_cons_of_mem _ member, same⟩
    · rintro price ⟨part, member, rfl⟩
      rcases List.mem_cons.mp member with rfl | later
      · exact (foldl_min_le _ _).1
      · exact (foldl_min_le _ _).2 _ (List.mem_map_of_mem later)
  close := by
    cases last : rest.getLast? with
    | none =>
        have empty : rest = [] := List.getLast?_eq_none_iff.mp last
        subst empty
        rfl
    | some part =>
        have whole : (first :: rest).getLast? = some part := by
          rw [List.getLast?_cons, last]
          rfl
        simp only [foldBars, last, whole]
        rfl
  tickVolume := rfl

namespace Bucketer

variable {b : Bucketer} {expected : Time → Time → Prop}

/-- Keys in the order of time, and the hours that a bucket is expected to have. -/
structure Follows (b : Bucketer) (expected : Time → Time → Prop) : Prop where
  mono : ∀ {s t : Time}, s ≤ t → b.keyFn s ≤ b.keyFn t
  slots : ∀ t slot : Time,
    slot ∈ b.expectedFn (b.keyFn t) ↔ expected (b.keyFn t) slot

/-- Feed bars in order and collect what they complete. -/
def feedAll (b : Bucketer) : List Bar → Bucketer × List Bar
  | [] => (b, [])
  | bar :: bars =>
      let fed := b.feed bar
      let later := fed.1.feedAll bars
      (later.1, fed.2.toList ++ later.2)

theorem feedAll_concat (b : Bucketer) (bars : List Bar) (bar : Bar) :
    b.feedAll (bars ++ [bar]) =
      (((b.feedAll bars).1.feed bar).1,
        (b.feedAll bars).2 ++ ((b.feedAll bars).1.feed bar).2.toList) := by
  induction bars generalizing b with
  | nil => simp [feedAll]
  | cons first rest ih =>
      rw [List.cons_append, feedAll, ih]
      simp [feedAll]

/-- The bucketer with a given bucket. -/
def holding (b : Bucketer) (key : Time) (bars : List Bar) : Bucketer :=
  { b with current := some (key, bars) }

theorem feed_same {key : Time} {bars : List Bar} {bar : Bar}
    (here : b.keyFn bar.time = key) :
    (b.holding key bars).feed bar = (b.holding key (bars ++ [bar]), none) :=
  if_pos here

theorem feed_other {key : Time} {bars : List Bar} {bar : Bar}
    (later : b.keyFn bar.time ≠ key) :
    (b.holding key bars).feed bar =
      (b.holding (b.keyFn bar.time) [bar], b.finalize key bars) :=
  if_neg later

/-- A bucket is finalised to the bar of its group, exactly if it is complete. -/
theorem finalize_spec (follows : b.Follows expected) {key : Time} {first : Bar}
    {rest : List Bar} (own : b.keyFn first.time = key)
    (increasing : ((first :: rest).map Bar.time).Pairwise (· < ·)) :
    (Complete expected (key, first :: rest) ∧
        b.finalize key (first :: rest) =
          some (foldBars b.symbol b.tf key first rest)) ∨
      (¬ Complete expected (key, first :: rest) ∧
        b.finalize key (first :: rest) = none) := by
  have sorted : (first :: rest).Pairwise (fun one two => one.time ≤ two.time) := by
    rw [List.pairwise_map] at increasing
    exact increasing.imp fun order => order.le
  have ordered := List.Pairwise.insertionSort_eq sorted
  have slots : ∀ slot, slot ∈ b.expectedFn key ↔ expected key slot := by
    rw [← own]
    exact follows.slots first.time
  have known : Complete expected (key, first :: rest) ↔
      ((b.expectedFn key).isEmpty || !(b.expectedFn key).all fun slot =>
        decide (slot ∈ (first :: rest).map Bar.time)) = false := by
    unfold Complete HasAll
    rw [Bool.or_eq_false_iff, Bool.not_eq_false', List.all_eq_true,
      List.isEmpty_eq_false_iff_exists_mem]
    constructor
    · rintro ⟨⟨slot, occurs⟩, all⟩
      refine ⟨⟨slot, (slots slot).mpr occurs⟩, ?_⟩
      intro slot member
      rcases all slot ((slots slot).mp member) with ⟨bar, there, same⟩
      exact decide_eq_true (List.mem_map.mpr ⟨bar, there, same⟩)
    · rintro ⟨⟨slot, member⟩, all⟩
      refine ⟨⟨slot, (slots slot).mp member⟩, ?_⟩
      intro slot occurs
      have received := of_decide_eq_true (all slot ((slots slot).mpr occurs))
      exact List.mem_map.mp received
  by_cases complete : Complete expected (key, first :: rest)
  · refine .inl ⟨complete, ?_⟩
    have passes := known.mp complete
    simp only [finalize, passes, ordered]
    rfl
  · refine .inr ⟨complete, ?_⟩
    have fails := (Bool.not_eq_false _).mp fun passes =>
      complete (known.mpr passes)
    simp only [finalize, fails]
    rfl

open Classical in
/-- After some bars all groups but the last are emitted if they are complete, and
the last one is held. -/
inductive Grouped (b : Bucketer) (expected : Time → Time → Prop)
    (bars : List Bar) : Prop where
  | idle (none : bars = []) (same : b.feedAll bars = (b, []))
  | making (closed : List (Time × List Bar)) (key : Time) (first : Bar)
      (rest : List Bar)
      (split : groups (fun bar => b.keyFn bar.time) bars =
        closed ++ [(key, first :: rest)])
      (current : (b.feedAll bars).1 = b.holding key (first :: rest))
      (emitted : List.Forall₂ (FoldedBar b.symbol b.tf) (b.feedAll bars).2
        (closed.filter fun group => decide (Complete expected group)))

open Classical in
theorem Grouped.step {bars : List Bar} {bar : Bar}
    (grouped : b.Grouped expected bars) (follows : b.Follows expected)
    (cold : b.current = none)
    (increasing : ((bars ++ [bar]).map Bar.time).Pairwise (· < ·)) :
    b.Grouped expected (bars ++ [bar]) := by
  have sorted : ((bars ++ [bar]).map fun bar => b.keyFn bar.time).Pairwise
      (· ≤ ·) := by
    rw [List.pairwise_map] at increasing ⊢
    exact increasing.imp fun order => follows.mono order.le
  cases grouped with
  | idle none same =>
      subst none
      have begins : b.feed bar =
          (b.holding (b.keyFn bar.time) [bar], Option.none) := by
        simp only [feed, cold]
        rfl
      refine .making [] (b.keyFn bar.time) bar []
        (@groups_singleton _ _ _ (fun bar => b.keyFn bar.time) bar) ?_ ?_
      · rw [feedAll_concat, same, begins]
      · rw [feedAll_concat, same, begins]
        exact .nil
  | making closed key first rest split current emitted =>
      have held : (key, first :: rest) ∈
          groups (fun bar => b.keyFn bar.time) bars := by
        rw [split]
        simp
      have members := (mem_groups.mp held).2
      dsimp only at members
      have own : b.keyFn first.time = key := by
        have member : first ∈ groupOf (fun bar => b.keyFn bar.time) bars key := by
          rw [← members]
          exact List.mem_cons_self
        exact of_decide_eq_true (List.mem_filter.mp member).2
      have inside : ((first :: rest).map Bar.time).Pairwise (· < ·) := by
        rw [List.map_append, List.pairwise_append] at increasing
        rw [members]
        exact increasing.1.sublist (List.filter_sublist.map _)
      rcases groups_snoc sorted split with ⟨here, grown⟩ | ⟨later, begun⟩
      · have extends_ : (b.holding key (first :: rest)).feed bar = _ :=
          feed_same here
        refine .making closed key first (rest ++ [bar]) grown ?_ ?_
        · rw [feedAll_concat, current, extends_]
          rfl
        · rw [feedAll_concat, current, extends_]
          simpa using emitted
      · have closes : (b.holding key (first :: rest)).feed bar = _ :=
          feed_other (ne_of_gt later)
        refine .making (closed ++ [(key, first :: rest)])
          (b.keyFn bar.time) bar [] begun ?_ ?_
        · rw [feedAll_concat, current, closes]
        · rw [feedAll_concat, current, closes, List.filter_append]
          rcases finalize_spec follows own inside with
            ⟨complete, done⟩ | ⟨incomplete, done⟩
          · rw [done]
            apply List.rel_append emitted
            rw [List.filter_cons, if_pos (decide_eq_true complete)]
            exact .cons (foldBars_folded _ _ _ _ _) .nil
          · rw [done]
            apply List.rel_append emitted
            rw [List.filter_cons, if_neg (by simpa using incomplete)]
            exact .nil

theorem grouped_of_increasing (follows : b.Follows expected)
    (cold : b.current = none) (bars : List Bar)
    (increasing : (bars.map Bar.time).Pairwise (· < ·)) :
    b.Grouped expected bars := by
  induction bars using List.reverseRecOn with
  | nil => exact .idle rfl rfl
  | append_singleton bars bar ih =>
      have before : (bars.map Bar.time).Pairwise (· < ·) := by
        rw [List.map_append, List.pairwise_append] at increasing
        exact increasing.1
      exact (ih before).step follows cold increasing

open Classical in
theorem Grouped.foldsTo {bars : List Bar} (grouped : b.Grouped expected bars)
    (follows : b.Follows expected)
    (increasing : (bars.map Bar.time).Pairwise (· < ·)) :
    FoldsTo b.symbol b.tf b.keyFn (Complete expected) bars
      (b.feedAll bars).2 := by
  have matched : List.Forall₂ (FoldedBar b.symbol b.tf) (b.feedAll bars).2
      ((groups (fun bar => b.keyFn bar.time) bars).dropLast.filter
        fun group => decide (Complete expected group)) := by
    cases grouped with
    | idle none same =>
        subst none
        rw [same]
        exact .nil
    | making closed key first rest split current emitted =>
        rw [split, List.dropLast_concat]
        exact emitted
  refine ⟨matched, ?_⟩
  have sorted : (bars.map fun bar => b.keyFn bar.time).Pairwise (· ≤ ·) := by
    rw [List.pairwise_map] at increasing ⊢
    exact increasing.imp fun order => follows.mono order.le
  have times : ∀ {emitted : List Bar} {kept : List (Time × List Bar)},
      List.Forall₂ (FoldedBar b.symbol b.tf) emitted kept →
        emitted.map Bar.time = kept.map Prod.fst := by
    intro emitted kept both
    induction both with
    | nil => rfl
    | cons folded _ ih => rw [List.map_cons, List.map_cons, folded.time, ih]
  rw [times matched]
  exact List.Pairwise.sublist
    ((List.filter_sublist.trans (List.dropLast_sublist _)).map _)
    (groups_increasing sorted)

end Bucketer

/-! ### Accepted bars -/

theorem newerBars_increasing (last : Option Time) (bars : List Bar) :
    ((newerBars last bars).map Bar.time).Pairwise (· < ·) ∧
      ∀ time ∈ last, ∀ bar ∈ newerBars last bars, time < bar.time := by
  induction bars generalizing last with
  | nil => exact ⟨.nil, fun _ _ _ member => by cases member⟩
  | cons first rest ih =>
      unfold newerBars
      split
      · rename_i newer
        rcases ih (some first.time) with ⟨increasing, beyond⟩
        have after := beyond first.time rfl
        constructor
        · rw [List.map_cons, List.pairwise_cons]
          refine ⟨?_, increasing⟩
          intro time member
          rcases List.mem_map.mp member with ⟨bar, there, rfl⟩
          exact after bar there
        · intro time known bar member
          rcases List.mem_cons.mp member with rfl | later
          · exact newer time known
          · exact (newer time known).trans (after bar later)
      · exact ih last

namespace MultiTimeframeAggregator

variable {agg : MultiTimeframeAggregator}

theorem feedAll_append (agg : MultiTimeframeAggregator) (one two : List Bar) :
    agg.feedAll (one ++ two) =
      (((agg.feedAll one).1.feedAll two).1,
        (agg.feedAll one).2.1 ++ ((agg.feedAll one).1.feedAll two).2.1,
        (agg.feedAll one).2.2 ++ ((agg.feedAll one).1.feedAll two).2.2) := by
  induction one generalizing agg with
  | nil => rfl
  | cons bar rest ih =>
      rw [List.cons_append, feedAll, ih]
      simp [feedAll]

/-- Both timeframes see the accepted bars. -/
theorem feedAll_accepted (agg : MultiTimeframeAggregator) (bars : List Bar) :
    (agg.feedAll bars).2 =
      ((agg.h4.feedAll (newerBars agg.lastTime (bars.filter fun bar =>
          decide (bar.symbol = agg.symbol ∧ bar.timeframe = .h1)))).2,
        (agg.d1.feedAll (newerBars agg.lastTime (bars.filter fun bar =>
          decide (bar.symbol = agg.symbol ∧ bar.timeframe = .h1)))).2) := by
  induction bars generalizing agg with
  | nil => rfl
  | cons bar rest ih =>
      by_cases own : bar.symbol = agg.symbol ∧ bar.timeframe = .h1
      · rw [List.filter_cons, if_pos (decide_eq_true own), newerBars]
        by_cases newer : ∀ time ∈ agg.lastTime, time < bar.time
        · have taken : agg.accepts bar = true :=
            decide_eq_true ⟨own.1, own.2, newer⟩
          have next := ih (agg.feed bar).1
          simp only [feed, if_pos taken] at next
          rw [if_pos newer, feedAll]
          simp only [feed, if_pos taken]
          rw [next]
          rfl
        · have left : agg.accepts bar = false :=
            decide_eq_false fun both => newer both.2.2
          rw [if_neg newer, feedAll]
          simp only [feed, left]
          exact ih agg
      · have left : agg.accepts bar = false :=
          decide_eq_false fun both => own ⟨both.1, both.2.1⟩
        rw [List.filter_cons, if_neg (by simp [own]), feedAll]
        simp only [feed, left]
        exact ih agg

/-! ### The grouping -/

/-- What becomes of some bars: each timeframe has the kept groups of the accepted
bars, and after a part of the bars it has a part of them. -/
structure Folds (symbol : Symbol) (anchorHour : Fin 24)
    (calendar : ForexWeekCalendar)
    (keeps : (Time → Time → Prop) → Time × List Bar → Prop)
    (bars : List Bar) : Prop where
  h4 : FoldsTo symbol .h4 (fun t => h4BucketKey t anchorHour)
    (keeps (OpenSlot (fun t => h4BucketKey t anchorHour) calendar.session))
    (acceptedBars symbol bars)
    ((create symbol anchorHour calendar.session).feedAll bars).2.1
  d1 : FoldsTo symbol .d1 (fun t => d1BucketKey t anchorHour calendar.session)
    (keeps (OpenSlot (fun t => d1BucketKey t anchorHour calendar.session)
      calendar.session))
    (acceptedBars symbol bars)
    ((create symbol anchorHour calendar.session).feedAll bars).2.2
  stable : ∀ one, one <+: bars →
    ((create symbol anchorHour calendar.session).feedAll one).2.1 <+:
        ((create symbol anchorHour calendar.session).feedAll bars).2.1 ∧
      ((create symbol anchorHour calendar.session).feedAll one).2.2 <+:
        ((create symbol anchorHour calendar.session).feedAll bars).2.2

/-- For every anchor, every week and every sequence of bars the complete groups
are emitted, and no others. -/
theorem folds_accepted_h1 (symbol : Symbol) (anchorHour : Fin 24)
    (calendar : ForexWeekCalendar) (bars : List Bar) :
    Folds symbol anchorHour calendar Complete bars := by
  have accepted := feedAll_accepted (create symbol anchorHour calendar.session)
    bars
  have increasing := (newerBars_increasing none (bars.filter fun bar =>
    decide (bar.symbol = symbol ∧ bar.timeframe = .h1))).1
  have h4 : Bucketer.Follows (create symbol anchorHour calendar.session).h4
      (OpenSlot (fun t => h4BucketKey t anchorHour) calendar.session) :=
    ⟨h4BucketKey_mono, fun _ slot => mem_h4_slots _ slot anchorHour _⟩
  have d1 : Bucketer.Follows (create symbol anchorHour calendar.session).d1
      (OpenSlot (fun t => d1BucketKey t anchorHour calendar.session)
        calendar.session) :=
    ⟨d1BucketKey_mono, fun _ slot => mem_d1_slots _ slot anchorHour calendar⟩
  exact
    { h4 := by
        rw [accepted]
        exact (Bucketer.grouped_of_increasing h4 rfl _ increasing).foldsTo h4
          increasing
      d1 := by
        rw [accepted]
        exact (Bucketer.grouped_of_increasing d1 rfl _ increasing).foldsTo d1
          increasing
      stable := by
        rintro one ⟨two, rfl⟩
        rw [feedAll_append]
        exact ⟨List.prefix_append _ _, List.prefix_append _ _⟩ }

/-! ### Bars of closed hours -/

/-- An hour of the symbol at one price. -/
def flatHour (time : Time) : Bar where
  symbol := "XAUUSD"
  timeframe := .h1
  time := time
  openPrice := 1
  high := 1
  low := 1
  close := 1
  tickVolume := 1
  low_pos := one_quote_pos
  low_le_open := by decide
  open_le_high := by decide
  low_le_close := by decide
  close_le_high := by decide

/-- From 22:00 on Sundays to 22:00 on Fridays. -/
def standardWeek : ForexWeekCalendar := ⟨22, 22, []⟩

/-- A bar of a Saturday, and one of the Monday after it. -/
def weekendBars : List Bar :=
  [flatHour (2 * Time.usPerDay), flatHour (4 * Time.usPerDay)]

/-- A group that misses no expected hour because it has none is not emitted. -/
theorem closed_hours_dropped :
    ¬ ∀ (symbol : Symbol) (anchorHour : Fin 24) (calendar : ForexWeekCalendar)
        (bars : List Bar), Folds symbol anchorHour calendar HasAll bars := by
  intro claim
  have folds := (claim "XAUUSD" 0 standardWeek weekendBars).h4.groups
  have silent : ((create "XAUUSD" 0 standardWeek.session).feedAll
      weekendBars).2.1 = [] := by
    decide +kernel
  rw [silent] at folds
  have split : (groups (fun bar : Bar => h4BucketKey bar.time (0 : Fin 24))
      (acceptedBars "XAUUSD" weekendBars)).dropLast =
        [(2 * Time.usPerDay, [flatHour (2 * Time.usPerDay)])] := by
    decide +kernel
  have none : expectedOpenSlots (h4BucketKey (2 * Time.usPerDay) (0 : Fin 24)) 0 4
      (fun t => h4BucketKey t (0 : Fin 24)) standardWeek.session = [] := by
    decide +kernel
  have all : HasAll (OpenSlot (fun t => h4BucketKey t (0 : Fin 24))
      standardWeek.session)
        (2 * Time.usPerDay, [flatHour (2 * Time.usPerDay)]) := by
    intro slot expected
    have here : h4BucketKey (2 * Time.usPerDay) (0 : Fin 24) =
        2 * Time.usPerDay := by
      decide +kernel
    dsimp only at expected
    rw [← here] at expected
    have listed := (mem_h4_slots _ slot 0
      standardWeek.session).mpr expected
    rw [none] at listed
    cases listed
  rw [split, List.filter_cons, if_pos (by simpa using all)] at folds
  cases folds

end MultiTimeframeAggregator

end StingerFx
