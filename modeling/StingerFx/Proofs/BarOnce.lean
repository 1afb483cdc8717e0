/-
Module: StingerFx.Proofs.BarOnce
Layer: Proofs
Purpose: When each bar closes once. The open times of one aggregator only go up, so
  it never closes a bucket twice, whatever ticks of whatever broker it gets. As
  long as no feed gets a second aggregator, no bar is published twice, and what a
  runner handles is part of what was published. A reload that wires a feed again
  doubles its bars.
Trusted boundary: none (fully proved)
Main exports: BarFeeds.FirstWiring, BarFeeds.OncePerBucket,
  BarFeeds.bars_once, BarFeeds.reload_doubles_bars
-/
import StingerFx.Brokers.BarBuckets
import StingerFx.Runtime.BarFeeds

namespace StingerFx

open Lib

/-- The feed and the open time of a bar. -/
def Bar.bucketKey (bar : Bar) : Subscription × Time :=
  (bar.subscription, bar.time)

namespace BarFeeds

variable {s s' : BarFeeds}

/-! ### The condition and the claim -/

/-- No feed that has an aggregator is wired again. -/
def FirstWiring (s : BarFeeds) : BarFeedsLabel → Prop
  | .wire =>
      ∀ sub ∈ s.wiring.head?, sub.timeframe = .tick ∨ sub ∉ s.wired
  | _ => True

/-- No bucket of a feed is published twice, runs a hook twice, or enters a view
twice. -/
structure OncePerBucket (s : BarFeeds) : Prop where
  published : (s.published.map Bar.bucketKey).Nodup
  ran : ∀ runner ∈ s.started, (runner.ran.map Bar.bucketKey).Nodup
  appended : ∀ runner ∈ s.started, ∀ sub view,
    runner.histories.get? sub = some view → (view.map Bar.bucketKey).Nodup

/-! ### One aggregator -/

/-- The bar in the making opens after an instant. -/
def Beyond (agg : BarAggregator) (time : Time) : Prop :=
  ∃ bar, agg.current = some bar ∧ time < bar.openTime

theorem beyond_onTick {agg : BarAggregator} {time : Time}
    (beyond : Beyond agg time) (t : Tick) : Beyond (agg.onTick t).1 time := by
  rcases beyond with ⟨bar, current, before⟩
  rcases agg.onTick_cases t with ⟨-, done⟩ | ⟨-, none, -⟩ |
    ⟨old, -, same, later, done⟩ | ⟨old, -, same, -, done⟩
  · rw [done]
    exact ⟨bar, current, before⟩
  · rw [current] at none
    cases none
  · rw [current] at same
    cases same
    rw [done]
    exact ⟨_, rfl, before.trans later⟩
  · rw [current] at same
    cases same
    rw [done]
    exact ⟨_, rfl, before⟩

theorem beyond_feed {agg : BarAggregator} {time : Time}
    (beyond : Beyond agg time) (ticks : List Tick) :
    Beyond (agg.feed ticks).1 time := by
  induction ticks generalizing agg with
  | nil => exact beyond
  | cons t rest ih =>
      rw [BarAggregator.feed_cons]
      exact ih (beyond_onTick beyond t)

/-- A closed bar is the one that was in the making; its successor opens later. -/
theorem onTick_emits {agg : BarAggregator} {t : Tick} {bar : Bar}
    (emitted : (agg.onTick t).2 = some bar) :
    bar.subscription = ⟨agg.symbol, agg.tf⟩ ∧
      (∀ time, Beyond agg time → time < bar.time) ∧
        Beyond (agg.onTick t).1 bar.time := by
  rcases agg.onTick_cases t with ⟨-, done⟩ | ⟨-, -, done⟩ |
    ⟨old, -, current, later, done⟩ | ⟨old, -, -, -, done⟩
  · rw [done] at emitted
    cases emitted
  · rw [done] at emitted
    cases emitted
  · rw [done] at emitted ⊢
    unfold BarAggregator.emit at emitted
    split at emitted
    · cases emitted
      refine ⟨rfl, ?_, _, rfl, later⟩
      rintro time ⟨bar, same, before⟩
      rw [current] at same
      cases same
      exact before
    · cases emitted
  · rw [done] at emitted
    cases emitted

/-! ### All aggregators -/

/-- An aggregator keeps its feed and its bar does not go back. -/
def Advances (live live' : LiveAggregator) : Prop :=
  live'.subscription = live.subscription ∧
    ∀ time, Beyond live.agg time → Beyond live'.agg time

theorem Advances.refl (live : LiveAggregator) : Advances live live :=
  ⟨rfl, fun _ beyond => beyond⟩

theorem Advances.inbox (live : LiveAggregator)
    (inbox : BusSubscription Unit Unit TickEvent) :
    Advances live { live with inbox := inbox } :=
  ⟨rfl, fun _ beyond => beyond⟩

theorem Advances.onTick (live : LiveAggregator) (t : Tick)
    (inbox : BusSubscription Unit Unit TickEvent) :
    Advances live ⟨(live.agg.onTick t).1, inbox⟩ := by
  rcases live.agg.onTick_key t with ⟨symbol, tf, -⟩
  refine ⟨?_, fun _ beyond => beyond_onTick beyond t⟩
  simp only [LiveAggregator.subscription, symbol, tf]

theorem Advances.backfill (live : LiveAggregator) (ticks : List Tick) :
    Advances live (live.backfill ticks) := by
  rcases ({ live.agg with emitBars := false } : BarAggregator).feed_key
    ticks with ⟨symbol, tf, -⟩
  refine ⟨?_, ?_⟩
  · simp only [LiveAggregator.subscription, LiveAggregator.backfill, symbol, tf]
  · intro time beyond
    have silent : Beyond { live.agg with emitBars := false } time := beyond
    exact beyond_feed silent ticks

theorem advances_set {live new : LiveAggregator} (advances : Advances live new)
    {aggregators : List LiveAggregator} {index : Nat}
    (found : aggregators[index]? = some live) :
    List.Forall₂ Advances aggregators (aggregators.set index new) := by
  induction aggregators generalizing index with
  | nil => cases found
  | cons first rest ih =>
      cases index with
      | zero =>
          cases found
          exact .cons advances (List.forall₂_same.mpr fun x _ => .refl x)
      | succ index =>
          rw [List.getElem?_cons_succ] at found
          exact .cons (.refl first) (ih found)

theorem advances_modify {f : LiveAggregator → LiveAggregator}
    (advances : ∀ live, Advances live (f live))
    (aggregators : List LiveAggregator) (index : Nat) :
    List.Forall₂ Advances aggregators (aggregators.modify index f) := by
  induction aggregators generalizing index with
  | nil => cases index <;> exact .nil
  | cons first rest ih =>
      cases index with
      | zero =>
          exact .cons (advances first)
            (List.forall₂_same.mpr fun x _ => .refl x)
      | succ index => exact .cons (.refl first) (ih index)

/-- One aggregator for each feed; its bar opens after all that were published of
the feed. -/
structure Aggregated (aggregators : List LiveAggregator)
    (published : List Bar) : Prop where
  single : (aggregators.map LiveAggregator.subscription).Nodup
  made : ∀ bar ∈ published, ∃ live ∈ aggregators,
    live.subscription = bar.subscription ∧ Beyond live.agg bar.time
  once : (published.map Bar.bucketKey).Nodup

section Aggregators

variable {aggregators aggregators' : List LiveAggregator}
variable {published : List Bar}

theorem subscriptions_of_advances
    (moved : List.Forall₂ Advances aggregators aggregators') :
    aggregators'.map LiveAggregator.subscription =
      aggregators.map LiveAggregator.subscription := by
  induction moved with
  | nil => rfl
  | cons head tail ih => rw [List.map_cons, List.map_cons, head.1, ih]

theorem advanced_of_mem {live : LiveAggregator}
    (moved : List.Forall₂ Advances aggregators aggregators')
    (member : live ∈ aggregators) :
    ∃ live' ∈ aggregators', Advances live live' := by
  induction moved with
  | nil => cases member
  | cons head tail ih =>
      rcases List.mem_cons.mp member with rfl | later
      · exact ⟨_, List.mem_cons_self, head⟩
      · rcases ih later with ⟨live', there, advances⟩
        exact ⟨live', List.mem_cons_of_mem _ there, advances⟩

theorem Aggregated.advance (aggregated : Aggregated aggregators published)
    (moved : List.Forall₂ Advances aggregators aggregators') :
    Aggregated aggregators' published where
  single := by
    rw [subscriptions_of_advances moved]
    exact aggregated.single
  made := by
    intro bar member
    rcases aggregated.made bar member with ⟨live, there, same, beyond⟩
    rcases advanced_of_mem moved there with ⟨live', there', advances⟩
    exact ⟨live', there', advances.1.trans same, advances.2 _ beyond⟩
  once := aggregated.once

/-- An aggregator of a new feed has published nothing. -/
theorem Aggregated.wire (aggregated : Aggregated aggregators published)
    (live : LiveAggregator)
    (fresh : live.subscription ∉
      aggregators.map LiveAggregator.subscription) :
    Aggregated (aggregators ++ [live]) published where
  single := by
    rw [List.map_append, List.nodup_append]
    refine ⟨aggregated.single, List.nodup_singleton _, ?_⟩
    intro old there new member
    rw [List.map_singleton, List.mem_singleton] at member
    rintro rfl
    exact fresh (member ▸ there)
  made := by
    intro bar member
    rcases aggregated.made bar member with ⟨old, there, same, beyond⟩
    exact ⟨old, List.mem_append_left _ there, same, beyond⟩
  once := aggregated.once

/-- A bar that an aggregator closes is new. -/
theorem Aggregated.fresh (aggregated : Aggregated aggregators published)
    {live : LiveAggregator} (there : live ∈ aggregators) {t : Tick} {bar : Bar}
    (emitted : (live.agg.onTick t).2 = some bar) :
    bar.bucketKey ∉ published.map Bar.bucketKey := by
  intro member
  rcases List.mem_map.mp member with ⟨old, published, same⟩
  rcases onTick_emits emitted with ⟨feed, after, -⟩
  have sameFeed : old.subscription = bar.subscription := congrArg Prod.fst same
  have sameTime : old.time = bar.time := congrArg Prod.snd same
  rcases aggregated.made old published with ⟨maker, member', own, beyond⟩
  have one : maker = live :=
    List.inj_on_of_nodup_map aggregated.single member' there
      (own.trans (sameFeed.trans feed))
  subst one
  exact absurd (after old.time beyond) (not_lt_of_ge sameTime.ge)

theorem Aggregated.publish (aggregated : Aggregated aggregators published)
    {live : LiveAggregator} (there : live ∈ aggregators) {bar : Bar}
    (own : live.subscription = bar.subscription)
    (beyond : Beyond live.agg bar.time)
    (fresh : bar.bucketKey ∉ published.map Bar.bucketKey) :
    Aggregated aggregators (published ++ [bar]) where
  single := aggregated.single
  made := by
    intro other member
    rcases List.mem_append.mp member with old | new
    · exact aggregated.made other old
    · rw [List.mem_singleton.mp new]
      exact ⟨live, there, own, beyond⟩
  once := by
    rw [List.map_append, List.nodup_append]
    refine ⟨aggregated.once, List.nodup_singleton _, ?_⟩
    intro old before new member
    rw [List.map_singleton, List.mem_singleton] at member
    rintro rfl
    exact fresh (member ▸ before)

end Aggregators

/-! ### Runners -/

/-- A runner handles bars that were published, in their order, and its views go
forward in time. -/
structure Fair (published : List Bar) (runner : BarRunner) : Prop where
  heard : (runner.inbox.handled ++ runner.inbox.queue.items).Sublist published
  ran : runner.ran.Sublist runner.inbox.handled
  views : ∀ sub view, runner.histories.get? sub = some view →
    (view.map Bar.time).Pairwise (· < ·)

section Runners

variable {published : List Bar} {runner runner' : BarRunner}

theorem forall_mem_modify {α : Type} {P : α → Prop} {f : α → α} {xs : List α}
    (all : ∀ x ∈ xs, P x) (keeps : ∀ x, P x → P (f x)) (index : Nat) :
    ∀ x ∈ xs.modify index f, P x := by
  induction xs generalizing index with
  | nil =>
      intro x member
      cases index <;> cases member
  | cons first rest ih =>
      have later : ∀ x ∈ rest, P x := fun x member =>
        all x (List.mem_cons_of_mem _ member)
      cases index with
      | zero =>
          intro x member
          rcases List.mem_cons.mp member with rfl | after
          · exact keeps first (all first List.mem_cons_self)
          · exact later x after
      | succ index =>
          intro x member
          rcases List.mem_cons.mp member with rfl | after
          · exact all x List.mem_cons_self
          · exact ih later index x after

/-- Flags, parameters and the life of the consumer do not matter. -/
theorem Fair.congr (fair : Fair published runner)
    (handled : runner'.inbox.handled = runner.inbox.handled)
    (queue : runner'.inbox.queue = runner.inbox.queue)
    (ran : runner'.ran = runner.ran)
    (histories : runner'.histories = runner.histories) :
    Fair published runner' where
  heard := by
    rw [handled, queue]
    exact fair.heard
  ran := by
    rw [handled, ran]
    exact fair.ran
  views := by
    rw [histories]
    exact fair.views

theorem Fair.start (published : List Bar) (entry : StrategyEntry) :
    Fair published (.start entry) where
  heard := List.nil_sublist _
  ran := .slnil
  views := by
    have empty : ∀ (subs : List Subscription)
        (views : Dict Subscription (List Bar)),
        (∀ sub view, views.get? sub = some view → view = []) →
        ∀ sub view, (subs.foldl (fun views sub => views.set sub [])
          views).get? sub = some view → view = [] := by
      intro subs
      induction subs with
      | nil => exact fun _ none => none
      | cons first rest ih =>
          intro views none
          apply ih
          intro sub view found
          by_cases same : sub = first
          · subst same
            rw [Dict.get?_set_self] at found
            exact (Option.some.inj found).symm
          · rw [Dict.get?_set_of_ne _ _ same] at found
            exact none sub view found
    intro sub view found
    have nothing : view = [] :=
      empty entry.subscriptions .empty (fun _ _ found => by cases found) sub
        view found
    rw [nothing]
    exact .nil

theorem Fair.receive (fair : Fair published runner) (bar : Bar) :
    Fair (published ++ [bar])
      { runner with inbox := runner.inbox.receive isEvent bar } where
  heard := by
    rw [BusSubscription.receive_handled]
    cases alive : runner.inbox.closed with
    | false =>
        rw [BusSubscription.receive_of_open rfl alive]
        have queued := runner.inbox.queue.items_push_sublist bar
        have all := ((List.Sublist.refl runner.inbox.handled).append queued)
        rw [← List.append_assoc] at all
        exact all.trans (fair.heard.append (List.Sublist.refl [bar]))
    | true =>
        have same : (runner.inbox.receive isEvent bar).queue =
            runner.inbox.queue := by
          simp [BusSubscription.receive, BusSubscription.wants, isEvent, alive]
        rw [same]
        exact fair.heard.trans (List.sublist_append_left published [bar])
  ran := by
    rw [BusSubscription.receive_handled]
    exact fair.ran
  views := fair.views

/-- A view takes only bars newer than its last one. -/
theorem appendBar_increasing {view : List Bar}
    (increasing : (view.map Bar.time).Pairwise (· < ·)) (bar : Bar) :
    ((appendBar view bar).map Bar.time).Pairwise (· < ·) := by
  unfold appendBar
  cases final : view.getLast? with
  | none =>
      rw [List.getLast?_eq_none_iff.mp final]
      exact List.pairwise_singleton _ _
  | some last =>
      dsimp only
      split
      · exact increasing
      · rename_i newer
        rw [List.map_append, List.pairwise_append]
        refine ⟨increasing, List.pairwise_singleton _ _, ?_⟩
        intro time before new member
        rw [List.map_singleton, List.mem_singleton] at member
        subst member
        have upTo : time ≤ last.time := by
          rcases List.getLast?_eq_some_iff.mp final with ⟨front, rfl⟩
          rw [List.map_append, List.pairwise_append] at increasing
          rw [List.map_append] at before
          rcases List.mem_append.mp before with early | same
          · exact (increasing.2.2 time early last.time List.mem_cons_self).le
          · exact (List.mem_singleton.mp same).le
        exact lt_of_le_of_lt upTo (not_le.mp newer)

theorem Fair.deliver (fair : Fair published runner) {bar : Bar}
    {inbox : BusSubscription Unit Unit Bar}
    (taken : runner.inbox.take? = some (bar, inbox)) :
    Fair published ({ runner with inbox := inbox }.onBar bar) := by
  unfold BusSubscription.take? at taken
  split at taken
  · cases taken
  · cases popped : runner.inbox.queue.pop? with
    | none => simp [popped] at taken
    | some pair =>
        obtain ⟨first, rest⟩ := pair
        simp only [popped] at taken
        cases taken
        have heard := fair.heard
        rw [Mailbox.items_of_pop? popped] at heard
        have moved : (runner.inbox.handled ++ [bar] ++
            rest.items).Sublist published := by
          simpa using heard
        unfold BarRunner.onBar
        split
        · cases found : runner.histories.get? bar.subscription with
          | none =>
              refine ⟨moved, ?_, fair.views⟩
              exact fair.ran.trans (List.sublist_append_left _ _)
          | some view =>
              refine ⟨moved, fair.ran.append (List.Sublist.refl [bar]), ?_⟩
              intro sub view' found'
              by_cases same : sub = bar.subscription
              · subst same
                rw [Dict.get?_set_self] at found'
                cases found'
                exact appendBar_increasing (fair.views _ view found) bar
              · rw [Dict.get?_set_of_ne _ _ same] at found'
                exact fair.views sub view' found'
        · refine ⟨moved, ?_, fair.views⟩
          exact fair.ran.trans (List.sublist_append_left _ _)

end Runners

/-! ### One step -/

structure Once (s : BarFeeds) : Prop where
  aggregated : Aggregated s.aggregators s.published
  fair : ∀ runner ∈ s.started, Fair s.published runner

theorem Once.startRunner (once : Once s) (entry : StrategyEntry) :
    Once (s.startRunner entry) where
  aggregated := once.aggregated
  fair := by
    intro runner member
    rcases List.mem_append.mp member with old | new
    · exact once.fair runner old
    · rw [List.mem_singleton.mp new]
      exact .start s.published entry

theorem Once.subscribeForStrategy (once : Once s) (id : StrategyId) :
    Once (s.subscribeForStrategy id) := by
  unfold BarFeeds.subscribeForStrategy
  split
  · exact once
  · split
    · exact once
    · exact ⟨once.aggregated, once.fair⟩

theorem Once.addStrategy (once : Once s) (entry : StrategyEntry) :
    Once (s.addStrategy entry) := by
  have started := once.startRunner entry
  unfold BarFeeds.addStrategy
  apply Once.subscribeForStrategy
  exact ⟨started.aggregated, started.fair⟩

theorem Once.modify (once : Once s) {f : BarRunner → BarRunner}
    (keeps : ∀ runner, Fair s.published runner → Fair s.published (f runner))
    (index : Nat) :
    Once { s with started := s.started.modify index f } where
  aggregated := once.aggregated
  fair := forall_mem_modify once.fair keeps index

theorem Once.removeStrategy (once : Once s) (id : StrategyId) :
    Once (s.removeStrategy id) := by
  unfold BarFeeds.removeStrategy
  split
  · exact once
  · rename_i index _
    have stopped := once.modify (f := BarRunner.stop)
      (fun runner fair => fair.congr rfl rfl rfl rfl) index
    exact ⟨stopped.aggregated, stopped.fair⟩

theorem Once.publishBar (once : Once s) {live : LiveAggregator}
    (there : live ∈ s.aggregators) {bar : Bar}
    (own : live.subscription = bar.subscription)
    (beyond : Beyond live.agg bar.time)
    (fresh : bar.bucketKey ∉ s.published.map Bar.bucketKey) :
    Once (s.publishBar bar) where
  aggregated := once.aggregated.publish there own beyond fresh
  fair := by
    intro runner member
    rcases List.mem_map.mp member with ⟨old, before, rfl⟩
    exact (once.fair old before).receive bar

/-- An aggregator hands over a bar at most, and it is a new one. -/
theorem Once.aggregate (once : Once s) {index : Nat} {live : LiveAggregator}
    (found : s.aggregators[index]? = some live) (t : Tick)
    (inbox : BusSubscription Unit Unit TickEvent) :
    Once ((live.agg.onTick t).2.elim
      { s with
        aggregators := s.aggregators.set index ⟨(live.agg.onTick t).1, inbox⟩ }
      (BarFeeds.publishBar
        { s with
          aggregators :=
            s.aggregators.set index ⟨(live.agg.onTick t).1, inbox⟩ })) := by
  have advances := Advances.onTick live t inbox
  have moved := advances_set advances found
  have after : Once { s with
      aggregators :=
        s.aggregators.set index ⟨(live.agg.onTick t).1, inbox⟩ } :=
    ⟨once.aggregated.advance moved, once.fair⟩
  cases emitted : (live.agg.onTick t).2 with
  | none => exact after
  | some bar =>
      rcases onTick_emits emitted with ⟨feed, -, beyond⟩
      have inside := (List.getElem?_eq_some_iff.mp found).1
      apply after.publishBar (List.mem_set inside _)
      · exact advances.1.trans feed.symm
      · exact beyond
      · exact once.aggregated.fresh (List.mem_of_getElem? found) emitted

theorem Once.step (once : Once s) {label : BarFeedsLabel}
    (first : FirstWiring s label) (taken : Step s label s') : Once s' := by
  simp only [Step, stepOf?] at taken
  cases label with
  | tick event =>
      cases taken
      refine ⟨once.aggregated.advance ?_, once.fair⟩
      rw [List.forall₂_map_right_iff]
      exact List.forall₂_same.mpr fun live _ => .inbox live _
  | aggregate index =>
      simp only [step?] at taken
      cases found : s.aggregators[index]? with
      | none => simp [found] at taken
      | some live =>
          simp only [found] at taken
          cases popped : live.inbox.take? with
          | none => simp [popped] at taken
          | some pair =>
              obtain ⟨event, inbox⟩ := pair
              simp only [popped] at taken
              cases taken
              exact once.aggregate found event.tick inbox
  | deliver index =>
      simp only [step?] at taken
      cases found : s.started[index]? with
      | none => simp [found] at taken
      | some runner =>
          simp only [found] at taken
          cases popped : runner.inbox.take? with
          | none => simp [popped] at taken
          | some pair =>
              obtain ⟨bar, inbox⟩ := pair
              simp only [popped] at taken
              cases taken
              refine ⟨once.aggregated, ?_⟩
              intro other member
              rcases List.mem_or_eq_of_mem_set member with old | rfl
              · exact once.fair other old
              · exact (once.fair runner (List.mem_of_getElem? found)).deliver
                  popped
  | wire =>
      simp only [step?] at taken
      cases pending : s.wiring with
      | nil => simp [pending] at taken
      | cons sub rest =>
          simp only [pending] at taken
          by_cases tick : sub.timeframe = .tick
          · rw [dif_pos tick] at taken
            cases taken
            exact ⟨once.aggregated, once.fair⟩
          · rw [dif_neg tick] at taken
            cases taken
            have fresh : sub ∉ s.wired := by
              have allowed := first sub (by rw [pending]; rfl)
              exact allowed.resolve_left tick
            exact ⟨once.aggregated.wire _ fresh, once.fair⟩
  | backfill index ticks =>
      cases taken
      refine ⟨once.aggregated.advance ?_, once.fair⟩
      exact advances_modify (fun live => .backfill live ticks) _ index
  | add entry =>
      cases taken
      exact once.addStrategy entry
  | remove id =>
      cases taken
      exact once.removeStrategy id
  | replace entry =>
      cases taken
      exact (once.removeStrategy entry.id).addStrategy entry
  | updateParams id subscriptions =>
      simp only [step?] at taken
      cases known : s.runners.get? id with
      | none =>
          simp only [known] at taken
          cases taken
          exact once
      | some index =>
          simp only [known] at taken
          cases taken
          exact once.modify (f := (BarRunner.updateParams subscriptions))
            (fun _ fair => fair.congr rfl rfl rfl rfl) index
  | setEnabled id enabled found =>
      simp only [step?] at taken
      cases known : s.runners.get? id with
      | none =>
          simp only [known] at taken
          split at taken
          · cases taken
            exact once.addStrategy _
          · cases taken
            exact once
      | some index =>
          simp only [known] at taken
          cases taken
          exact once.modify (f := (BarRunner.pause !enabled))
            (fun _ fair => fair.congr rfl rfl rfl rfl) index
  | changeAccount id account =>
      simp only [step?] at taken
      split at taken
      · split at taken
        · cases taken
          apply Once.subscribeForStrategy
          exact ⟨once.aggregated, once.fair⟩
        · cases taken
          exact once
      · cases taken
  | quarantine index =>
      cases taken
      exact once.modify (f := BarRunner.quarantine)
        (fun _ fair => fair.congr rfl rfl rfl rfl) index

theorem once_boot (pool : List AccountId) (entries : List StrategyEntry) :
    Once (boot pool entries) := by
  have started : ∀ (list : List StrategyEntry) (s : BarFeeds), Once s →
      Once (list.foldl BarFeeds.startRunner s) := by
    intro list
    induction list with
    | nil => exact fun _ once => once
    | cons entry rest ih => exact fun s once => ih _ (once.startRunner entry)
  have nothing : Once (idle pool entries) :=
    { aggregated :=
        { single := List.nodup_nil
          made := fun _ member => by cases member
          once := List.nodup_nil }
      fair := fun _ member => by cases member }
  have all := started (entries.filter StrategyEntry.enabled) _ nothing
  exact ⟨all.aggregated, all.fair⟩

/-! ### Every run -/

theorem Once.oncePerBucket (once : Once s) : OncePerBucket s where
  published := once.aggregated.once
  ran := by
    intro runner member
    have fair := once.fair runner member
    have part := fair.ran.trans ((List.sublist_append_left _ _).trans fair.heard)
    exact once.aggregated.once.sublist (part.map Bar.bucketKey)
  appended := by
    intro runner member sub view found
    have increasing := (once.fair runner member).views sub view found
    have times : (view.map Bar.time).Nodup := increasing.imp fun order => order.ne
    apply List.Nodup.of_map Prod.snd
    rw [List.map_map]
    exact times

/-- Whatever accounts and strategies there are, whatever ticks come and whatever is
reloaded: as long as no feed is wired a second time, each bucket closes once, for
the bus, for the hooks and for the views. -/
theorem bars_once {pool : List AccountId} {entries : List StrategyEntry}
    {labels : List BarFeedsLabel}
    (run : Run (Guarded FirstWiring Step) (boot pool entries) labels s) :
    OncePerBucket s := by
  have once : Once s :=
    run.invariant (once_boot pool entries) fun taken once =>
      once.step taken.1 taken.2
  exact once.oncePerBucket

/-! ### A minute of one feed -/

/-- A strategy on one-minute bars. -/
def minuteEntry : StrategyEntry where
  id := "trend"
  account := "default"
  enabled := true
  subscriptions := [⟨"EURUSD", .m1⟩]

/-- A tick at an instant. -/
def tickAt (time : Time) : TickEvent where
  tick :=
    { symbol := "EURUSD"
      time := time
      bid := 1
      ask := 1
      bid_pos := one_quote_pos
      ask_pos := one_quote_pos }
  replayed := false

/-- A tick of the first minute and one of the second. -/
def twoMinutes : List BarFeedsLabel :=
  [.tick (tickAt 0), .tick (tickAt 60000000)]

instance (s : BarFeeds) (label : BarFeedsLabel) :
    Decidable (FirstWiring s label) := by
  cases label <;> unfold FirstWiring <;> infer_instance

/-- The bar of the first minute is published and the hook runs on it. -/
theorem minute_closes_once :
    ∃ s : BarFeeds, s.published.length = 1 ∧
      (s.started.map fun runner => runner.ran.length) = [1] ∧
        OncePerBucket s := by
  have reached :
      (replay? FirstWiring step? (boot ["default"] [minuteEntry])
        ([.wire] ++ twoMinutes ++ [.aggregate 0, .aggregate 0, .deliver 0])).map
          (fun s => (s.published.length,
            s.started.map fun runner => runner.ran.length)) = some (1, [1]) := by
    decide +kernel
  rcases Option.map_eq_some_iff.mp reached with ⟨s, replayed, counts⟩
  exact ⟨s, congrArg Prod.fst counts, congrArg Prod.snd counts,
    bars_once (run_of_replay? replayed)⟩

/-- After a class reload the feed has two aggregators, and both close the
minute. -/
theorem reload_doubles_bars :
    ¬ ∀ (pool : List AccountId) (entries : List StrategyEntry)
        (labels : List BarFeedsLabel) (s : BarFeeds),
        Run Step (boot pool entries) labels s → OncePerBucket s := by
  intro claim
  have reached :
      (replay? (fun _ _ => True) step? (boot ["default"] [minuteEntry])
        ([.wire, .replace minuteEntry, .wire] ++ twoMinutes ++
          [.aggregate 0, .aggregate 0, .aggregate 1, .aggregate 1])).any
            (fun s => decide ¬ (s.published.map Bar.bucketKey).Nodup) =
              true := by
    decide +kernel
  rcases (Option.any_eq_true _ _).mp reached with ⟨s, replayed, doubled⟩
  have once := claim ["default"] [minuteEntry] _ s
    (run_of_replay? replayed).unguard
  exact of_decide_eq_true doubled once.published

end BarFeeds

end StingerFx
