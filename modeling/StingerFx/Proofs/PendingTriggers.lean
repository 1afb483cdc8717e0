/-
Module: StingerFx.Proofs.PendingTriggers
Layer: Proofs
Purpose: Pending orders in tick mode and in bar mode. On ticks an order fires when
  the price is at or beyond its trigger; on bars it fires when the bar's range
  covers the trigger. The two agree bar by bar exactly when no bar lies wholly
  beyond the trigger before a bar has covered it.
Trusted boundary: none (fully proved)
Main exports: tickStep, barStep, TriggersAgree, NoJumpOver, triggers_agree_iff,
  gap_over_trigger_disagrees
-/
import StingerFx.Brokers.BarAggregator
import StingerFx.Backtest.SimBroker

namespace StingerFx

open Lib

variable {σ : Type}

namespace SimBroker

/-! ### What a trigger check does to a pending order -/

/-- A promotion that returns takes its order off the book. -/
theorem promotePending_erases {cfg : SimConfig σ} {b : SimBroker σ}
    {ticket : Ticket} {pending filled : Order} {fillPrice : ℚ}
    (returned :
      (b.promotePending cfg ticket pending fillPrice).outcome = .ok filled) :
    (b.promotePending cfg ticket pending fillPrice).broker.pending =
      b.pending.erase ticket := by
  unfold promotePending at returned ⊢
  split
  · rename_i refused
    rw [refused] at returned
    cases returned
  · rfl

/-- Whether a listing has a firing order under a ticket. -/
def Listed (fires : Order → Bool) (listing : List (Ticket × Order))
    (ticket : Ticket) : Prop :=
  ∃ entry ∈ listing, entry.1 = ticket ∧ fires entry.2 = true

/-- A check that returns takes exactly the firing orders off the book. -/
theorem promoteAll_pending (cfg : SimConfig σ) (fires : Order → Bool)
    (fillPrice : Order → σ → ℚ × σ) (ticket : Ticket) :
    ∀ (listing : List (Ticket × Order)) (b : SimBroker σ) {filled : List Order},
      (promoteAll cfg fires fillPrice listing b).outcome = .ok filled →
      (Listed fires listing ticket ∨ b.pending.get? ticket = none →
        (promoteAll cfg fires fillPrice listing b).broker.pending.get? ticket =
          none) ∧
      (¬ Listed fires listing ticket →
        (promoteAll cfg fires fillPrice listing b).broker.pending.get? ticket =
          b.pending.get? ticket)
  | [], b, _, _ => by
      constructor
      · rintro (⟨entry, member, -⟩ | gone)
        · cases member
        · exact gone
      · intro _
        rfl
  | (head, pending) :: rest, b, filled, returned => by
      have listed : Listed fires ((head, pending) :: rest) ticket ↔
          (head = ticket ∧ fires pending = true) ∨ Listed fires rest ticket :=
        List.exists_mem_cons_iff _ _ _
      rw [listed]
      unfold promoteAll at returned ⊢
      split at returned
      · rename_i firing
        rw [if_pos firing]
        dsimp only at returned ⊢
        split at returned
        · cases returned
        · rename_i order promoted
          dsimp only at returned ⊢
          have erased := promotePending_erases promoted
          generalize ({ b with
            slippageState := (fillPrice pending b.slippageState).2 } :
              SimBroker σ).promotePending cfg head pending
                (fillPrice pending b.slippageState).1 = call
                  at returned erased ⊢
          cases later : (promoteAll cfg fires fillPrice rest
              call.broker).outcome with
          | error error =>
              rw [later] at returned
              cases returned
          | ok orders =>
              rcases promoteAll_pending cfg fires fillPrice ticket rest
                call.broker later with ⟨taken, kept⟩
              rw [erased, Dict.get?_erase] at taken kept
              constructor
              · rintro ((⟨rfl, -⟩ | inRest) | gone)
                · exact taken (.inr (if_pos rfl))
                · exact taken (.inl inRest)
                · apply taken
                  right
                  split
                  · rfl
                  · exact gone
              · intro none
                rw [not_or] at none
                have apart : ticket ≠ head := fun same =>
                  none.1 ⟨same.symm, firing⟩
                rw [kept none.2, if_neg apart]
      · rename_i silent
        rw [if_neg silent]
        rcases promoteAll_pending cfg fires fillPrice ticket rest b returned with
          ⟨taken, kept⟩
        constructor
        · rintro ((⟨-, firing⟩ | inRest) | gone)
          · exact absurd firing silent
          · exact taken (.inl inRest)
          · exact taken (.inr gone)
        · intro none
          rw [not_or] at none
          exact kept none.2

/-- The listing of the book holds exactly what is stored. -/
theorem pending_listed {b : SimBroker σ} {ticket : Ticket} {order : Order}
    (resting : b.pending.get? ticket = some order) (fires : Order → Bool) :
    Listed fires b.pending.items ticket ↔ fires order = true := by
  constructor
  · rintro ⟨⟨key, stored⟩, member, rfl, firing⟩
    have found := (b.pending.get?_eq_some_iff).mpr member
    rw [resting] at found
    cases found
    exact firing
  · intro firing
    exact ⟨(ticket, order), (b.pending.get?_eq_some_iff).mp resting, rfl, firing⟩

end SimBroker

/-! ### Replaying calls -/

/-- One tick of the tick replay, as far as pending orders are concerned. -/
def tickStep (cfg : SimConfig σ) (b : SimBroker σ) (tick : Tick) :
    Call σ (List Order) :=
  ((b.advanceClock tick.time).setMarketTick tick.symbol tick.bid
    tick.ask).checkPending cfg tick.symbol tick.bid tick.ask

/-- One bar of the bar replay, as far as pending orders are concerned. -/
def barStep (cfg : SimConfig σ) (b : SimBroker σ) (bar : Bar) :
    Call σ (List Order) :=
  ((b.advanceClock bar.time).setMarket bar.symbol bar.close).checkPendingBar cfg
    bar.symbol bar.high bar.low

/-- The broker after a series of calls; `none` when one of them raises. -/
def replayCalls {α : Type} (step : SimBroker σ → α → Call σ (List Order)) :
    SimBroker σ → List α → Option (SimBroker σ)
  | b, [] => some b
  | b, x :: xs =>
      match (step b x).outcome with
      | .error _ => none
      | .ok _ => replayCalls step (step b x).broker xs

/-- The series of calls has taken an order off the book. -/
def Fires {α : Type} (step : SimBroker σ → α → Call σ (List Order))
    (b : SimBroker σ) (ticket : Ticket) (xs : List α) : Prop :=
  ∃ b', replayCalls step b xs = some b' ∧ b'.pending.get? ticket = none

/-- A call that takes an order off the book exactly when a condition on its input
holds. -/
def TriggersOn {α : Type} (step : SimBroker σ → α → Call σ (List Order))
    (order : Order) (fires : α → Prop) (x : α) : Prop :=
  ∀ (b : SimBroker σ) (ticket : Ticket) (filled : List Order),
    (step b x).outcome = .ok filled →
      (b.pending.get? ticket = none →
        (step b x).broker.pending.get? ticket = none) ∧
      (b.pending.get? ticket = some order →
        (fires x → (step b x).broker.pending.get? ticket = none) ∧
        (¬ fires x → (step b x).broker.pending.get? ticket = some order))

/-- Once off the book, an order stays off it. -/
theorem replayCalls_gone {α : Type}
    {step : SimBroker σ → α → Call σ (List Order)} {order : Order}
    {fires : α → Prop} {ticket : Ticket} :
    ∀ (xs : List α) (b b' : SimBroker σ),
      (∀ x ∈ xs, TriggersOn step order fires x) →
      b.pending.get? ticket = none → replayCalls step b xs = some b' →
      b'.pending.get? ticket = none
  | [], _, _, _, gone, replayed => by
      cases replayed
      exact gone
  | x :: xs, b, b', triggers, gone, replayed => by
      unfold replayCalls at replayed
      split at replayed
      · cases replayed
      · rename_i filled returned
        have first := triggers x List.mem_cons_self b ticket filled returned
        exact replayCalls_gone xs _ b'
          (fun other member => triggers other (List.mem_cons_of_mem _ member))
          (first.1 gone) replayed

/-- A resting order fires in a series of calls that goes through exactly when
some input of the series meets its condition. -/
theorem fires_iff {α : Type} {step : SimBroker σ → α → Call σ (List Order)}
    {order : Order} {fires : α → Prop} {ticket : Ticket} :
    ∀ (xs : List α) (b : SimBroker σ),
      (∀ x ∈ xs, TriggersOn step order fires x) →
      b.pending.get? ticket = some order →
      (replayCalls step b xs).isSome = true →
      (Fires step b ticket xs ↔ ∃ x ∈ xs, fires x)
  | [], b, _, resting, _ => by
      constructor
      · rintro ⟨b', replayed, gone⟩
        cases replayed
        rw [resting] at gone
        cases gone
      · rintro ⟨x, member, -⟩
        cases member
  | x :: xs, b, triggers, resting, through => by
      have others : ∀ other ∈ xs, TriggersOn step order fires other :=
        fun other member => triggers other (List.mem_cons_of_mem _ member)
      unfold replayCalls at through
      split at through
      · cases through
      · rename_i filled returned
        have first := (triggers x List.mem_cons_self b ticket filled
          returned).2 resting
        have unfolded : ∀ b', replayCalls step b (x :: xs) = some b' ↔
            replayCalls step (step b x).broker xs = some b' := by
          intro b'
          rw [replayCalls, returned]
        unfold Fires
        simp only [unfolded]
        cases Classical.em (fires x) with
        | inl firing =>
            rcases Option.isSome_iff_exists.mp through with ⟨b', replayed⟩
            have gone := replayCalls_gone xs _ b' others (first.1 firing) replayed
            constructor
            · intro _
              exact ⟨x, List.mem_cons_self, firing⟩
            · intro _
              exact ⟨b', replayed, gone⟩
        | inr silent =>
            have later := fires_iff xs _ others (first.2 silent) through
            unfold Fires at later
            rw [later]
            constructor
            · rintro ⟨other, member, firing⟩
              exact ⟨other, List.mem_cons_of_mem _ member, firing⟩
            · rintro ⟨other, member, firing⟩
              rcases List.mem_cons.mp member with rfl | old
              · exact absurd firing silent
              · exact ⟨other, old, firing⟩

/-- A trigger check over the whole book triggers on its own predicate. -/
theorem triggersOn_promoteAll {cfg : SimConfig σ} {fires : Order → Bool}
    {fillPrice : Order → σ → ℚ × σ} {order : Order} {b : SimBroker σ}
    {ticket : Ticket} {filled : List Order}
    (returned : (SimBroker.promoteAll cfg fires fillPrice b.pending.items
      b).outcome = .ok filled) :
    (b.pending.get? ticket = none →
      (SimBroker.promoteAll cfg fires fillPrice b.pending.items
        b).broker.pending.get? ticket = none) ∧
    (b.pending.get? ticket = some order →
      (fires order = true → (SimBroker.promoteAll cfg fires fillPrice
        b.pending.items b).broker.pending.get? ticket = none) ∧
      (¬ fires order = true → (SimBroker.promoteAll cfg fires fillPrice
        b.pending.items b).broker.pending.get? ticket = some order)) := by
  rcases SimBroker.promoteAll_pending cfg fires fillPrice ticket
    b.pending.items b returned with ⟨taken, kept⟩
  refine ⟨fun gone => taken (.inr gone), ?_⟩
  intro resting
  have listed := SimBroker.pending_listed resting fires
  constructor
  · intro firing
    exact taken (.inl (listed.mpr firing))
  · intro silent
    rw [kept fun inside => silent (listed.mp inside)]
    exact resting

theorem tickStep_triggersOn (cfg : SimConfig σ) (order : Order) (tick : Tick) :
    TriggersOn (tickStep cfg) order
      (fun tick => SimBroker.firesOnTick tick.symbol tick.bid tick.ask order =
        true) tick :=
  fun b _ _ returned => triggersOn_promoteAll
    (b := (b.advanceClock tick.time).setMarketTick tick.symbol tick.bid tick.ask)
    returned

theorem barStep_triggersOn (cfg : SimConfig σ) (order : Order) (bar : Bar) :
    TriggersOn (barStep cfg) order
      (fun bar => SimBroker.firesOnBar bar.symbol bar.high bar.low order = true)
      bar :=
  fun b _ _ returned => triggersOn_promoteAll
    (b := (b.advanceClock bar.time).setMarket bar.symbol bar.close) returned

/-! ### Bars and their ticks -/

/-- Orders that wait for the price to rise. -/
def waitsForRise : OrderType → Side → Bool
  | .limit, .buy => false
  | .limit, .sell => true
  | _, .buy => true
  | _, .sell => false

/-- The bar's range covers a price. -/
def Covers (bar : Bar) (price : ℚ) : Prop :=
  bar.low ≤ price ∧ price ≤ bar.high

/-- The bar lies wholly beyond an order's trigger. -/
def JumpsOver (order : Order) (price : ℚ) (bar : Bar) : Prop :=
  if waitsForRise order.type order.side then price < bar.low
  else bar.high < price

/-- At zero spread, a tick triggers an order when its price is at or beyond the
trigger. -/
theorem firesOnTick_iff {order : Order} {price : ℚ} {tick : Tick}
    (priced : order.price = some price) (kind : order.type ≠ .market)
    (mine : tick.symbol = order.symbol) (level : tick.ask = tick.bid) :
    SimBroker.firesOnTick tick.symbol tick.bid tick.ask order = true ↔
      if waitsForRise order.type order.side then price ≤ tick.bid
      else tick.bid ≤ price := by
  unfold SimBroker.firesOnTick pendingTriggered
  rw [level, mine, priced]
  cases type : order.type with
  | market => exact absurd type kind
  | limit => cases order.side <;> simp [waitsForRise]
  | stop => cases order.side <;> simp [waitsForRise]
  | stopLimit => cases order.side <;> simp [waitsForRise]

theorem firesOnBar_iff {order : Order} {price : ℚ} {bar : Bar}
    (priced : order.price = some price) (mine : bar.symbol = order.symbol) :
    SimBroker.firesOnBar bar.symbol bar.high bar.low order = true ↔
      Covers bar price := by
  unfold SimBroker.firesOnBar
  rw [priced]
  simp [mine, Covers]

/-- Some tick of a bar triggers an order exactly when the bar covers the trigger
or lies beyond it. -/
theorem barOf_triggers_iff (order : Order) {price : ℚ} {bar : Bar}
    {chunk : List Tick} (made : BarOf bar chunk) :
    (∃ tick ∈ chunk, if waitsForRise order.type order.side then
        price ≤ tick.bid else tick.bid ≤ price) ↔
      Covers bar price ∨ JumpsOver order price bar := by
  have nonempty : bar.low ≤ bar.high := bar.low_le_open.trans bar.open_le_high
  unfold Covers JumpsOver
  cases waitsForRise order.type order.side with
  | true =>
      simp only [if_true]
      constructor
      · rintro ⟨tick, member, reached⟩
        have below := reached.trans (made.within tick member).2
        cases le_or_gt bar.low price with
        | inl above => exact .inl ⟨above, below⟩
        | inr beyond => exact .inr beyond
      · intro reaches
        rcases made.highest with ⟨top, member, same⟩
        refine ⟨top, member, ?_⟩
        rw [same]
        rcases reaches with ⟨-, below⟩ | beyond
        · exact below
        · exact beyond.le.trans nonempty
  | false =>
      simp only [Bool.false_eq_true, if_false]
      constructor
      · rintro ⟨tick, member, reached⟩
        have above := (made.within tick member).1.trans reached
        cases le_or_gt price bar.high with
        | inl below => exact .inl ⟨above, below⟩
        | inr beyond => exact .inr beyond
      · intro reaches
        rcases made.lowest with ⟨bottom, member, same⟩
        refine ⟨bottom, member, ?_⟩
        rw [same]
        rcases reaches with ⟨above, -⟩ | beyond
        · exact above
        · exact nonempty.trans beyond.le

/-- The ticks up to the last tick of some bars. -/
def ticksThrough (bars : List Bar) (ticks : List Tick) : List Tick :=
  ticks.take (bars.map Bar.tickVolume).sum

/-- The ticks through the first bars are those of their stretches. -/
theorem ticksThrough_take {bars : List Bar} {chunks : List (List Tick)}
    (made : List.Forall₂ BarOf bars chunks) (rest : List Tick) (k : Nat) :
    ticksThrough (bars.take k) (chunks.flatten ++ rest) =
      (chunks.take k).flatten := by
  unfold ticksThrough
  induction made generalizing k with
  | nil => simp
  | @cons bar chunk bars chunks first others ih =>
      cases k with
      | zero => simp
      | succ k =>
          rw [List.take_succ_cons, List.take_succ_cons, List.map_cons,
            List.sum_cons, List.flatten_cons, List.flatten_cons, first.counted,
            List.append_assoc, List.take_length_add_append, ih k]

/-- Over stretches of ticks and the bars made of them. -/
theorem exists_trigger_iff {order : Order} {price : ℚ} {bars : List Bar}
    {chunks : List (List Tick)} (made : List.Forall₂ BarOf bars chunks) :
    (∃ tick ∈ chunks.flatten, if waitsForRise order.type order.side then
        price ≤ tick.bid else tick.bid ≤ price) ↔
      ∃ bar ∈ bars, Covers bar price ∨ JumpsOver order price bar := by
  induction made with
  | nil => simp
  | cons first others ih =>
      rw [List.flatten_cons, List.exists_mem_cons_iff, ← ih,
        ← barOf_triggers_iff order first]
      constructor
      · rintro ⟨tick, member, reached⟩
        rcases List.mem_append.mp member with here | later
        · exact .inl ⟨tick, here, reached⟩
        · exact .inr ⟨tick, later, reached⟩
      · rintro (⟨tick, here, reached⟩ | ⟨tick, later, reached⟩)
        · exact ⟨tick, List.mem_append_left _ here, reached⟩
        · exact ⟨tick, List.mem_append_right _ later, reached⟩

/-! ### Agreement -/

/-- By the end of every bar, the order has fired on the ticks if and only if it
has fired on the bars. -/
def TriggersAgree (cfg : SimConfig σ) (b : SimBroker σ) (ticket : Ticket)
    (ticks : List Tick) (bars : List Bar) : Prop :=
  ∀ k ≤ bars.length,
    Fires (tickStep cfg) b ticket (ticksThrough (bars.take k) ticks) ↔
      Fires (barStep cfg) b ticket (bars.take k)

/-- No bar lies wholly beyond the trigger before a bar has covered it. -/
def NoJumpOver (order : Order) (price : ℚ) (bars : List Bar) : Prop :=
  ∀ before bar after, bars = before ++ bar :: after →
    JumpsOver order price bar → ∃ earlier ∈ before, Covers earlier price

theorem covers_not_jumpsOver {order : Order} {price : ℚ} {bar : Bar}
    (covers : Covers bar price) : ¬ JumpsOver order price bar := by
  unfold JumpsOver
  split
  · exact not_lt.mpr covers.1
  · exact not_lt.mpr covers.2

/-- Reaching and covering the trigger begin with the same bar exactly when no bar
jumps over it first. -/
theorem reaches_iff_covers_iff (order : Order) (price : ℚ) (bars : List Bar) :
    (∀ k ≤ bars.length,
        (∃ bar ∈ bars.take k, Covers bar price ∨ JumpsOver order price bar) ↔
          ∃ bar ∈ bars.take k, Covers bar price) ↔
      NoJumpOver order price bars := by
  constructor
  · intro agree before bar after whole jumps
    have upTo : bars.take (before.length + 1) = before ++ [bar] := by
      rw [whole, List.take_length_add_append]
      rfl
    have long : before.length + 1 ≤ bars.length := by
      rw [whole, List.length_append, List.length_cons]
      omega
    have reached := agree (before.length + 1) long
    rw [upTo] at reached
    rcases reached.mp ⟨bar, by simp, .inr jumps⟩ with ⟨earlier, member, covers⟩
    rcases List.mem_append.mp member with old | own
    · exact ⟨earlier, old, covers⟩
    · rw [List.mem_singleton.mp own] at covers
      exact absurd jumps (covers_not_jumpsOver covers)
  · intro noJump k _
    constructor
    · rintro ⟨bar, member, covers | jumps⟩
      · exact ⟨bar, member, covers⟩
      · rcases List.append_of_mem member with ⟨before, after, taken⟩
        have whole : bars = before ++ bar :: (after ++ bars.drop k) := by
          rw [← List.cons_append, ← List.append_assoc, ← taken,
            List.take_append_drop]
        rcases noJump before bar _ whole jumps with ⟨earlier, old, covers⟩
        refine ⟨earlier, ?_, covers⟩
        rw [taken]
        exact List.mem_append_left _ old
    · rintro ⟨bar, member, covers⟩
      exact ⟨bar, member, .inl covers⟩

theorem replayCalls_take {α : Type}
    {step : SimBroker σ → α → Call σ (List Order)} :
    ∀ (xs : List α) (b : SimBroker σ) (k : Nat),
      (replayCalls step b xs).isSome = true →
      (replayCalls step b (xs.take k)).isSome = true
  | _, _, 0, _ => rfl
  | [], _, _ + 1, through => through
  | x :: xs, b, k + 1, through => by
      rw [List.take_succ_cons]
      unfold replayCalls at through ⊢
      split at through
      · cases through
      · exact replayCalls_take xs _ k through

/-- For a resting order and the bars aggregated from a zero-spread tick path, with
calls that all return, tick mode and bar mode agree at the end of every bar if and
only if no bar jumps over the trigger. -/
theorem triggers_agree_iff {cfg : SimConfig σ} {b : SimBroker σ}
    {ticket : Ticket} {order : Order} {price : ℚ} {ticks : List Tick}
    {bars : List Bar} {tf : Timeframe} (tf_ne : tf ≠ .tick)
    (resting : b.pending.get? ticket = some order)
    (priced : order.price = some price) (kind : order.type ≠ .market)
    (path : ∀ tick ∈ ticks, tick.symbol = order.symbol ∧ tick.ask = tick.bid)
    (aggregated : ((BarAggregator.create order.symbol tf tf_ne).feed ticks).2 =
      bars)
    (ticksReturn :
      (replayCalls (tickStep cfg) b (ticksThrough bars ticks)).isSome = true)
    (barsReturn : (replayCalls (barStep cfg) b bars).isSome = true) :
    TriggersAgree cfg b ticket ticks bars ↔ NoJumpOver order price bars := by
  rcases BarAggregator.feed_spec ticks
    (BarAggregator.create order.symbol tf tf_ne) [] rfl rfl
    (fun tick member => (path tick member).1) with ⟨chunks, rest, whole, made⟩
  rw [List.nil_append] at whole
  rw [aggregated] at made
  have named : ∀ bar ∈ bars, bar.symbol = order.symbol := by
    intro bar member
    rw [← aggregated] at member
    exact BarAggregator.feed_symbol ticks _ bar member
  have through : ∀ k, ticksThrough (bars.take k) ticks =
      (chunks.take k).flatten := by
    intro k
    rw [whole]
    exact ticksThrough_take made rest k
  have onTicks : ∀ k,
      Fires (tickStep cfg) b ticket (ticksThrough (bars.take k) ticks) ↔
        ∃ bar ∈ bars.take k, Covers bar price ∨ JumpsOver order price bar := by
    intro k
    have returns : (replayCalls (tickStep cfg) b
        (ticksThrough (bars.take k) ticks)).isSome = true := by
      have first : ticksThrough (bars.take k) ticks =
          (ticksThrough bars ticks).take
            ((bars.take k).map Bar.tickVolume).sum := by
        unfold ticksThrough
        rw [List.take_take, min_eq_left]
        exact List.Sublist.sum_le_sum ((List.take_sublist k bars).map _)
          (fun _ _ => Nat.zero_le _)
      rw [first]
      exact replayCalls_take _ b _ ticksReturn
    rw [fires_iff _ b (fun tick _ => tickStep_triggersOn cfg order tick) resting
      returns, through k, ← exists_trigger_iff (List.forall₂_take k made)]
    have inPath : ∀ tick ∈ (chunks.take k).flatten, tick ∈ ticks := by
      intro tick member
      rw [← through k] at member
      exact List.take_subset _ _ member
    constructor
    · rintro ⟨tick, member, firing⟩
      rcases path tick (inPath tick member) with ⟨mine, level⟩
      exact ⟨tick, member, (firesOnTick_iff priced kind mine level).mp firing⟩
    · rintro ⟨tick, member, reached⟩
      rcases path tick (inPath tick member) with ⟨mine, level⟩
      exact ⟨tick, member, (firesOnTick_iff priced kind mine level).mpr reached⟩
  have onBars : ∀ k, Fires (barStep cfg) b ticket (bars.take k) ↔
      ∃ bar ∈ bars.take k, Covers bar price := by
    intro k
    rw [fires_iff _ b (fun bar _ => barStep_triggersOn cfg order bar) resting
      (replayCalls_take bars b k barsReturn)]
    constructor
    · rintro ⟨bar, member, firing⟩
      have mine := named bar (List.take_subset _ _ member)
      exact ⟨bar, member, (firesOnBar_iff priced mine).mp firing⟩
    · rintro ⟨bar, member, covers⟩
      have mine := named bar (List.take_subset _ _ member)
      exact ⟨bar, member, (firesOnBar_iff priced mine).mpr covers⟩
  unfold TriggersAgree
  simp only [onTicks, onBars]
  exact reaches_iff_covers_iff order price bars

/-! ### A price gap over a trigger -/

/-- A buy stop above the market. -/
def buyStop : OrderRequest where
  strategyId := "breakout"
  symbol := "EURUSD"
  side := .buy
  type := .stop
  volume := 1
  price := some (3 / 2)
  sl := none
  tp := none
  comment := ""
  magic := 0
  clientOrderId := "a"
  volume_pos := one_quote_pos

/-- The broker with the stop resting under ticket 1 at a market price of 1. -/
def stopResting : SimBroker Unit :=
  (((SimBroker.create 1000 () 0).setMarket "EURUSD" 1).placeOrder .plain
    buyStop).broker

/-- A tick without a spread, some seconds after the start. -/
def levelTick (seconds : Nat) (price : ℚ) (positive : 0 < price) : Tick where
  symbol := "EURUSD"
  time := seconds * Time.usPerSecond
  bid := price
  ask := price
  bid_pos := positive
  ask_pos := positive

/-- The second minute rises through the trigger. -/
def risingPath : List Tick :=
  [levelTick 0 1 one_quote_pos, levelTick 60 1 one_quote_pos,
    levelTick 70 2 two_quote_pos, levelTick 120 2 two_quote_pos]

/-- The second minute opens beyond the trigger. -/
def gappingPath : List Tick :=
  [levelTick 0 1 one_quote_pos, levelTick 60 2 two_quote_pos,
    levelTick 120 2 two_quote_pos]

def minuteBars (ticks : List Tick) : List Bar :=
  ((BarAggregator.create "EURUSD" .m1 minute_ne_tick).feed ticks).2

def restingStop : Order :=
  ((SimBroker.create 1000 () 0).setMarket "EURUSD" 1).pendingOrder buyStop

/-- Where the price passes through the trigger within a bar, both modes fire by
the end of that bar. -/
theorem rising_path_agrees :
    TriggersAgree .plain stopResting 1 risingPath (minuteBars risingPath) := by
  have lows : (minuteBars risingPath).map Bar.low = [1, 1] := by decide +kernel
  have path : ∀ tick ∈ risingPath,
      tick.symbol = restingStop.symbol ∧ tick.ask = tick.bid := by
    simp [risingPath, levelTick, restingStop, SimBroker.pendingOrder, buyStop]
  have noJump : NoJumpOver restingStop (3 / 2) (minuteBars risingPath) := by
    intro before bar after whole jumps
    have member : bar.low ∈ (minuteBars risingPath).map Bar.low := by
      rw [whole]
      exact List.mem_map_of_mem (by simp)
    have jumped : 3 / 2 < bar.low := jumps
    rw [lows] at member
    have low : bar.low = 1 := by simpa using member
    rw [low] at jumped
    norm_num at jumped
  exact (triggers_agree_iff (show Timeframe.m1 ≠ .tick by decide)
    (by decide +kernel) rfl (by decide) path rfl (by decide +kernel)
    (by decide +kernel)).mpr noJump

/-- Not every zero-spread path has the modes agree, even if the condition was not
met before it: when the price jumps over the trigger between two bars, the ticks
fire the order and the bars never do. -/
theorem gap_over_trigger_disagrees :
    ¬ ∀ (cfg : SimConfig Unit) (b : SimBroker Unit) (ticket : Ticket)
        (order : Order) (price last : ℚ) (ticks : List Tick) (tf : Timeframe)
        (tf_ne : tf ≠ .tick),
        b.pending.get? ticket = some order → order.price = some price →
        order.type ≠ .market → b.lastPrice.get? order.symbol = some last →
        pendingTriggered order last last = false →
        (∀ tick ∈ ticks, tick.symbol = order.symbol ∧ tick.ask = tick.bid) →
        TriggersAgree cfg b ticket ticks
          ((BarAggregator.create order.symbol tf tf_ne).feed ticks).2 := by
  intro claim
  have agree := claim .plain stopResting 1 restingStop (3 / 2) 1 gappingPath .m1
    (by decide) (by decide +kernel) rfl (by decide) (by decide +kernel)
    (by decide +kernel)
    (by simp [gappingPath, levelTick, restingStop, SimBroker.pendingOrder,
      buyStop])
  have onTicks :
      (replayCalls (tickStep .plain) stopResting
        (ticksThrough ((minuteBars gappingPath).take 2) gappingPath)).map
          (fun b => b.pending.get? 1) = some none := by
    decide +kernel
  have onBars :
      (replayCalls (barStep .plain) stopResting
        ((minuteBars gappingPath).take 2)).map
          (fun b => b.pending.get? 1) = some (some restingStop) := by
    decide +kernel
  rcases Option.map_eq_some_iff.mp onTicks with ⟨b, replayed, gone⟩
  have both : 2 ≤ (minuteBars gappingPath).length := by decide +kernel
  rcases (agree 2 both).mp ⟨b, replayed, gone⟩ with ⟨b', replayed', gone'⟩
  have same : replayCalls (barStep .plain) stopResting
      ((minuteBars gappingPath).take 2) = some b' := replayed'
  rw [same, Option.map_some, gone'] at onBars
  cases onBars

end StingerFx
