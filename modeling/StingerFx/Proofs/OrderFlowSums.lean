/-
Module: StingerFx.Proofs.OrderFlowSums
Layer: Proofs
Purpose: What the order flow scalper sums at a bar. Its deque is bounded, and pruned at
  those bars only at which the gates let it look; however ticks, bars, fills and closes
  come, the imbalance at a bar is that of the last ticks of its symbol that are not
  older than the window, each signed by the tick before it.
Trusted boundary: none (fully proved)
Main exports: OrderFlowImbalance.signedFlow, OrderFlowImbalance.imbalance,
  OrderFlowImbalance.Tracks, OrderFlowImbalance.imbalance_exact
-/
import StingerFx.Lib.SlidingWindow
import StingerFx.Proofs.BarGroups
import StingerFx.Proofs.LostTickets
import StingerFx.Proofs.StreamingIndicators

namespace StingerFx

open Lib Time

namespace OrderFlowImbalance

variable (params : OrderFlowImbalanceParams)

/-! ### What the ticks say -/

/-- The ticks of the symbol, in the order of their hooks. -/
def ownTicks (labels : List TicketLabel) : List SizedTick :=
  labels.filterMap fun
    | .tick tick => if tick.symbol = params.symbol then some tick else none
    | _ => none

/-- The entry bars, in the order of their hooks. -/
def entryBars (labels : List TicketLabel) : List Bar :=
  labels.filterMap fun
    | .bar _ bar => if params.isEntry bar then some bar else none
    | _ => none

/-- Each tick but the first, with the sign of its shift. -/
def signedFlow : List SizedTick → List (Time × Int)
  | first :: second :: rest =>
      (second.time, signOf first.mid second.mid * second.volume) ::
        signedFlow (second :: rest)
  | _ => []

/-- The oldest time that counts at a bar. -/
def cutoffOf (bar : Bar) : Time := bar.time - params.ofiWindowSeconds * usPerSecond

/-- The sum of the last signed ticks that are no older than the window of a bar. -/
def imbalance (ticks : List SizedTick) (bar : Bar) : Int :=
  ((recent Prod.fst (cutoffOf params bar)
    (lastN params.ofiLookbackTicks (signedFlow ticks))).map Prod.snd).sum

/-- What `on_bar` sends, with the imbalance of all ticks. -/
def entryOn (scene : TicketScene) (bar : Bar) (book : TicketBook)
    (ticks : List SizedTick) : Except IndicatorError (Option TicketEntry) :=
  let gated := book.gate params.toTicketCadence scene.ctx exitReason fun _ => false
  if gated.free = false then .ok none
  else do
    let some atrValue ← gatesPass params scene bar | return none
    entry params scene bar atrValue (imbalance params ticks bar)

variable {params}

theorem signedFlow_snoc (ticks : List SizedTick) (last next : SizedTick) :
    signedFlow (ticks ++ [last] ++ [next]) =
      signedFlow (ticks ++ [last]) ++
        [(next.time, signOf last.mid next.mid * next.volume)] := by
  induction ticks with
  | nil => rfl
  | cons first rest ih =>
      cases rest with
      | nil => rfl
      | cons second rest =>
          have longer := ih
          simp only [List.cons_append] at longer ⊢
          rw [signedFlow, longer, signedFlow, List.cons_append]

/-- The times of the flow are those of the ticks. -/
theorem times_signedFlow (ticks : List SizedTick) :
    (signedFlow ticks).map Prod.fst = (ticks.map fun tick => tick.time).tail := by
  induction ticks with
  | nil => rfl
  | cons first rest ih =>
      cases rest with
      | nil => rfl
      | cons second rest =>
          rw [signedFlow, List.map_cons, ih]
          rfl

theorem ordered_signedFlow {ticks : List SizedTick}
    (ordered : ticks.Pairwise fun a b => a.time ≤ b.time) :
    (signedFlow ticks).Pairwise fun a b => a.1 ≤ b.1 := by
  have times : (ticks.map fun tick => tick.time).Pairwise (· ≤ ·) :=
    List.pairwise_map.mpr ordered
  have later := times.sublist (List.tail_sublist _)
  rw [← times_signedFlow] at later
  exact List.pairwise_map.mp later

/-! ### What the deque holds -/

variable (params) in
/-- The deque is the bounded history without what was stale at some bar. -/
structure Tracks (strategy : OrderFlowImbalance) (past : List TicketLabel) : Prop where
  latest : strategy.prevMid = (ownTicks params past).getLast?.map SizedTick.mid
  empty : ownTicks params past = [] → strategy.ofiDeque = []
  sized : ownTicks params past ≠ [] → strategy.maxlen = params.ofiLookbackTicks
  window : ∀ cutoff, (∀ bar ∈ entryBars params past, cutoffOf params bar ≤ cutoff) →
    Windowed Prod.fst cutoff
      (lastN params.ofiLookbackTicks (signedFlow (ownTicks params past)))
      strategy.ofiDeque

variable {strategy : OrderFlowImbalance} {past : List TicketLabel}

theorem tracks_start : Tracks params start [] where
  latest := rfl
  empty := fun _ => rfl
  sized := fun seen => absurd rfl seen
  window := by
    intro cutoff _
    have empty : lastN params.ofiLookbackTicks (signedFlow (ownTicks params [])) = [] :=
      List.drop_nil
    rw [empty]
    exact .refl cutoff []

theorem ownTicks_append (past labels : List TicketLabel) :
    ownTicks params (past ++ labels) = ownTicks params past ++ ownTicks params labels :=
  List.filterMap_append

theorem entryBars_append (past labels : List TicketLabel) :
    entryBars params (past ++ labels) =
      entryBars params past ++ entryBars params labels :=
  List.filterMap_append

/-- A step that does not bring a tick of the symbol, and leaves the deque alone. -/
theorem Tracks.quiet (tracks : Tracks params strategy past) {label : TicketLabel}
    (nothing : ownTicks params [label] = []) (book : TicketBook) :
    Tracks params { strategy with book := book } (past ++ [label]) := by
  have ticks : ownTicks params (past ++ [label]) = ownTicks params past := by
    rw [ownTicks_append, nothing, List.append_nil]
  constructor
  · rw [ticks]
    exact tracks.latest
  · rw [ticks]
    exact tracks.empty
  · rw [ticks]
    exact tracks.sized
  · intro cutoff late
    rw [ticks]
    apply tracks.window cutoff
    intro bar member
    apply late bar
    rw [entryBars_append]
    exact List.mem_append_left _ member

/-- The first tick only fixes the price that the next one is compared with. -/
theorem onTick_seeds {tick : SizedTick} (own : tick.symbol = params.symbol)
    (unseen : strategy.prevMid = none) (empty : strategy.ofiDeque = []) :
    onTick params tick strategy =
      { strategy with maxlen := params.ofiLookbackTicks, prevMid := some tick.mid } := by
  obtain ⟨book, deque, maxlen, prevMid⟩ := strategy
  cases unseen
  cases empty
  have resized : lastN params.ofiLookbackTicks ([] : List (Time × Int)) = [] :=
    List.drop_nil
  rw [onTick, if_neg (not_not_intro own)]
  by_cases same : maxlen = params.ofiLookbackTicks
  · rw [if_neg (not_not_intro same)]
    dsimp only
    rw [same]
  · rw [if_pos same]
    dsimp only
    rw [resized]

theorem onTick_next {tick : SizedTick} {mid : ℚ} (own : tick.symbol = params.symbol)
    (seen : strategy.prevMid = some mid)
    (sized : strategy.maxlen = params.ofiLookbackTicks) :
    onTick params tick strategy =
      { strategy with
        prevMid := some tick.mid
        ofiDeque := pushBounded params.ofiLookbackTicks strategy.ofiDeque
          (tick.time, signOf mid tick.mid * tick.volume) } := by
  obtain ⟨book, deque, maxlen, prevMid⟩ := strategy
  cases seen
  rw [onTick, if_neg (not_not_intro own)]
  dsimp only at sized ⊢
  rw [if_neg (not_not_intro sized), ← sized]

/-- A tick of the symbol enters behind what is kept. -/
theorem Tracks.tick (tracks : Tracks params strategy past) (tick : SizedTick) :
    Tracks params (onTick params tick strategy) (past ++ [.tick tick]) := by
  have bars : entryBars params (past ++ [.tick tick]) = entryBars params past := by
    rw [entryBars_append]
    exact List.append_nil _
  by_cases own : tick.symbol = params.symbol
  · have ticks : ownTicks params (past ++ [.tick tick]) =
        ownTicks params past ++ [tick] := by
      rw [ownTicks_append]
      congr 1
      exact List.filterMap_cons_some (if_pos own)
    have newest : (some tick.mid : Option ℚ) =
        (ownTicks params past ++ [tick]).getLast?.map SizedTick.mid := by
      rw [List.getLast?_append_of_ne_nil _ (List.cons_ne_nil _ _)]
      rfl
    have some_ : ownTicks params past ++ [tick] ≠ [] :=
      List.append_ne_nil_of_right_ne_nil _ (List.cons_ne_nil _ _)
    rcases List.eq_nil_or_concat (ownTicks params past) with
      first | ⟨before, last, seen⟩
    · have unseen : strategy.prevMid = none := by
        rw [tracks.latest, first]
        rfl
      rw [onTick_seeds own unseen (tracks.empty first)]
      constructor
      · rw [ticks]
        exact newest
      · intro _
        exact tracks.empty first
      · intro _
        rfl
      · intro cutoff late
        rw [bars] at late
        have window := tracks.window cutoff late
        rw [ticks, first]
        rw [first] at window
        exact window
    · have mid : strategy.prevMid = some last.mid := by
        rw [tracks.latest, seen, List.concat_eq_append, List.getLast?_concat]
        rfl
      have sized : strategy.maxlen = params.ofiLookbackTicks := by
        apply tracks.sized
        rw [seen, List.concat_eq_append]
        exact List.append_ne_nil_of_right_ne_nil _ (List.cons_ne_nil _ _)
      rw [onTick_next own mid sized]
      constructor
      · rw [ticks]
        exact newest
      · intro none_
        rw [ticks] at none_
        exact absurd none_ some_
      · intro _
        exact sized
      · intro cutoff late
        rw [bars] at late
        have window := tracks.window cutoff late
        rw [ticks, seen, List.concat_eq_append, signedFlow_snoc,
          ← pushBounded_lastN]
        rw [seen, List.concat_eq_append] at window
        exact (window.push _).bound params.ofiLookbackTicks
  · have nothing : ownTicks params [.tick tick] = [] :=
      by
      rw [ownTicks, List.filterMap_cons_none]
      · rfl
      · exact if_neg own
    rw [onTick, if_pos own]
    exact tracks.quiet nothing strategy.book

/-- What leaves the deque at a bar is stale there. -/
theorem Tracks.prune (tracks : Tracks params strategy past) {scene : TicketScene}
    {bar : Bar} (own : params.isEntry bar = true) (book : TicketBook) :
    Tracks params
      { strategy with
        book := book
        ofiDeque := (computeOfiSum params bar.time strategy.ofiDeque).1 }
      (past ++ [.bar scene bar]) := by
  have ticks : ownTicks params (past ++ [.bar scene bar]) = ownTicks params past := by
    rw [ownTicks_append]
    exact List.append_nil _
  have bars : entryBars params (past ++ [.bar scene bar]) =
      entryBars params past ++ [bar] := by
    rw [entryBars_append]
    congr 1
    exact List.filterMap_cons_some (if_pos own)
  constructor
  · rw [ticks]
    exact tracks.latest
  · intro none_
    rw [ticks] at none_
    dsimp only
    rw [tracks.empty none_]
    rfl
  · rw [ticks]
    exact tracks.sized
  · intro cutoff late
    rw [bars] at late
    rw [ticks]
    have window := tracks.window cutoff fun earlier member =>
      late earlier (List.mem_append_left _ member)
    exact window.expire_before (late bar (List.mem_append_right _ List.mem_cons_self))

theorem Tracks.bar (tracks : Tracks params strategy past) (scene : TicketScene)
    (bar : Bar) :
    Tracks params (onBar params scene bar strategy).strategy
      (past ++ [.bar scene bar]) := by
  have kept := @Tracks.quiet _ _ _ tracks (.bar scene bar) rfl
  cases own : params.isEntry bar with
  | false =>
      rw [onBar, if_pos own]
      exact kept strategy.book
  | true =>
      unfold onBar
      rw [if_neg (by rw [own]; exact Bool.noConfusion)]
      dsimp only
      split
      · exact kept _
      · split
        · exact kept _
        · exact kept _
        · exact tracks.prune own _

theorem Tracks.step {s s' : TicketDesk (scalper params)} {label : TicketLabel}
    (tracks : Tracks params s.strategy past) (taken : TicketDesk.Step s label s') :
    Tracks params s'.strategy (past ++ [label]) := by
  cases label with
  | tick tick =>
      cases taken
      exact tracks.tick tick
  | bar scene bar =>
      have next := tracks.bar scene bar
      simp only [TicketDesk.Step, stepOf?, TicketDesk.step?] at taken
      split at taken
      · cases taken
        exact next
      · cases taken
        exact next
  | filled index ctx order =>
      simp only [TicketDesk.Step, stepOf?, TicketDesk.step?] at taken
      split at taken
      · cases taken
        exact tracks.quiet rfl _
      · cases taken
  | missed index =>
      simp only [TicketDesk.Step, stepOf?, TicketDesk.step?] at taken
      split at taken
      · cases taken
        exact tracks.quiet rfl s.strategy.book
      · cases taken
  | closed position =>
      cases taken
      exact tracks.quiet rfl _

theorem Tracks.run {s s' : TicketDesk (scalper params)} {labels : List TicketLabel}
    (run : Run TicketDesk.Step s labels s') :
    ∀ past, Tracks params s.strategy past → Tracks params s'.strategy (past ++ labels) := by
  induction run with
  | refl s =>
      intro past tracks
      rw [List.append_nil]
      exact tracks
  | step head tail ih =>
      intro past tracks
      have whole := ih _ (tracks.step head)
      rw [List.append_assoc] at whole
      exact whole

/-- The deque, pruned at a bar, has exactly the last signed ticks that still count. -/
theorem Tracks.sum_eq (tracks : Tracks params strategy past) {bar : Bar}
    (ordered : (ownTicks params past).Pairwise fun a b => a.time ≤ b.time)
    (newest : ∀ earlier ∈ entryBars params past, earlier.time ≤ bar.time) :
    (computeOfiSum params bar.time strategy.ofiDeque).2 =
      imbalance params (ownTicks params past) bar := by
  have window := tracks.window (cutoffOf params bar) fun earlier member =>
    Int.sub_le_sub_right (newest earlier member) _
  have flow := (ordered_signedFlow ordered).sublist
    (List.drop_sublist ((signedFlow (ownTicks params past)).length -
      params.ofiLookbackTicks) _)
  have same := window.expire_eq_recent flow le_rfl
  exact congrArg (fun window => (window.map Prod.snd).sum) same

/-- However ticks, bars, fills, closes and refusals come: where the ticks of the symbol
come in the order of their times, what the scalper sends at an entry bar that is not
older than those before is decided on the imbalance of exactly the last ticks that are
no older than the window, whatever bars were skipped over a position, a cooldown or a
gate. -/
theorem imbalance_exact {id : StrategyId} {labels : List TicketLabel}
    {s : TicketDesk (scalper params)}
    (run : Run TicketDesk.Step (TicketDesk.boot (scalper params) id) labels s)
    (ordered : (ownTicks params labels).Pairwise fun a b => a.time ≤ b.time)
    {bar : Bar} (own : params.isEntry bar = true)
    (newest : ∀ earlier ∈ entryBars params labels, earlier.time ≤ bar.time)
    (scene : TicketScene) :
    (onBar params scene bar s.strategy).entry =
      entryOn params scene bar ((scalper params).book s.strategy)
        (ownTicks params labels) := by
  have tracks : Tracks params s.strategy labels := Tracks.run run [] tracks_start
  have sum := tracks.sum_eq ordered newest
  change _ = entryOn params scene bar s.strategy.book (ownTicks params labels)
  unfold onBar entryOn
  rw [if_neg (by rw [own]; exact Bool.noConfusion)]
  dsimp only
  split
  · rfl
  · cases passes : gatesPass params scene bar with
    | error error => rfl
    | ok far =>
        cases far with
        | none => rfl
        | some atrValue =>
            dsimp only
            rw [sum]
            rfl

/-! The first rise is too old at the bar of 7:15, and the last one is in the period of the
bar itself. -/

open ScalperDesk (gold_pos breakingGold)

theorem lowGold_pos : (0 : ℚ) < 2600 := gold_pos.1

theorem highGold_pos : (0 : ℚ) < 2601 := gold_pos.2

def goldTick (seconds : Nat) (rises : Bool) (volume : Int) : TicketLabel :=
  .tick
    { toTick :=
        if rises then BarAggregator.quoteAt "XAUUSD" (25200 + seconds) 2601 highGold_pos
        else BarAggregator.quoteAt "XAUUSD" (25200 + seconds) 2600 lowGold_pos
      volume := volume }

def morningTicks : List TicketLabel :=
  [goldTick 780 false 9, goldTick 810 true 500, goldTick 850 false 20,
    goldTick 860 true 150, goldTick 930 true 100, goldTick 935 false 10,
    goldTick 940 true 110]

theorem morningTicks_buy :
    (replay? (fun _ _ => True) TicketDesk.step?
      (TicketDesk.boot (scalper .default) "s1") morningTicks).map
        (fun s => (s.strategy.ofiDeque.length,
          ((ownTicks .default morningTicks).length,
            imbalance .default (ownTicks .default morningTicks) (breakingGold .m1 15)),
          (onBar .default TicketDesk.goldScene (breakingGold .m1 15)
            s.strategy).sent.map Signal.comment)) =
      some (6, (7, 230), some "ofis_buy") := by
  decide +kernel

theorem morningTicks_exact :
    ∃ s : TicketDesk (scalper .default),
      (onBar .default TicketDesk.goldScene (breakingGold .m1 15) s.strategy).entry =
        entryOn .default TicketDesk.goldScene (breakingGold .m1 15)
          ((scalper .default).book s.strategy) (ownTicks .default morningTicks) ∧
      imbalance .default (ownTicks .default morningTicks) (breakingGold .m1 15) = 230 := by
  rcases Option.map_eq_some_iff.mp morningTicks_buy with ⟨s, reached, seen⟩
  simp only [Prod.mk.injEq] at seen
  exact ⟨s, imbalance_exact (run_of_replay? reached).unguard (by decide +kernel)
    (by decide +kernel) (by decide +kernel) _, seen.2.1.2⟩

end OrderFlowImbalance

end StingerFx
