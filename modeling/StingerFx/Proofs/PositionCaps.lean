/-
Module: StingerFx.Proofs.PositionCaps
Layer: Proofs
Purpose: Caps on open positions across the bus. A signal is judged by counters
  that lag behind the broker, and orders that rest are not counted at all. The
  cap holds along every run in which no judgement depends on that lag; a burst of
  queued signals breaks it.
Trusted boundary: none (fully proved)
Main exports: CountedInTime, position_caps_hold, queued_signals_exceed_cap
-/
import StingerFx.Proofs.OrderFlow

namespace StingerFx

open Lib

variable {σ : Type}

/-- A signal that the monitor allows finds its counters below the caps. -/
theorem counter_lt_cap_of_allowed {m : RiskMonitor} {now : Time}
    {signal : Signal} (allowed : (m.checkSignal now signal).1.reason = none)
    {scope : Scope} (inside : scope.signal signal = true)
    (capped : 0 < scope.cap m.cfg) :
    scope.counter m < scope.cap m.cfg := by
  unfold RiskMonitor.checkSignal at allowed
  split at allowed
  · cases allowed
  · split at allowed
    · cases allowed
    · dsimp only at allowed
      split at allowed
      · cases allowed
      · rename_i passes
        have books := m.maybeRollDaily_books now
        have cfg := m.maybeRollDaily_cfg now
        rcases Prod.mk.inj books with ⟨byStrategy, rest⟩
        have bySymbol := (Prod.mk.inj rest).1
        simp only [RiskMonitor.limitReason, Option.orElse_eq_orElse,
          Option.orElse_eq_or, Option.or_eq_none_iff] at passes
        rcases passes with ⟨strategyCap, -, -, symbolCap, -⟩
        cases scope with
        | strategy id =>
            have same : signal.strategyId = id := of_decide_eq_true inside
            simp only [RiskMonitor.strategyCapReason, byStrategy, cfg,
              same] at strategyCap
            split at strategyCap
            · cases strategyCap
            · rename_i below
              simp only [Scope.cap, Scope.counter] at capped ⊢
              by_contra reached
              exact below ⟨capped, not_lt.mp reached⟩
        | symbol name =>
            have same : signal.symbol = name := of_decide_eq_true inside
            simp only [RiskMonitor.symbolCapReason, bySymbol, cfg,
              same] at symbolCap
            simp only [Scope.cap, Scope.counter] at capped ⊢
            cases configured : m.cfg.perSymbol.get? name with
            | none =>
                rw [configured] at capped
                exact absurd capped (lt_irrefl 0)
            | some symCfg =>
                rw [configured] at capped symbolCap
                dsimp only at capped symbolCap ⊢
                split at symbolCap
                · cases symbolCap
                · rename_i below
                  by_contra reached
                  exact below ⟨capped, not_lt.mp reached⟩

/-- A parked order waits under the next ticket. -/
theorem restingTickets_parked {scope : Scope} {b : SimBroker σ}
    {req : OrderRequest} {ticket : Ticket}
    (rests : ticket ∈ scope.restingTickets (b.parkPending req).broker) :
    ticket ∈ scope.restingTickets b ∨
      ticket = b.nextTicket ∧ scope.request req = true := by
  rcases Scope.mem_restingTickets.mp rests with ⟨order, waiting, inside⟩
  simp only [SimBroker.parkPending, Dict.get?_set] at waiting
  split at waiting
  · rename_i same
    cases waiting
    right
    refine ⟨same, ?_⟩
    cases scope <;> exact inside
  · exact .inl (Scope.mem_restingTickets.mpr ⟨order, waiting, inside⟩)

/-- A placement adds at most its own ticket, and only in the scopes of its
request. -/
theorem heldTickets_placed (scope : Scope) {cfg : SimConfig σ}
    {b : SimBroker σ} {req : OrderRequest} {call : Call σ OrderResult}
    (placed : SimBroker.Placed cfg b req call) :
    scope.heldTickets call.broker ⊆
      if scope.request req then insert b.nextTicket (scope.heldTickets b)
      else scope.heldTickets b := by
  have wider : scope.heldTickets b ⊆
      if scope.request req then insert b.nextTicket (scope.heldTickets b)
      else scope.heldTickets b := by
    split
    · exact Finset.subset_insert _ _
    · exact Finset.Subset.refl _
  cases placed with
  | refused message => exact wider
  | raised slippage => exact wider
  | parked =>
      intro ticket member
      rcases Finset.mem_union.mp member with opened | rests
      · have same : scope.openTickets (b.parkPending req).broker =
            scope.openTickets b := scope.openTickets_congr rfl rfl
        rw [same] at opened
        have before : ticket ∈ scope.heldTickets b :=
          Finset.mem_union_left _ opened
        exact wider before
      · rcases restingTickets_parked rests with old | ⟨same, inside⟩
        · have before : ticket ∈ scope.heldTickets b :=
            Finset.mem_union_right _ old
          exact wider before
        · rw [if_pos inside, same]
          exact Finset.mem_insert_self _ _
  | filled slippage pos mid fillPrice ticketed symbol =>
      intro ticket member
      have unchanged : scope.openTickets
          { b with slippageState := slippage, nextTicket := b.nextTicket + 1 } =
            scope.openTickets b := scope.openTickets_congr rfl rfl
      rcases Finset.mem_union.mp member with opened | rests
      · cases inside : scope.request req with
        | true =>
            have grown := Scope.openTickets_openPosition scope cfg _ pos
              req.strategyId opened
            rw [ticketed, unchanged] at grown
            simp only [if_true]
            rcases Finset.mem_insert.mp grown with same | before
            · rw [same]
              exact Finset.mem_insert_self _ _
            · exact Finset.mem_insert_of_mem (Finset.mem_union_left _ before)
        | false =>
            have outside : scope.order (b.marketOrder req mid fillPrice) =
                false := by
              cases scope <;> exact inside
            have old := Scope.openTickets_openPosition_outside symbol outside
              opened
            rw [unchanged] at old
            exact Finset.mem_union_left _ old
      · have before : ticket ∈ scope.heldTickets b :=
          Finset.mem_union_right _ rests
        exact wider before

/-- An accepted order of a scope that has not reached the broker yet. -/
def RouterTask.inFlight (scope : Scope) : RouterTask → Nat
  | .accepted req => if scope.request req then 1 else 0
  | .idle | .answered _ _ => 0

/-- After the broker's answer, nothing is in flight. -/
theorem RouterTask.inFlight_afterPlacement (scope : Scope) (req : OrderRequest)
    (outcome : Except BrokerError OrderResult) :
    (RouterTask.afterPlacement req outcome).inFlight scope = 0 := by
  cases outcome <;> rfl

namespace TradingSystem

/-- What is open, may open, or is about to be placed stays within a bound. -/
def Within (scope : Scope) (n : Nat) (s : TradingSystem σ) : Prop :=
  (scope.heldTickets s.broker).card + s.task.inFlight scope ≤ n

/-- No judgement depends on the lag of the counter: whenever the router takes a
signal of the scope and the counter is below the cap, so is the counter corrected
by the fills and closes not yet handled, with the orders that rest. -/
def CountedInTime (scope : Scope) (s : TradingSystem σ) : SystemLabel → Prop
  | .handleSignal _ _ =>
      ∀ taken ∈ s.signals.pop?, scope.signal taken.1 = true →
        scope.counter s.monitor < scope.cap s.monitor.cfg →
        scope.counter s.monitor + s.unseen scope -
            (s.settledTickets scope).card +
          (scope.restingTickets s.broker).card < scope.cap s.monitor.cfg
  | _ => True

instance (scope : Scope) (s : TradingSystem σ) (label : SystemLabel) :
    Decidable (s.CountedInTime scope label) :=
  match label with
  | .handleSignal _ _ => inferInstanceAs (Decidable (∀ _ ∈ _, _ → _ → _))
  | .emitSignal _ | .placeOrder | .publishResult | .drive _ | .handleFilled
  | .handleClosed _ | .handlePartialClosed _ | .handleSnapshot _ => instDecidableTrue

namespace Within

variable {scope : Scope} {n : Nat} {s s' : TradingSystem σ}

/-- A step after which no more is held and nothing new is in flight. -/
theorem mono (within : Within scope n s)
    (held : scope.heldTickets s'.broker ⊆ scope.heldTickets s.broker)
    (flight : s'.task.inFlight scope ≤ s.task.inFlight scope) :
    Within scope n s' := by
  have smaller := Finset.card_le_card held
  unfold Within at within ⊢
  omega

/-- The order in flight takes the room that was kept for it. -/
theorem placeOrder {cfg : SimConfig σ} {req : OrderRequest}
    (within : Within scope n s) (task : s.task = .accepted req)
    (taken : step? cfg s .placeOrder = some s') : Within scope n s' := by
  have placed := heldTickets_placed scope
    (SimBroker.placeOrder_placed cfg s.broker req)
  have grown := Finset.card_le_card placed
  have inserted := Finset.card_insert_le s.broker.nextTicket
    (scope.heldTickets s.broker)
  simp only [step?, task, Option.some.injEq] at taken
  have broker : s'.broker = (s.broker.placeOrder cfg req).broker := by
    rw [← taken]
    exact publish_broker _ _
  have landed : s'.task.inFlight scope = 0 := by
    rw [← taken]
    exact RouterTask.inFlight_afterPlacement scope req _
  unfold Within at within ⊢
  rw [task] at within
  rw [broker, landed]
  cases inside : scope.request req with
  | true =>
      simp only [RouterTask.inFlight, inside, if_true] at grown within
      omega
  | false =>
      simp only [inside, Bool.false_eq_true, if_false] at grown within
      omega

/-- The router decides on a signal of the queue: what it accepts fits under the
cap, because the counter and its lag leave room. -/
theorem handleSignal {cfg : SimConfig σ} {now : Time} {id : ClientOrderId}
    (within : Within scope (scope.cap s.monitor.cfg) s) (sound : Sound s)
    (counted : s.CountedInTime scope (.handleSignal now id))
    (capped : 0 < scope.cap s.monitor.cfg)
    (taken : step? cfg s (.handleSignal now id) = some s') :
    Within scope (scope.cap s.monitor.cfg) s' := by
  simp only [step?] at taken
  split at taken
  · rename_i signal rest task popped
    cases taken
    have broker := preTrade_broker (simPort_readOnly cfg) s.router
      (some s.monitor) now id signal s.broker
    unfold Within at within ⊢
    rw [task] at within
    simp only [broker]
    cases gate : (preTrade (simPort cfg) s.router (some s.monitor) now id signal
        s.broker).gate with
    | rejected reason => exact within
    | invalid => exact within
    | accepted req =>
        rcases preTrade_accepted gate with ⟨allowed, strategyId, symbol, -⟩
        have sameScope : scope.request req = scope.signal signal := by
          cases scope with
          | strategy name => simp [Scope.request, Scope.signal, strategyId]
          | symbol name => simp [Scope.request, Scope.signal, symbol]
        simp only [RouterTask.afterGate, RouterTask.inFlight, sameScope]
        cases inside : scope.signal signal with
        | false => exact within
        | true =>
            have below := counter_lt_cap_of_allowed allowed inside capped
            have room := counted (signal, rest) popped inside below
            have covered := open_le_counter sound scope
            have union : (scope.heldTickets s.broker).card ≤
                (scope.openTickets s.broker).card +
                  (scope.restingTickets s.broker).card :=
              Finset.card_union_le _ _
            simp only [if_true]
            omega
  · cases taken

/-- Every step keeps the bound. -/
theorem step {cfg : SimConfig σ} {label : SystemLabel}
    (within : Within scope (scope.cap s.monitor.cfg) s) (sound : Sound s)
    (counted : s.CountedInTime scope label)
    (capped : 0 < scope.cap s.monitor.cfg) (taken : Step cfg s label s') :
    Within scope (scope.cap s.monitor.cfg) s' := by
  unfold Step stepOf? at taken
  cases label with
  | emitSignal signal =>
      cases taken
      exact within
  | handleSignal now id => exact within.handleSignal sound counted capped taken
  | placeOrder =>
      cases task : s.task with
      | idle => simp [step?, task] at taken
      | accepted req => exact within.placeOrder task taken
      | answered req result => simp [step?, task] at taken
  | publishResult =>
      simp only [step?] at taken
      split at taken
      · rename_i req result task
        cases taken
        apply within.mono
        · rw [publish_broker]
        · rw [publish_task]
          exact Nat.zero_le _
      · cases taken
  | drive op =>
      simp only [step?] at taken
      split at taken
      · cases taken
      · rename_i notPlacing
        cases taken
        have moved := SimBroker.perform_moves cfg s.broker op
        rw [Bool.not_eq_true] at notPlacing
        rw [notPlacing] at moved
        apply within.mono
        · rw [publish_broker]
          exact Scope.heldTickets_moves moved
        · rw [publish_task]
  | handleFilled =>
      simp only [step?] at taken
      split at taken
      · cases taken
      · cases taken
        exact within
  | handleClosed now =>
      simp only [step?] at taken
      split at taken
      · cases taken
      · cases taken
        exact within
  | handlePartialClosed now =>
      simp only [step?] at taken
      split at taken
      · cases taken
      · cases taken
        exact within
  | handleSnapshot snap =>
      cases taken
      exact within

end Within

/-! ### Runs -/

/-- No step changes the config. -/
theorem step_cfg {cfg : SimConfig σ} {s s' : TradingSystem σ}
    {label : SystemLabel} (taken : Step cfg s label s') :
    s'.monitor.cfg = s.monitor.cfg := by
  unfold Step stepOf? at taken
  cases label with
  | emitSignal signal =>
      cases taken
      rfl
  | handleSignal now id =>
      simp only [step?] at taken
      split at taken
      · rename_i signal rest task popped
        cases taken
        rcases @preTrade_risk _ _ (simPort cfg) s.router s.monitor now id
          signal s.broker with asked | asked
        · simp only [asked, Option.getD_some]
        · simp only [asked, Option.getD_some]
          exact s.monitor.checkSignal_cfg now signal
      · cases taken
  | placeOrder =>
      simp only [step?] at taken
      split at taken
      · cases taken
        simp only [publish_monitor]
      · cases taken
  | publishResult =>
      simp only [step?] at taken
      split at taken
      · cases taken
        simp only [publish_monitor]
      · cases taken
  | drive op =>
      simp only [step?] at taken
      split at taken
      · cases taken
      · cases taken
        simp only [publish_monitor]
  | handleFilled =>
      simp only [step?] at taken
      split at taken
      · cases taken
      · rename_i fill rest popped
        cases taken
        rfl
  | handleClosed now =>
      simp only [step?] at taken
      split at taken
      · cases taken
      · rename_i close rest popped
        cases taken
        exact (s.monitor.release close.position close.accountId).bookPnl_cfg
          now close.position.symbol close.realizedPnl
  | handlePartialClosed now =>
      simp only [step?] at taken
      split at taken
      · cases taken
      · cases taken
        exact s.monitor.bookPnl_cfg _ _ _
  | handleSnapshot snap =>
      cases taken
      exact s.monitor.onSnapshot_cfg snap

/-- What holds along a run: the parts fit together, the config is the one given,
and the cap is kept. -/
structure Guarding (scope : Scope) (risk : RiskConfig) (s : TradingSystem σ) :
    Prop where
  sound : Sound s
  configured : s.monitor.cfg = risk
  within : Within scope (scope.cap risk) s

theorem Guarding.step {scope : Scope} {risk : RiskConfig} {cfg : SimConfig σ}
    {s s' : TradingSystem σ} {label : SystemLabel}
    (guarding : Guarding scope risk s) (capped : 0 < scope.cap risk)
    (counted : s.CountedInTime scope label) (taken : Step cfg s label s') :
    Guarding scope risk s' where
  sound := guarding.sound.step taken
  configured := (step_cfg taken).trans guarding.configured
  within := by
    have within := guarding.within
    rw [← guarding.configured] at within capped ⊢
    exact within.step guarding.sound counted capped taken

theorem Guarding.boot (scope : Scope) (risk : RiskConfig) (router : RouterState)
    (initialBalance : ℚ) (slippage : σ) (now : Time) :
    Guarding scope risk
      (TradingSystem.boot risk router initialBalance slippage now) where
  sound := Sound.boot risk router initialBalance slippage now
  configured := rfl
  within := Nat.zero_le _

/-- In every run whose judgements do not depend on the lag of the counters, the
broker never holds more positions of a strategy, or on a symbol, than its cap. -/
theorem position_caps_hold {cfg : SimConfig σ} {risk : RiskConfig}
    {router : RouterState} {initialBalance : ℚ} {slippage : σ} {now : Time}
    {labels : List SystemLabel} {s : TradingSystem σ} (scope : Scope)
    (run : Run (Guarded (CountedInTime scope) (Step cfg))
      (boot risk router initialBalance slippage now) labels s)
    (capped : 0 < scope.cap risk) :
    (scope.openTickets s.broker).card ≤ scope.cap risk := by
  have guarding : Guarding scope risk s :=
    run.invariant (Guarding.boot scope risk router initialBalance slippage now)
      fun taken guarding => guarding.step capped taken.1 taken.2
  have within : (scope.heldTickets s.broker).card +
      s.task.inFlight scope ≤ scope.cap risk := guarding.within
  have opened : (scope.openTickets s.broker).card ≤
      (scope.heldTickets s.broker).card :=
    Finset.card_le_card Finset.subset_union_left
  omega

/-! ### The run that exceeds a cap -/

/-- One position per strategy; the other limits as by default. -/
def onePerStrategy : RiskConfig :=
  { (default : RiskConfig) with maxOpenPositionsPerStrategy := 1 }

def buySignal (time : Time) : Signal where
  strategyId := "trend"
  time := time
  symbol := "EURUSD"
  side := .buy
  suggestedVolume := some 1
  suggestedSl := none
  suggestedTp := none
  orderType := .market
  suggestedPrice := none
  entryRefPrice := none
  comment := ""

/-- The state before the first signal. -/
def quietStart : TradingSystem Unit :=
  boot onePerStrategy ⟨.empty, .empty⟩ 1000 () 0

/-- The second signal is judged after the first fill is counted. -/
def spacedSignals : List SystemLabel :=
  [.drive (.setMarket "EURUSD" 1), .emitSignal (buySignal 1),
    .handleSignal 1 "a", .placeOrder, .publishResult, .handleFilled,
    .emitSignal (buySignal 2), .handleSignal 2 "b"]

/-- Both signals are judged before the first fill is counted. -/
def burstOfSignals : List SystemLabel :=
  [.drive (.setMarket "EURUSD" 1), .emitSignal (buySignal 1),
    .emitSignal (buySignal 2), .handleSignal 1 "a", .placeOrder,
    .publishResult, .handleSignal 2 "b", .placeOrder]

/-- A run with room for one position, and one open. -/
theorem spaced_signals_keep_cap :
    ∃ s : TradingSystem Unit,
      ((Scope.strategy "trend").openTickets s.broker).card = 1 ∧
        ((Scope.strategy "trend").openTickets s.broker).card ≤
          (Scope.strategy "trend").cap onePerStrategy := by
  have reached :
      (replay? (CountedInTime (.strategy "trend")) (step? .plain)
        quietStart spacedSignals).map (fun s =>
          ((Scope.strategy "trend").openTickets s.broker).card) = some 1 := by
    decide +kernel
  rcases Option.map_eq_some_iff.mp reached with ⟨s, replayed, opened⟩
  exact ⟨s, opened,
    position_caps_hold (.strategy "trend") (run_of_replay? replayed)
      (by decide)⟩

/-- Without the proviso a burst breaks the cap: the second signal of the queue is
judged while the fill of the first one waits for the monitor. -/
theorem queued_signals_exceed_cap :
    ¬ ∀ (cfg : SimConfig Unit) (risk : RiskConfig) (router : RouterState)
        (initialBalance : ℚ) (now : Time) (scope : Scope)
        (labels : List SystemLabel) (s : TradingSystem Unit),
        Run (Step cfg) (boot risk router initialBalance () now) labels s →
        0 < scope.cap risk →
        (scope.openTickets s.broker).card ≤ scope.cap risk := by
  intro claim
  have reached :
      (replay? (fun _ _ => True) (step? .plain) quietStart
        burstOfSignals).map (fun s =>
          ((Scope.strategy "trend").openTickets s.broker).card) = some 2 := by
    decide +kernel
  rcases Option.map_eq_some_iff.mp reached with ⟨s, replayed, opened⟩
  have kept := claim .plain onePerStrategy ⟨.empty, .empty⟩ 1000 0
    (.strategy "trend") burstOfSignals s (run_of_replay? replayed).unguard
    (by decide)
  rw [opened] at kept
  exact absurd kept (by decide)

end TradingSystem

end StingerFx
