/-
Module: StingerFx.Proofs.ExposureCap
Layer: Proofs
Purpose: When the aggregate risk stays under its cap. The router measures the open
  positions only, so an order that rests is forgotten at the next check. As long as
  no verdict depends on what rests, what is open, rests or is about to be placed
  stays under the cap until the equity changes.
Trusted boundary: none (fully proved)
Main exports: preTrade_within, CappedSystem, CappedSystem.Supposed,
  CappedSystem.RestingFits, CappedSystem.Capped,
  CappedSystem.aggregate_risk_capped, CappedSystem.one_order_capped,
  CappedSystem.resting_orders_exceed_cap
-/
import StingerFx.Proofs.PositionCaps
import StingerFx.Backtest.BrokerRisk

namespace StingerFx

open Lib

variable {σ : Type}

/-! ### What the router's check measures -/

/-- Contract sizes that are the broker's own. -/
def SizesKnown (cfg : SimConfig σ) (cache : Dict Symbol ℚ) : Prop :=
  ∀ symbol size, cache.get? symbol = some size →
    size = cfg.contractSizeFor symbol

section Measure

variable {cfg : SimConfig σ}

theorem SizesKnown.set {cache : Dict Symbol ℚ} (known : SizesKnown cfg cache)
    {symbol : Symbol} {size : ℚ} (own : size = cfg.contractSizeFor symbol) :
    SizesKnown cfg (cache.set symbol size) := by
  intro name stored found
  rw [Dict.get?_set] at found
  split at found
  · rename_i same
    cases found
    rw [own, same]
  · exact known name stored found

theorem simPort_getSymbolInfo (sized : ∀ symbol, 0 < cfg.contractSizeFor symbol)
    (b : SimBroker σ) (symbol : Symbol) :
    ∃ info, (simPort cfg).getSymbolInfo b symbol = (b, some info) ∧
      info.contractSize = cfg.contractSizeFor symbol := by
  unfold simPort SimBroker.getSymbolInfo
  dsimp only
  rw [dif_pos (sized symbol)]
  exact ⟨_, rfl, rfl⟩

/-- After the fetches every symbol of the list has its size. -/
theorem contractSizes_spec (sized : ∀ symbol, 0 < cfg.contractSizeFor symbol)
    (b : SimBroker σ) (cache : Dict Symbol ℚ) (known : SizesKnown cfg cache)
    (symbols : List Symbol) :
    SizesKnown cfg (contractSizes (simPort cfg) b cache symbols).2 ∧
      ∀ symbol, cache.contains symbol = true ∨ symbol ∈ symbols →
        (contractSizes (simPort cfg) b cache symbols).2.contains symbol =
          true := by
  induction symbols generalizing cache with
  | nil =>
      refine ⟨known, ?_⟩
      rintro symbol (cached | listed)
      · exact cached
      · cases listed
  | cons head rest ih =>
      unfold contractSizes
      split
      · rename_i cached
        rcases ih cache known with ⟨stays, covers⟩
        refine ⟨stays, ?_⟩
        rintro symbol (old | listed)
        · exact covers symbol (.inl old)
        · rcases List.mem_cons.mp listed with same | later
          · rw [same]
            exact covers head (.inl cached)
          · exact covers symbol (.inr later)
      · rcases simPort_getSymbolInfo sized b head with ⟨info, fetched, size⟩
        dsimp only
        rw [fetched]
        dsimp only
        rcases ih (cache.set head info.contractSize) (known.set size) with
          ⟨stays, covers⟩
        refine ⟨stays, ?_⟩
        rintro symbol (old | listed)
        · apply covers symbol (.inl _)
          rw [Dict.contains_set, old, Bool.or_true]
        · rcases List.mem_cons.mp listed with same | later
          · apply covers symbol (.inl _)
            rw [Dict.contains_set, decide_eq_true same, Bool.true_or]
          · exact covers symbol (.inr later)

/-- With the sizes of their symbols at hand, the router measures the open
positions as they are. -/
theorem aggregateOpenRisk_eq (sized : ∀ symbol, 0 < cfg.contractSizeFor symbol)
    {b : SimBroker σ} (stopped : b.Stopped) {sizes : Dict Symbol ℚ}
    (known : SizesKnown cfg sizes)
    (covers : ∀ pos ∈ b.getPositions, sizes.contains pos.symbol = true) :
    aggregateOpenRisk b.getPositions sizes = b.openRisk cfg := by
  have each : ∀ pos ∈ b.positions.values,
      openRiskOf sizes pos = pos.stopRisk cfg := by
    intro pos member
    have cached := covers pos member
    rcases Option.isSome_iff_exists.mp cached with ⟨size, stored⟩
    rcases b.positions.mem_values_iff.mp member with ⟨ticket, held⟩
    have bounded : SimBroker.Usable pos.sl := stopped.positions held
    unfold openRiskOf Position.stopRisk
    rw [stored]
    dsimp only
    rw [known _ _ stored, if_neg (not_le.mpr (sized pos.symbol))]
    cases stop : pos.sl with
    | none =>
        rw [stop] at bounded
        exact bounded.elim
    | some sl =>
        rw [stop] at bounded
        exact if_neg (not_le.mpr bounded)
  unfold aggregateOpenRisk SimBroker.openRisk Dict.sum
  rw [SimBroker.getPositions, List.map_congr_left each, Dict.values,
    List.map_map]
  rfl

/-! ### What the router accepts -/

/-- The price the router's check measures an order at. -/
def checkPrice (signal : Signal) : Option ℚ :=
  truthy signal.entryRefPrice <|> signal.suggestedPrice

/-- What an order for a signal has at risk, as the router's check sees it. -/
def signalRisk (cfg : SimConfig σ) (m : RiskMonitor) (b : SimBroker σ)
    (signal : Signal) : ℚ :=
  stopRisk cfg signal.symbol
    (resolveVolume (some m) signal
      (maybeSymbolInfo (simPort cfg) (some m) signal b).2)
    (checkPrice signal) signal.suggestedSl

theorem checkAggregateRisk_known
    (sized : ∀ symbol, 0 < cfg.contractSizeFor symbol) (m : RiskMonitor)
    {cache : Dict Symbol ℚ} (known : SizesKnown cfg cache) (signal : Signal)
    (volume : ℚ) {info : Option SymbolInfo}
    (own : ∀ found ∈ info, found.contractSize = cfg.contractSizeFor signal.symbol)
    (b : SimBroker σ) :
    SizesKnown cfg
      (checkAggregateRisk (simPort cfg) m cache signal volume info b).2.1 := by
  unfold checkAggregateRisk
  dsimp only
  split
  · exact known
  · split
    · rename_i sl found entry equity _ _ _
      split
      · exact known
      · exact (contractSizes_spec sized b _ (known.set (own found rfl)) _).1
    · exact known

theorem maybeSymbolInfo_own
    (sized : ∀ symbol, 0 < cfg.contractSizeFor symbol) (m : RiskMonitor)
    (signal : Signal) (b : SimBroker σ) :
    ∀ found ∈ (maybeSymbolInfo (simPort cfg) (some m) signal b).2,
      found.contractSize = cfg.contractSizeFor signal.symbol := by
  rcases simPort_getSymbolInfo sized b signal.symbol with ⟨info, fetched, size⟩
  unfold maybeSymbolInfo
  dsimp only
  split
  · rw [fetched]
    rintro found ⟨⟩
    exact size
  · rintro found ⟨⟩

theorem preTrade_known (sized : ∀ symbol, 0 < cfg.contractSizeFor symbol)
    {router : RouterState} (known : SizesKnown cfg router.contractSizeCache)
    (m : RiskMonitor) (now : Time) (clientOrderId : ClientOrderId)
    (signal : Signal) (b : SimBroker σ) :
    SizesKnown cfg
      (preTrade (simPort cfg) router (some m) now clientOrderId signal b).cache := by
  have gated : ∀ volume (b : SimBroker σ),
      SizesKnown cfg
        (riskGate (simPort cfg) (some m) router.contractSizeCache now signal
          volume (maybeSymbolInfo (simPort cfg) (some m) signal b).2 b).2.2.1 := by
    intro volume b
    unfold riskGate
    dsimp only
    split
    · exact known
    · exact checkAggregateRisk_known sized _ known signal volume
        (maybeSymbolInfo_own sized m signal b) b
  have kept : (maybeSymbolInfo (simPort cfg) (some m) signal b).1 = b :=
    maybeSymbolInfo_broker (simPort_readOnly cfg) (some m) signal b
  unfold preTrade
  dsimp only
  rw [kept]
  split
  · exact known
  · split
    · exact gated _ b
    · split <;> exact gated _ b

/-- An accepted order fits under the cap beside the open positions. -/
theorem preTrade_within (sized : ∀ symbol, 0 < cfg.contractSizeFor symbol)
    {router : RouterState} {m : RiskMonitor} {now : Time}
    {clientOrderId : ClientOrderId} {signal : Signal} {b : SimBroker σ}
    {req : OrderRequest} {equity : ℚ}
    (known : SizesKnown cfg router.contractSizeCache) (stopped : b.Stopped)
    (capped : 0 < m.cfg.maxAggregateRiskPct)
    (bounded : SimBroker.Usable signal.suggestedSl)
    (priced : checkPrice signal ≠ none) (equal : m.currentEquity = some equity)
    (positive : 0 < equity)
    (accepted :
      (preTrade (simPort cfg) router (some m) now clientOrderId signal b).gate =
        .accepted req) :
    b.openRisk cfg + signalRisk cfg m b signal ≤
      equity * m.cfg.maxAggregateRiskPct / 100 := by
  have passed := (preTrade_built accepted).1
  obtain ⟨sl, stop⟩ : ∃ sl, signal.suggestedSl = some sl := by
    cases given : signal.suggestedSl with
    | none =>
        rw [given] at bounded
        exact bounded.elim
    | some sl => exact ⟨sl, rfl⟩
  obtain ⟨entry, price⟩ := Option.ne_none_iff_exists'.mp priced
  rcases simPort_getSymbolInfo sized b signal.symbol with ⟨info, fetched, size⟩
  have needed : needsSymbolInfo m signal = true := by
    unfold needsSymbolInfo
    rw [decide_eq_true capped, stop]
    exact Bool.or_true _
  have informed : maybeSymbolInfo (simPort cfg) (some m) signal b =
      (b, some info) := by
    unfold maybeSymbolInfo
    dsimp only
    rw [if_pos needed, fetched]
  rw [informed] at passed
  dsimp only at passed
  unfold signalRisk
  rw [informed]
  dsimp only
  generalize resolveVolume (some m) signal (some info) = volume at passed ⊢
  unfold riskGate at passed
  dsimp only at passed
  split at passed
  · cases passed
  · have config := m.checkSignal_cfg now signal
    have figure := m.checkSignal_currentEquity now signal
    rw [equal] at figure
    unfold checkAggregateRisk at passed
    rw [config, stop, figure] at passed
    unfold checkPrice at price
    dsimp only at passed
    rw [if_neg (not_le.mpr capped), price] at passed
    dsimp only at passed
    rw [if_neg (not_le.mpr positive)] at passed
    have listed : (simPort cfg).getPositions b = (b, some b.getPositions) := rfl
    rw [listed] at passed
    dsimp only at passed
    rcases contractSizes_spec sized b _ (known.set size)
      (b.getPositions.map Position.symbol).dedup with ⟨sizes, covers⟩
    generalize contractSizes (simPort cfg) b _ _ = found at passed sizes covers
    have measured : aggregateOpenRisk b.getPositions found.2 = b.openRisk cfg :=
      aggregateOpenRisk_eq sized stopped sizes fun pos member =>
        covers pos.symbol
          (.inr (List.mem_dedup.mpr (List.mem_map.mpr ⟨pos, member, rfl⟩)))
    unfold aggregateReason at passed
    dsimp only at passed
    rw [measured] at passed
    split at passed
    · cases passed
    · rename_i fits
      rw [stop] at bounded
      have share : positionRisk entry (some sl) volume info.contractSize =
          stopRisk cfg signal.symbol volume (checkPrice signal)
            signal.suggestedSl := by
        unfold positionRisk stopRisk checkPrice
        rw [price, stop, size]
        exact if_neg (not_le.mpr bounded)
      rw [share] at fits
      exact not_lt.mp fits

end Measure

/-- Money at risk in an order that is accepted and not yet placed. -/
def RouterTask.risk (cfg : SimConfig σ) (reference : Option ℚ) :
    RouterTask → ℚ
  | .accepted req => stopRisk cfg req.symbol req.volume reference req.sl
  | .idle | .answered _ _ => 0

theorem RouterTask.risk_afterPlacement (cfg : SimConfig σ)
    (reference : Option ℚ) (req : OrderRequest)
    (outcome : Except BrokerError OrderResult) :
    (RouterTask.afterPlacement req outcome).risk cfg reference = 0 := by
  cases outcome <;> rfl

theorem RouterTask.afterPlacement_ne (req : OrderRequest)
    (outcome : Except BrokerError OrderResult) (other : OrderRequest) :
    RouterTask.afterPlacement req outcome ≠ .accepted other := by
  cases outcome <;> nofun

theorem RouterTask.afterGate_accepted {gate : Gate} {req : OrderRequest}
    (same : RouterTask.afterGate gate = .accepted req) :
    gate = .accepted req := by
  cases gate <;> cases same
  rfl

/-- The parts over the bus, with the price the check used for the last order and
whether an order was accepted since the equity last changed. -/
structure CappedSystem (σ : Type) where
  system : TradingSystem σ
  reference : Option ℚ
  covered : Bool

namespace CappedSystem

def boot (risk : RiskConfig) (strategyMagic : Dict StrategyId Int)
    (initialBalance : ℚ) (slippage : σ) (now : Time) : CappedSystem σ where
  system := .boot risk ⟨strategyMagic, .empty⟩ initialBalance slippage now
  reference := none
  covered := false

/-- Whether the router accepts an order in a step. -/
def accepts : SystemLabel → RouterTask → Bool
  | .handleSignal _ _, .accepted _ => true
  | _, _ => false

/-- The price of the check in a step that judges a signal. -/
def judgedAt (s : CappedSystem σ) : SystemLabel → Option ℚ
  | .handleSignal _ _ =>
      s.system.signals.pop?.bind fun taken => checkPrice taken.1
  | _ => s.reference

def follow (s : CappedSystem σ) (label : SystemLabel)
    (next : TradingSystem σ) : CappedSystem σ where
  system := next
  reference := s.judgedAt label
  covered :=
    if next.monitor.currentEquity = s.system.monitor.currentEquity then
      s.covered || accepts label next.task
    else false

def step? (cfg : SimConfig σ) (s : CappedSystem σ) (label : SystemLabel) :
    Option (CappedSystem σ) :=
  (s.system.step? cfg label).map (s.follow label)

def Step (cfg : SimConfig σ) :
    CappedSystem σ → SystemLabel → CappedSystem σ → Prop :=
  stepOf? (step? cfg)

/-- What is open, rests or is about to be placed has at risk. -/
def heldRisk (cfg : SimConfig σ) (s : CappedSystem σ) : ℚ :=
  s.system.broker.openRisk cfg + s.system.broker.restingRisk cfg +
    s.system.task.risk cfg s.reference

/-- From an acceptance on, until the equity changes. -/
def Capped (cfg : SimConfig σ) (maxPct : ℚ) (s : CappedSystem σ) : Prop :=
  s.covered = true → ∀ equity ∈ s.system.monitor.currentEquity,
    heldRisk cfg s ≤ equity * maxPct / 100

/-- What is given: signals have a stop and a price to be measured at, which is
the price of an order that rests; the equity is known; fills happen at the price
of the check; no stop is moved. -/
def Supposed (cfg : SimConfig σ) (s : CappedSystem σ) : SystemLabel → Prop
  | .handleSignal _ _ =>
      s.system.monitor.currentEquity ≠ none ∧
        ∀ taken ∈ s.system.signals.pop?,
          SimBroker.Usable taken.1.suggestedSl ∧ checkPrice taken.1 ≠ none ∧
            (taken.1.orderType ≠ .market → ∀ price ∈ taken.1.suggestedPrice,
              checkPrice taken.1 = some price)
  | .placeOrder =>
      match s.system.task with
      | .accepted req =>
          req.type = .market →
            ∀ bid ∈ s.system.broker.lastBid.get? req.symbol,
              ∀ ask ∈ s.system.broker.lastAsk.get? req.symbol,
                s.reference = some
                  (cfg.slippageFn s.system.broker.slippageState req.side bid
                    ask).1
      | _ => True
  | .drive op => s.system.broker.AtOwnPrice cfg op
  | _ => True

/-- No verdict depends on what rests: the equity is positive, and an order that
fits under the cap beside the open positions also fits beside the orders that
rest. -/
def RestingFits (cfg : SimConfig σ) (s : CappedSystem σ) : SystemLabel → Prop
  | .handleSignal _ _ =>
      ∀ taken ∈ s.system.signals.pop?, ∀ equity ∈ s.system.monitor.currentEquity,
        let cap := equity * s.system.monitor.cfg.maxAggregateRiskPct / 100
        let opened := s.system.broker.openRisk cfg
        let more := signalRisk cfg s.system.monitor s.system.broker taken.1
        0 < equity ∧ (opened + more ≤ cap →
          opened + s.system.broker.restingRisk cfg + more ≤ cap)
  | _ => True

instance (cfg : SimConfig σ) (s : CappedSystem σ) (label : SystemLabel) :
    Decidable (s.Supposed cfg label) := by
  cases label
  case placeOrder =>
    unfold Supposed
    dsimp only
    split <;> infer_instance
  all_goals
    unfold Supposed
    infer_instance

instance (cfg : SimConfig σ) (s : CappedSystem σ) (label : SystemLabel) :
    Decidable (s.RestingFits cfg label) := by
  cases label <;> unfold RestingFits <;> infer_instance

/-- Where nothing rests, no verdict depends on what rests. -/
theorem restingFits_of_nothing {cfg : SimConfig σ} {s : CappedSystem σ}
    (nothing : s.system.broker.pending = .empty)
    (positive : ∀ equity ∈ s.system.monitor.currentEquity, 0 < equity)
    (label : SystemLabel) : s.RestingFits cfg label := by
  cases label with
  | handleSignal now id =>
      intro taken popped equity equal
      refine ⟨positive equity equal, fun fits => ?_⟩
      unfold SimBroker.restingRisk
      rw [nothing, Dict.sum_empty, add_zero]
      exact fits
  | _ => exact trivial

/-! ### The invariant -/

/-- What holds along a run. -/
structure Watched (cfg : SimConfig σ) (risk : RiskConfig)
    (s : CappedSystem σ) : Prop where
  configured : s.system.monitor.cfg = risk
  known : SizesKnown cfg s.system.router.contractSizeCache
  stopped : s.system.broker.Stopped
  flight : ∀ req, s.system.task = .accepted req → SimBroker.Usable req.sl ∧
    (req.type ≠ .market → ∀ price ∈ req.price, s.reference = some price)
  capped : s.Capped cfg risk.maxAggregateRiskPct

section Steps

variable {cfg : SimConfig σ} {risk : RiskConfig} {s s' : CappedSystem σ}

/-- What a step after which the cap still counts has left alone. -/
theorem follow_covered {label : SystemLabel} {next : TradingSystem σ}
    (covered : (s.follow label next).covered = true) :
    next.monitor.currentEquity = s.system.monitor.currentEquity ∧
      (s.covered = true ∨ accepts label next.task = true) := by
  unfold follow at covered
  dsimp only at covered
  split at covered
  · rename_i same
    exact ⟨same, Bool.or_eq_true_iff.mp covered⟩
  · cases covered

/-- A step that accepts nothing and after which no more is at risk. -/
theorem Capped.mono {maxPct : ℚ} {label : SystemLabel}
    {next : TradingSystem σ} (capped : s.Capped cfg maxPct)
    (nothing : accepts label next.task = false)
    (less : heldRisk cfg (s.follow label next) ≤ heldRisk cfg s) :
    (s.follow label next).Capped cfg maxPct := by
  intro covered equity equal
  rcases follow_covered covered with ⟨same, before | accepted⟩
  · apply less.trans
    apply capped before equity
    rw [← same]
    exact equal
  · rw [nothing] at accepted
    cases accepted

/-- A step of the monitor or of a queue. -/
theorem Watched.quiet {label : SystemLabel} {next : TradingSystem σ}
    (watched : s.Watched cfg risk) (config : next.monitor.cfg = risk)
    (router : next.router = s.system.router)
    (broker : next.broker = s.system.broker)
    (task : next.task = s.system.task)
    (price : s.judgedAt label = s.reference)
    (nothing : accepts label next.task = false) :
    (s.follow label next).Watched cfg risk where
  configured := config
  known := by
    have same : (s.follow label next).system.router = s.system.router := router
    rw [same]
    exact watched.known
  stopped := by
    have same : (s.follow label next).system.broker = s.system.broker := broker
    rw [same]
    exact watched.stopped
  flight := by
    have same : (s.follow label next).system.task = s.system.task := task
    have reference : (s.follow label next).reference = s.reference := price
    rw [same, reference]
    exact watched.flight
  capped := by
    apply watched.capped.mono nothing
    unfold heldRisk follow
    dsimp only
    rw [broker, task, price]

/-- The order in flight takes the room that was kept for it. -/
theorem Watched.placeOrder (sized : ∀ symbol, 0 < cfg.contractSizeFor symbol)
    (watched : s.Watched cfg risk) (supposed : s.Supposed cfg .placeOrder)
    (taken : Step cfg s .placeOrder s') : s'.Watched cfg risk := by
  rcases Option.map_eq_some_iff.mp taken with ⟨next, stepped, rfl⟩
  have config := (TradingSystem.step_cfg stepped).trans watched.configured
  unfold Supposed at supposed
  cases task : s.system.task with
  | idle => simp [TradingSystem.step?, task] at stepped
  | answered req result => simp [TradingSystem.step?, task] at stepped
  | accepted req =>
      rw [task] at supposed
      rcases watched.flight req task with ⟨stop, resting⟩
      have placed := SimBroker.placeOrder_grown sized s.system.broker stop
        supposed resting
      simp only [TradingSystem.step?, task, Option.some.injEq] at stepped
      have broker : next.broker = (s.system.broker.placeOrder cfg req).broker := by
        rw [← stepped]
        exact TradingSystem.publish_broker _ _
      have router : next.router = s.system.router := by
        rw [← stepped]
        exact TradingSystem.publish_router _ _
      have landed : next.task.risk cfg s.reference = 0 := by
        rw [← stepped]
        exact RouterTask.risk_afterPlacement cfg s.reference req _
      have away : ∀ other, next.task ≠ .accepted other := by
        rw [← stepped]
        exact RouterTask.afterPlacement_ne req _
      refine ⟨config, ?_, ?_, fun other same => absurd same (away other), ?_⟩
      · have same : (s.follow .placeOrder next).system.router =
            s.system.router := router
        rw [same]
        exact watched.known
      · have same : (s.follow .placeOrder next).system.broker =
            (s.system.broker.placeOrder cfg req).broker := broker
        rw [same]
        exact placed.stopped watched.stopped
      · apply watched.capped.mono rfl
        have kept : s.judgedAt .placeOrder = s.reference := rfl
        unfold heldRisk follow
        dsimp only
        rw [kept, broker, landed, task, add_zero]
        exact placed.risk

/-- The router decides on a signal: what it accepts fits under the cap beside all
that is open or rests. -/
theorem Watched.handleSignal (sized : ∀ symbol, 0 < cfg.contractSizeFor symbol)
    (capped : 0 < risk.maxAggregateRiskPct) {now : Time} {id : ClientOrderId}
    (watched : s.Watched cfg risk)
    (supposed : s.Supposed cfg (.handleSignal now id))
    (fits : s.RestingFits cfg (.handleSignal now id))
    (taken : Step cfg s (.handleSignal now id) s') : s'.Watched cfg risk := by
  rcases Option.map_eq_some_iff.mp taken with ⟨next, stepped, rfl⟩
  have config := (TradingSystem.step_cfg stepped).trans watched.configured
  simp only [TradingSystem.step?] at stepped
  split at stepped
  · rename_i signal rest task popped
    rcases supposed with ⟨equityKnown, given⟩
    rcases given (signal, rest) popped with ⟨stop, priced, resting⟩
    obtain ⟨equity, equal⟩ := Option.ne_none_iff_exists'.mp equityKnown
    have room := fits (signal, rest) popped equity equal
    have broker := preTrade_broker (simPort_readOnly cfg) s.system.router
      (some s.system.monitor) now id signal s.system.broker
    have known := preTrade_known sized watched.known s.system.monitor now id
      signal s.system.broker
    have judged : s.judgedAt (.handleSignal now id) = checkPrice signal := by
      unfold judgedAt
      dsimp only
      rw [popped]
      rfl
    cases stepped
    refine ⟨config, known, ?_, ?_, ?_⟩
    · unfold follow
      dsimp only
      rw [broker]
      exact watched.stopped
    · intro req same
      unfold follow at same ⊢
      dsimp only at same ⊢
      have gate := RouterTask.afterGate_accepted same
      rcases buildRequest_levels (preTrade_built gate).2 with ⟨type, price, sl⟩
      rw [type, price, sl, judged]
      exact ⟨stop, resting⟩
    · cases gate : (preTrade (simPort cfg) s.system.router
          (some s.system.monitor) now id signal s.system.broker).gate with
      | accepted req =>
          intro covered figure known
          rcases follow_covered covered with ⟨same, -⟩
          have equal' : figure = equity := by
            have before := same.symm.trans known
            rw [equal] at before
            exact (Option.some.inj before).symm
          have on : 0 < s.system.monitor.cfg.maxAggregateRiskPct := by
            rw [watched.configured]
            exact capped
          have fitted := room.2 (preTrade_within sized watched.known
            watched.stopped on stop priced equal room.1 gate)
          rcases buildRequest_fields (preTrade_built gate).2 with
            ⟨-, symbol, -, volume⟩
          rcases buildRequest_levels (preTrade_built gate).2 with ⟨-, -, sl⟩
          unfold heldRisk follow
          dsimp only
          rw [broker, judged, equal']
          unfold RouterTask.afterGate RouterTask.risk
          dsimp only
          rw [symbol, volume, sl, ← watched.configured]
          exact fitted
      | rejected reason =>
          apply watched.capped.mono
          · simp only [accepts, RouterTask.afterGate]
          · simp only [heldRisk, follow, broker, RouterTask.afterGate, task,
              RouterTask.risk, le_refl]
      | invalid =>
          apply watched.capped.mono
          · simp only [accepts, RouterTask.afterGate]
          · simp only [heldRisk, follow, broker, RouterTask.afterGate, task,
              RouterTask.risk, le_refl]
  · cases stepped

/-- Market data, a close, a cancellation or a promotion. -/
theorem Watched.drive (sized : ∀ symbol, 0 < cfg.contractSizeFor symbol)
    {op : BrokerOp} (watched : s.Watched cfg risk)
    (own : s.system.broker.AtOwnPrice cfg op)
    (taken : Step cfg s (.drive op) s') : s'.Watched cfg risk := by
  rcases Option.map_eq_some_iff.mp taken with ⟨next, stepped, rfl⟩
  have config := (TradingSystem.step_cfg stepped).trans watched.configured
  simp only [TradingSystem.step?] at stepped
  split at stepped
  · cases stepped
  · rename_i notPlacing
    rw [Bool.not_eq_true] at notPlacing
    have grown := SimBroker.perform_grown sized s.system.broker notPlacing own
    have performed := Option.some.inj stepped
    have broker : next.broker =
        (SimBroker.perform cfg s.system.broker op).1 := by
      rw [← performed]
      exact TradingSystem.publish_broker _ _
    have router : next.router = s.system.router := by
      rw [← performed]
      exact TradingSystem.publish_router _ _
    have task : next.task = s.system.task := by
      rw [← performed]
      exact TradingSystem.publish_task _ _
    have kept : s.judgedAt (.drive op) = s.reference := rfl
    refine ⟨config, ?_, ?_, ?_, ?_⟩
    · have same : (s.follow (.drive op) next).system.router =
          s.system.router := router
      rw [same]
      exact watched.known
    · have same : (s.follow (.drive op) next).system.broker =
          (SimBroker.perform cfg s.system.broker op).1 := broker
      rw [same]
      exact grown.stopped watched.stopped
    · have same : (s.follow (.drive op) next).system.task = s.system.task :=
        task
      rw [same]
      exact watched.flight
    · apply watched.capped.mono rfl
      have less := grown.risk
      unfold heldRisk follow
      dsimp only
      rw [kept, broker, task]
      linarith

/-- Every step keeps the invariant. -/
theorem Watched.step (sized : ∀ symbol, 0 < cfg.contractSizeFor symbol)
    (capped : 0 < risk.maxAggregateRiskPct) {label : SystemLabel}
    (watched : s.Watched cfg risk) (supposed : s.Supposed cfg label)
    (fits : s.RestingFits cfg label) (taken : Step cfg s label s') :
    s'.Watched cfg risk := by
  cases label with
  | handleSignal now id =>
      exact watched.handleSignal sized capped supposed fits taken
  | placeOrder => exact watched.placeOrder sized supposed taken
  | drive op => exact watched.drive sized supposed taken
  | emitSignal signal =>
      rcases Option.map_eq_some_iff.mp taken with ⟨next, stepped, rfl⟩
      have config := (TradingSystem.step_cfg stepped).trans watched.configured
      cases stepped
      exact watched.quiet config rfl rfl rfl rfl rfl
  | publishResult =>
      rcases Option.map_eq_some_iff.mp taken with ⟨next, stepped, rfl⟩
      have config := (TradingSystem.step_cfg stepped).trans watched.configured
      simp only [TradingSystem.step?] at stepped
      split at stepped
      · rename_i req result task
        have published := Option.some.inj stepped
        have broker : next.broker = s.system.broker := by
          rw [← published]
          exact TradingSystem.publish_broker _ _
        have router : next.router = s.system.router := by
          rw [← published]
          exact TradingSystem.publish_router _ _
        have idle : next.task = .idle := by
          rw [← published]
          exact TradingSystem.publish_task _ _
        refine ⟨config, ?_, ?_, ?_, ?_⟩
        · have same : (s.follow .publishResult next).system.router =
              s.system.router := router
          rw [same]
          exact watched.known
        · have same : (s.follow .publishResult next).system.broker =
              s.system.broker := broker
          rw [same]
          exact watched.stopped
        · intro other same
          have landed : next.task = .accepted other := same
          rw [idle] at landed
          cases landed
        · apply watched.capped.mono rfl
          unfold heldRisk follow
          dsimp only
          rw [broker, idle, task]
          exact le_rfl
      · cases stepped
  | handleFilled =>
      rcases Option.map_eq_some_iff.mp taken with ⟨next, stepped, rfl⟩
      have config := (TradingSystem.step_cfg stepped).trans watched.configured
      simp only [TradingSystem.step?] at stepped
      split at stepped
      · cases stepped
      · cases stepped
        exact watched.quiet config rfl rfl rfl rfl rfl
  | handleClosed now =>
      rcases Option.map_eq_some_iff.mp taken with ⟨next, stepped, rfl⟩
      have config := (TradingSystem.step_cfg stepped).trans watched.configured
      simp only [TradingSystem.step?] at stepped
      split at stepped
      · cases stepped
      · cases stepped
        exact watched.quiet config rfl rfl rfl rfl rfl
  | handlePartialClosed now =>
      rcases Option.map_eq_some_iff.mp taken with ⟨next, stepped, rfl⟩
      have config := (TradingSystem.step_cfg stepped).trans watched.configured
      simp only [TradingSystem.step?] at stepped
      split at stepped
      · cases stepped
      · cases stepped
        exact watched.quiet config rfl rfl rfl rfl rfl
  | handleSnapshot snap =>
      rcases Option.map_eq_some_iff.mp taken with ⟨next, stepped, rfl⟩
      have config := (TradingSystem.step_cfg stepped).trans watched.configured
      cases stepped
      exact watched.quiet config rfl rfl rfl rfl rfl

theorem Watched.boot (cfg : SimConfig σ) (risk : RiskConfig)
    (strategyMagic : Dict StrategyId Int) (initialBalance : ℚ) (slippage : σ)
    (now : Time) :
    (CappedSystem.boot risk strategyMagic initialBalance slippage now).Watched
      cfg risk where
  configured := rfl
  known := by
    rintro symbol size ⟨⟩
  stopped := ⟨by rintro ticket pos ⟨⟩, by rintro ticket order ⟨⟩⟩
  flight := by
    rintro req ⟨⟩
  capped := by
    rintro ⟨⟩

end Steps

/-! ### Runs -/

/-- In every run whose verdicts do not depend on what rests, the risk of all that
is open, rests or is about to be placed stays under the cap from an acceptance
until the equity changes. -/
theorem aggregate_risk_capped {cfg : SimConfig σ} {risk : RiskConfig}
    {strategyMagic : Dict StrategyId Int} {initialBalance : ℚ} {slippage : σ}
    {now : Time} {labels : List SystemLabel} {s : CappedSystem σ}
    (run : Run (Guarded (RestingFits cfg) (Guarded (Supposed cfg) (Step cfg)))
      (boot risk strategyMagic initialBalance slippage now) labels s)
    (sized : ∀ symbol, 0 < cfg.contractSizeFor symbol)
    (capped : 0 < risk.maxAggregateRiskPct) :
    s.Capped cfg risk.maxAggregateRiskPct := by
  have watched : s.Watched cfg risk :=
    run.invariant
      (Watched.boot cfg risk strategyMagic initialBalance slippage now)
      fun taken watched =>
        watched.step sized capped taken.2.1 taken.1 taken.2.2
  exact watched.capped

/-! ### Two orders that rest -/

/-- One percent of the equity may be at risk. -/
def onePercent : RiskConfig :=
  { (default : RiskConfig) with
    maxAggregateRiskPct := 1
    maxAggregateRiskPct_nonneg := by norm_num }

def restingBuy (time : Time) : Signal where
  strategyId := "trend"
  time := time
  symbol := "EURUSD"
  side := .buy
  suggestedVolume := some 1
  suggestedSl := some (8 / 10)
  suggestedTp := none
  orderType := .limit
  suggestedPrice := some (9 / 10)
  entryRefPrice := none
  comment := ""

/-- An account worth exactly a hundred times the risk of one order. -/
def worth : AccountSnapshot where
  accountId := "sim"
  time := 0
  balance := 1000000
  equity := 1000000
  freeMargin := 1000000
  marginLevel := 0

def quietDesk : CappedSystem Unit := boot onePercent .empty 1000000 () 0

def firstRests : List SystemLabel :=
  [.handleSnapshot worth, .drive (.setMarket "EURUSD" 1),
    .emitSignal (restingBuy 1), .handleSignal 1 "a", .placeOrder,
    .publishResult]

/-- Two orders rest, then the price falls through both. -/
def bothRest : List SystemLabel :=
  firstRests ++ [.emitSignal (restingBuy 2), .handleSignal 2 "b", .placeOrder,
    .publishResult, .drive (.checkPendingBar "EURUSD" 1 (9 / 10))]

theorem plain_sized (symbol : Symbol) :
    0 < SimConfig.plain.contractSizeFor symbol := by
  have size : SimConfig.plain.contractSizeFor symbol = 100000 := rfl
  rw [size]
  norm_num

/-- An order that rests and then opens has exactly the cap at risk. -/
theorem one_order_capped :
    ∃ s : CappedSystem Unit, heldRisk .plain s = 10000 ∧ s.covered = true ∧
      s.Capped .plain onePercent.maxAggregateRiskPct := by
  have reached :
      (replay? (fun s label => RestingFits .plain s label ∧
          Supposed .plain s label) (step? .plain) quietDesk
        (firstRests ++ [.drive (.checkPendingBar "EURUSD" 1 (9 / 10))])).map
          (fun s => (heldRisk .plain s, s.covered)) = some (10000, true) := by
    decide +kernel
  rcases Option.map_eq_some_iff.mp reached with ⟨s, replayed, held⟩
  have run : Run (Guarded (RestingFits .plain)
      (Guarded (Supposed .plain) (Step .plain))) quietDesk _ s :=
    (run_of_replay? replayed).mono fun taken =>
      ⟨taken.1.1, taken.1.2, taken.2⟩
  exact ⟨s, congrArg Prod.fst held, congrArg Prod.snd held,
    aggregate_risk_capped run plain_sized (by decide)⟩

/-- Without the proviso the cap fails: the second check does not see the order
that rests. -/
theorem resting_orders_exceed_cap :
    ¬ ∀ (cfg : SimConfig Unit) (risk : RiskConfig)
        (strategyMagic : Dict StrategyId Int) (initialBalance : ℚ) (now : Time)
        (labels : List SystemLabel) (s : CappedSystem Unit),
        Run (Guarded (Supposed cfg) (Step cfg))
          (boot risk strategyMagic initialBalance () now) labels s →
        (∀ symbol, 0 < cfg.contractSizeFor symbol) →
        0 < risk.maxAggregateRiskPct → s.Capped cfg risk.maxAggregateRiskPct := by
  intro claim
  have reached :
      (replay? (Supposed .plain) (step? .plain) quietDesk bothRest).map
        (fun s => (heldRisk .plain s, s.covered,
          s.system.monitor.currentEquity)) =
        some (20000, true, some 1000000) := by
    decide +kernel
  rcases Option.map_eq_some_iff.mp reached with ⟨s, replayed, held⟩
  rcases Prod.mk.inj held with ⟨total, rest⟩
  rcases Prod.mk.inj rest with ⟨covered, equity⟩
  have kept := claim .plain onePercent .empty 1000000 0 bothRest s
    (run_of_replay? replayed) plain_sized (by decide) covered 1000000 equity
  have percent : onePercent.maxAggregateRiskPct = 1 := rfl
  rw [total, percent] at kept
  norm_num at kept

end CappedSystem

end StingerFx
