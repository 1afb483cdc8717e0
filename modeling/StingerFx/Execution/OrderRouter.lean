/-
Module: StingerFx.Execution.OrderRouter
Layer: Execution
Purpose: From a signal to an order. The router asks the pre-trade filter, the
  risk monitor and the exposure cap, records its decision, submits the request
  and publishes the outcome. A broker is anything that answers the router's
  three questions; a raised exception is an answer of its own.
Trusted boundary: human-reviewed model of the source's order router
Main exports: BrokerPort, PlaceCall, RouterState, resolveVolume,
  checkAggregateRisk, PreTrade, preTrade, submissionEvents, submitOrder,
  HandleCall, handleSignal
-/
import StingerFx.Execution.PreTrade
import StingerFx.Risk.Monitor
import StingerFx.Backtest.SimBroker
import StingerFx.Brokers.OrderQueue

namespace StingerFx

open Lib

/-- What a placement leaves: the broker, what it published, and its answer. -/
structure PlaceCall (β ε : Type) where
  broker : β
  events : List Event
  answer : PlaceAnswer ε

/-- The calls the router makes on a broker that raises `ε`; queries answer `none`
when they raise, since the router only logs those exceptions. -/
structure BrokerPort (β ε : Type) where
  accountId : β → AccountId
  getSymbolInfo : β → Symbol → β × Option SymbolInfo
  getPositions : β → β × Option (List Position)
  placeOrder : β → OrderRequest → PlaceCall β ε

/-- The simulated broker behind the router. -/
def simPort {σ : Type} (cfg : SimConfig σ) :
    BrokerPort (SimBroker σ) BrokerError where
  accountId := SimBroker.accountId
  getSymbolInfo := fun b symbol => (b, (b.getSymbolInfo cfg symbol).toOption)
  getPositions := fun b => (b, some b.getPositions)
  placeOrder := fun b req =>
    let call := b.placeOrder cfg req
    ⟨call.broker, call.events, call.outcome⟩

/-- The router's own state beside its collaborators. -/
structure RouterState where
  strategyMagic : Dict StrategyId Int
  contractSizeCache : Dict Symbol ℚ

section Router

variable {β ε : Type} (port : BrokerPort β ε)

/-- Whether anything behind the signal needs the symbol's metadata. -/
def needsSymbolInfo (risk : RiskMonitor) (signal : Signal) : Bool :=
  (risk.cfg.positionSizing.enabled && signal.suggestedSl.isSome &&
      signal.entryRefPrice.isSome) ||
    (risk.cfg.tradingFilter.enabled &&
      decide (0 < risk.cfg.tradingFilter.maxSpreadPoints)) ||
    (decide (0 < risk.cfg.maxAggregateRiskPct) && signal.suggestedSl.isSome)

/-- Fetch the symbol's metadata when needed; `none` also when the call raised. -/
def maybeSymbolInfo (risk : Option RiskMonitor) (signal : Signal) (b : β) :
    β × Option SymbolInfo :=
  match risk with
  | none => (b, none)
  | some risk =>
      if needsSymbolInfo risk signal then port.getSymbolInfo b signal.symbol
      else (b, none)

/-- The strategy's own volume, `suggested_volume or 0.01`. -/
def fixedVolume (signal : Signal) : ℚ :=
  (truthy signal.suggestedVolume).getD (1 / 100)

/-- Risk-based volume when sizing is on and its inputs are there, else the
strategy's own volume. -/
def resolveVolume (risk : Option RiskMonitor) (signal : Signal)
    (info : Option SymbolInfo) : ℚ :=
  let fixed := fixedVolume signal
  match risk with
  | none => fixed
  | some risk =>
      if risk.cfg.positionSizing.enabled then
        match signal.suggestedSl, signal.entryRefPrice, info,
            risk.currentEquity with
        | some sl, some entry, some info, some equity =>
            let sized := sizeByRisk equity risk.cfg.positionSizing.riskPerTradePct
              entry sl info.contractSize info.volumeMin info.volumeMax
              info.volumeStep
            if sized ≤ 0 then fixed else sized
        | _, _, _, _ => fixed
      else fixed

/-- Fill the contract-size cache for the symbols of the open positions; a
symbol whose fetch raises stays unknown. -/
def contractSizes (b : β) (cache : Dict Symbol ℚ) :
    List Symbol → β × Dict Symbol ℚ
  | [] => (b, cache)
  | symbol :: symbols =>
      if cache.contains symbol then contractSizes b cache symbols
      else
        let fetched := port.getSymbolInfo b symbol
        match fetched.2 with
        | none => contractSizes fetched.1 cache symbols
        | some info =>
            contractSizes fetched.1 (cache.set symbol info.contractSize) symbols

/-- The cap on the open risk of the account, measured with the new order. -/
def aggregateReason (maxPct equity newRisk : ℚ) (positions : List Position)
    (sizes : Dict Symbol ℚ) : Option DecisionReason :=
  let existing := aggregateOpenRisk positions sizes
  let cap := equity * maxPct / 100
  if cap < existing + newRisk then
    some (.maxAggregateRiskPct maxPct existing newRisk cap)
  else none

/-- Verdict of the aggregate open-risk cap; `none` when the order may pass, or
when the cap is off or cannot be measured. -/
def checkAggregateRisk (risk : RiskMonitor) (cache : Dict Symbol ℚ)
    (signal : Signal) (volume : ℚ) (info : Option SymbolInfo) (b : β) :
    β × Dict Symbol ℚ × Option DecisionReason :=
  let maxPct := risk.cfg.maxAggregateRiskPct
  if maxPct ≤ 0 then (b, cache, none)
  else
    match signal.suggestedSl, info,
        truthy signal.entryRefPrice <|> signal.suggestedPrice,
        risk.currentEquity with
    | some sl, some info, some entry, some equity =>
        if equity ≤ 0 then (b, cache, none)
        else
          let newRisk := positionRisk entry (some sl) volume info.contractSize
          let listed := port.getPositions b
          match listed.2 with
          | none => (listed.1, cache, none)
          | some positions =>
              let known := cache.set signal.symbol info.contractSize
              let sizes := contractSizes port listed.1 known
                (positions.map Position.symbol).dedup
              (sizes.1, sizes.2,
                aggregateReason maxPct equity newRisk positions sizes.2)
    | _, _, _, _ => (b, cache, none)

/-- The decision recorded for a signal that is turned down. -/
def rejectedDecision (signal : Signal) (reason : DecisionReason) : Decision where
  signal := signal
  time := signal.time
  action := .rejected
  reason := some reason
  riskCheckPassed := false
  clientOrderId := none

def placedDecision (signal : Signal) (clientOrderId : ClientOrderId) :
    Decision where
  signal := signal
  time := signal.time
  action := .placed
  reason := none
  riskCheckPassed := true
  clientOrderId := some clientOrderId

/-- `OrderRequest(...)` for a signal: refused unless the volume is positive. -/
def buildRequest (signal : Signal) (volume : ℚ) (magic : Int)
    (clientOrderId : ClientOrderId) : Option OrderRequest :=
  if volume_pos : 0 < volume then
    some
      { strategyId := signal.strategyId
        symbol := signal.symbol
        side := signal.side
        type := signal.orderType
        volume := volume
        price := signal.suggestedPrice
        sl := signal.suggestedSl
        tp := signal.suggestedTp
        comment := signal.comment
        magic := magic
        clientOrderId := clientOrderId
        volume_pos := volume_pos }
  else none

/-- How the part of `handle_signal` before the submission ends. -/
inductive Gate where
  | rejected (reason : DecisionReason)
  | invalid
  | accepted (req : OrderRequest)
deriving Repr, DecidableEq

/-- Everything the gate leaves behind. -/
structure PreTrade (β : Type) where
  broker : β
  risk : Option RiskMonitor
  cache : Dict Symbol ℚ
  gate : Gate

/-- Why the trading filter blocks a signal. -/
def filterReason (risk : Option RiskMonitor) (signal : Signal)
    (info : Option SymbolInfo) : Option FilterReason :=
  match risk with
  | none => none
  | some risk =>
      evaluateTradingFilter risk.cfg.tradingFilter signal.time
        (info.map SymbolInfo.spread)

/-- The risk verdict and, when it allows, the exposure cap. -/
def riskGate (risk : Option RiskMonitor) (cache : Dict Symbol ℚ) (now : Time)
    (signal : Signal) (volume : ℚ) (info : Option SymbolInfo) (b : β) :
    β × Option RiskMonitor × Dict Symbol ℚ × Option DecisionReason :=
  match risk with
  | none => (b, none, cache, none)
  | some risk =>
      let checked := risk.checkSignal now signal
      match checked.1.reason with
      | some reason => (b, some checked.2, cache, some (.risk reason))
      | none =>
          let capped :=
            checkAggregateRisk port checked.2 cache signal volume info b
          (capped.1, some checked.2, capped.2.1, capped.2.2)

/-- The gate in front of the submission. -/
def preTrade (router : RouterState) (risk : Option RiskMonitor) (now : Time)
    (clientOrderId : ClientOrderId) (signal : Signal) (b : β) : PreTrade β :=
  let fetched := maybeSymbolInfo port risk signal b
  match filterReason risk signal fetched.2 with
  | some reason =>
      ⟨fetched.1, risk, router.contractSizeCache,
        .rejected (.tradingFilter reason)⟩
  | none =>
      let volume := resolveVolume risk signal fetched.2
      let gated := riskGate port risk router.contractSizeCache now signal volume
        fetched.2 fetched.1
      match gated.2.2.2 with
      | some reason => ⟨gated.1, gated.2.1, gated.2.2.1, .rejected reason⟩
      | none =>
          let magic := router.strategyMagic.getD signal.strategyId 0
          match buildRequest signal volume magic clientOrderId with
          | none => ⟨gated.1, gated.2.1, gated.2.2.1, .invalid⟩
          | some req => ⟨gated.1, gated.2.1, gated.2.2.1, .accepted req⟩

/-- The order reported with a refused request. -/
def rejectedOrder (req : OrderRequest) (result : OrderResult) : Order where
  ticket := result.ticket.getD 0
  strategyId := req.strategyId
  symbol := req.symbol
  side := req.side
  type := req.type
  volume := req.volume
  filledVolume := 0
  price := req.price
  fillPrice := none
  sl := req.sl
  tp := req.tp
  status := .rejected
  comment := req.comment
  magic := req.magic
  clientOrderId := req.clientOrderId
  requestedAt := none
  filledAt := none
  volume_pos := req.volume_pos

/-- What the router publishes for a broker's result. A submitted order was
announced by the broker. -/
def submissionEvents (accountId : AccountId) (req : OrderRequest)
    (result : OrderResult) : List Event :=
  if result.ok then
    match result.order, result.status with
    | some order, .filled => [.orderFilled order accountId]
    | some order, .partiallyFilled => [.orderFilled order accountId]
    | _, _ => []
  else [.orderRejected (rejectedOrder req result) result.message]

/-- What broker and router publish for a placement. -/
def placementEvents {σ : Type} (accountId : AccountId) (req : OrderRequest)
    (call : Call σ OrderResult) : List Event :=
  match call.outcome with
  | .error _ => call.events
  | .ok result => call.events ++ submissionEvents accountId req result

/-- What a submission leaves: `requests` are those that reached the broker. -/
structure SubmitCall (β ε : Type) where
  broker : β
  queue : Option OrderTable
  events : List Event
  requests : List OrderRequest
  answer : PlaceAnswer ε

/-- Through the outbox when there is one, else straight to the broker. The
outbox settles the row and passes an exception on. -/
def submitOrder (env : QueueEnv β ε) (now completedAt : Time)
    (queue : Option OrderTable) (req : OrderRequest) (b : β) :
    SubmitCall β ε :=
  match queue with
  | none =>
      let call := port.placeOrder b req
      ⟨call.broker, none, call.events, [req], call.answer⟩
  | some table =>
      match table.enqueue now req with
      | .error refused => ⟨b, some table, [], [], .ok refused⟩
      | .ok (rowId, table) =>
          let call := port.placeOrder b req
          let settled := table.settle env completedAt "" rowId call.answer
          ⟨call.broker, some settled, call.events, [req], call.answer⟩

/-- How `handle_signal` ends when it does not return. -/
inductive SignalError (ε : Type) where
  | invalidRequest
  | placement (error : ε)

/-- What handling a signal leaves. -/
structure HandleCall (β ε : Type) where
  broker : β
  risk : Option RiskMonitor
  cache : Dict Symbol ℚ
  queue : Option OrderTable
  events : List Event
  requests : List OrderRequest
  error : Option (SignalError ε)

/-- `handle_signal`: the gate, the decision, the submission and its outcome. -/
def handleSignal (env : QueueEnv β ε) (router : RouterState)
    (risk : Option RiskMonitor) (queue : Option OrderTable)
    (now completedAt : Time) (clientOrderId : ClientOrderId) (signal : Signal)
    (b : β) : HandleCall β ε :=
  let gated := preTrade port router risk now clientOrderId signal b
  match gated.gate with
  | .rejected reason =>
      ⟨gated.broker, gated.risk, gated.cache, queue,
        [.decision (rejectedDecision signal reason)], [], none⟩
  | .invalid =>
      ⟨gated.broker, gated.risk, gated.cache, queue, [], [],
        some .invalidRequest⟩
  | .accepted req =>
      let call := submitOrder port env now completedAt queue req gated.broker
      let placed := Event.decision (placedDecision signal clientOrderId)
      match call.answer with
      | .error error =>
          ⟨call.broker, gated.risk, gated.cache, call.queue,
            placed :: call.events, call.requests, some (.placement error)⟩
      | .ok result =>
          ⟨call.broker, gated.risk, gated.cache, call.queue,
            placed :: call.events ++
              submissionEvents (port.accountId call.broker) req result,
            call.requests, none⟩

/-! ### What the gate leaves alone -/

/-- Queries that do not change the broker. -/
structure BrokerPort.ReadOnly (port : BrokerPort β ε) : Prop where
  getSymbolInfo : ∀ b symbol, (port.getSymbolInfo b symbol).1 = b
  getPositions : ∀ b, (port.getPositions b).1 = b

theorem simPort_readOnly {σ : Type} (cfg : SimConfig σ) :
    (simPort cfg).ReadOnly :=
  ⟨fun _ _ => rfl, fun _ => rfl⟩

section Gate

variable {port}

theorem maybeSymbolInfo_broker (readOnly : port.ReadOnly)
    (risk : Option RiskMonitor) (signal : Signal) (b : β) :
    (maybeSymbolInfo port risk signal b).1 = b := by
  unfold maybeSymbolInfo
  split
  · rfl
  · split
    · exact readOnly.getSymbolInfo b signal.symbol
    · rfl

theorem contractSizes_broker (readOnly : port.ReadOnly) (b : β)
    (cache : Dict Symbol ℚ) (symbols : List Symbol) :
    (contractSizes port b cache symbols).1 = b := by
  induction symbols generalizing cache with
  | nil => rfl
  | cons symbol symbols ih =>
      unfold contractSizes
      split
      · exact ih cache
      · dsimp only
        rw [readOnly.getSymbolInfo]
        split
        · exact ih cache
        · exact ih _

theorem checkAggregateRisk_broker (readOnly : port.ReadOnly)
    (risk : RiskMonitor) (cache : Dict Symbol ℚ) (signal : Signal)
    (volume : ℚ) (info : Option SymbolInfo) (b : β) :
    (checkAggregateRisk port risk cache signal volume info b).1 = b := by
  unfold checkAggregateRisk
  dsimp only
  split
  · rfl
  · split
    · split
      · rfl
      · split
        · exact readOnly.getPositions b
        · dsimp only
          rw [contractSizes_broker readOnly]
          exact readOnly.getPositions b
    · rfl

/-- The monitor changes only by the question it is asked. -/
theorem riskGate_risk (m : RiskMonitor) (cache : Dict Symbol ℚ) (now : Time)
    (signal : Signal) (volume : ℚ) (info : Option SymbolInfo) (b : β) :
    (riskGate port (some m) cache now signal volume info b).2.1 =
      some (m.checkSignal now signal).2 := by
  unfold riskGate
  dsimp only
  split <;> rfl

theorem riskGate_broker (readOnly : port.ReadOnly) (risk : Option RiskMonitor)
    (cache : Dict Symbol ℚ) (now : Time) (signal : Signal) (volume : ℚ)
    (info : Option SymbolInfo) (b : β) :
    (riskGate port risk cache now signal volume info b).1 = b := by
  unfold riskGate
  split
  · rfl
  · dsimp only
    split
    · rfl
    · exact checkAggregateRisk_broker readOnly _ _ _ _ _ _

/-- A signal passes the risk gate only if the monitor finds no reason. -/
theorem riskGate_allows {m : RiskMonitor} {cache : Dict Symbol ℚ} {now : Time}
    {signal : Signal} {volume : ℚ} {info : Option SymbolInfo} {b : β}
    (allowed :
      (riskGate port (some m) cache now signal volume info b).2.2.2 = none) :
    (m.checkSignal now signal).1.reason = none := by
  unfold riskGate at allowed
  dsimp only at allowed
  split at allowed
  · cases allowed
  · assumption

theorem buildRequest_fields {signal : Signal} {volume : ℚ} {magic : Int}
    {clientOrderId : ClientOrderId} {req : OrderRequest}
    (built : buildRequest signal volume magic clientOrderId = some req) :
    req.strategyId = signal.strategyId ∧ req.symbol = signal.symbol ∧
      req.clientOrderId = clientOrderId ∧ req.volume = volume := by
  unfold buildRequest at built
  split at built
  · cases built
    exact ⟨rfl, rfl, rfl, rfl⟩
  · cases built

/-- A request carries the signal's type, price and stop. -/
theorem buildRequest_levels {signal : Signal} {volume : ℚ} {magic : Int}
    {clientOrderId : ClientOrderId} {req : OrderRequest}
    (built : buildRequest signal volume magic clientOrderId = some req) :
    req.type = signal.orderType ∧ req.price = signal.suggestedPrice ∧
      req.sl = signal.suggestedSl := by
  unfold buildRequest at built
  split at built
  · cases built
    exact ⟨rfl, rfl, rfl⟩
  · cases built

theorem preTrade_broker (readOnly : port.ReadOnly) (router : RouterState)
    (risk : Option RiskMonitor) (now : Time) (clientOrderId : ClientOrderId)
    (signal : Signal) (b : β) :
    (preTrade port router risk now clientOrderId signal b).broker = b := by
  unfold preTrade
  dsimp only
  split
  · exact maybeSymbolInfo_broker readOnly risk signal b
  · split
    · dsimp only
      rw [riskGate_broker readOnly]
      exact maybeSymbolInfo_broker readOnly risk signal b
    · split <;>
      · dsimp only
        rw [riskGate_broker readOnly]
        exact maybeSymbolInfo_broker readOnly risk signal b

theorem preTrade_risk (router : RouterState) (m : RiskMonitor) (now : Time)
    (clientOrderId : ClientOrderId) (signal : Signal) (b : β) :
    (preTrade port router (some m) now clientOrderId signal b).risk = some m ∨
      (preTrade port router (some m) now clientOrderId signal b).risk =
        some (m.checkSignal now signal).2 := by
  unfold preTrade
  dsimp only
  split
  · exact .inl rfl
  · right
    split
    · exact riskGate_risk ..
    · split <;> exact riskGate_risk ..

/-- The request of an accepted signal, and the check it passed. -/
theorem preTrade_built {router : RouterState} {risk : Option RiskMonitor}
    {now : Time} {clientOrderId : ClientOrderId} {signal : Signal} {b : β}
    {req : OrderRequest}
    (accepted :
      (preTrade port router risk now clientOrderId signal b).gate =
        .accepted req) :
    let fetched := maybeSymbolInfo port risk signal b
    let volume := resolveVolume risk signal fetched.2
    (riskGate port risk router.contractSizeCache now signal volume
        fetched.2 fetched.1).2.2.2 = none ∧
      buildRequest signal volume (router.strategyMagic.getD signal.strategyId 0)
        clientOrderId = some req := by
  unfold preTrade at accepted
  dsimp only at accepted ⊢
  split at accepted
  · cases accepted
  · split at accepted
    · cases accepted
    · rename_i allowed
      split at accepted
      · cases accepted
      · rename_i built
        cases accepted
        exact ⟨allowed, built⟩

/-- An accepted signal was allowed by the monitor, and its request carries the
signal's strategy and symbol. -/
theorem preTrade_accepted {router : RouterState} {m : RiskMonitor} {now : Time}
    {clientOrderId : ClientOrderId} {signal : Signal} {b : β}
    {req : OrderRequest}
    (accepted :
      (preTrade port router (some m) now clientOrderId signal b).gate =
        .accepted req) :
    (m.checkSignal now signal).1.reason = none ∧
      req.strategyId = signal.strategyId ∧ req.symbol = signal.symbol ∧
      req.clientOrderId = clientOrderId := by
  rcases preTrade_built accepted with ⟨allowed, built⟩
  rcases buildRequest_fields built with ⟨strategyId, symbol, id, -⟩
  exact ⟨riskGate_allows allowed, strategyId, symbol, id⟩

end Gate

end Router

end StingerFx
