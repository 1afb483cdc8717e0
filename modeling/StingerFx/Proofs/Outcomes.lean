/-
Module: StingerFx.Proofs.Outcomes
Layer: Proofs
Purpose: One decision and one outcome for every signal. A broker answers a
  placement in one of four ways: it fills it and leaves the announcement to the
  router, parks it and announces it, refuses it, or raises. The first three give
  one outcome event; an exception passes through the router without one, and a
  request that does not validate passes without even a decision.
Trusted boundary: none (fully proved)
Main exports: PlaceCall.Conforms, simPort_conforms, OneOutcome, Accountable,
  one_outcome_iff, raising_broker_leaves_no_outcome
-/
import StingerFx.Execution.OrderRouter

namespace StingerFx

open Lib

/-! ### Outcomes -/

/-- Whether an event tells how the submission of an order ended. -/
def Event.outcomeOf (id : ClientOrderId) : Event → Bool
  | .orderFilled order _ => decide (order.clientOrderId = id)
  | .orderSubmitted order => decide (order.clientOrderId = id)
  | .orderRejected order _ => decide (order.clientOrderId = id)
  | _ => false

def Event.decision? : Event → Option Decision
  | .decision verdict => some verdict
  | _ => none

/-- Events that neither decide nor end a submission. -/
def Quiet (id : ClientOrderId) (events : List Event) : Prop :=
  ∀ e ∈ events, e.decision? = none ∧ e.outcomeOf id = false

section Broker

variable {β ε : Type}

/-- The ways a broker ends a placement. -/
inductive PlaceCall.Conforms (req : OrderRequest) (call : PlaceCall β ε) :
    Prop where
  | filled (order : Order) (result : OrderResult)
      (answer : call.answer = .ok result) (ok : result.ok = true)
      (status : result.status = .filled ∨ result.status = .partiallyFilled)
      (reported : result.order = some order)
      (own : order.clientOrderId = req.clientOrderId)
      (quiet : Quiet req.clientOrderId call.events)
  | submitted (order : Order) (before after : List Event)
      (result : OrderResult) (answer : call.answer = .ok result)
      (ok : result.ok = true) (status : result.status = .submitted)
      (own : order.clientOrderId = req.clientOrderId)
      (announced : call.events = before ++ .orderSubmitted order :: after)
      (quiet_before : Quiet req.clientOrderId before)
      (quiet_after : Quiet req.clientOrderId after)
  | refused (result : OrderResult) (answer : call.answer = .ok result)
      (ok : result.ok = false) (quiet : Quiet req.clientOrderId call.events)
  | raised (error : ε) (answer : call.answer = .error error)
      (quiet : Quiet req.clientOrderId call.events)

/-- A broker that ends every placement in one of these ways. -/
def BrokerPort.Conforms (port : BrokerPort β ε) : Prop :=
  ∀ b req, (port.placeOrder b req).Conforms req

theorem quiet_nil (id : ClientOrderId) : Quiet id [] := by
  intro e member
  cases member

end Broker

/-- The simulated broker does. -/
theorem simPort_conforms {σ : Type} (cfg : SimConfig σ) :
    (simPort cfg).Conforms := by
  intro b req
  change PlaceCall.Conforms req
    ⟨(b.placeOrder cfg req).broker, (b.placeOrder cfg req).events,
      (b.placeOrder cfg req).outcome⟩
  unfold SimBroker.placeOrder
  split
  · split
    · split
      · exact .refused _ rfl rfl (quiet_nil _)
      · exact .submitted _ [] [] _ rfl rfl rfl rfl rfl (quiet_nil _)
          (quiet_nil _)
    · unfold SimBroker.fillMarket
      dsimp only
      split
      · exact .raised _ rfl (quiet_nil _)
      · exact .filled _ _ rfl rfl (.inl rfl) rfl rfl (quiet_nil _)
  · exact .refused _ rfl rfl (quiet_nil _)

/-! ### One signal -/

section Signal

variable {β ε : Type} {port : BrokerPort β ε} {env : QueueEnv β ε}
  {router : RouterState} {risk : Option RiskMonitor}
  {queue : Option OrderTable} {now completedAt : Time} {id : ClientOrderId}
  {signal : Signal} {b : β}

/-- One decision; when it places the order, one outcome under its id; when it
rejects the signal, nothing reached the broker. -/
def OneOutcome (call : HandleCall β ε) : Prop :=
  ∃ decision, call.events.filterMap Event.decision? = [decision] ∧
    (decision.action = .placed → ∃ id, decision.clientOrderId = some id ∧
      (call.events.filter (·.outcomeOf id)).length = 1) ∧
    (decision.action = .rejected → call.requests = [])

/-- The outbox has a row under the id. -/
def Known (queue : Option OrderTable) (id : ClientOrderId) : Prop :=
  ∃ table, queue = some table ∧ table.rowFor id ≠ none

/-- The trading filter, the monitor or the exposure cap turns the signal
down. -/
def TurnedDown (port : BrokerPort β ε) (router : RouterState)
    (risk : Option RiskMonitor) (now : Time) (signal : Signal) (b : β) : Prop :=
  let fetched := maybeSymbolInfo port risk signal b
  filterReason risk signal fetched.2 ≠ none ∨
    (riskGate port risk router.contractSizeCache now signal
      (resolveVolume risk signal fetched.2) fetched.2 fetched.1).2.2.2 ≠ none

/-- The broker that `preTrade` leaves. -/
def gatedBroker (port : BrokerPort β ε) (router : RouterState)
    (risk : Option RiskMonitor) (now : Time) (signal : Signal) (b : β) : β :=
  let fetched := maybeSymbolInfo port risk signal b
  (riskGate port risk router.contractSizeCache now signal
    (resolveVolume risk signal fetched.2) fetched.2 fetched.1).1

/-- The signal is turned down, or it makes a valid request and the submission
comes back: the outbox knows the id, or the broker does not raise. -/
def Accountable (port : BrokerPort β ε) (router : RouterState)
    (risk : Option RiskMonitor) (queue : Option OrderTable) (now : Time)
    (id : ClientOrderId) (signal : Signal) (b : β) : Prop :=
  TurnedDown port router risk now signal b ∨
    ∃ req, buildRequest signal
        (resolveVolume risk signal (maybeSymbolInfo port risk signal b).2)
        (router.strategyMagic.getD signal.strategyId 0) id = some req ∧
      (Known queue id ∨ ∃ result,
        (port.placeOrder (gatedBroker port router risk now signal b) req).answer =
          .ok result)

/-- What each end of the gate tells. -/
theorem preTrade_gate :
    match (preTrade port router risk now id signal b).gate with
    | .rejected _ => TurnedDown port router risk now signal b
    | .invalid => ¬ TurnedDown port router risk now signal b ∧
        buildRequest signal
          (resolveVolume risk signal (maybeSymbolInfo port risk signal b).2)
          (router.strategyMagic.getD signal.strategyId 0) id = none
    | .accepted req => ¬ TurnedDown port router risk now signal b ∧
        buildRequest signal
          (resolveVolume risk signal (maybeSymbolInfo port risk signal b).2)
          (router.strategyMagic.getD signal.strategyId 0) id = some req ∧
        (preTrade port router risk now id signal b).broker =
          gatedBroker port router risk now signal b := by
  unfold preTrade TurnedDown gatedBroker
  dsimp only
  cases blocked : filterReason risk signal
      (maybeSymbolInfo port risk signal b).2 with
  | some reason => simp
  | none =>
      dsimp only
      cases refused : (riskGate port risk router.contractSizeCache now signal
          (resolveVolume risk signal (maybeSymbolInfo port risk signal b).2)
          (maybeSymbolInfo port risk signal b).2
          (maybeSymbolInfo port risk signal b).1).2.2.2 with
      | some reason => simp
      | none =>
          dsimp only
          cases built : buildRequest signal
              (resolveVolume risk signal
                (maybeSymbolInfo port risk signal b).2)
              (router.strategyMagic.getD signal.strategyId 0) id with
          | none => simp
          | some req => simp

/-! ### The submission -/

/-- The outbox ends a submission as the broker would: a duplicate is refused. -/
theorem submitOrder_conforms (conforms : port.Conforms) (req : OrderRequest) :
    PlaceCall.Conforms req
      ⟨(submitOrder port env now completedAt queue req b).broker,
        (submitOrder port env now completedAt queue req b).events,
        (submitOrder port env now completedAt queue req b).answer⟩ := by
  unfold submitOrder
  split
  · exact conforms b req
  · split
    · rename_i table _ refused enqueued
      unfold OrderTable.enqueue at enqueued
      split at enqueued
      · cases enqueued
        exact .refused _ rfl rfl (quiet_nil _)
      · cases enqueued
    · exact conforms b req

/-- A submission comes back when the outbox knows the id or the broker does not
raise. -/
theorem submitOrder_returns (req : OrderRequest) :
    (∃ result,
      (submitOrder port env now completedAt queue req b).answer = .ok result) ↔
      Known queue req.clientOrderId ∨
        ∃ result, (port.placeOrder b req).answer = .ok result := by
  unfold submitOrder Known
  split
  · simp
  · rename_i table
    split
    · rename_i refused enqueued
      unfold OrderTable.enqueue at enqueued
      split at enqueued
      · rename_i entry found
        simp [found]
      · cases enqueued
    · rename_i enqueued
      unfold OrderTable.enqueue at enqueued
      split at enqueued
      · cases enqueued
      · rename_i absent
        simp [absent]

theorem Quiet.decisions {id : ClientOrderId} {events : List Event}
    (quiet : Quiet id events) : events.filterMap Event.decision? = [] :=
  List.filterMap_eq_nil_iff.mpr fun e member => (quiet e member).1

theorem Quiet.outcomes {id : ClientOrderId} {events : List Event}
    (quiet : Quiet id events) : events.filter (·.outcomeOf id) = [] :=
  List.filter_eq_nil_iff.mpr fun e member => by simp [(quiet e member).2]

/-- A submission that comes back has one outcome, from the broker or from the
router. -/
theorem PlaceCall.Conforms.one_outcome {req : OrderRequest}
    {call : PlaceCall β ε} (conforms : call.Conforms req)
    (accountId : AccountId) {result : OrderResult}
    (answer : call.answer = .ok result) :
    (call.events ++ submissionEvents accountId req result).filterMap
        Event.decision? = [] ∧
      ((call.events ++ submissionEvents accountId req result).filter
        (·.outcomeOf req.clientOrderId)).length = 1 := by
  cases conforms with
  | filled order reply same ok status reported own quiet =>
      rw [answer] at same
      cases same
      have published : submissionEvents accountId req result =
          [.orderFilled order accountId] := by
        unfold submissionEvents
        rw [if_pos ok, reported]
        rcases status with filled | partly
        · rw [filled]
        · rw [partly]
      rw [published, List.filterMap_append, List.filter_append, quiet.decisions,
        quiet.outcomes]
      simp [Event.decision?, Event.outcomeOf, own]
  | submitted order before after reply same ok status own announced quiet_before
      quiet_after =>
      rw [answer] at same
      cases same
      have published : submissionEvents accountId req result = [] := by
        unfold submissionEvents
        rw [if_pos ok, status]
        cases result.order <;> rfl
      rw [published, List.append_nil, announced, List.filterMap_append,
        List.filter_append, List.filterMap_cons, List.filter_cons,
        quiet_before.decisions, quiet_before.outcomes, quiet_after.decisions,
        quiet_after.outcomes]
      simp [Event.decision?, Event.outcomeOf, own]
  | refused reply same ok quiet =>
      rw [answer] at same
      cases same
      have published : submissionEvents accountId req result =
          [.orderRejected (rejectedOrder req result) result.message] := by
        unfold submissionEvents
        rw [ok]
        rfl
      rw [published, List.filterMap_append, List.filter_append, quiet.decisions,
        quiet.outcomes]
      simp [Event.decision?, Event.outcomeOf, rejectedOrder]
  | raised error same quiet =>
      rw [answer] at same
      cases same

/-- A submission that raises is quiet. -/
theorem PlaceCall.Conforms.quiet_of_error {req : OrderRequest}
    {call : PlaceCall β ε} (conforms : call.Conforms req) {error : ε}
    (answer : call.answer = .error error) :
    Quiet req.clientOrderId call.events := by
  cases conforms with
  | filled order reply same => rw [answer] at same; cases same
  | submitted order before after reply same => rw [answer] at same; cases same
  | refused reply same => rw [answer] at same; cases same
  | raised error same quiet => exact quiet

/-- A signal has exactly one decision and one outcome if and only if it is
turned down, or its request is valid and its submission comes back. -/
theorem one_outcome_iff (conforms : port.Conforms) :
    OneOutcome (handleSignal port env router risk queue now completedAt id
        signal b) ↔
      Accountable port router risk queue now id signal b := by
  have gated := @preTrade_gate _ _ port router risk now id signal b
  unfold handleSignal Accountable
  dsimp only
  cases gate : (preTrade port router risk now id signal b).gate with
  | rejected reason =>
      rw [gate] at gated
      refine iff_of_true ⟨_, rfl, ?_, fun _ => rfl⟩ (.inl gated)
      intro placed
      cases placed
  | invalid =>
      rw [gate] at gated
      refine iff_of_false ?_ ?_
      · rintro ⟨decision, decided, -⟩
        cases decided
      · rintro (refused | ⟨req, built, -⟩)
        · exact gated.1 refused
        · rw [gated.2] at built
          cases built
  | accepted req =>
      rw [gate] at gated
      obtain ⟨allowed, built, broker⟩ := gated
      have own := (buildRequest_fields built).2.2.1
      have submission := @submitOrder_conforms _ _ port env queue now
        completedAt (preTrade port router risk now id signal b).broker conforms
        req
      have returns := @submitOrder_returns _ _ port env queue now completedAt
        (preTrade port router risk now id signal b).broker req
      rw [own, broker] at returns
      rw [broker] at submission ⊢
      rw [or_iff_right allowed]
      simp only [built, Option.some.injEq, exists_eq_left', ← returns]
      generalize submitOrder port env now completedAt queue req
        (gatedBroker port router risk now signal b) = call at submission ⊢
      cases answer : call.answer with
      | error error =>
          -- the exception passes through: a decision without an outcome
          refine iff_of_false ?_ (by simp)
          have quiet := submission.quiet_of_error answer
          rw [own] at quiet
          rintro ⟨decision, decided, outcome, -⟩
          simp only [List.filterMap_cons, Event.decision?, quiet.decisions,
            List.cons.injEq, and_true] at decided
          subst decided
          obtain ⟨other, same, one⟩ := outcome rfl
          cases same
          rw [List.filter_cons, quiet.outcomes] at one
          cases one
      | ok result =>
          refine iff_of_true ?_ ⟨result, rfl⟩
          obtain ⟨decisions, outcomes⟩ := submission.one_outcome
            (port.accountId call.broker) answer
          rw [own] at outcomes
          refine ⟨placedDecision signal id, ?_, fun _ => ⟨id, rfl, ?_⟩, ?_⟩
          · exact congrArg (placedDecision signal id :: ·) decisions
          · exact outcomes
          · intro rejected
            cases rejected

end Signal

/-! ### Concrete signals -/

/-- A market order in a symbol without a price. -/
def unpricedSignal : Signal where
  strategyId := "trend"
  time := 0
  symbol := "EURUSD"
  side := .buy
  suggestedVolume := some 1
  suggestedSl := none
  suggestedTp := none
  orderType := .market
  suggestedPrice := none
  entryRefPrice := none
  comment := ""

/-- An outbox in front of a broker that never returns from a placement. -/
def outagePort : BrokerPort Unit String where
  accountId := fun _ => "default"
  getSymbolInfo := fun b _ => (b, none)
  getPositions := fun b => (b, none)
  placeOrder := fun b _ => ⟨b, [], .error "terminal not responding"⟩

def outageEnv (β ε : Type) : QueueEnv β ε where
  brokerLookup := fun _ => none
  describe := fun _ => "RuntimeError"
  number := fun _ => ""

theorem unpriced_signal_has_one_outcome :
    OneOutcome (handleSignal (simPort .plain)
      (outageEnv (SimBroker Unit) BrokerError) ⟨.empty, .empty⟩ none
      (some .empty) 0 0 "a" unpricedSignal (.create 1000 () 0)) :=
  (one_outcome_iff (simPort_conforms .plain)).mpr
    (.inr ⟨_, rfl, .inr ⟨_, rfl⟩⟩)

/-- A placement that raises leaves a decision without an outcome, with and
without an outbox. -/
theorem raising_broker_leaves_no_outcome :
    ¬ ∀ (port : BrokerPort Unit String), port.Conforms →
      ∀ (queue : Option OrderTable) (signal : Signal),
        OneOutcome (handleSignal port (outageEnv Unit String)
          ⟨.empty, .empty⟩ none queue 0 0 "a" signal ()) := by
  intro claim
  have conforms : outagePort.Conforms := fun _ _ =>
    .raised _ rfl (quiet_nil _)
  obtain ⟨decision, decided, outcome, -⟩ :=
    claim outagePort conforms (some .empty) unpricedSignal
  obtain rfl : placedDecision unpricedSignal "a" = decision :=
    (List.cons.inj decided).1
  obtain ⟨id, -, one⟩ := outcome rfl
  cases one

end StingerFx
