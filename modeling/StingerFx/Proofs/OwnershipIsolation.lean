/-
Module: StingerFx.Proofs.OwnershipIsolation
Layer: Proofs
Purpose: Requests stay with their owner. Over a simulated broker a request is
  either refused, and then nothing at all has changed, or it has changed entries
  under its own ticket only, and those carried the requester's magic number.
Trusted boundary: none (fully proved)
Main exports: SameElsewhere, Carried, handleRequest_cases, UntouchedWhere,
  RouterStep, routerRun, requests_isolated
-/
import StingerFx.Execution.RequestHandlers

namespace StingerFx

open Lib SimBroker

variable {σ : Type}

/-! ### What a broker call on one ticket can touch -/

/-- Both books agree under every other ticket. -/
structure SameElsewhere (ticket : Ticket) (b b' : SimBroker σ) : Prop where
  positions : ∀ other, other ≠ ticket →
    b'.positions.get? other = b.positions.get? other
  pending : ∀ other, other ≠ ticket →
    b'.pending.get? other = b.pending.get? other

/-- A call on one ticket is refused and leaves the broker as it was, or succeeds
and leaves every other ticket as it was. -/
inductive Answered (ticket : Ticket) (b : SimBroker σ) :
    Call σ OrderResult → Prop where
  | refused (message : RejectMessage) :
      Answered ticket b (b.returns (.refused message))
  | accepted {call : Call σ OrderResult} {result : OrderResult}
      (outcome : call.outcome = .ok result) (ok : result.ok = true)
      (elsewhere : SameElsewhere ticket b call.broker) :
      Answered ticket b call

/-- A refusal in the answer means that nothing was done. -/
theorem Answered.of_refused {ticket : Ticket} {b : SimBroker σ}
    {call : Call σ OrderResult} {result : OrderResult}
    (answered : Answered ticket b call) (outcome : call.outcome = .ok result)
    (refused : result.ok = false) :
    ∃ message, call = b.returns (.refused message) := by
  cases answered with
  | refused message => exact ⟨message, rfl⟩
  | accepted accepted ok elsewhere =>
      cases accepted.symm.trans outcome
      rw [ok] at refused
      cases refused

theorem modifyOrder_answered (b : SimBroker σ) (ticket : Ticket)
    (changes : OrderChanges) :
    Answered ticket b (b.modifyOrder ticket changes) := by
  unfold modifyOrder
  split
  · split
    · exact .refused _
    · refine .accepted rfl rfl ⟨fun _ _ => rfl, ?_⟩
      intro other apart
      exact Dict.get?_set_of_ne b.pending _ apart
  · split
    · exact .refused _
    · refine .accepted rfl rfl ⟨?_, fun _ _ => rfl⟩
      intro other apart
      exact Dict.get?_set_of_ne b.positions _ apart

theorem closeFully_answered (cfg : SimConfig σ) (b : SimBroker σ)
    (ticket : Ticket) (pos : Position) (mid : ℚ) :
    Answered ticket b (b.closeFully cfg ticket pos mid) := by
  refine .accepted rfl rfl ⟨?_, fun _ _ => rfl⟩
  intro other apart
  exact Dict.get?_erase_of_ne b.positions apart

theorem closePartly_answered (cfg : SimConfig σ) (b : SimBroker σ)
    (ticket : Ticket) (pos : Position) (mid chunk : ℚ)
    (smaller : chunk < pos.volume) (positive : 0 < chunk) :
    Answered ticket b (b.closePartly cfg ticket pos mid chunk smaller) := by
  unfold closePartly
  dsimp only
  rw [if_pos positive]
  refine .accepted rfl rfl ⟨?_, fun _ _ => rfl⟩
  intro other apart
  exact Dict.get?_set_of_ne b.positions _ apart

theorem closePosition_answered (cfg : SimConfig σ) (b : SimBroker σ)
    (ticket : Ticket) (volume : Option ℚ)
    (positive : ∀ chunk, volume = some chunk → 0 < chunk) :
    Answered ticket b (b.closePosition cfg ticket volume) := by
  unfold closePosition
  split
  · exact .refused _
  · split
    · exact .refused _
    · split
      · exact closeFully_answered cfg b ticket _ _
      · split
        · exact closePartly_answered cfg b ticket _ _ _ _ (positive _ rfl)
        · exact closeFully_answered cfg b ticket _ _

theorem cancelOrder_answered (b : SimBroker σ) (ticket : Ticket) :
    Answered ticket b (b.cancelOrder ticket) := by
  unfold cancelOrder
  split
  · exact .refused _
  · refine .accepted rfl rfl ⟨fun _ _ => rfl, ?_⟩
    intro other apart
    exact Dict.get?_erase_of_ne b.pending apart

/-! ### Looking a ticket up -/

theorem findPosition_eq {b : SimBroker σ} (kept : BooksKept b)
    (ticket : Ticket) :
    findPosition b.getPositions ticket = b.positions.get? ticket :=
  b.positions.find?_values fun stored => (kept.position_ticket stored).1

theorem findOrder_eq {b : SimBroker σ} (kept : BooksKept b) (ticket : Ticket) :
    findOrder b.getOpenOrders ticket = b.pending.get? ticket :=
  b.pending.find?_values fun waiting => (kept.pending_ticket waiting).1

/-! ### What a request can do -/

/-- A request that was not refused: one broker operation on its own ticket, and
what it found there belongs to the requester. -/
structure Carried (cfg : SimConfig σ) (router : RouterState)
    (request : RouterRequest) (b : SimBroker σ)
    (call : BrokerCall (SimBroker σ) BrokerError RequestOutcome) : Prop where
  returned : ∃ outcome, call.answer = .ok outcome ∧
    ∀ refusal, outcome ≠ .refused refusal
  operation : ∃ op, call.broker = (perform cfg b op).1
  elsewhere : SameElsewhere request.ticket b call.broker
  ownedPosition : ∀ pos, b.positions.get? request.ticket = some pos →
    pos.magic = router.expectedMagic request.strategyId
  ownedOrder : ∀ order, b.pending.get? request.ticket = some order →
    order.magic = router.expectedMagic request.strategyId

/-- Refused with nothing done, or carried out. -/
def RefusedOrCarried (cfg : SimConfig σ) (router : RouterState)
    (request : RouterRequest) (b : SimBroker σ)
    (call : BrokerCall (SimBroker σ) BrokerError RequestOutcome) : Prop :=
  (∃ refusal, call = .returns b (.refused refusal)) ∨
    Carried cfg router request b call

section Requests

variable (cfg : SimConfig σ) (router : RouterState) {b : SimBroker σ}

/-- What follows an answered broker call: a refusal is passed on, and after a
success the handler only reads. -/
theorem carried_of_answered (request : RouterRequest) (op : BrokerOp)
    {called : Call σ OrderResult}
    (answered : Answered request.ticket b called)
    (operation : called.broker = (perform cfg b op).1)
    (ownedPosition : ∀ pos, b.positions.get? request.ticket = some pos →
      pos.magic = router.expectedMagic request.strategyId)
    (ownedOrder : ∀ order, b.pending.get? request.ticket = some order →
      order.magic = router.expectedMagic request.strategyId)
    (next : SimBroker σ → BrokerCall (SimBroker σ) BrokerError RequestOutcome)
    (reads : ∀ s, (next s).broker = s ∧
      ∃ outcome, (next s).answer = .ok outcome ∧
        ∀ refusal, outcome ≠ .refused refusal) :
    RefusedOrCarried cfg router request b
      ((asCall called).andThen fun result b => whenAccepted result b next) := by
  cases answered with
  | refused message => exact .inl ⟨.failed (some message), rfl⟩
  | accepted outcome ok elsewhere =>
      rename_i result
      have continued :
          (asCall called).andThen (fun result b => whenAccepted result b next) =
            ⟨(next called.broker).broker,
              called.events ++ (next called.broker).events,
              (next called.broker).answer⟩ := by
        simp only [BrokerCall.andThen, asCall, outcome, whenAccepted, ok, if_true]
      rw [continued]
      rcases reads called.broker with ⟨same, returned⟩
      exact .inr
        { returned := returned
          operation := ⟨op, same.trans operation⟩
          elsewhere := by dsimp only; rw [same]; exact elsewhere
          ownedPosition := ownedPosition
          ownedOrder := ownedOrder }

/-- A waiting order keeps positions off its ticket, an open position keeps
orders off. -/
theorem no_order_beside {ticket : Ticket} {pos : Position} (kept : BooksKept b)
    (stored : b.positions.get? ticket = some pos) :
    b.pending.get? ticket = none := by
  cases waiting : b.pending.get? ticket with
  | none => rfl
  | some order =>
      rw [kept.apart waiting] at stored
      cases stored

theorem handleModify_cases (kept : BooksKept b) (evt : ModifyOrderRequest) :
    RefusedOrCarried cfg router (.modify evt) b
      (handleModify (simManagePort cfg) router evt b) := by
  unfold handleModify
  simp only [simManagePort, BrokerCall.returns_andThen]
  rw [findOrder_eq kept, findPosition_eq kept]
  cases waiting : b.pending.get? evt.ticket with
  | some pending =>
      dsimp only
      unfold modifyPending
      dsimp only
      split
      · exact .inl ⟨_, rfl⟩
      · rename_i owned
        have owned := not_not.mp owned
        refine carried_of_answered cfg router (.modify evt)
          (.modifyOrder evt.ticket _) (modifyOrder_answered b evt.ticket _)
          rfl ?_ ?_ _ ?_
        · intro pos stored
          rw [show (RouterRequest.modify evt).ticket = evt.ticket from rfl,
            kept.apart waiting] at stored
          cases stored
        · intro order found
          cases waiting.symm.trans found
          exact owned
        · exact fun s => ⟨rfl, .done, rfl, fun _ => by simp⟩
  | none =>
      dsimp only
      cases stored : b.positions.get? evt.ticket with
      | none => exact .inl ⟨_, rfl⟩
      | some pos =>
          dsimp only
          unfold modifyOpen
          dsimp only
          split
          · exact .inl ⟨_, rfl⟩
          · rename_i owned
            have owned := not_not.mp owned
            refine carried_of_answered cfg router (.modify evt)
              (.modifyOrder evt.ticket _) (modifyOrder_answered b evt.ticket _)
              rfl ?_ ?_ _ ?_
            · intro found same
              cases stored.symm.trans same
              exact owned
            · intro order found
              cases waiting.symm.trans found
            · exact fun s => ⟨rfl, .done, rfl, fun _ => by simp⟩

theorem partialOutcome_ne_refused (ticket : Ticket) (before : ℚ)
    (positions : List Position) (refusal : Refusal) :
    partialOutcome ticket before positions ≠ .refused refusal := by
  unfold partialOutcome
  split
  · simp
  · split <;> simp

theorem handlePartialClose_cases (kept : BooksKept b)
    (evt : PartialCloseRequest) :
    RefusedOrCarried cfg router (.partialClose evt) b
      (handlePartialClose (simManagePort cfg) router evt b) := by
  unfold handlePartialClose
  simp only [simManagePort, BrokerCall.returns_andThen]
  rw [findPosition_eq kept]
  cases stored : b.positions.get? evt.ticket with
  | none => exact .inl ⟨_, rfl⟩
  | some pos =>
      dsimp only
      split
      · exact .inl ⟨_, rfl⟩
      · rename_i owned
        have owned := not_not.mp owned
        split
        · exact .inl ⟨_, rfl⟩
        · refine carried_of_answered cfg router (.partialClose evt)
            (.closePosition evt.ticket (some evt.volume))
            (closePosition_answered cfg b evt.ticket (some evt.volume) ?_)
            rfl ?_ ?_ _ ?_
          · intro chunk same
            cases same
            exact evt.volume_pos
          · intro found same
            cases stored.symm.trans same
            exact owned
          · intro order found
            cases (no_order_beside kept stored).symm.trans found
          · exact fun s => ⟨rfl, _, rfl, partialOutcome_ne_refused _ _ _⟩

theorem handleClose_cases (kept : BooksKept b) (evt : ClosePositionRequest) :
    RefusedOrCarried cfg router (.close evt) b
      (handleClose (simManagePort cfg) router evt b) := by
  unfold handleClose
  simp only [simManagePort, BrokerCall.returns_andThen]
  rw [findPosition_eq kept]
  cases stored : b.positions.get? evt.ticket with
  | none => exact .inl ⟨_, rfl⟩
  | some pos =>
      dsimp only
      split
      · exact .inl ⟨_, rfl⟩
      · rename_i owned
        have owned := not_not.mp owned
        refine carried_of_answered cfg router (.close evt)
          (.closePosition evt.ticket none)
          (closePosition_answered cfg b evt.ticket none ?_) rfl ?_ ?_ _ ?_
        · intro chunk same
          cases same
        · intro found same
          cases stored.symm.trans same
          exact owned
        · intro order found
          cases (no_order_beside kept stored).symm.trans found
        · exact fun s => ⟨rfl, .done, rfl, fun _ => by simp⟩

theorem handleCancel_cases (kept : BooksKept b) (evt : CancelOrderRequest) :
    RefusedOrCarried cfg router (.cancel evt) b
      (handleCancel (simManagePort cfg) router evt b) := by
  unfold handleCancel
  simp only [simManagePort, BrokerCall.returns_andThen]
  rw [findOrder_eq kept]
  cases waiting : b.pending.get? evt.ticket with
  | none => exact .inl ⟨_, rfl⟩
  | some pending =>
      dsimp only
      split
      · exact .inl ⟨_, rfl⟩
      · rename_i owned
        have owned := not_not.mp owned
        refine carried_of_answered cfg router (.cancel evt)
          (.cancelOrder evt.ticket) (cancelOrder_answered b evt.ticket)
          rfl ?_ ?_ _ ?_
        · intro pos stored
          cases (kept.apart waiting).symm.trans stored
        · intro order found
          cases waiting.symm.trans found
          exact owned
        · exact fun s => ⟨rfl, .done, rfl, fun _ => by simp⟩

/-- The step lemma, one case per handler. -/
theorem handleRequest_cases (kept : BooksKept b) (request : RouterRequest) :
    RefusedOrCarried cfg router request b
      (handleRequest (simManagePort cfg) router request b) := by
  cases request with
  | modify evt => exact handleModify_cases cfg router kept evt
  | partialClose evt => exact handlePartialClose_cases cfg router kept evt
  | close evt => exact handleClose_cases cfg router kept evt
  | cancel evt => exact handleCancel_cases cfg router kept evt

/-- No handler raises. -/
theorem handleRequest_returns (kept : BooksKept b) (request : RouterRequest) :
    ∃ outcome, (handleRequest (simManagePort cfg) router request b).answer =
      .ok outcome := by
  rcases handleRequest_cases cfg router kept request with
    ⟨refusal, refused⟩ | carried
  · exact ⟨.refused refusal, by rw [refused]; rfl⟩
  · rcases carried.returned with ⟨outcome, answered, -⟩
    exact ⟨outcome, answered⟩

theorem handleRequest_kept (kept : BooksKept b) (request : RouterRequest) :
    BooksKept (handleRequest (simManagePort cfg) router request b).broker := by
  rcases handleRequest_cases cfg router kept request with
    ⟨refusal, refused⟩ | carried
  · rw [refused]
    exact kept
  · rcases carried.operation with ⟨op, performed⟩
    rw [performed]
    exact kept.moves (perform_moves cfg b op)

/-- A request that ends in a refusal has changed nothing. -/
theorem handleRequest_refused (kept : BooksKept b) {request : RouterRequest}
    {refusal : Refusal}
    (refused : (handleRequest (simManagePort cfg) router request b).answer =
      .ok (.refused refusal)) :
    (handleRequest (simManagePort cfg) router request b).broker = b := by
  rcases handleRequest_cases cfg router kept request with
    ⟨refusal, same⟩ | carried
  · rw [same]
    rfl
  · rcases carried.returned with ⟨outcome, answered, notRefused⟩
    rw [answered] at refused
    cases refused
    exact absurd rfl (notRefused refusal)

end Requests

/-! ### What stays where it is -/

/-- Every position and every pending order whose magic number meets a condition
is still there, unchanged. -/
structure UntouchedWhere (covered : Int → Prop) (b b' : SimBroker σ) : Prop where
  positions : ∀ ticket pos, b.positions.get? ticket = some pos →
    covered pos.magic → b'.positions.get? ticket = some pos
  pending : ∀ ticket order, b.pending.get? ticket = some order →
    covered order.magic → b'.pending.get? ticket = some order

namespace UntouchedWhere

variable {covered : Int → Prop} {b b' b'' : SimBroker σ}

theorem refl (b : SimBroker σ) : UntouchedWhere covered b b :=
  ⟨fun _ _ stored _ => stored, fun _ _ waiting _ => waiting⟩

theorem trans (one : UntouchedWhere covered b b')
    (two : UntouchedWhere covered b' b'') : UntouchedWhere covered b b'' where
  positions := by
    intro ticket pos stored inside
    exact two.positions ticket pos (one.positions ticket pos stored inside) inside
  pending := by
    intro ticket order waiting inside
    exact two.pending ticket order (one.pending ticket order waiting inside) inside

theorem mono {smaller : Int → Prop} (kept : UntouchedWhere covered b b')
    (inside : ∀ magic, smaller magic → covered magic) :
    UntouchedWhere smaller b b' where
  positions := by
    intro ticket pos stored small
    exact kept.positions ticket pos stored (inside _ small)
  pending := by
    intro ticket order waiting small
    exact kept.pending ticket order waiting (inside _ small)

end UntouchedWhere

section Runs

variable (cfg : SimConfig σ) (router : RouterState)

/-- Entries of another magic number are not under the request's ticket, or the
request is refused. -/
theorem handleRequest_untouched {b : SimBroker σ} (kept : BooksKept b)
    (request : RouterRequest) :
    UntouchedWhere (· ≠ router.expectedMagic request.strategyId) b
      (handleRequest (simManagePort cfg) router request b).broker := by
  rcases handleRequest_cases cfg router kept request with
    ⟨refusal, refused⟩ | carried
  · rw [refused]
    exact .refl b
  · constructor
    · intro ticket pos stored foreign
      have apart : ticket ≠ request.ticket := by
        rintro rfl
        exact foreign (carried.ownedPosition pos stored)
      rw [carried.elsewhere.positions ticket apart]
      exact stored
    · intro ticket order waiting foreign
      have apart : ticket ≠ request.ticket := by
        rintro rfl
        exact foreign (carried.ownedOrder order waiting)
      rw [carried.elsewhere.pending ticket apart]
      exact waiting

/-- Anything that can happen between two requests: the market moves, orders are
placed and filled, positions are closed, other requests are handled. -/
inductive RouterStep where
  | broker (op : BrokerOp)
  | request (request : RouterRequest)

def routerStep (b : SimBroker σ) : RouterStep → SimBroker σ
  | .broker op => (perform cfg b op).1
  | .request request =>
      (handleRequest (simManagePort cfg) router request b).broker

def routerRun (b : SimBroker σ) (steps : List RouterStep) : SimBroker σ :=
  steps.foldl (routerStep cfg router) b

theorem routerRun_kept {b : SimBroker σ} (kept : BooksKept b)
    (steps : List RouterStep) : BooksKept (routerRun cfg router b steps) := by
  induction steps generalizing b with
  | nil => exact kept
  | cons step steps ih =>
      apply ih
      cases step with
      | broker op => exact kept.moves (perform_moves cfg b op)
      | request request => exact handleRequest_kept cfg router kept request

theorem handleRequests_kept {b : SimBroker σ} (kept : BooksKept b)
    (requests : List RouterRequest) :
    BooksKept (handleRequests (simManagePort cfg) router requests b) := by
  induction requests generalizing b with
  | nil => exact kept
  | cons request requests ih =>
      exact ih (handleRequest_kept cfg router kept request)

/-- Entries that no requester of the sequence owns survive the sequence. -/
theorem handleRequests_untouched {covered : Int → Prop} {b : SimBroker σ}
    (kept : BooksKept b) (requests : List RouterRequest)
    (foreign : ∀ request ∈ requests, ∀ magic, covered magic →
      magic ≠ router.expectedMagic request.strategyId) :
    UntouchedWhere covered b
      (handleRequests (simManagePort cfg) router requests b) := by
  induction requests generalizing b with
  | nil => exact .refl b
  | cons request requests ih =>
      have head := (handleRequest_untouched cfg router kept request).mono
        (foreign request List.mem_cons_self)
      apply head.trans
      apply ih (handleRequest_kept cfg router kept request)
      intro later member
      exact foreign later (List.mem_cons_of_mem _ member)

end Runs

/-- No two strategies share a magic number. -/
def RouterState.MagicInjective (router : RouterState) : Prop :=
  ∀ one two magic, router.strategyMagic.get? one = some magic →
    router.strategyMagic.get? two = some magic → one = two

theorem expectedMagic_of_get? {router : RouterState} {strategyId : StrategyId}
    {magic : Int} (known : router.strategyMagic.get? strategyId = some magic) :
    router.expectedMagic strategyId = magic := by
  simp [RouterState.expectedMagic, Dict.getD, known]

/-- Router ownership isolation, in any reachable state and for any sequence of
requests. Each request leaves the entries of every other magic number alone, and
changes nothing when it is refused; so what a strategy owns outlives any requests
of the others. -/
theorem requests_isolated (cfg : SimConfig σ) (router : RouterState)
    (initialBalance : ℚ) (slippage : σ) (now : Time) (steps : List RouterStep)
    (requests : List RouterRequest) (injective : router.MagicInjective)
    (registered : ∀ request ∈ requests,
      router.strategyMagic.contains request.strategyId = true) :
    let start := routerRun cfg router (create initialBalance slippage now) steps
    (∀ before request after, requests = before ++ request :: after →
      let b := handleRequests (simManagePort cfg) router before start
      let call := handleRequest (simManagePort cfg) router request b
      UntouchedWhere (· ≠ router.expectedMagic request.strategyId) b
          call.broker ∧
        ∀ refusal, call.answer = .ok (.refused refusal) → call.broker = b) ∧
    ∀ owner magic, router.strategyMagic.get? owner = some magic →
      (∀ request ∈ requests, request.strategyId ≠ owner) →
      UntouchedWhere (· = magic) start
        (handleRequests (simManagePort cfg) router requests start) := by
  intro start
  have kept : BooksKept start :=
    routerRun_kept cfg router (booksKept_create initialBalance slippage now) steps
  constructor
  · intro before request after split b call
    have held : BooksKept b := handleRequests_kept cfg router kept before
    exact ⟨handleRequest_untouched cfg router held request,
      fun refusal refused => handleRequest_refused cfg router held refused⟩
  · intro owner magic owned others
    apply handleRequests_untouched cfg router kept
    rintro request member found rfl same
    have known := registered request member
    obtain ⟨other, stored⟩ := Option.isSome_iff_exists.mp known
    rw [expectedMagic_of_get? stored] at same
    subst same
    exact others request member (injective _ _ _ stored owned)

/-! A range strategy asks to close what a trend strategy holds. -/

def trendAndRange : RouterState where
  strategyMagic := (Dict.empty.set "trend" 1).set "range" 2
  contractSizeCache := .empty

theorem trendAndRange_injective : trendAndRange.MagicInjective := by
  intro one two magic first second
  rw [Dict.get?_eq_some_iff] at first second
  simp [trendAndRange, Dict.set, Dict.empty, Dict.assign] at first second
  grind

def trendBuys : OrderRequest where
  strategyId := "trend"
  symbol := "EURUSD"
  side := .buy
  type := .market
  volume := 1
  price := none
  sl := none
  tp := none
  comment := ""
  magic := 1
  clientOrderId := "t-1"
  volume_pos := one_quote_pos

theorem requests_isolated_example :
    let start := routerRun SimConfig.plain trendAndRange (create 1000 () 0)
      [.broker (.setMarket "EURUSD" 1), .broker (.placeOrder trendBuys)]
    UntouchedWhere (· = 1) start
      (handleRequests (simManagePort SimConfig.plain) trendAndRange
        [.close ⟨"range", 1, ""⟩] start) := by
  intro start
  have registered : ∀ request ∈ [RouterRequest.close ⟨"range", 1, ""⟩],
      trendAndRange.strategyMagic.contains request.strategyId = true := by
    intro request member
    rw [List.mem_singleton.mp member]
    decide
  have others : ∀ request ∈ [RouterRequest.close ⟨"range", 1, ""⟩],
      request.strategyId ≠ "trend" := by
    intro request member
    rw [List.mem_singleton.mp member]
    decide
  exact (requests_isolated SimConfig.plain trendAndRange 1000 () 0 _ _
    trendAndRange_injective registered).2 "trend" 1 rfl others

end StingerFx
