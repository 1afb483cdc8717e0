/-
Module: StingerFx.Proofs.EventDelivery
Layer: Proofs
Purpose: When no order-flow event is lost. Every subscription of the engine drops
  its oldest event on overflow, the order flow's too. As long as no publish meets
  a full queue or a cancelled consumer of the order flow, every event is handled
  once and in order, every chunk has its row and every event reached the monitor.
  One burst longer than a queue loses an event for good.
Trusted boundary: none (fully proved)
Main exports: OrderFlowBus.Lossless, OrderFlowBus.NothingLost,
  OrderFlowBus.Quiet, OrderFlowBus.nothing_lost, OrderFlowBus.drain_run,
  OrderFlowBus.burst_loses_fill
-/
import StingerFx.Runtime.OrderFlowBus
import StingerFx.Proofs.DailyLossGate

namespace StingerFx

open Lib

/-! ### What the consumers make of an event -/

namespace BusHandler

/-- The handlers that events of the order flow are for. -/
def ofOrderFlow : BusHandler → Bool
  | .other | .riskSnapshot => false
  | _ => true

/-- The handlers that move the monitor's counters and daily figures. -/
def counts : BusHandler → Bool
  | .riskFill | .riskClose | .riskPartialClose => true
  | _ => false

/-- The handlers that write rows. -/
def persists : BusHandler → Bool
  | .persisterClose | .persisterPartialClose => true
  | _ => false

end BusHandler

/-- A row without what depends on when it was written. -/
def TradeRow.unstamped (row : TradeRow) : TradeRow :=
  { row with strategyId := "", closeTs := 0 }

namespace Event

/-- The row that a closed chunk calls for. -/
def tradeRow? : Event → Option TradeRow
  | .positionClosed position realizedPnl _ closePrice =>
      some
        (TradePersister.row .empty 0 position position.volume realizedPnl
          (some closePrice))
  | .partialClosed position closedVolume realizedPnl _ closePrice =>
      some
        (TradePersister.row .empty 0 position closedVolume realizedPnl
          (some closePrice))
  | _ => none

/-- The delivery to the monitor that an event calls for. -/
def riskInput? : Event → Option RiskMonitor.RiskInput
  | .orderFilled order accountId => some (.filled order accountId)
  | .positionClosed position realizedPnl accountId _ =>
      some (.closed position realizedPnl accountId)
  | .partialClosed position _ realizedPnl _ _ =>
      some (.partialClosed position realizedPnl)
  | _ => none

end Event

def RiskMonitor.RiskInput.eventType : RiskMonitor.RiskInput → EventType
  | .filled _ _ => .orderFilled
  | .closed _ _ _ => .positionClosed
  | .partialClosed _ _ => .partialClosed
  | .snapshot _ => .accountSnapshot

def TimedCall.input? (timed : TimedCall) : Option RiskMonitor.RiskInput :=
  match timed.call with
  | .deliver input => some input
  | .check _ => none

/-- What a history delivered of one event class, in order. -/
def deliveredOf (eventType : EventType) (calls : List TimedCall) :
    List RiskMonitor.RiskInput :=
  (calls.filterMap TimedCall.input?).filter fun input =>
    decide (input.eventType = eventType)

/-- The three event classes of the order flow. -/
def orderFlowTypes : List EventType :=
  [.orderFilled, .positionClosed, .partialClosed]

abbrev FlowSubscription := BusSubscription EventType BusHandler Event

namespace OrderFlowBus

variable {cfg : RiskConfig} {s s' : OrderFlowBus}

def tag (sub : FlowSubscription) : EventType × BusHandler :=
  (sub.eventType, sub.handler)

/-- The step loses nothing of the order flow: a publish finds room in the queue
of every live consumer that it is for, a consumer is cancelled when nothing waits
for it, and the database takes every row. -/
def Lossless (s : OrderFlowBus) : FlowLabel → Prop
  | .publish event => s.bus.closed = false →
      ∀ sub ∈ s.bus.subs, sub.handler.ofOrderFlow = true →
        sub.Undropped Event.isInstance event
  | .handle index _ stored => ∀ sub ∈ s.bus.subs[index]?,
      sub.handler.persists = true → stored = true
  | .unsubscribe index => ∀ sub ∈ s.bus.subs[index]?,
      sub.handler.ofOrderFlow = true → sub.queue.items = []
  | .close => ∀ sub ∈ s.bus.subs,
      sub.handler.ofOrderFlow = true → sub.queue.items = []
  | _ => True

/-- Nothing waits for a consumer of the order flow that is still there. -/
def Quiet (s : OrderFlowBus) : Prop :=
  ∀ sub ∈ s.bus.subs, sub.handler.ofOrderFlow = true → sub.closed = false →
    sub.queue.items = []

/-- Each subscription of the three consumers is there and was given every event
it matches once, in the order of publishing; each closed chunk has its row; and
the monitor is what the history of all these deliveries makes of it. -/
structure NothingLost (cfg : RiskConfig) (s : OrderFlowBus) : Prop where
  subscribed : (s.bus.subs.map tag).filter
    (fun entry => decide (entry.2 ≠ .other)) = BusHandler.startup
  handledOnce : ∀ sub ∈ s.bus.subs, sub.handler.ofOrderFlow = true →
    sub.handled = s.bus.published.filter (sub.wants Event.isInstance)
  rows : (s.trades.map TradeRow.unstamped).Perm
    (s.bus.published.filterMap Event.tradeRow?)
  counted : ∃ calls, s.monitor = afterCalls cfg .fresh calls ∧
    ∀ eventType ∈ orderFlowTypes, deliveredOf eventType calls =
      (s.bus.published.filter fun event =>
        event.isInstance eventType).filterMap Event.riskInput?

/-! ### What carries the induction -/

/-- What some handlers were given, one subscription after the other. -/
def gathered {α : Type} (chosen : BusHandler → Bool) (f : Event → Option α)
    (subs : List FlowSubscription) : List α :=
  (subs.filter fun sub => chosen sub.handler).flatMap fun sub =>
    sub.handled.filterMap f

/-- The bus alone. -/
structure BusKept (bus : AsyncEventBus EventType BusHandler Event) : Prop where
  drops : ∀ sub ∈ bus.subs, sub.overflow = .dropOldest
  subscribed : (bus.subs.map tag).filter
    (fun entry => decide (entry.2 ≠ .other)) = BusHandler.startup
  complete : ∀ sub ∈ bus.subs, sub.handler.ofOrderFlow = true →
    sub.Complete Event.isInstance bus.published
  retired : ∀ sub ∈ bus.subs, sub.handler.ofOrderFlow = true →
    sub.closed = true → sub.queue.items = []
  matching : ∀ sub ∈ bus.subs, ∀ event ∈ sub.queue.items,
    event.isInstance sub.eventType = true

/-- The bus, the rows and the monitor. -/
structure Kept (cfg : RiskConfig) (s : OrderFlowBus) : Prop where
  bus : BusKept s.bus
  rows : (s.trades.map TradeRow.unstamped).Perm
    (gathered BusHandler.persists Event.tradeRow? s.bus.subs)
  counted : ∃ calls, s.monitor = afterCalls cfg .fresh calls ∧
    ∀ sub ∈ s.bus.subs, sub.handler.counts = true →
      deliveredOf sub.eventType calls = sub.handled.filterMap Event.riskInput?

theorem ofOrderFlow_of_persists {handler : BusHandler}
    (persists : handler.persists = true) : handler.ofOrderFlow = true := by
  cases handler <;> first | rfl | cases persists

theorem ofOrderFlow_of_counts {handler : BusHandler}
    (counts : handler.counts = true) : handler.ofOrderFlow = true := by
  cases handler <;> first | rfl | cases counts

theorem startup_apart :
    ∀ one ∈ BusHandler.startup, ∀ two ∈ BusHandler.startup,
      one.2.counts = true → (two.2.counts = true ∨ two.2 = .riskSnapshot) →
        one.2 ≠ two.2 → one.1 ≠ two.1 := by
  decide

theorem startup_nodup : (BusHandler.startup.map Prod.snd).Nodup := by
  decide

namespace BusKept

variable {bus : AsyncEventBus EventType BusHandler Event}

theorem typed (kept : BusKept bus) {sub : FlowSubscription}
    (member : sub ∈ bus.subs) (known : sub.handler ≠ .other) :
    tag sub ∈ BusHandler.startup := by
  rw [← kept.subscribed]
  apply List.mem_filter.mpr
  exact ⟨List.mem_map_of_mem member, decide_eq_true known⟩

/-- Every handler but the others' belongs to one subscription. -/
theorem apart (kept : BusKept bus) {front back : List FlowSubscription}
    {sub other : FlowSubscription} (split : bus.subs = front ++ sub :: back)
    (known : sub.handler ≠ .other) (member : other ∈ front ++ back) :
    other.handler ≠ sub.handler := by
  have nodup := startup_nodup
  rw [← kept.subscribed, split] at nodup
  have whole : ((((front ++ sub :: back).map tag).filter
      (fun entry => decide (entry.2 ≠ .other))).map Prod.snd) =
      (front.map BusSubscription.handler).filter (· ≠ .other) ++
        sub.handler :: (back.map BusSubscription.handler).filter (· ≠ .other) := by
    simp [List.filter_map, known, tag, Function.comp_def]
    rfl
  rw [whole, List.nodup_middle, List.nodup_cons] at nodup
  intro same
  apply nodup.1
  rw [← List.filter_append, ← List.map_append]
  apply List.mem_filter.mpr
  refine ⟨?_, by simpa using known⟩
  rw [← same]
  exact List.mem_map_of_mem member

end BusKept

/-! ### One step of the bus -/

section Gathered

variable {α : Type} {chosen : BusHandler → Bool} {f : Event → Option α}

theorem gathered_receive (event : Event) (subs : List FlowSubscription) :
    gathered chosen f
        (subs.map (BusSubscription.receive Event.isInstance event)) =
      gathered chosen f subs := by
  induction subs with
  | nil => rfl
  | cons sub rest ih =>
      unfold gathered at ih ⊢
      cases picked : chosen sub.handler <;> simp [picked, ih]

/-- One more event for one subscription. -/
theorem gathered_take (chosen : BusHandler → Bool) (f : Event → Option α)
    (front back : List FlowSubscription) (sub : FlowSubscription)
    (rest : Mailbox Event) (event : Event) :
    (gathered chosen f
      (front ++ { sub with queue := rest, handled := sub.handled ++ [event] } ::
        back)).Perm
      (gathered chosen f (front ++ sub :: back) ++
        if chosen sub.handler then (f event).toList else []) := by
  cases picked : chosen sub.handler with
  | false => simp [gathered, picked]
  | true =>
      have moved : (f event).toList = [event].filterMap f := by
        cases value : f event <;> simp [value]
      simp only [gathered, List.filter_append, List.filter_cons, picked,
        if_true, List.flatMap_append, List.flatMap_cons, List.filterMap_append,
        moved, List.append_assoc]
      refine List.Perm.append_left _ (List.Perm.append_left _ ?_)
      exact List.perm_append_comm

theorem gathered_congr {subs subs' : List FlowSubscription}
    (same : subs'.map (fun sub => (sub.handler, sub.handled)) =
      subs.map fun sub => (sub.handler, sub.handled)) :
    gathered chosen f subs' = gathered chosen f subs := by
  have shape : ∀ list : List FlowSubscription, gathered chosen f list =
      ((list.map fun sub => (sub.handler, sub.handled)).filter
        fun entry => chosen entry.1).flatMap fun entry =>
          entry.2.filterMap f := by
    intro list
    simp [gathered, List.filter_map, List.flatMap_map, Function.comp_def]
  rw [shape, shape, same]

/-- Gathering complete subscriptions gathers from what was published. -/
theorem gathered_of_handled (chosen : BusHandler → Bool) (f : Event → Option α)
    {subs : List FlowSubscription} {published : List Event}
    (handledOnce : ∀ sub ∈ subs, chosen sub.handler = true →
      sub.handled = published.filter (sub.wants Event.isInstance)) :
    gathered chosen f subs =
      ((subs.map tag).filter fun entry => chosen entry.2).flatMap fun entry =>
        (published.filter fun event => event.isInstance entry.1).filterMap f := by
  induction subs with
  | nil => rfl
  | cons sub rest ih =>
      have later := ih fun other member =>
        handledOnce other (List.mem_cons_of_mem _ member)
      unfold gathered at later ⊢
      cases picked : chosen sub.handler with
      | false => simpa [picked, tag] using later
      | true =>
          have first := handledOnce sub List.mem_cons_self picked
          simp only [List.filter_cons, picked, if_true, List.flatMap_cons, later,
            List.map_cons, tag, first]
          rfl

end Gathered

theorem afterCalls_snoc (calls : List TimedCall) (timed : TimedCall) :
    afterCalls cfg .fresh (calls ++ [timed]) =
      (afterCalls cfg .fresh calls).answerCall timed := by
  simp [afterCalls]

theorem deliveredOf_deliver (eventType : EventType) (calls : List TimedCall)
    (now : Time) (input : RiskMonitor.RiskInput) :
    deliveredOf eventType (calls ++ [⟨now, .deliver input⟩]) =
      deliveredOf eventType calls ++
        if input.eventType = eventType then [input] else [] := by
  simp [deliveredOf, TimedCall.input?, List.filter_cons]

theorem deliveredOf_check (eventType : EventType) (calls : List TimedCall)
    (now : Time) (signal : Signal) :
    deliveredOf eventType (calls ++ [⟨now, .check signal⟩]) =
      deliveredOf eventType calls := by
  simp [deliveredOf, TimedCall.input?]

@[simp] theorem dispatch_bus (now : Time) (stored : Bool)
    (handler : BusHandler) (event : Event) :
    (s.dispatch now stored handler event).bus = s.bus := by
  unfold dispatch
  split <;> rfl

/-- What one delivery does: it reaches the monitor, writes a row, or neither. -/
theorem dispatch_cases {eventType : EventType} {handler : BusHandler}
    {event : Event} (now : Time) (stored : Bool)
    (known : handler ≠ .other → (eventType, handler) ∈ BusHandler.startup)
    (matching : event.isInstance eventType = true) :
    (∃ input, (handler.counts = true ∧ event.riskInput? = some input ∨
          handler = .riskSnapshot) ∧ input.eventType = eventType ∧
        handler.persists = false ∧
        s.dispatch now stored handler event =
          { s with monitor := (s.monitor.handle now input).1 }) ∨
      (∃ row called, handler.persists = true ∧ handler.counts = false ∧
        event.tradeRow? = some called ∧ row.unstamped = called ∧
        s.dispatch now stored handler event =
          { s with trades := TradePersister.add s.trades stored row }) ∨
      (handler.counts = false ∧ handler.persists = false ∧
        s.dispatch now stored handler event = s) := by
  have same : event.eventType = eventType := of_decide_eq_true matching
  subst same
  cases handler with
  | riskFill =>
      have known := known (by decide)
      cases event with
      | orderFilled order accountId =>
          exact .inl
            ⟨.filled order accountId, .inl ⟨rfl, rfl⟩, rfl, rfl, rfl⟩
      | _ => simp [BusHandler.startup, Event.eventType] at known
  | riskClose =>
      have known := known (by decide)
      cases event with
      | positionClosed position realizedPnl accountId closePrice =>
          exact .inl
            ⟨.closed position realizedPnl accountId, .inl ⟨rfl, rfl⟩, rfl, rfl,
              rfl⟩
      | _ => simp [BusHandler.startup, Event.eventType] at known
  | riskPartialClose =>
      have known := known (by decide)
      cases event with
      | partialClosed position closedVolume realizedPnl accountId closePrice =>
          exact .inl
            ⟨.partialClosed position realizedPnl, .inl ⟨rfl, rfl⟩, rfl, rfl,
              rfl⟩
      | _ => simp [BusHandler.startup, Event.eventType] at known
  | riskSnapshot =>
      have known := known (by decide)
      cases event with
      | accountSnapshot snap =>
          exact .inl ⟨.snapshot snap, .inr rfl, rfl, rfl, rfl⟩
      | _ => simp [BusHandler.startup, Event.eventType] at known
  | persisterClose =>
      have known := known (by decide)
      cases event with
      | positionClosed position realizedPnl accountId closePrice =>
          exact .inr (.inl ⟨_, _, rfl, rfl, rfl, rfl, rfl⟩)
      | _ => simp [BusHandler.startup, Event.eventType] at known
  | persisterPartialClose =>
      have known := known (by decide)
      cases event with
      | partialClosed position closedVolume realizedPnl accountId closePrice =>
          exact .inr (.inl ⟨_, _, rfl, rfl, rfl, rfl, rfl⟩)
      | _ => simp [BusHandler.startup, Event.eventType] at known
  | _ => exact .inr (.inr ⟨rfl, rfl, rfl⟩)

/-! ### Steps and runs -/

namespace BusKept

variable {bus : AsyncEventBus EventType BusHandler Event}

theorem publish (kept : BusKept bus) {event : Event}
    (undropped : bus.closed = false → ∀ sub ∈ bus.subs,
      sub.handler.ofOrderFlow = true → sub.Undropped Event.isInstance event) :
    BusKept (bus.publish Event.isInstance event) := by
  cases shut : bus.closed with
  | true =>
      rw [AsyncEventBus.publish_of_closed shut]
      exact kept
  | false =>
      rw [AsyncEventBus.publish_of_dropOldest kept.drops shut]
      refine ⟨?_, ?_, ?_, ?_, ?_⟩
      · intro sub member
        rcases List.mem_map.mp member with ⟨old, there, rfl⟩
        rw [BusSubscription.receive_overflow]
        exact kept.drops old there
      · have tags : tag ∘ BusSubscription.receive Event.isInstance event =
            tag := by
          funext sub
          simp [tag]
        simpa only [List.map_map, tags] using kept.subscribed
      · intro sub member flow
        rcases List.mem_map.mp member with ⟨old, there, rfl⟩
        rw [BusSubscription.receive_handler] at flow
        apply BusSubscription.Complete.receive (kept.complete old there flow)
        exact undropped shut old there flow
      · intro sub member flow retired
        rcases List.mem_map.mp member with ⟨old, there, rfl⟩
        rw [BusSubscription.receive_handler] at flow
        rw [BusSubscription.receive_closed] at retired
        cases wanted : old.wants Event.isInstance event with
        | false =>
            rw [BusSubscription.receive_of_not_wants wanted]
            exact kept.retired old there flow retired
        | true =>
            have alive := (undropped shut old there flow wanted).1
            rw [retired] at alive
            cases alive
      · intro sub member waiting queued
        rcases List.mem_map.mp member with ⟨old, there, rfl⟩
        rw [BusSubscription.receive_eventType]
        exact BusSubscription.mem_receive (kept.matching old there) queued

/-- A consumer moves its oldest event from the queue to what it has handled. -/
theorem take (kept : BusKept bus) {front back : List FlowSubscription}
    {sub : FlowSubscription} {event : Event} {rest : Mailbox Event}
    (split : bus.subs = front ++ sub :: back) (alive : sub.closed = false)
    (popped : sub.queue.pop? = some (event, rest)) :
    BusKept { bus with
      subs := front ++
        { sub with queue := rest, handled := sub.handled ++ [event] } ::
          back } := by
  have items := Mailbox.items_of_pop? popped
  have here : sub ∈ bus.subs := by simp [split]
  have drops := kept.drops
  have complete := kept.complete
  have retired := kept.retired
  have matching := kept.matching
  have subscribed := kept.subscribed
  rw [split] at drops complete retired matching subscribed
  refine ⟨forall_mem_replaced drops (kept.drops sub here), ?_,
    forall_mem_replaced complete ?_, forall_mem_replaced retired ?_,
    forall_mem_replaced matching ?_⟩
  · simpa [tag] using subscribed
  · intro flow
    have whole := kept.complete sub here flow
    have wants : BusSubscription.wants Event.isInstance
        { sub with queue := rest, handled := sub.handled ++ [event] } =
          sub.wants Event.isInstance := BusSubscription.wants_congr rfl
    unfold BusSubscription.Complete at whole ⊢
    rw [wants, ← whole, items]
    simp
  · intro _ gone
    rw [alive] at gone
    cases gone
  · intro waiting queued
    apply kept.matching sub here waiting
    rw [items]
    exact List.mem_cons_of_mem _ queued

theorem subscribe (kept : BusKept bus) (eventType : EventType) :
    BusKept { bus with
      subs := bus.subs ++ [subscription eventType .other] } := by
  have cover : ∀ {P : FlowSubscription → Prop},
      (∀ sub ∈ bus.subs, P sub) → P (subscription eventType .other) →
      ∀ sub ∈ bus.subs ++ [subscription eventType .other], P sub := by
    intro P olds new sub member
    rcases List.mem_append.mp member with old | last
    · exact olds sub old
    · rw [List.mem_singleton.mp last]
      exact new
  refine ⟨?_, ?_, ?_, ?_, ?_⟩
  · exact cover kept.drops rfl
  · simpa [tag, subscription, BusSubscription.create] using kept.subscribed
  · exact cover kept.complete (fun flow => by cases flow)
  · exact cover kept.retired (fun flow => by cases flow)
  · exact cover kept.matching (fun _ queued => by cases queued)

/-- Cancelling consumers keeps everything, if nothing of the order flow waits
for them. -/
theorem cancel (kept : BusKept bus)
    {after : AsyncEventBus EventType BusHandler Event}
    (published : after.published = bus.published)
    (tags : after.subs.map tag = bus.subs.map tag)
    (cancelled : ∀ sub ∈ after.subs, ∃ old ∈ bus.subs, sub = old ∨
      sub = old.unsubscribe ∧
        (old.handler.ofOrderFlow = true → old.queue.items = [])) :
    BusKept after := by
  refine ⟨?_, ?_, ?_, ?_, ?_⟩
  · intro sub member
    rcases cancelled sub member with ⟨old, there, rfl | ⟨rfl, -⟩⟩
    · exact kept.drops sub there
    · exact kept.drops old there
  · rw [tags]
    exact kept.subscribed
  · intro sub member flow
    rw [published]
    rcases cancelled sub member with ⟨old, there, rfl | ⟨rfl, -⟩⟩
    · exact kept.complete sub there flow
    · exact kept.complete old there flow
  · intro sub member flow retired
    rcases cancelled sub member with ⟨old, there, rfl | ⟨rfl, empty⟩⟩
    · exact kept.retired sub there flow retired
    · exact empty flow
  · intro sub member
    rcases cancelled sub member with ⟨old, there, rfl | ⟨rfl, -⟩⟩
    · exact kept.matching sub there
    · exact kept.matching old there

end BusKept

/-- What stays when consumers are cancelled. -/
theorem map_modify_unsubscribe {α : Type} {f : FlowSubscription → α}
    (same : ∀ sub : FlowSubscription, f sub.unsubscribe = f sub) (index : Nat)
    (subs : List FlowSubscription) :
    (subs.modify index BusSubscription.unsubscribe).map f = subs.map f := by
  induction subs generalizing index with
  | nil => simp
  | cons sub rest ih =>
      cases index with
      | zero => simp [same]
      | succ index => simp [ih index]

theorem mem_modify_unsubscribe {sub : FlowSubscription} {index : Nat}
    {subs : List FlowSubscription}
    (member : sub ∈ subs.modify index BusSubscription.unsubscribe) :
    ∃ old ∈ subs, sub = old ∨
      sub = old.unsubscribe ∧ subs[index]? = some old := by
  induction subs generalizing index with
  | nil => simp at member
  | cons first rest ih =>
      cases index with
      | zero =>
          simp only [List.modify_zero_cons, List.mem_cons] at member
          rcases member with rfl | later
          · exact ⟨first, List.mem_cons_self, .inr ⟨rfl, rfl⟩⟩
          · exact ⟨sub, List.mem_cons_of_mem _ later, .inl rfl⟩
      | succ index =>
          simp only [List.modify_succ_cons, List.mem_cons] at member
          rcases member with rfl | later
          · exact ⟨sub, List.mem_cons_self, .inl rfl⟩
          · rcases ih later with ⟨old, there, which⟩
            exact ⟨old, List.mem_cons_of_mem _ there, which⟩

namespace Kept

/-- Only the bus moves, and nobody handles anything. -/
theorem of_bus (kept : Kept cfg s)
    {bus : AsyncEventBus EventType BusHandler Event} (keeps : BusKept bus)
    (handled : gathered BusHandler.persists Event.tradeRow? bus.subs =
      gathered BusHandler.persists Event.tradeRow? s.bus.subs)
    (counters : ∀ sub ∈ bus.subs, sub.handler.counts = true →
      ∃ old ∈ s.bus.subs, old.handler.counts = true ∧
        old.eventType = sub.eventType ∧ old.handled = sub.handled) :
    Kept cfg { s with bus := bus } := by
  refine ⟨keeps, ?_, ?_⟩
  · rw [handled]
    exact kept.rows
  · rcases kept.counted with ⟨calls, monitor, delivered⟩
    refine ⟨calls, monitor, ?_⟩
    intro sub member counts
    rcases counters sub member counts with ⟨old, there, counted, same, seen⟩
    rw [← same, ← seen]
    exact delivered old there counted

theorem publish (kept : Kept cfg s) {event : Event}
    (lossless : Lossless s (.publish event)) :
    Kept cfg { s with bus := s.bus.publish Event.isInstance event } := by
  apply kept.of_bus (kept.bus.publish lossless)
  · cases shut : s.bus.closed with
    | true => rw [AsyncEventBus.publish_of_closed shut]
    | false =>
        rw [AsyncEventBus.publish_of_dropOldest kept.bus.drops shut]
        exact gathered_receive event s.bus.subs
  · intro sub member counts
    cases shut : s.bus.closed with
    | true =>
        rw [AsyncEventBus.publish_of_closed shut] at member
        exact ⟨sub, member, counts, rfl, rfl⟩
    | false =>
        rw [AsyncEventBus.publish_of_dropOldest kept.bus.drops shut] at member
        rcases List.mem_map.mp member with ⟨old, there, rfl⟩
        simp only [BusSubscription.receive_handler] at counts
        exact ⟨old, there, counts, by simp, by simp⟩

theorem subscribe (kept : Kept cfg s) (eventType : EventType) :
    Kept cfg { s with
      bus := { s.bus with
        subs := s.bus.subs ++ [subscription eventType .other] } } := by
  apply kept.of_bus (kept.bus.subscribe eventType)
  · simp [gathered, subscription, BusSubscription.create, BusHandler.persists]
  · intro sub member counts
    rcases List.mem_append.mp member with old | last
    · exact ⟨sub, old, counts, rfl, rfl⟩
    · rw [List.mem_singleton.mp last] at counts
      cases counts

theorem unsubscribe (kept : Kept cfg s) {index : Nat}
    (lossless : Lossless s (.unsubscribe index)) :
    Kept cfg { s with bus := s.bus.unsubscribe index } := by
  apply kept.of_bus
  · refine BusKept.cancel kept.bus ?_ ?_ ?_
    · rfl
    · exact map_modify_unsubscribe (fun _ => rfl) index s.bus.subs
    · intro sub member
      rcases mem_modify_unsubscribe member with ⟨old, there, same | gone⟩
      · exact ⟨old, there, .inl same⟩
      · exact ⟨old, there, .inr ⟨gone.1, lossless old gone.2⟩⟩
  · apply gathered_congr
    exact map_modify_unsubscribe (fun _ => rfl) index s.bus.subs
  · intro sub member counts
    rcases mem_modify_unsubscribe member with ⟨old, there, rfl | ⟨rfl, -⟩⟩
    · exact ⟨sub, there, counts, rfl, rfl⟩
    · exact ⟨old, there, counts, rfl, rfl⟩

theorem close (kept : Kept cfg s) (lossless : Lossless s .close) :
    Kept cfg { s with bus := s.bus.close } := by
  apply kept.of_bus
  · refine BusKept.cancel kept.bus ?_ ?_ ?_
    · rfl
    · simp [AsyncEventBus.close, tag, BusSubscription.unsubscribe,
        Function.comp_def]
    · intro sub member
      rcases List.mem_map.mp member with ⟨old, there, rfl⟩
      exact ⟨old, there, .inr ⟨rfl, lossless old there⟩⟩
  · apply gathered_congr
    simp [AsyncEventBus.close, BusSubscription.unsubscribe, Function.comp_def]
  · intro sub member counts
    rcases List.mem_map.mp member with ⟨old, there, rfl⟩
    exact ⟨old, there, counts, rfl, rfl⟩

theorem checkSignal (kept : Kept cfg s) (now : Time) (signal : Signal) :
    Kept cfg { s with monitor := (s.monitor.checkSignal now signal).2 } := by
  refine ⟨kept.bus, kept.rows, ?_⟩
  rcases kept.counted with ⟨calls, monitor, delivered⟩
  refine ⟨calls ++ [⟨now, .check signal⟩], ?_, ?_⟩
  · rw [afterCalls_snoc, ← monitor]
    rfl
  · intro sub member counts
    rw [deliveredOf_check]
    exact delivered sub member counts

/-- Two counting subscriptions, or one and the snapshots', are for different
event classes. -/
theorem apart_types {bus : AsyncEventBus EventType BusHandler Event}
    (kept : BusKept bus) {front back : List FlowSubscription}
    {sub other : FlowSubscription} {P : Prop}
    (split : bus.subs = front ++ sub :: back) (present : sub.handler ≠ .other)
    (member : other ∈ front ++ back) (counts : other.handler.counts = true)
    (which : sub.handler.counts = true ∧ P ∨ sub.handler = .riskSnapshot) :
    sub.eventType ≠ other.eventType := by
  have here : sub ∈ bus.subs := by simp [split]
  have there : other ∈ bus.subs := by
    rw [split]
    rcases List.mem_append.mp member with left | right
    · exact List.mem_append_left _ left
    · exact List.mem_append_right _ (List.mem_cons_of_mem _ right)
  have known : other.handler ≠ .other := by
    intro same
    rw [same] at counts
    cases counts
  have risky : sub.handler.counts = true ∨ sub.handler = .riskSnapshot := by
    rcases which with counted | snapshot
    · exact .inl counted.1
    · exact .inr snapshot
  have different := startup_apart (tag other) (kept.typed there known)
    (tag sub) (kept.typed here present) counts risky
    (kept.apart split present member)
  exact different.symm

/-- A delivery that does not count leaves what the counters have seen. -/
theorem idle_counters {calls : List TimedCall}
    {front back : List FlowSubscription} {sub : FlowSubscription}
    {rest : Mailbox Event} {event : Event}
    (others : ∀ other ∈ front ++ back, other.handler.counts = true →
      deliveredOf other.eventType calls =
        other.handled.filterMap Event.riskInput?)
    (idle : sub.handler.counts = false) :
    ∀ other ∈ front ++
        { sub with queue := rest, handled := sub.handled ++ [event] } :: back,
      other.handler.counts = true →
        deliveredOf other.eventType calls =
          other.handled.filterMap Event.riskInput? := by
  intro other member counts
  rcases List.mem_append.mp member with left | right
  · exact others other (List.mem_append_left _ left) counts
  · rcases List.mem_cons.mp right with rfl | right
    · rw [show sub.handler.counts = true from counts] at idle
      cases idle
    · exact others other (List.mem_append_right _ right) counts

theorem handle (kept : Kept cfg s) {index : Nat} {now : Time} {stored : Bool}
    (lossless : Lossless s (.handle index now stored)) {handler : BusHandler}
    {event : Event} {bus : AsyncEventBus EventType BusHandler Event}
    (taken : s.bus.take? index = some (handler, event, bus)) :
    Kept cfg ({ s with bus := bus }.dispatch now stored handler event) := by
  rcases AsyncEventBus.take?_spec taken with
    ⟨front, sub, rest, back, split, there, alive, rfl, popped, rfl⟩
  have here : sub ∈ s.bus.subs := by simp [split]
  have items := Mailbox.items_of_pop? popped
  have matching : event.isInstance sub.eventType = true := by
    apply kept.bus.matching sub here
    simp [items]
  have keeps := kept.bus.take split alive popped
  have known : sub.handler ≠ .other →
      (sub.eventType, sub.handler) ∈ BusHandler.startup :=
    kept.bus.typed here
  have rows := gathered_take BusHandler.persists Event.tradeRow? front back
    sub rest event
  rw [← split] at rows
  rcases kept.counted with ⟨calls, monitor, delivered⟩
  -- the other counting subscriptions have seen what they had seen
  have others : ∀ other ∈ front ++ back, other.handler.counts = true →
      deliveredOf other.eventType calls =
        other.handled.filterMap Event.riskInput? := by
    intro other member counts
    refine delivered other ?_ counts
    rw [split]
    rcases List.mem_append.mp member with left | right
    · exact List.mem_append_left _ left
    · exact List.mem_append_right _ (List.mem_cons_of_mem _ right)
  rcases dispatch_cases now stored known matching with
    ⟨input, which, type, persists, effect⟩ |
    ⟨row, called, persists, counts, wanted, unstamped, effect⟩ |
    ⟨counts, persists, effect⟩
  · -- a delivery to the monitor
    have present : sub.handler ≠ .other := by
      rcases which with ⟨counts, -⟩ | snapshot
      · intro same
        rw [same] at counts
        cases counts
      · rw [snapshot]
        decide
    rw [effect]
    refine ⟨keeps, ?_, ?_⟩
    · rw [persists, if_neg (by decide), List.append_nil] at rows
      exact kept.rows.trans rows.symm
    · refine ⟨calls ++ [⟨now, .deliver input⟩], ?_, ?_⟩
      · rw [afterCalls_snoc, ← monitor]
        rfl
      · intro other member counts
        rw [deliveredOf_deliver, type]
        rcases List.mem_append.mp member with left | right
        · have before := List.mem_append_left back left
          rw [if_neg (apart_types kept.bus split present before counts which),
            List.append_nil]
          exact others other before counts
        · rcases List.mem_cons.mp right with rfl | right
          · rcases which with ⟨counted, called⟩ | snapshot
            · rw [if_pos rfl, delivered sub here counted]
              simp [called]
            · rw [snapshot] at counts
              cases counts
          · have after := List.mem_append_right front right
            rw [if_neg (apart_types kept.bus split present after counts which),
              List.append_nil]
            exact others other after counts
  · -- a row
    have accepted : stored = true := lossless sub there persists
    rw [effect]
    refine ⟨keeps, ?_, ?_⟩
    · rw [persists, if_pos rfl, wanted] at rows
      have more := kept.rows.append_right [called]
      simp only [TradePersister.add, accepted, if_true, List.map_append,
        List.map_cons, List.map_nil, unstamped]
      exact more.trans rows.symm
    · refine ⟨calls, monitor, ?_⟩
      exact idle_counters others counts
  · rw [effect]
    refine ⟨keeps, ?_, ?_⟩
    · rw [persists, if_neg (by decide), List.append_nil] at rows
      exact kept.rows.trans rows.symm
    · refine ⟨calls, monitor, ?_⟩
      exact idle_counters others counts

end Kept

theorem kept_boot (cfg : RiskConfig) (strategyMagic : Dict StrategyId Int) :
    Kept cfg (boot cfg strategyMagic) := by
  have fresh : ∀ sub ∈ (boot cfg strategyMagic).bus.subs,
      ∃ eventType handler, sub = subscription eventType handler := by
    intro sub member
    rcases List.mem_map.mp member with ⟨entry, -, rfl⟩
    exact ⟨entry.1, entry.2, rfl⟩
  refine ⟨⟨?_, rfl, ?_, ?_, ?_⟩, .refl [], [], rfl, ?_⟩
  · intro sub member
    rcases fresh sub member with ⟨eventType, handler, rfl⟩
    rfl
  · intro sub member _
    rcases fresh sub member with ⟨eventType, handler, rfl⟩
    rfl
  · intro sub member _ _
    rcases fresh sub member with ⟨eventType, handler, rfl⟩
    rfl
  · intro sub member event queued
    rcases fresh sub member with ⟨eventType, handler, rfl⟩
    cases queued
  · intro sub member _
    rcases fresh sub member with ⟨eventType, handler, rfl⟩
    rfl

theorem handle_step {index : Nat} {now : Time} {stored : Bool}
    (taken : Step s (.handle index now stored) s') :
    ∃ handler event bus, s.bus.take? index = some (handler, event, bus) ∧
      s' = { s with bus := bus }.dispatch now stored handler event := by
  simp only [Step, stepOf?, step?] at taken
  cases found : s.bus.take? index with
  | none => simp [found] at taken
  | some delivery =>
      obtain ⟨handler, event, bus⟩ := delivery
      rw [found] at taken
      cases taken
      exact ⟨handler, event, bus, rfl, rfl⟩

theorem subscribe_step {eventType : EventType}
    (taken : Step s (.subscribe eventType) s') :
    s' = { s with
      bus := { s.bus with
        subs := s.bus.subs ++ [subscription eventType .other] } } := by
  simp only [Step, stepOf?, step?, AsyncEventBus.subscribe?] at taken
  cases shut : s.bus.closed with
  | true => simp [shut] at taken
  | false =>
      simp only [shut, Bool.false_eq_true, if_false, Option.some.injEq] at taken
      rw [← taken]
      simp [shut, subscription]

theorem kept_step {label : FlowLabel} (taken : Step s label s')
    (lossless : Lossless s label) (kept : Kept cfg s) : Kept cfg s' := by
  cases label with
  | publish event =>
      cases taken
      exact kept.publish lossless
  | handle index now stored =>
      rcases handle_step taken with ⟨handler, event, bus, found, rfl⟩
      exact kept.handle lossless found
  | subscribe eventType =>
      rw [subscribe_step taken]
      exact kept.subscribe eventType
  | checkSignal now signal =>
      cases taken
      exact kept.checkSignal now signal
  | reloadStrategies strategyMagic =>
      cases taken
      exact ⟨kept.bus, kept.rows, kept.counted⟩
  | unsubscribe index =>
      cases taken
      exact kept.unsubscribe lossless
  | close =>
      cases taken
      exact kept.close lossless

/-- The rows of the closes and those of the partial closes are all the rows. -/
theorem chunks_perm (published : List Event) :
    ((published.filter fun event =>
          event.isInstance .positionClosed).filterMap Event.tradeRow? ++
        (published.filter fun event =>
          event.isInstance .partialClosed).filterMap Event.tradeRow?).Perm
      (published.filterMap Event.tradeRow?) := by
  induction published with
  | nil => exact .refl []
  | cons event rest ih =>
      cases event with
      | positionClosed position realizedPnl accountId closePrice =>
          exact ih.cons _
      | partialClosed position closedVolume realizedPnl accountId closePrice =>
          exact List.perm_middle.trans (ih.cons _)
      | _ => exact ih

/-- At a quiet point nothing is missing. -/
theorem Kept.nothingLost (kept : Kept cfg s) (quiet : Quiet s) :
    NothingLost cfg s := by
  have handledOnce : ∀ sub ∈ s.bus.subs, sub.handler.ofOrderFlow = true →
      sub.handled = s.bus.published.filter (sub.wants Event.isInstance) := by
    intro sub member flow
    have empty : sub.queue.items = [] := by
      cases alive : sub.closed with
      | true => exact kept.bus.retired sub member flow alive
      | false => exact quiet sub member flow alive
    have complete := kept.bus.complete sub member flow
    unfold BusSubscription.Complete at complete
    rwa [empty, List.append_nil] at complete
  refine ⟨kept.bus.subscribed, handledOnce, ?_, ?_⟩
  · have gathers := gathered_of_handled BusHandler.persists Event.tradeRow?
      fun sub member persists =>
        handledOnce sub member (ofOrderFlow_of_persists persists)
    have writers : ((s.bus.subs.map tag).filter
        fun entry => entry.2.persists) =
          [(.positionClosed, .persisterClose),
            (.partialClosed, .persisterPartialClose)] := by
      have known : ∀ entry : EventType × BusHandler, entry.2.persists =
          (entry.2.persists && decide (entry.2 ≠ .other)) := by
        intro entry
        cases entry.2 <;> rfl
      rw [List.filter_congr fun entry _ => known entry, ← List.filter_filter,
        kept.bus.subscribed]
      rfl
    rw [writers] at gathers
    have rows := kept.rows
    rw [gathers] at rows
    simp only [List.flatMap_cons, List.flatMap_nil, List.append_nil] at rows
    exact rows.trans (chunks_perm s.bus.published)
  · rcases kept.counted with ⟨calls, monitor, delivered⟩
    refine ⟨calls, monitor, ?_⟩
    intro eventType listed
    have subscribed : ∃ handler, handler.counts = true ∧
        (eventType, handler) ∈ BusHandler.startup := by
      simp only [orderFlowTypes, List.mem_cons, List.not_mem_nil,
        or_false] at listed
      rcases listed with rfl | rfl | rfl
      · exact ⟨.riskFill, rfl, by decide⟩
      · exact ⟨.riskClose, rfl, by decide⟩
      · exact ⟨.riskPartialClose, rfl, by decide⟩
    rcases subscribed with ⟨handler, counts, known⟩
    rw [← kept.bus.subscribed] at known
    rcases List.mem_map.mp (List.mem_filter.mp known).1 with ⟨sub, member, same⟩
    cases same
    rw [delivered sub member counts,
      handledOnce sub member (ofOrderFlow_of_counts counts)]
    rfl

/-- No order-flow event is lost, as long as every step is lossless. -/
theorem nothing_lost (cfg : RiskConfig) (strategyMagic : Dict StrategyId Int)
    {labels : List FlowLabel} {s : OrderFlowBus}
    (run : Run (Guarded Lossless Step) (boot cfg strategyMagic) labels s)
    (quiet : Quiet s) : NothingLost cfg s := by
  have kept : Kept cfg s :=
    run.invariant (kept_boot cfg strategyMagic) fun taken kept =>
      kept_step taken.2 taken.1 kept
  exact kept.nothingLost quiet

instance (s : OrderFlowBus) (label : FlowLabel) : Decidable (Lossless s label) := by
  unfold Lossless BusSubscription.Undropped
  cases label <;> infer_instance

instance (s : OrderFlowBus) : Decidable (Quiet s) := by
  unfold Quiet
  infer_instance

/-! ### A burst longer than a queue -/

def marketFill : Order where
  ticket := 7
  strategyId := "trend"
  symbol := "EURUSD"
  side := .buy
  type := .market
  volume := 1
  filledVolume := 1
  price := none
  fillPrice := some 1
  sl := none
  tp := none
  status := .filled
  comment := ""
  magic := 0
  clientOrderId := "a"
  requestedAt := none
  filledAt := none
  volume_pos := one_quote_pos

/-- A fill and the close of its position, each handled by all it is for. -/
def tradedOnce : List FlowLabel :=
  [.publish (.orderFilled marketFill "default"),
    .publish (.positionClosed lossyPosition (-500) "default" 1),
    .handle 9 1 true, .handle 0 2 true, .handle 1 3 true]

theorem traded_once_nothing_lost :
    ∃ s, s.trades.length = 1 ∧ NothingLost default s := by
  have reached :
      ((replay? Lossless step? (boot default .empty) tradedOnce).filter
        (fun s => decide (Quiet s))).map (fun s => s.trades.length) =
          some 1 := by
    decide +kernel
  rcases Option.map_eq_some_iff.mp reached with ⟨s, replayed, rows⟩
  rcases Option.filter_eq_some_iff.mp replayed with ⟨replayed, quiet⟩
  exact ⟨s, rows, nothing_lost default .empty (run_of_replay? replayed)
    (of_decide_eq_true quiet)⟩

/-- Publishing a burst, one event after the other. -/
theorem publish_run (s : OrderFlowBus) (events : List Event) :
    Run Step s (events.map .publish)
      { s with bus := s.bus.publishAll Event.isInstance events } := by
  induction events generalizing s with
  | nil => exact .refl s
  | cons event rest ih =>
      exact .step rfl
        (ih { s with bus := s.bus.publish Event.isInstance event })

/-- A live consumer works off its queue. -/
theorem drain_run (s : OrderFlowBus) (sub : FlowSubscription)
    (back : List FlowSubscription) (first : s.bus.subs = sub :: back)
    (alive : sub.closed = false) :
    ∃ s', Run Step s
        (List.replicate sub.queue.items.length (.handle 0 0 true)) s' ∧
      s'.bus = { s.bus with
        subs := { sub with
          queue := { sub.queue with items := [] }
          handled := sub.handled ++ sub.queue.items } :: back } := by
  induction waiting : sub.queue.items generalizing s sub with
  | nil =>
      refine ⟨s, .refl s, ?_⟩
      have whole : { sub.queue with items := [] } = sub.queue := by
        rw [← waiting]
      rw [List.append_nil, whole, ← first]
  | cons event rest ih =>
      have takes := AsyncEventBus.take?_first first alive waiting
      generalize moved : { sub with
        queue := { sub.queue with items := rest }
        handled := sub.handled ++ [event] } = taken at takes
      have head : Step s (.handle 0 0 true)
          ({ s with bus := { s.bus with subs := taken :: back } }.dispatch 0 true
            sub.handler event) := by
        simp only [Step, stepOf?, step?, takes]
      have front : ({ s with
          bus := { s.bus with subs := taken :: back } }.dispatch 0 true
            sub.handler event).bus.subs = taken :: back := by
        rw [dispatch_bus]
      subst moved
      rcases ih _ _ front alive rfl with ⟨s', tail, drained⟩
      refine ⟨s', .step head tail, ?_⟩
      rw [drained, dispatch_bus]
      simp

/-- The monitor's fill subscription with a burst in its queue. -/
def burstSubscription (events : List Event) : FlowSubscription :=
  { subscription .orderFilled .riskFill with
    queue := (Mailbox.create busQueueSize).pushAll events }

def burstBus (events : List Event) :
    AsyncEventBus EventType BusHandler Event where
  subs := burstSubscription events :: BusHandler.startup.tail.map fun entry =>
    subscription entry.1 entry.2
  closed := false
  waiting := []
  published := events

/-- A burst of fills fills one queue and passes by the others. -/
theorem burst_bus (strategyMagic : Dict StrategyId Int) {events : List Event}
    (fills : ∀ event ∈ events, event.eventType = .orderFilled) :
    (boot cfg strategyMagic).bus.publishAll Event.isInstance events =
      burstBus events := by
  have arrives : ∀ sub : FlowSubscription, sub.closed = false →
      events.foldl
        (fun sub event => sub.receive Event.isInstance event) sub =
          if sub.eventType = .orderFilled then
            { sub with queue := sub.queue.pushAll events }
          else sub := by
    intro sub alive
    rw [sub.receiveAll_of_open alive]
    by_cases same : sub.eventType = .orderFilled
    · have all : events.filter (sub.wants Event.isInstance) = events := by
        apply List.filter_eq_self.mpr
        intro event member
        simp [BusSubscription.wants, Event.isInstance, same,
          fills event member]
      rw [all, if_pos same]
    · have none : events.filter (sub.wants Event.isInstance) = [] := by
        apply List.filter_eq_nil_iff.mpr
        intro event member matched
        have wanted : event.eventType = sub.eventType := of_decide_eq_true matched
        exact same (wanted.symm.trans (fills event member))
      rw [none, if_neg same]
      rfl
  rw [AsyncEventBus.publishAll_of_dropOldest _
    (kept_boot cfg strategyMagic).bus.drops rfl]
  simp [boot, burstBus, burstSubscription, BusHandler.startup, subscription,
    BusSubscription.create, arrives]

/-- A burst longer than the queue: once the consumer has worked off what the
queue still held, the oldest fill is gone for good. -/
theorem long_burst_loses (strategyMagic : Dict StrategyId Int)
    {events : List Event}
    (fills : ∀ event ∈ events, event.eventType = .orderFilled)
    (long : busQueueSize < events.length) :
    ∃ labels s, Run Step (boot cfg strategyMagic) labels s ∧ Quiet s ∧
      ¬ NothingLost cfg s := by
  have published := publish_run (boot cfg strategyMagic) events
  rw [burst_bus strategyMagic fills] at published
  rcases drain_run { boot cfg strategyMagic with bus := burstBus events }
    (burstSubscription events) _ rfl rfl with ⟨s, drained, bus⟩
  refine ⟨_, s, published.trans drained, ?_, ?_⟩
  · intro sub member _ _
    rw [bus] at member
    rcases List.mem_cons.mp member with rfl | other
    · rfl
    · rcases List.mem_map.mp other with ⟨entry, -, rfl⟩
      rfl
  · intro nothingLost
    have once := nothingLost.handledOnce
    rw [bus] at once
    have seen := congrArg List.length (once _ List.mem_cons_self rfl)
    have room : 0 < (Mailbox.create busQueueSize : Mailbox Event).capacity := by
      decide
    have held := Mailbox.length_items_pushAll room (Nat.zero_le _) events
    have all : events.filter (BusSubscription.wants Event.isInstance
        (subscription .orderFilled .riskFill)) = events := by
      apply List.filter_eq_self.mpr
      intro event member
      exact decide_eq_true (fills event member)
    have handled : (burstSubscription events).queue.items.length =
        (events.filter (BusSubscription.wants Event.isInstance
          (subscription .orderFilled .riskFill))).length := seen
    rw [all] at handled
    unfold burstSubscription at handled
    simp only [Mailbox.create, List.length_nil, Nat.zero_add] at held handled
    omega

/-- A run of fills that is one longer than a queue. -/
def fillBurst : List Event :=
  List.replicate (busQueueSize + 1) (.orderFilled marketFill "default")

/-- The queues drop their oldest event, a fill like any other. -/
theorem burst_loses_fill :
    ¬ ∀ (cfg : RiskConfig) (strategyMagic : Dict StrategyId Int)
        (labels : List FlowLabel) (s : OrderFlowBus),
        Run Step (boot cfg strategyMagic) labels s → Quiet s →
          NothingLost cfg s := by
  intro claim
  have fills : ∀ event ∈ fillBurst, event.eventType = .orderFilled := by
    intro event member
    rw [List.eq_of_mem_replicate member]
    rfl
  have long : busQueueSize < fillBurst.length := by
    rw [fillBurst, List.length_replicate]
    exact Nat.lt_succ_self busQueueSize
  rcases long_burst_loses .empty fills long with
    ⟨labels, s, run, quiet, lost⟩
  exact lost (claim default .empty labels s run quiet)

end OrderFlowBus

end StingerFx
