/-
Module: StingerFx.Core.EventBus
Layer: Core
Purpose: The in-process bus. Each subscription has a queue of its own and a
  consumer that takes one event at a time. A publish call offers its event to the
  subscriptions in turn; it is suspended only at a full queue of a blocking
  subscription. A consumer that is gone takes nothing more.
Trusted boundary: human-reviewed model of the source's event bus
Main exports: OverflowPolicy, BusSubscription, AsyncEventBus, AsyncEventBus.offer,
  AsyncEventBus.publish, AsyncEventBus.resume?, AsyncEventBus.take?,
  BusSubscription.Complete, BusSubscription.Undropped, EventType
-/
import StingerFx.Core.Events
import StingerFx.Lib.Mailbox

namespace StingerFx

open Lib

/-- Default queue size of a bus subscription. -/
def busQueueSize : Nat := 1024

inductive OverflowPolicy where
  | dropOldest
  | block
deriving Repr, DecidableEq

/-- Handle of a subscription. The handler is known by its name here. -/
structure BusSubscription (τ κ ε : Type) where
  eventType : τ
  handler : κ
  queue : Mailbox ε
  overflow : OverflowPolicy
  closed : Bool
  /-- what the consumer handed to its handler, oldest first -/
  handled : List ε
  /-- matching events published after the consumer was gone; nothing reads it -/
  passedBy : List ε

namespace BusSubscription

variable {τ κ ε : Type} (isInstance : ε → τ → Bool)

def create (eventType : τ) (handler : κ) (maxsize : Nat)
    (overflow : OverflowPolicy) : BusSubscription τ κ ε where
  eventType := eventType
  handler := handler
  queue := .create maxsize
  overflow := overflow
  closed := false
  handled := []
  passedBy := []

def wants (sub : BusSubscription τ κ ε) (event : ε) : Bool :=
  isInstance event sub.eventType

/-- A publisher of the event has to wait for room here. -/
def stalls (sub : BusSubscription τ κ ε) (event : ε) : Bool :=
  !sub.closed && sub.wants isInstance event &&
    decide (sub.overflow = .block) && sub.queue.full

/-- The subscription once a publisher came by without waiting. -/
def receive (event : ε) (sub : BusSubscription τ κ ε) :
    BusSubscription τ κ ε :=
  if sub.wants isInstance event then
    if sub.closed then { sub with passedBy := sub.passedBy ++ [event] }
    else { sub with queue := sub.queue.push event }
  else sub

/-- The consumer takes the oldest event of its queue and hands it over. -/
def take? (sub : BusSubscription τ κ ε) :
    Option (ε × BusSubscription τ κ ε) :=
  if sub.closed then none
  else
    match sub.queue.pop? with
    | none => none
    | some (event, rest) =>
        some
          (event,
            { sub with queue := rest, handled := sub.handled ++ [event] })

/-- The consumer is cancelled; what waits in the queue stays there. -/
def unsubscribe (sub : BusSubscription τ κ ε) : BusSubscription τ κ ε :=
  { sub with closed := true }

end BusSubscription

/-- A publish call that waits for room in the queue of one subscription. -/
structure PublishCall (ε : Type) where
  event : ε
  waitsAt : Nat
deriving Repr, DecidableEq

structure AsyncEventBus (τ κ ε : Type) where
  subs : List (BusSubscription τ κ ε)
  closed : Bool
  waiting : List (PublishCall ε)
  /-- every event that was published while the bus was open; nothing reads it -/
  published : List ε

namespace AsyncEventBus

variable {τ κ ε : Type} (isInstance : ε → τ → Bool)

def create : AsyncEventBus τ κ ε := ⟨[], false, [], []⟩

/-- A new subscription comes last; a closed bus raises. -/
def subscribe? (bus : AsyncEventBus τ κ ε) (eventType : τ) (handler : κ)
    (maxsize : Nat) (overflow : OverflowPolicy) :
    Option (AsyncEventBus τ κ ε) :=
  if bus.closed then none
  else
    some
      { bus with
        subs := bus.subs ++ [.create eventType handler maxsize overflow] }

/-- Offer an event to some subscriptions in turn, up to the first one where the
publisher has to wait; the index is that of this subscription. -/
def offer (event : ε) :
    List (BusSubscription τ κ ε) → List (BusSubscription τ κ ε) × Option Nat
  | [] => ([], none)
  | sub :: rest =>
      if sub.stalls isInstance event then (sub :: rest, some 0)
      else
        let later := offer event rest
        (sub.receive isInstance event :: later.1, later.2.map (· + 1))

def publish (bus : AsyncEventBus τ κ ε) (event : ε) : AsyncEventBus τ κ ε :=
  if bus.closed then bus
  else
    let offered := offer isInstance event bus.subs
    { bus with
      subs := offered.1
      waiting := bus.waiting ++ (offered.2.map (⟨event, ·⟩)).toList
      published := bus.published ++ [event] }

/-- Publish some events one after the other. No other task runs in between as
long as no publish call has to wait. -/
def publishAll (bus : AsyncEventBus τ κ ε) (events : List ε) :
    AsyncEventBus τ κ ε :=
  events.foldl (publish isInstance) bus

/-- A waiting publish call goes on once there is room. -/
def resume? (bus : AsyncEventBus τ κ ε) (call : Nat) :
    Option (AsyncEventBus τ κ ε) :=
  match bus.waiting[call]? with
  | none => none
  | some pending =>
      match bus.subs.drop pending.waitsAt with
      | [] => none
      | sub :: rest =>
          if sub.queue.full then none
          else
            let offered := offer isInstance pending.event rest
            let stopped := offered.2.map fun index =>
              ⟨pending.event, pending.waitsAt + 1 + index⟩
            some
              { bus with
                subs := bus.subs.take pending.waitsAt ++
                  { sub with queue := sub.queue.push pending.event } ::
                    offered.1
                waiting := bus.waiting.eraseIdx call ++ stopped.toList }

/-- The consumer of a subscription takes the oldest event of its queue. An
exception of the handler is logged, so it is handled either way. -/
def take? (bus : AsyncEventBus τ κ ε) (index : Nat) :
    Option (κ × ε × AsyncEventBus τ κ ε) :=
  match bus.subs[index]? with
  | none => none
  | some sub =>
      if sub.closed then none
      else
        match sub.queue.pop? with
        | none => none
        | some (event, rest) =>
            some
              (sub.handler, event,
                { bus with
                  subs := bus.subs.set index
                    { sub with
                      queue := rest
                      handled := sub.handled ++ [event] } })

def unsubscribe (bus : AsyncEventBus τ κ ε) (index : Nat) :
    AsyncEventBus τ κ ε :=
  { bus with subs := bus.subs.modify index BusSubscription.unsubscribe }

/-- Every consumer is cancelled and every later publish returns at once. -/
def close (bus : AsyncEventBus τ κ ε) : AsyncEventBus τ κ ε :=
  { bus with
    subs := bus.subs.map BusSubscription.unsubscribe
    closed := true }

/-- What a handler was given, over all its subscriptions. -/
def handledBy [DecidableEq κ] (bus : AsyncEventBus τ κ ε) (handler : κ) :
    List ε :=
  (bus.subs.filter fun sub => decide (sub.handler = handler)).flatMap
    BusSubscription.handled

end AsyncEventBus

/-- One entry of a list is replaced. -/
theorem forall_mem_replaced {α : Type} {P : α → Prop} {front back : List α}
    {old new : α} (others : ∀ entry ∈ front ++ old :: back, P entry)
    (fits : P new) : ∀ entry ∈ front ++ new :: back, P entry := by
  intro entry member
  rcases List.mem_append.mp member with left | right
  · exact others entry (List.mem_append_left _ left)
  · rcases List.mem_cons.mp right with rfl | right
    · exact fits
    · exact others entry
        (List.mem_append_right _ (List.mem_cons_of_mem _ right))

/-! ### What one subscription has seen -/

namespace BusSubscription

variable {τ κ ε : Type} {isInstance : ε → τ → Bool}
variable {sub : BusSubscription τ κ ε} {published : List ε} {event : ε}

/-- Every matching event was handled or waits, in the order of publishing. -/
def Complete (isInstance : ε → τ → Bool) (published : List ε)
    (sub : BusSubscription τ κ ε) : Prop :=
  sub.handled ++ sub.queue.items =
    published.filter (sub.wants isInstance)

/-- The event reaches the queue and evicts nothing from it. -/
def Undropped (isInstance : ε → τ → Bool) (event : ε)
    (sub : BusSubscription τ κ ε) : Prop :=
  sub.wants isInstance event = true →
    sub.closed = false ∧ sub.queue.full = false

@[simp] theorem receive_eventType :
    (sub.receive isInstance event).eventType = sub.eventType := by
  unfold receive
  split
  · split <;> rfl
  · rfl

@[simp] theorem receive_handler :
    (sub.receive isInstance event).handler = sub.handler := by
  unfold receive
  split
  · split <;> rfl
  · rfl

@[simp] theorem receive_overflow :
    (sub.receive isInstance event).overflow = sub.overflow := by
  unfold receive
  split
  · split <;> rfl
  · rfl

@[simp] theorem receive_closed :
    (sub.receive isInstance event).closed = sub.closed := by
  unfold receive
  split
  · split <;> rfl
  · rfl

@[simp] theorem receive_handled :
    (sub.receive isInstance event).handled = sub.handled := by
  unfold receive
  split
  · split <;> rfl
  · rfl

theorem receive_of_not_wants (other : sub.wants isInstance event = false) :
    sub.receive isInstance event = sub := by
  unfold receive
  rw [if_neg (by simp [other])]

theorem receive_of_open (wanted : sub.wants isInstance event = true)
    (alive : sub.closed = false) :
    sub.receive isInstance event =
      { sub with queue := sub.queue.push event } := by
  unfold receive
  rw [if_pos wanted, if_neg (by simp [alive])]

/-- What a subscription wants depends on its event type alone. -/
theorem wants_congr {other : BusSubscription τ κ ε}
    (same : other.eventType = sub.eventType) :
    other.wants isInstance = sub.wants isInstance := by
  funext event
  unfold wants
  rw [same]

/-- What waits after a publish waited before it, or is the new event. -/
theorem mem_receive {waiting : ε}
    (before : ∀ old ∈ sub.queue.items, isInstance old sub.eventType = true)
    (queued : waiting ∈ (sub.receive isInstance event).queue.items) :
    isInstance waiting sub.eventType = true := by
  cases wanted : sub.wants isInstance event with
  | false =>
      rw [receive_of_not_wants wanted] at queued
      exact before waiting queued
  | true =>
      cases alive : sub.closed with
      | true =>
          have unchanged : (sub.receive isInstance event).queue = sub.queue := by
            simp [receive, wanted, alive]
          rw [unchanged] at queued
          exact before waiting queued
      | false =>
          rw [receive_of_open wanted alive] at queued
          rcases Mailbox.mem_items_of_push queued with old | rfl
          · exact before waiting old
          · exact wanted

/-- Several events for a live subscription. -/
theorem receiveAll_of_open (sub : BusSubscription τ κ ε)
    (alive : sub.closed = false) (events : List ε) :
    events.foldl (fun sub event => sub.receive isInstance event) sub =
      { sub with
        queue := sub.queue.pushAll (events.filter (sub.wants isInstance)) } := by
  induction events generalizing sub with
  | nil => rfl
  | cons event rest ih =>
      cases wanted : sub.wants isInstance event with
      | false =>
          rw [List.foldl_cons, receive_of_not_wants wanted, ih sub alive]
          simp [wanted]
      | true =>
          rw [List.foldl_cons, receive_of_open wanted alive,
            ih { sub with queue := sub.queue.push event } alive,
            List.filter_cons, if_pos wanted]
          rfl

theorem not_stalls_of_dropOldest (drops : sub.overflow = .dropOldest) :
    sub.stalls isInstance event = false := by
  simp [stalls, drops]

/-- One publish past a subscription that drops nothing. -/
theorem Complete.receive (complete : sub.Complete isInstance published)
    (undropped : sub.Undropped isInstance event) :
    (sub.receive isInstance event).Complete isInstance
      (published ++ [event]) := by
  have wants : (sub.receive isInstance event).wants isInstance =
      sub.wants isInstance := wants_congr receive_eventType
  unfold Complete at complete ⊢
  rw [wants, List.filter_append, ← complete, receive_handled]
  cases wanted : sub.wants isInstance event with
  | false =>
      rw [receive_of_not_wants wanted]
      simp [wanted]
  | true =>
      rcases undropped wanted with ⟨alive, room⟩
      rw [receive_of_open wanted alive]
      simp [Mailbox.push, room, wanted]

end BusSubscription

namespace AsyncEventBus

variable {τ κ ε : Type} {isInstance : ε → τ → Bool}
variable {bus : AsyncEventBus τ κ ε} {event : ε}

/-- Without blocking subscriptions a publisher never waits. -/
theorem offer_of_dropOldest {subs : List (BusSubscription τ κ ε)}
    (drops : ∀ sub ∈ subs, sub.overflow = .dropOldest) :
    offer isInstance event subs =
      (subs.map (BusSubscription.receive isInstance event), none) := by
  induction subs with
  | nil => rfl
  | cons sub rest ih =>
      have first := drops sub List.mem_cons_self
      have later := ih fun other member =>
        drops other (List.mem_cons_of_mem _ member)
      simp [offer, BusSubscription.not_stalls_of_dropOldest first, later]

/-- The default policy everywhere: an open bus hands the event to all. -/
theorem publish_of_dropOldest
    (drops : ∀ sub ∈ bus.subs, sub.overflow = .dropOldest)
    (open_ : bus.closed = false) :
    bus.publish isInstance event =
      { bus with
        subs := bus.subs.map (BusSubscription.receive isInstance event)
        published := bus.published ++ [event] } := by
  simp [publish, open_, offer_of_dropOldest drops]

theorem publish_of_closed (shut : bus.closed = true) :
    bus.publish isInstance event = bus := by
  simp [publish, shut]

/-- A burst reaches every subscription event by event. -/
theorem publishAll_of_dropOldest (bus : AsyncEventBus τ κ ε)
    (drops : ∀ sub ∈ bus.subs, sub.overflow = .dropOldest)
    (open_ : bus.closed = false) (events : List ε) :
    bus.publishAll isInstance events =
      { bus with
        subs := bus.subs.map fun sub =>
          events.foldl (fun sub event => sub.receive isInstance event) sub
        published := bus.published ++ events } := by
  induction events generalizing bus with
  | nil => simp [publishAll]
  | cons event rest ih =>
      have unfolded : bus.publishAll isInstance (event :: rest) =
          (bus.publish isInstance event).publishAll isInstance rest := rfl
      have kept : ∀ sub ∈
          bus.subs.map (BusSubscription.receive isInstance event),
          sub.overflow = .dropOldest := by
        intro sub member
        rcases List.mem_map.mp member with ⟨old, there, rfl⟩
        rw [BusSubscription.receive_overflow]
        exact drops old there
      rw [unfolded, publish_of_dropOldest drops open_,
        ih
          { bus with
            subs := bus.subs.map (BusSubscription.receive isInstance event)
            published := bus.published ++ [event] } kept open_]
      simp [List.map_map, Function.comp_def]

/-- What a consumer takes: one subscription among the others hands over the
oldest event of its queue. -/
theorem take?_spec {index : Nat} {handler : κ} {after : AsyncEventBus τ κ ε}
    (taken : bus.take? index = some (handler, event, after)) :
    ∃ front sub rest back,
      bus.subs = front ++ sub :: back ∧ bus.subs[index]? = some sub ∧
        sub.closed = false ∧ sub.handler = handler ∧
        sub.queue.pop? = some (event, rest) ∧
        after = { bus with
          subs := front ++
            { sub with queue := rest, handled := sub.handled ++ [event] } ::
              back } := by
  unfold take? at taken
  cases found : bus.subs[index]? with
  | none => simp [found] at taken
  | some sub =>
      rw [found] at taken
      dsimp only at taken
      cases shut : sub.closed with
      | true => simp [shut] at taken
      | false =>
          rw [shut, if_neg (by simp)] at taken
          cases popped : sub.queue.pop? with
          | none => simp [popped] at taken
          | some pair =>
              obtain ⟨first, rest⟩ := pair
              rw [popped] at taken
              cases taken
              obtain ⟨inside, there⟩ := List.getElem?_eq_some_iff.mp found
              refine ⟨bus.subs.take index, sub, rest,
                bus.subs.drop (index + 1), ?_, rfl, shut, rfl, popped, ?_⟩
              · rw [← there, List.getElem_cons_drop, List.take_append_drop]
              · rw [List.set_eq_take_append_cons_drop, if_pos inside, shut]

/-- The consumer of the first subscription goes on. -/
theorem take?_first {sub : BusSubscription τ κ ε}
    {back : List (BusSubscription τ κ ε)} {rest : List ε}
    (first : bus.subs = sub :: back) (alive : sub.closed = false)
    (waiting : sub.queue.items = event :: rest) :
    bus.take? 0 =
      some (sub.handler, event,
        { bus with
          subs :=
            { sub with
              queue := { sub.queue with items := rest }
              handled := sub.handled ++ [event] } :: back }) := by
  simp [take?, first, alive, Mailbox.pop?, waiting]

end AsyncEventBus

/-! ### The engine's event types -/

/-- The classes a subscription of the engine names. -/
inductive EventType where
  | tick
  | bar
  | signal
  | decision
  | orderSubmitted
  | orderFilled
  | orderRejected
  | orderCancelled
  | orderModified
  | positionClosed
  | partialClosed
  | accountSnapshot
  | backtestTradeClosed
  | backtestEquitySample
  | modifyOrderRequest
  | partialCloseRequest
  | closePositionRequest
  | cancelOrderRequest
deriving Repr, DecidableEq

def Event.eventType : Event → EventType
  | .bar _ => .bar
  | .tick _ => .tick
  | .decision _ => .decision
  | .orderSubmitted _ => .orderSubmitted
  | .orderFilled _ _ => .orderFilled
  | .orderRejected _ _ => .orderRejected
  | .orderCancelled _ => .orderCancelled
  | .orderModified _ _ => .orderModified
  | .positionClosed _ _ _ _ => .positionClosed
  | .partialClosed _ _ _ _ _ => .partialClosed
  | .backtestTradeClosed _ _ _ _ _ _ _ _ _ _ => .backtestTradeClosed
  | .backtestEquitySample _ _ _ => .backtestEquitySample
  | .accountSnapshot _ => .accountSnapshot

/-- `isinstance(event, event_type)`: no event class has a subclass. -/
def Event.isInstance (event : Event) (eventType : EventType) : Bool :=
  decide (event.eventType = eventType)

end StingerFx
