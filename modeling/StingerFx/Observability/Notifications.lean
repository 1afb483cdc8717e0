/-
Module: StingerFx.Observability.Notifications
Layer: Observability
Purpose: The notification dispatcher: for each event class that a channel asks for, a
  handler goes through the channels and the event names of each, and sends the
  message of the event. One window of recent messages serves all channels. The
  handlers of different classes run between the sends of each other.
Trusted boundary: human-reviewed model of the source's notification dispatcher; how a
  post ends and what the clock shows are part of the steps
Main exports: Notice, NoticeFormat, eventRegistry, messageFor, Channel, Channel.send,
  isDuplicate, NotificationDispatcher, NotificationLabel,
  NotificationDispatcher.boot, NotificationDispatcher.step?,
  NotificationDispatcher.Step
-/
import StingerFx.Core.EventBus
import StingerFx.Lib.Runs

namespace StingerFx

open Lib

/-! ### Events and their messages -/

/-- The event classes of the registry. -/
inductive NoticeClass where
  | orderFilled
  | orderRejected
  | decision
  | strategyStateChanged
  | strategyDrift
  | configReloaded
  | configReloadFailed
deriving Repr, DecidableEq

instance : Fintype NoticeClass where
  elems := {.orderFilled, .orderRejected, .decision, .strategyStateChanged,
    .strategyDrift, .configReloaded, .configReloadFailed}
  complete := by
    intro eventClass
    cases eventClass <;> decide

/-- An event, with what the formatters read of it. -/
inductive Notice where
  | orderFilled (order : Order)
  | orderRejected (order : Order) (reason : String)
  | decision (signal : Signal) (action reason : String)
  | strategyStateChanged (strategyId : StrategyId) (state reason : String)
  | strategyDrift (strategyId : StrategyId) (sampleSize : Int)
      (liveWinRate liveExpectancyPerLot : ℚ)
      (baselineWinRate baselineExpectancyPerLot : ℚ) (reason : String)
  | configReloaded (applied needsRestart : List String)
  | configReloadFailed (file error : String)
deriving Repr, DecidableEq

def Notice.eventClass : Notice → NoticeClass
  | .orderFilled _ => .orderFilled
  | .orderRejected _ _ => .orderRejected
  | .decision _ _ _ => .decision
  | .strategyStateChanged _ _ _ => .strategyStateChanged
  | .strategyDrift _ _ _ _ _ _ _ => .strategyDrift
  | .configReloaded _ _ => .configReloaded
  | .configReloadFailed _ _ => .configReloadFailed

/-- Python's rendering of numbers and of lists of names. -/
structure NoticeFormat extends TextFormat where
  names : List String → String

def NoticeFormat.optional (f : NoticeFormat) : Option ℚ → String
  | none => "None"
  | some x => f.number x

/-- `side.value.upper()`. -/
def Side.upper : Side → String
  | .buy => "BUY"
  | .sell => "SELL"

/-- A formatter gives no message for an event that it skips. It is only called with
events of its class. -/
abbrev Formatter := NoticeFormat → Notice → Option String

def formatOrderFilled : Formatter := fun f notice =>
  match notice with
  | .orderFilled o =>
      some ("✅ FILLED · " ++ o.symbol ++ " " ++ o.side.upper ++ " vol=" ++
        f.number o.volume ++ " @ " ++ f.optional o.fillPrice ++ " · strategy=" ++
        o.strategyId ++ " · ticket=" ++ toString o.ticket)
  | _ => none

def formatOrderRejected : Formatter := fun f notice =>
  match notice with
  | .orderRejected o reason =>
      some ("❌ REJECTED · " ++ o.symbol ++ " " ++ o.side.upper ++ " vol=" ++
        f.number o.volume ++ " · strategy=" ++ o.strategyId ++ " · reason=" ++ reason)
  | _ => none

def formatSignalRejected : Formatter := fun _ notice =>
  match notice with
  | .decision signal action reason =>
      if action ≠ "rejected" then none
      else
        some ("🛑 RISK BLOCKED · strategy=" ++ signal.strategyId ++ " " ++
          signal.symbol ++ " " ++ signal.side.upper ++ " · " ++ reason)
  | _ => none

def formatKillSwitch : Formatter := fun _ notice =>
  match notice with
  | .decision signal action reason =>
      if action ≠ "rejected" then none
      else if ¬"kill_switch".toList <:+: reason.toList then none
      else some ("🚨 KILL SWITCH TRIPPED · " ++ signal.symbol ++ " · " ++ reason)
  | _ => none

/-- Emoji and upper-case text of the states that are announced. -/
def announcedState (state : String) : Option (String × String) :=
  if state = "paused" then some ("⏸️", "PAUSED")
  else if state = "quarantined" then some ("⚠️", "QUARANTINED")
  else if state = "stopped" then some ("⏹️", "STOPPED")
  else none

def formatStrategyState : Formatter := fun _ notice =>
  match notice with
  | .strategyStateChanged strategyId state reason =>
      (announcedState state).map fun shown =>
        shown.1 ++ " STRATEGY " ++ shown.2 ++ " · id=" ++ strategyId ++
          (if reason = "" then "" else " · " ++ reason)
  | _ => none

def formatConfigReloaded : Formatter := fun f notice =>
  match notice with
  | .configReloaded applied needsRestart =>
      if applied = [] ∧ needsRestart = [] then none
      else
        let parts :=
          (if applied = [] then [] else ["applied=" ++ f.names applied]) ++
            (if needsRestart = [] then []
              else ["needs_restart=" ++ f.names needsRestart])
        some ("🔁 CONFIG RELOAD · " ++ " · ".intercalate parts)
  | _ => none

def formatConfigReloadFailed : Formatter := fun _ notice =>
  match notice with
  | .configReloadFailed file error =>
      some ("⛔ CONFIG RELOAD FAILED · " ++ file ++ " · " ++ error)
  | _ => none

def formatStrategyDrift : Formatter := fun f notice =>
  match notice with
  | .strategyDrift strategyId sampleSize liveWinRate liveExpectancyPerLot
      baselineWinRate baselineExpectancyPerLot reason =>
      some ("📉 DRIFT · strategy=" ++ strategyId ++ " · n=" ++ toString sampleSize ++
        " · live wr=" ++ f.fixed 2 liveWinRate ++ "/exp_lot=" ++
        f.fixed 2 liveExpectancyPerLot ++ " vs backtest wr=" ++
        f.fixed 2 baselineWinRate ++ "/exp_lot=" ++
        f.fixed 2 baselineExpectancyPerLot ++ " · " ++ reason)
  | _ => none

/-- `_EVENT_REGISTRY`. -/
def eventRegistry : List (String × NoticeClass × Formatter) :=
  [("order_filled", .orderFilled, formatOrderFilled),
    ("order_rejected", .orderRejected, formatOrderRejected),
    ("signal_rejected_by_risk", .decision, formatSignalRejected),
    ("kill_switch_tripped", .decision, formatKillSwitch),
    ("strategy_state_changed", .strategyStateChanged, formatStrategyState),
    ("strategy_drift", .strategyDrift, formatStrategyDrift),
    ("config_reloaded", .configReloaded, formatConfigReloaded),
    ("config_reload_failed", .configReloadFailed, formatConfigReloadFailed)]

/-- What a handler makes of an event under a configured name. -/
def messageFor (f : NoticeFormat) (name : String) (notice : Notice) :
    Option String :=
  match eventRegistry.lookup name with
  | none => none
  | some (eventClass, formatter) =>
      if eventClass = notice.eventClass then formatter f notice else none

/-! ### Channels -/

inductive ChannelKind where
  | telegram
  | discord
deriving Repr, DecidableEq

/-- The configuration of a channel. -/
structure Channel where
  kind : ChannelKind
  enabled : Bool
  botToken : String
  /-- empty when it is missing or the number zero -/
  chatId : String
  webhookUrl : String
  events : List String
deriving Repr, DecidableEq

/-- How a post of the HTTP client ends. -/
inductive PostResult where
  | status (code : Nat)
  | httpError
  /-- any other exception -/
  | raises
deriving Repr, DecidableEq

inductive SendResult where
  | delivered
  | failed
  | raised
deriving Repr, DecidableEq

/-- `send`; without a target nothing is posted. -/
def Channel.send (ch : Channel) (post : PostResult) : SendResult :=
  let missing := match ch.kind with
    | .telegram => decide (ch.botToken = "" ∨ ch.chatId = "")
    | .discord => decide (ch.webhookUrl = "")
  if missing then .failed
  else
    match post with
    | .status code => if 300 ≤ code then .failed else .delivered
    | .httpError => .failed
    | .raises => .raised

/-! ### The window of recent messages -/

def dedupeWindow : Int := 30 * Time.usPerSecond

def dedupeMax : Nat := 50

/-- `append` to the bounded deque. -/
def pushRecent (recent : List (String × Time)) (entry : String × Time) :
    List (String × Time) :=
  if dedupeMax ≤ recent.length then recent.tail ++ [entry] else recent ++ [entry]

/-- The window once it is pruned from the front. -/
def pruned (recent : List (String × Time)) (now : Time) : List (String × Time) :=
  recent.dropWhile fun entry => decide (entry.2 < now - dedupeWindow)

/-- `_is_duplicate`, with the window that it leaves. -/
def isDuplicate (recent : List (String × Time)) (message : String) (now : Time) :
    Bool × List (String × Time) :=
  let kept := pruned recent now
  if kept.any fun entry => decide (entry.1 = message) then (true, kept)
  else (false, pushRecent kept (message, now))

/-! ### The dispatcher -/

/-- One round of a handler: a channel, by its index, and one of its event names. -/
structure WorkItem where
  channel : Nat
  name : String
deriving Repr, DecidableEq

/-- A handler at work: what it still goes through, and the channel whose send it
waits for. -/
structure Handling where
  id : Nat
  notice : Notice
  work : List WorkItem
  sending : Option Nat
deriving Repr, DecidableEq

/-- The subscription of one event class. -/
structure ClassTask where
  queue : Mailbox (Nat × Notice)
  current : Option Handling
deriving Repr, DecidableEq

/-- A message that a channel was due, and whether it was sent there. -/
structure NoticeEntry where
  id : Nat
  channel : Nat
  message : String
  time : Time
  sent : Bool
deriving Repr, DecidableEq

structure NotificationDispatcher where
  /-- the enabled ones -/
  channels : List Channel
  tasks : NoticeClass → ClassTask
  recent : List (String × Time)
  /-- every event so far, an event's id is its index; nothing reads it -/
  published : List Notice
  /-- what became of every message; nothing reads it -/
  log : List NoticeEntry

inductive NotificationLabel where
  | publish (notice : Notice) (now : Time)
  /-- the consumer of a class takes the next event -/
  | take (eventClass : NoticeClass)
  /-- its handler goes on to the next channel and event name -/
  | visit (eventClass : NoticeClass) (now : Time)
  /-- the send that it waits for ends -/
  | resume (eventClass : NoticeClass) (now : Time) (post : PostResult)
deriving Repr, DecidableEq

/-- The rounds of a handler, in the order of its two loops. -/
def workOf (channels : List Channel) : List WorkItem :=
  channels.zipIdx.flatMap fun entry => entry.1.events.map (⟨entry.2, ·⟩)

/-- The messages of some rounds, as not sent. -/
def missedEntries (f : NoticeFormat) (id : Nat) (notice : Notice)
    (work : List WorkItem) (now : Time) : List NoticeEntry :=
  work.filterMap fun item =>
    (messageFor f item.name notice).map fun message =>
      ⟨id, item.channel, message, now, false⟩

namespace NotificationDispatcher

def boot (channels : List Channel) : NotificationDispatcher where
  channels := channels.filter Channel.enabled
  tasks := fun _ => ⟨.create busQueueSize, none⟩
  recent := []
  published := []
  log := []

/-- Some channel asks for an event of the class. -/
def subscribed (d : NotificationDispatcher) (eventClass : NoticeClass) : Bool :=
  d.channels.any fun ch => ch.events.any fun name =>
    (eventRegistry.lookup name).any fun entry => decide (entry.1 = eventClass)

def setTask (d : NotificationDispatcher) (eventClass : NoticeClass)
    (task : ClassTask) : NotificationDispatcher :=
  { d with tasks := Function.update d.tasks eventClass task }

/-- The event that a publish evicts from a full queue. -/
def evicted? (d : NotificationDispatcher) (eventClass : NoticeClass) :
    Option (Nat × Notice) :=
  let queue := (d.tasks eventClass).queue
  if queue.full then queue.items.head? else none

/-- The bus hands an event to the subscription of its class. -/
def publish (f : NoticeFormat) (d : NotificationDispatcher) (notice : Notice)
    (now : Time) : NotificationDispatcher :=
  let eventClass := notice.eventClass
  let task := d.tasks eventClass
  let id := d.published.length
  let known := { d with published := d.published ++ [notice] }
  if d.subscribed eventClass then
    { known.setTask eventClass { task with queue := task.queue.push (id, notice) } with
      log := d.log ++
        match d.evicted? eventClass with
        | none => []
        | some (old, lost) => missedEntries f old lost (workOf d.channels) now }
  else known

/-- One round of a handler. -/
def visitItem (f : NoticeFormat) (d : NotificationDispatcher)
    (eventClass : NoticeClass) (h : Handling) (item : WorkItem)
    (rest : List WorkItem) (now : Time) : NotificationDispatcher :=
  let task := d.tasks eventClass
  match messageFor f item.name h.notice with
  | none => d.setTask eventClass { task with current := some { h with work := rest } }
  | some message =>
      let check := isDuplicate d.recent message now
      if check.1 then
        { d.setTask eventClass { task with current := some { h with work := rest } } with
          recent := check.2
          log := d.log ++ [⟨h.id, item.channel, message, now, false⟩] }
      else
        { d.setTask eventClass
            { task with
              current := some { h with work := rest, sending := some item.channel } } with
          recent := check.2
          log := d.log ++ [⟨h.id, item.channel, message, now, true⟩] }

/-- The send ends: an exception ends the handler. -/
def finishSend (f : NoticeFormat) (d : NotificationDispatcher)
    (eventClass : NoticeClass) (h : Handling) (result : SendResult) (now : Time) :
    NotificationDispatcher :=
  let task := d.tasks eventClass
  match result with
  | .delivered | .failed =>
      d.setTask eventClass { task with current := some { h with sending := none } }
  | .raised =>
      { d.setTask eventClass { task with current := none } with
        log := d.log ++ missedEntries f h.id h.notice h.work now }

/-- The state after a step, if the step can happen. -/
def step? (f : NoticeFormat) (d : NotificationDispatcher) :
    NotificationLabel → Option NotificationDispatcher
  | .publish notice now => some (d.publish f notice now)
  | .take eventClass =>
      match (d.tasks eventClass).current, (d.tasks eventClass).queue.pop? with
      | none, some ((id, notice), rest) =>
          some
            (d.setTask eventClass ⟨rest, some ⟨id, notice, workOf d.channels, none⟩⟩)
      | _, _ => none
  | .visit eventClass now =>
      match (d.tasks eventClass).current with
      | some ⟨id, notice, work, none⟩ =>
          match work with
          | [] => some (d.setTask eventClass { d.tasks eventClass with current := none })
          | item :: rest =>
              some
                (d.visitItem f eventClass ⟨id, notice, work, none⟩ item rest now)
      | _ => none
  | .resume eventClass now post =>
      match (d.tasks eventClass).current with
      | some ⟨id, notice, work, some channel⟩ =>
          match d.channels[channel]? with
          | none => none
          | some ch =>
              some
                (d.finishSend f eventClass ⟨id, notice, work, some channel⟩
                  (ch.send post) now)
      | _ => none

def Step (f : NoticeFormat) :
    NotificationDispatcher → NotificationLabel → NotificationDispatcher → Prop :=
  stepOf? (step? f)

end NotificationDispatcher

end StingerFx
