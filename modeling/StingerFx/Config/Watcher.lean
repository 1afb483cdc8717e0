/-
Module: StingerFx.Config.Watcher
Layer: Config
Purpose: The debounce of configuration changes. A notification sets a flag and
  makes a task unless one is under way; the task sleeps until no notification has
  come in its last sleep and then awaits the callback. The steps are the points at
  which the event loop can switch.
Trusted boundary: human-reviewed model of the source's `ConfigWatcher._schedule`
  and `_debounce_and_fire`; starting and stopping the observer are left out
Main exports: Phase, Entry, ConfigWatcher, WatcherLabel, ConfigWatcher.next?
-/
import StingerFx.Lib.Runs

namespace StingerFx

open Lib

namespace Config

/-- How far a task has come. -/
inductive Phase where
  /-- made, its body not begun -/
  | created
  | sleeping
  /-- awaiting `on_change` -/
  | firing
  | done
deriving Repr, DecidableEq

/-- What happened, as far as notifications and callbacks go. A notification records
whether a callback was running when it came. -/
inductive Entry where
  | notified (whileFiring : Bool)
  | fired
  | returned
deriving Repr, DecidableEq

structure ConfigWatcher where
  pending : Bool
  /-- every task that was made, by its number -/
  tasks : List Phase
  /-- the number of `_debounce_task` -/
  debounceTask : Option Nat
  /-- history, the newest entry first; nothing reads it -/
  log : List Entry
deriving Repr, DecidableEq

namespace ConfigWatcher

def start : ConfigWatcher where
  pending := false
  tasks := []
  debounceTask := none
  log := []

/-- `_debounce_task is None or _debounce_task.done()`. -/
def idle (w : ConfigWatcher) : Bool :=
  match w.debounceTask with
  | none => true
  | some i => w.tasks[i]? == some .done

/-- Whether some callback is running. -/
def isFiring (w : ConfigWatcher) : Bool :=
  w.tasks.any fun phase => phase == .firing

/-- `_schedule`. -/
def schedule (w : ConfigWatcher) : ConfigWatcher :=
  let noted := { w with pending := true, log := .notified w.isFiring :: w.log }
  if w.idle then
    { noted with
      tasks := w.tasks ++ [.created]
      debounceTask := some w.tasks.length }
  else noted

/-- A task begins its body: clear the flag and sleep. -/
def beginTask (w : ConfigWatcher) (i : Nat) : ConfigWatcher :=
  { w with pending := false, tasks := w.tasks.set i .sleeping }

/-- A sleep is over: sleep again when the flag is set, else call back. -/
def wake (w : ConfigWatcher) (i : Nat) : ConfigWatcher :=
  if w.pending then { w with pending := false }
  else { w with tasks := w.tasks.set i .firing, log := .fired :: w.log }

/-- The callback has returned or raised; the task is done. -/
def finish (w : ConfigWatcher) (i : Nat) : ConfigWatcher :=
  { w with tasks := w.tasks.set i .done, log := .returned :: w.log }

end ConfigWatcher

inductive WatcherLabel where
  | schedule
  | beginTask (task : Nat)
  | wake (task : Nat)
  | finish (task : Nat)
deriving Repr, DecidableEq

/-- The steps of the event loop; a task moves only from the phase it is in. -/
def ConfigWatcher.next? (w : ConfigWatcher) : WatcherLabel → Option ConfigWatcher
  | .schedule => some w.schedule
  | .beginTask i => if w.tasks[i]? = some .created then some (w.beginTask i) else none
  | .wake i => if w.tasks[i]? = some .sleeping then some (w.wake i) else none
  | .finish i => if w.tasks[i]? = some .firing then some (w.finish i) else none

end Config

end StingerFx
