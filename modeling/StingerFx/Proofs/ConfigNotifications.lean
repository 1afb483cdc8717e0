/-
Module: StingerFx.Proofs.ConfigNotifications
Layer: Proofs
Purpose: Configuration change notifications under every interleaving with the
  debounce task. Only the task that `_schedule` remembers is ever under way, so
  callbacks do not overlap; and once all tasks are done, a callback began after the
  last notification exactly when that notification did not come while a callback
  was running.
Trusted boundary: none (fully proved)
Main exports: Served, LastOutside, OneAtATime, Watched, Watched.step,
  notifications_served_iff
-/
import StingerFx.Config.Watcher

namespace StingerFx

open Lib

namespace Config

/-! ### Reading the history -/

/-- Since the last notification a callback began. -/
def Served : List Entry → Prop
  | [] => True
  | .fired :: _ => True
  | .notified _ :: _ => False
  | .returned :: rest => Served rest

/-- The last notification came while no callback was running. -/
def LastOutside : List Entry → Prop
  | [] => True
  | .notified whileFiring :: _ => whileFiring = false
  | .fired :: rest => LastOutside rest
  | .returned :: rest => LastOutside rest

/-- Callbacks that began and have not returned. -/
def openCalls : List Entry → Int
  | [] => 0
  | .fired :: rest => openCalls rest + 1
  | .returned :: rest => openCalls rest - 1
  | .notified _ :: rest => openCalls rest

/-- Every callback began when none was running. -/
def OneAtATime : List Entry → Prop
  | [] => True
  | .fired :: rest => openCalls rest = 0 ∧ OneAtATime rest
  | .returned :: rest => OneAtATime rest
  | .notified _ :: rest => OneAtATime rest

instance : ∀ log, Decidable (Served log)
  | [] => .isTrue trivial
  | .fired :: _ => .isTrue trivial
  | .notified _ :: _ => .isFalse id
  | .returned :: rest => instDecidableServed rest

/-- All tasks are done. -/
def ConfigWatcher.Quiet (w : ConfigWatcher) : Prop :=
  ∀ phase ∈ w.tasks, phase = .done

instance (w : ConfigWatcher) : Decidable w.Quiet := by
  unfold ConfigWatcher.Quiet
  infer_instance

/-! ### The invariant -/

/-- What the history records while the remembered task is in a phase. -/
def PhaseRecords (log : List Entry) : Phase → Prop
  | .created => openCalls log = 0 ∧ LastOutside log
  | .sleeping => openCalls log = 0 ∧ LastOutside log
  | .firing => openCalls log = 1 ∧ (Served log ↔ LastOutside log)
  | .done => openCalls log = 0 ∧ (Served log ↔ LastOutside log)

/-- The phase of the remembered task; a watcher without one is as after it. -/
def ConfigWatcher.phase (w : ConfigWatcher) : Phase :=
  (w.debounceTask.bind fun i => w.tasks[i]?).getD .done

structure Watched (w : ConfigWatcher) : Prop where
  remembered : ∀ i, w.debounceTask = some i → i < w.tasks.length
  others : ∀ i phase, w.tasks[i]? = some phase → phase ≠ .done →
    w.debounceTask = some i
  records : PhaseRecords w.log w.phase
  alone : OneAtATime w.log

theorem watched_start : Watched .start where
  remembered := by simp [ConfigWatcher.start]
  others := by simp [ConfigWatcher.start]
  records := ⟨rfl, Iff.rfl⟩
  alone := trivial

section Steps

variable {w : ConfigWatcher}

/-- A task that is not done is the remembered one. -/
theorem Watched.phase_of_task (watched : Watched w) {i : Nat} {phase : Phase}
    (found : w.tasks[i]? = some phase) (live : phase ≠ .done) :
    w.debounceTask = some i ∧ w.phase = phase := by
  have task := watched.others i phase found live
  refine ⟨task, ?_⟩
  simp [ConfigWatcher.phase, task, found]

theorem Watched.isFiring_iff (watched : Watched w) :
    w.isFiring = true ↔ w.phase = .firing := by
  constructor
  · intro firing
    obtain ⟨phase, member, same⟩ := List.any_eq_true.mp firing
    have is : phase = .firing := by simpa using same
    obtain ⟨i, found⟩ := List.getElem?_of_mem member
    exact (watched.phase_of_task found (by rw [is]; decide)).2.trans is
  · intro phase
    apply List.any_eq_true.mpr
    refine ⟨.firing, ?_, by decide⟩
    cases task : w.debounceTask with
    | none => simp [ConfigWatcher.phase, task] at phase
    | some i =>
        have inside := watched.remembered i task
        simp [ConfigWatcher.phase, task, inside] at phase
        exact phase ▸ List.getElem_mem inside

theorem Watched.idle_iff (watched : Watched w) :
    w.idle = true ↔ w.phase = .done := by
  cases task : w.debounceTask with
  | none => simp [ConfigWatcher.idle, ConfigWatcher.phase, task]
  | some i =>
      have inside := watched.remembered i task
      simp [ConfigWatcher.idle, ConfigWatcher.phase, task, inside]

/-- The remembered task moves to another phase. -/
theorem phase_set {i : Nat} {phase : Phase} {pending : Bool} {log : List Entry}
    (task : w.debounceTask = some i) (inside : i < w.tasks.length) :
    ConfigWatcher.phase
      { w with pending := pending, tasks := w.tasks.set i phase, log := log } =
      phase := by
  simp [ConfigWatcher.phase, task, inside]

/-- What stays of the invariant when the remembered task moves. -/
theorem Watched.move (watched : Watched w) {i : Nat} {phase : Phase}
    {pending : Bool} {log : List Entry} (task : w.debounceTask = some i)
    (records : PhaseRecords log phase) (alone : OneAtATime log) :
    Watched { w with pending := pending, tasks := w.tasks.set i phase, log := log }
    where
  remembered := by
    intro j is
    rw [List.length_set]
    exact watched.remembered j is
  others := by
    intro j other found live
    dsimp only at found ⊢
    rw [List.getElem?_set] at found
    split at found
    · rename_i same
      rw [← same, task]
    · exact watched.others j other found live
  records := by
    rw [phase_set task (watched.remembered i task)]
    exact records
  alone := alone

theorem Watched.schedule (watched : Watched w) : Watched w.schedule := by
  have records := watched.records
  unfold ConfigWatcher.schedule
  dsimp only
  split
  · rename_i idle
    rw [watched.idle_iff] at idle
    have still : w.isFiring = false := by
      rw [Bool.eq_false_iff, ne_eq, watched.isFiring_iff, idle]
      decide
    rw [idle] at records
    constructor
    case remembered => simp
    case others =>
      intro i phase found live
      dsimp only at found ⊢
      rcases Nat.lt_trichotomy i w.tasks.length with old | new | beyond
      · -- an older task is done
        rw [List.getElem?_append_left old] at found
        have task := (watched.phase_of_task found live).2
        exact absurd (task.symm.trans idle) live
      · rw [new]
      · have none : (w.tasks ++ [Phase.created])[i]? = none := by
          apply List.getElem?_eq_none
          simpa using beyond
        rw [none] at found
        cases found
    case records =>
      simp only [ConfigWatcher.phase, Option.bind_some, List.getElem?_concat_length,
        Option.getD_some]
      exact ⟨records.1, still⟩
    case alone => exact watched.alone
  · rename_i busy
    rw [watched.idle_iff] at busy
    constructor
    case remembered => exact watched.remembered
    case others => exact watched.others
    case alone => exact watched.alone
    case records =>
      show PhaseRecords (.notified w.isFiring :: w.log) w.phase
      cases phase : w.phase with
      | done => exact absurd phase busy
      | firing =>
          -- this notification is not served by the running callback
          have firing := watched.isFiring_iff.mpr phase
          rw [phase] at records
          refine ⟨records.1, ?_⟩
          simp [Served, LastOutside, firing]
      | created | sleeping =>
          have still : w.isFiring = false := by
            rw [Bool.eq_false_iff, ne_eq, watched.isFiring_iff, phase]
            decide
          rw [phase] at records
          exact ⟨records.1, still⟩

theorem Watched.beginTask (watched : Watched w) {i : Nat}
    (created : w.tasks[i]? = some .created) : Watched (w.beginTask i) := by
  obtain ⟨task, phase⟩ := watched.phase_of_task created (by decide)
  have records := watched.records
  rw [phase] at records
  exact watched.move task records watched.alone

theorem Watched.wake (watched : Watched w) {i : Nat}
    (sleeping : w.tasks[i]? = some .sleeping) : Watched (w.wake i) := by
  obtain ⟨task, phase⟩ := watched.phase_of_task sleeping (by decide)
  have records := watched.records
  rw [phase] at records
  unfold ConfigWatcher.wake
  split
  · exact ⟨watched.remembered, watched.others, watched.records, watched.alone⟩
  · apply watched.move task
    · refine ⟨?_, ?_⟩
      · show openCalls w.log + 1 = 1
        rw [records.1]
        rfl
      · exact ⟨fun _ => records.2, fun _ => trivial⟩
    · exact ⟨records.1, watched.alone⟩

theorem Watched.finish (watched : Watched w) {i : Nat}
    (firing : w.tasks[i]? = some .firing) : Watched (w.finish i) := by
  obtain ⟨task, phase⟩ := watched.phase_of_task firing (by decide)
  have records := watched.records
  rw [phase] at records
  apply watched.move task
  · refine ⟨?_, records.2⟩
    show openCalls w.log - 1 = 0
    rw [records.1]
    rfl
  · exact watched.alone

/-- One step of the event loop. -/
theorem Watched.step {label : WatcherLabel} {w' : ConfigWatcher}
    (watched : Watched w) (step : w.next? label = some w') : Watched w' := by
  cases label with
  | schedule =>
      cases step
      exact watched.schedule
  | beginTask i =>
      simp only [ConfigWatcher.next?] at step
      split at step
      · rename_i created
        cases step
        exact watched.beginTask created
      · cases step
  | wake i =>
      simp only [ConfigWatcher.next?] at step
      split at step
      · rename_i sleeping
        cases step
        exact watched.wake sleeping
      · cases step
  | finish i =>
      simp only [ConfigWatcher.next?] at step
      split at step
      · rename_i firing
        cases step
        exact watched.finish firing
      · cases step

end Steps

/-! ### Runs -/

theorem Watched.quiet_phase {w : ConfigWatcher} (watched : Watched w)
    (quiet : w.Quiet) : w.phase = .done := by
  cases task : w.debounceTask with
  | none => simp [ConfigWatcher.phase, task]
  | some i =>
      have inside := watched.remembered i task
      have done := quiet _ (List.getElem_mem inside)
      simp [ConfigWatcher.phase, task, inside, done]

/-- In every run, under any interleaving of notifications with the task: callbacks
never overlap, and when all tasks are done, a callback began after the last
notification exactly when that one did not come while a callback was running. -/
theorem notifications_served_iff {labels : List WatcherLabel} {w : ConfigWatcher}
    (run : Run (stepOf? ConfigWatcher.next?) .start labels w) :
    OneAtATime w.log ∧ (w.Quiet → (Served w.log ↔ LastOutside w.log)) := by
  have watched : Watched w :=
    run.invariant watched_start fun step watched => watched.step step
  refine ⟨watched.alone, fun quiet => ?_⟩
  have records := watched.records
  rw [watched.quiet_phase quiet] at records
  exact records.2

/-- A notification, its task, and its callback. -/
def oneChange : List WatcherLabel := [.schedule, .beginTask 0, .wake 0, .finish 0]

theorem notifications_served_iff_one_change :
    ∃ w, Run (stepOf? ConfigWatcher.next?) .start oneChange w ∧
      OneAtATime w.log ∧ (w.Quiet → (Served w.log ↔ LastOutside w.log)) := by
  have replayed : replay? (fun _ _ => True) ConfigWatcher.next? .start oneChange =
      some ⟨false, [.done], some 0, [.returned, .fired, .notified false]⟩ := by
    decide
  have run := (run_of_replay? replayed).unguard
  exact ⟨_, run, notifications_served_iff run⟩

/-- A notification that comes while the callback runs is lost: the task ends, and no
callback begins after it. -/
theorem notification_lost :
    ∃ labels w, Run (stepOf? ConfigWatcher.next?) .start labels w ∧ w.Quiet ∧
      ¬ Served w.log := by
  have replayed : replay? (fun _ _ => True) ConfigWatcher.next? .start
      [.schedule, .beginTask 0, .wake 0, .schedule, .finish 0] =
      some ⟨true, [.done], some 0,
        [.returned, .notified true, .fired, .notified false]⟩ := by
    decide
  exact ⟨_, _, (run_of_replay? replayed).unguard, by decide, by decide⟩

end Config

end StingerFx
