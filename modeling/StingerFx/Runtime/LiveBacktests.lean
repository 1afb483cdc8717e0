/-
Module: StingerFx.Runtime.LiveBacktests
Layer: Runtime
Purpose: The live backtests of the web server. The controller tracks one task; a start
  is refused while that task runs, and a stop cancels it and waits until it has ended.
  A stop that comes back forgets the task that is tracked then, which need not be the
  one that it waited for: a start may have come in between. Such a backtest runs on,
  and no later stop reaches it.
Trusted boundary: human-reviewed model of the source's live backtest controller; a
  backtest ends whenever it likes, cancelled or not
Main exports: LiveBacktestError, LiveBacktestController, LiveBacktests, LiveLabel,
  LiveBacktests.step?, LiveBacktests.Step, LiveBacktests.Sound,
  LiveBacktests.running_bounded, LiveBacktests.lost_unreachable
-/
import StingerFx.Config.Backtest
import StingerFx.Lib.Runs

namespace StingerFx

open Lib

/-! ### Starting and stopping -/

def Config.BacktestMode.text : Config.BacktestMode → String
  | .file => "file"
  | .mt5Tester => "mt5_tester"
  | .mt4Tester => "mt4_tester"

/-- Why a start is refused. -/
inductive LiveBacktestError where
  | alreadyRunning (runId : Option String)
  | maxSpeed
  | noRun (runId : String)
  | wrongMode (runId : String) (mode : Config.BacktestMode)
  | unknownStrategy (runId : String) (strategyId : StrategyId)
  | noDataSource (runId : String)
deriving Repr, DecidableEq

/-- The text of a refusal, given the printed form of a name. -/
def LiveBacktestError.text (repr : Option String → String) : LiveBacktestError → String
  | .alreadyRunning runId =>
      "a live backtest is already running (run_id=" ++ repr runId ++ ")"
  | .maxSpeed => "live backtest requires speed > 0 (max speed is unviewable)"
  | .noRun runId => "no backtest run with id " ++ repr (some runId)
  | .wrongMode runId mode =>
      "live backtest only supports mode='file'; run " ++ repr (some runId) ++
        " is mode=" ++ repr (some mode.text)
  | .unknownStrategy runId strategyId =>
      "backtest run " ++ repr (some runId) ++ " references unknown strategy " ++
        repr (some strategyId)
  | .noDataSource runId =>
      "backtest run " ++ repr (some runId) ++
        " has no data_source — required for file mode"

/-- Tasks are numbered as they are created. -/
structure LiveBacktestController where
  task : Option Nat
  runId : Option String
  speed : Option ℚ
deriving Repr, DecidableEq

def LiveBacktestController.idle : LiveBacktestController := ⟨none, none, none⟩

/-- The configured runs and strategies. -/
structure LiveBacktestConfig where
  runs : List Config.BacktestRunConfig
  strategies : List StrategyId

/-- What `start` checks behind the running task. -/
def LiveBacktestConfig.check (cfg : LiveBacktestConfig) (runId : String) (speed : ℚ) :
    Except LiveBacktestError Unit :=
  if speed ≤ 0 then .error .maxSpeed
  else
    match cfg.runs.find? fun run => decide (run.fields.id = runId) with
    | none => .error (.noRun runId)
    | some run =>
        if run.fields.mode ≠ .file then .error (.wrongMode runId run.fields.mode)
        else if run.fields.strategyId ∉ cfg.strategies then
          .error (.unknownStrategy runId run.fields.strategyId)
        else if run.fields.dataSource = none then .error (.noDataSource runId)
        else .ok ()

structure LiveBacktests where
  controller : LiveBacktestController
  /-- the number of the next task -/
  next : Nat
  /-- the tasks that have not ended -/
  alive : List Nat
  /-- the stop calls that wait, each with the task it awaits -/
  stops : List Nat
  /-- the tasks that a stop call has cancelled; nothing reads it -/
  cancelled : List Nat
  /-- the answer to the last start call; nothing reads it -/
  refused : Option LiveBacktestError
  /-- the backtests that were started while a stop call waited; nothing reads it -/
  overlapped : Nat
deriving Repr, DecidableEq

inductive LiveLabel where
  | start (runId : String) (speed : ℚ)
  | stop
  /-- a task ends: it is through, it raised, or it was cancelled -/
  | ends (task : Nat)
  /-- a waiting stop call goes on -/
  | resumed (index : Nat)
deriving Repr, DecidableEq

namespace LiveBacktests

def boot : LiveBacktests := ⟨.idle, 0, [], [], [], none, 0⟩

variable (cfg : LiveBacktestConfig) (s : LiveBacktests)

def isRunning : Bool :=
  s.controller.task.any fun task => decide (task ∈ s.alive)

/-- A new task is tracked. -/
def begun (runId : String) (speed : ℚ) : LiveBacktests :=
  { s with
    controller := ⟨some s.next, some runId, some speed⟩
    next := s.next + 1
    alive := s.alive ++ [s.next]
    refused := none
    overlapped := if s.stops = [] then s.overlapped else s.overlapped + 1 }

/-- `start`; it awaits nothing. -/
def start (runId : String) (speed : ℚ) : LiveBacktests :=
  if s.isRunning then { s with refused := some (.alreadyRunning s.controller.runId) }
  else
    match cfg.check runId speed with
    | .error error => { s with refused := some error }
    | .ok () => s.begun runId speed

/-- `stop` up to its await; a task that has ended is not waited for. -/
def stop : LiveBacktests :=
  match s.controller.task with
  | none => s
  | some task =>
      if task ∈ s.alive then
        { s with cancelled := s.cancelled ++ [task], stops := s.stops ++ [task] }
      else { s with controller := .idle }

/-- The state after a step, if the step can happen. -/
def step? : LiveLabel → Option LiveBacktests
  | .start runId speed => some (s.start cfg runId speed)
  | .stop => some s.stop
  | .ends task =>
      if task ∈ s.alive then some { s with alive := s.alive.erase task } else none
  | .resumed index =>
      match s.stops[index]? with
      | none => none
      | some task =>
          if task ∈ s.alive then none
          else some { s with controller := .idle, stops := s.stops.eraseIdx index }

def Step : LiveBacktests → LiveLabel → LiveBacktests → Prop :=
  stepOf? fun s label => s.step? cfg label

/-! ### How many run -/

/-- The backtests that the controller has lost. -/
def lost : List Nat := s.alive.filter fun task => decide (s.controller.task ≠ some task)

/-- The tracked task will be forgotten by a stop call that waits for another one. -/
def doomed : Nat :=
  match s.controller.task with
  | none => 0
  | some task => if ∀ awaited ∈ s.stops, awaited = task then 0 else 1

structure Sound : Prop where
  created : ∀ task, task ∈ s.alive ∨ s.controller.task = some task ∨ task ∈ s.stops →
    task < s.next
  nodup : s.alive.Nodup
  /-- each lost backtest was started while a stop call waited -/
  paid : s.lost.length + s.doomed ≤ s.overlapped

variable {cfg s} {s' : LiveBacktests} {label : LiveLabel}

theorem sound_boot : boot.Sound where
  created := by
    rintro task (alive | tracked | awaited)
    · cases alive
    · cases tracked
    · cases awaited
  nodup := List.nodup_nil
  paid := Nat.le_refl 0

theorem doomed_idle : ({ s with controller := .idle } : LiveBacktests).doomed = 0 := rfl

theorem isRunning_iff :
    s.isRunning = true ↔ ∃ task, s.controller.task = some task ∧ task ∈ s.alive := by
  unfold isRunning
  cases s.controller.task with
  | none => simp
  | some task => simp

/-- Where no running task is tracked, all that run are lost. -/
theorem lost_of_ended (ended : ∀ task, s.controller.task = some task → task ∉ s.alive) :
    s.lost = s.alive := by
  apply List.filter_eq_self.mpr
  intro task alive
  exact decide_eq_true fun tracked => ended task tracked alive

theorem lost_idle : ({ s with controller := .idle } : LiveBacktests).lost = s.alive := by
  apply lost_of_ended
  intro task tracked
  cases tracked

/-- At most one that runs is not lost. -/
theorem alive_le (nodup : s.alive.Nodup) : s.alive.length ≤ s.lost.length + 1 := by
  cases tracked : s.controller.task with
  | none =>
      have all : s.lost = s.alive := by
        apply lost_of_ended
        intro task same
        rw [tracked] at same
        cases same
      rw [all]
      exact Nat.le_succ _
  | some task =>
      have others : s.lost = s.alive.erase task := by
        rw [nodup.erase_eq_filter, lost, tracked]
        apply List.filter_congr
        intro other _
        by_cases same : other = task
        · simp [same]
        · simp [same, Ne.symm same]
      rw [others, List.length_erase]
      split <;> omega

theorem doomed_le_one : s.doomed ≤ 1 := by
  unfold doomed
  split
  · exact Nat.zero_le 1
  · split
    · exact Nat.zero_le 1
    · exact Nat.le_refl 1

theorem lost_begun (ended : ∀ task, s.controller.task = some task → task ∉ s.alive)
    (older : ∀ task ∈ s.alive, task < s.next) (runId : String) (speed : ℚ) :
    (s.begun runId speed).lost = s.lost := by
  have kept : (s.alive.filter fun task =>
      decide ((some s.next : Option Nat) ≠ some task)) = s.alive := by
    apply List.filter_eq_self.mpr
    intro task alive
    have apart := Nat.ne_of_gt (older task alive)
    simpa using apart
  rw [lost_of_ended ended, lost, begun, List.filter_append, kept]
  simp

/-- A task that is started while no stop call waits is not doomed. -/
theorem doomed_begun (runId : String) (speed : ℚ) :
    (s.begun runId speed).doomed + s.overlapped ≤ (s.begun runId speed).overlapped := by
  by_cases quiet : s.stops = []
  · have safe : (s.begun runId speed).doomed = 0 := by
      apply if_pos
      intro awaited waiting
      change awaited ∈ s.stops at waiting
      rw [quiet] at waiting
      cases waiting
    have same : (s.begun runId speed).overlapped = s.overlapped := if_pos quiet
    omega
  · have more : (s.begun runId speed).overlapped = s.overlapped + 1 := if_neg quiet
    have one := (s.begun runId speed).doomed_le_one
    omega

theorem Sound.begun (sound : s.Sound)
    (ended : ∀ task, s.controller.task = some task → task ∉ s.alive) (runId : String)
    (speed : ℚ) : (s.begun runId speed).Sound := by
  have older : ∀ task ∈ s.alive, task < s.next := fun task alive =>
    sound.created task (.inl alive)
  constructor
  · rintro task (alive | tracked | awaited)
    · rcases List.mem_append.mp alive with before | now
      · exact Nat.lt_succ_of_lt (older task before)
      · rw [List.mem_singleton.mp now]
        exact Nat.lt_succ_self _
    · rw [← Option.some.inj tracked]
      exact Nat.lt_succ_self _
    · exact Nat.lt_succ_of_lt (sound.created task (.inr (.inr awaited)))
  · apply sound.nodup.append (List.nodup_singleton _)
    intro task before now
    rw [List.mem_singleton.mp now] at before
    exact absurd (older _ before) (Nat.lt_irrefl _)
  · rw [lost_begun ended older]
    have paid := sound.paid
    have more := doomed_begun (s := s) runId speed
    omega

theorem Sound.start (sound : s.Sound) (runId : String) (speed : ℚ) :
    (s.start cfg runId speed).Sound := by
  unfold LiveBacktests.start
  split
  · exact ⟨sound.created, sound.nodup, sound.paid⟩
  · rename_i idle
    have ended : ∀ task, s.controller.task = some task → task ∉ s.alive := by
      intro task tracked alive
      exact idle (isRunning_iff.mpr ⟨task, tracked, alive⟩)
    split
    · exact ⟨sound.created, sound.nodup, sound.paid⟩
    · exact sound.begun ended runId speed

theorem Sound.stop (sound : s.Sound) : s.stop.Sound := by
  unfold LiveBacktests.stop
  split
  · exact sound
  · rename_i task tracked
    split
    · constructor
      · rintro other (alive | same | awaited)
        · exact sound.created other (.inl alive)
        · exact sound.created other (.inr (.inl same))
        · rcases List.mem_append.mp awaited with before | now
          · exact sound.created other (.inr (.inr before))
          · rw [List.mem_singleton.mp now]
            exact sound.created task (.inr (.inl tracked))
      · exact sound.nodup
      · have same : ({ s with
            cancelled := s.cancelled ++ [task]
            stops := s.stops ++ [task] } : LiveBacktests).doomed = s.doomed := by
          have alike : (∀ awaited ∈ s.stops ++ [task], awaited = task) ↔
              ∀ awaited ∈ s.stops, awaited = task := by
            rw [List.forall_mem_append, List.forall_mem_singleton]
            exact and_iff_left rfl
          unfold doomed
          rw [tracked]
          exact if_congr alike rfl rfl
        have paid := sound.paid
        rw [← same] at paid
        exact paid
    · rename_i ended
      have all : s.lost = s.alive := by
        apply lost_of_ended
        intro other same
        rw [tracked] at same
        rw [← Option.some.inj same]
        exact ended
      have paid := sound.paid
      constructor
      · rintro other (alive | same | awaited)
        · exact sound.created other (.inl alive)
        · cases same
        · exact sound.created other (.inr (.inr awaited))
      · exact sound.nodup
      · rw [lost_idle, doomed_idle, ← all]
        exact (Nat.le_add_right _ _).trans paid

theorem Sound.ends (sound : s.Sound) (task : Nat) :
    ({ s with alive := s.alive.erase task } : LiveBacktests).Sound := by
  constructor
  · rintro other (alive | tracked | awaited)
    · exact sound.created other (.inl (List.mem_of_mem_erase alive))
    · exact sound.created other (.inr (.inl tracked))
    · exact sound.created other (.inr (.inr awaited))
  · exact sound.nodup.erase task
  · have fewer := ((List.erase_sublist (a := task) (l := s.alive)).filter fun task =>
      decide (s.controller.task ≠ some task)).length_le
    exact (Nat.add_le_add_right fewer s.doomed).trans sound.paid

theorem Sound.resumed (sound : s.Sound) {index task : Nat}
    (awaited : s.stops[index]? = some task) (ended : task ∉ s.alive) :
    ({ s with
      controller := .idle
      stops := s.stops.eraseIdx index } : LiveBacktests).Sound := by
  have paid := sound.paid
  have enough : s.alive.length ≤ s.overlapped := by
    by_cases runs : ∃ other, s.controller.task = some other ∧ other ∈ s.alive
    · obtain ⟨other, tracked, alive⟩ := runs
      have apart : task ≠ other := fun same => ended (same ▸ alive)
      have doomed_ : s.doomed = 1 := by
        unfold doomed
        rw [tracked]
        apply if_neg
        intro all
        exact apart (all task (List.mem_of_getElem? awaited))
      rw [doomed_] at paid
      exact (alive_le sound.nodup).trans paid
    · have all : s.lost = s.alive := by
        apply lost_of_ended
        intro other tracked alive
        exact runs ⟨other, tracked, alive⟩
      rw [all] at paid
      exact (Nat.le_add_right _ _).trans paid
  constructor
  · rintro other (alive | same | waiting)
    · exact sound.created other (.inl alive)
    · cases same
    · exact sound.created other (.inr (.inr (List.mem_of_mem_eraseIdx waiting)))
  · exact sound.nodup
  · change List.length (LiveBacktests.lost { s with controller := .idle }) + 0 ≤ _
    rw [lost_idle]
    exact enough

theorem Sound.step (sound : s.Sound) (taken : Step cfg s label s') : s'.Sound := by
  cases label with
  | start runId speed =>
      cases taken
      exact sound.start runId speed
  | stop =>
      cases taken
      exact sound.stop
  | ends task =>
      simp only [Step, stepOf?, step?] at taken
      split at taken
      · cases taken
        exact sound.ends task
      · cases taken
  | resumed index =>
      simp only [Step, stepOf?, step?] at taken
      split at taken
      · cases taken
      · rename_i task awaited
        split at taken
        · cases taken
        · rename_i ended
          cases taken
          exact sound.resumed awaited ended

/-- However starts, stops and ends interleave: besides the tracked backtest no more run
than were started while a stop call waited. Where none was, every backtest that runs is
the tracked one, and the status tells so. -/
theorem running_bounded {labels : List LiveLabel} (run : Run (Step cfg) boot labels s) :
    s.alive.length ≤ s.overlapped + 1 ∧
      (s.overlapped = 0 →
        (∀ task ∈ s.alive, s.controller.task = some task) ∧
          (s.isRunning = true ↔ s.alive ≠ [])) := by
  have sound : s.Sound :=
    run.invariant (P := fun s => s.Sound) sound_boot fun taken before =>
      before.step taken
  have paid := sound.paid
  have few := alive_le sound.nodup
  refine ⟨by omega, fun none_ => ?_⟩
  have nothing : s.lost = [] := List.eq_nil_of_length_eq_zero (by omega)
  have tracked : ∀ task ∈ s.alive, s.controller.task = some task := by
    intro task alive
    by_contra other
    have missing : task ∈ s.lost :=
      List.mem_filter.mpr ⟨alive, decide_eq_true other⟩
    rw [nothing] at missing
    cases missing
  refine ⟨tracked, ?_, ?_⟩
  · intro runs
    obtain ⟨task, -, alive⟩ := isRunning_iff.mp runs
    exact List.ne_nil_of_mem alive
  · intro some_
    obtain ⟨task, alive⟩ := List.exists_mem_of_ne_nil _ some_
    exact isRunning_iff.mpr ⟨task, tracked task alive, alive⟩

/-! ### A backtest that is lost -/

/-- The tracked task is another one, and the stop calls have cancelled what they have. -/
def Lost (task : Nat) (before : List Nat) (s : LiveBacktests) : Prop :=
  task < s.next ∧ s.controller.task ≠ some task ∧
    (task ∈ s.cancelled → task ∈ before)

theorem Lost.step {task : Nat} {before : List Nat} (gone : Lost task before s)
    (taken : Step cfg s label s') : Lost task before s' := by
  obtain ⟨created, other, kept⟩ := gone
  cases label with
  | start runId speed =>
      cases taken
      unfold LiveBacktests.start
      split
      · exact ⟨created, other, kept⟩
      · split
        · exact ⟨created, other, kept⟩
        · refine ⟨Nat.lt_succ_of_lt created, ?_, kept⟩
          intro same
          exact absurd (Option.some.inj same) (Nat.ne_of_gt created)
  | stop =>
      cases taken
      unfold LiveBacktests.stop
      split
      · exact ⟨created, other, kept⟩
      · rename_i tracked_ tracked
        split
        · refine ⟨created, other, fun cancelled => ?_⟩
          rcases List.mem_append.mp cancelled with earlier | now
          · exact kept earlier
          · rw [tracked, List.mem_singleton.mp now] at other
            exact absurd rfl other
        · exact ⟨created, Option.some_ne_none task ∘ Eq.symm, kept⟩
  | ends ended =>
      simp only [Step, stepOf?, step?] at taken
      split at taken
      · cases taken
        exact ⟨created, other, kept⟩
      · cases taken
  | resumed index =>
      simp only [Step, stepOf?, step?] at taken
      split at taken
      · cases taken
      · split at taken
        · cases taken
        · cases taken
          exact ⟨created, Option.some_ne_none task ∘ Eq.symm, kept⟩

/-- A backtest that the controller does not track, lost or ended, is never tracked again:
whatever is started and stopped from then on, no stop call cancels it. -/
theorem lost_unreachable {task : Nat} {labels : List LiveLabel} (created : task < s.next)
    (other : s.controller.task ≠ some task) (run : Run (Step cfg) s labels s') :
    s'.controller.task ≠ some task ∧ (task ∈ s'.cancelled → task ∈ s.cancelled) := by
  have gone : Lost task s.cancelled s' :=
    run.invariant (P := Lost task s.cancelled) ⟨created, other, fun before => before⟩
      fun taken before => before.step taken
  exact gone.2

/-! A stop waits for the first backtest; when that has ended, a second one is started
before the stop goes on and forgets it. A third one then runs beside it, and later stops
cancel the third one only. -/

def hourFields : Config.RunFields where
  id := "hour"
  strategyId := "s1"
  feedShape := { feeds := some [⟨"EURUSD", .h1⟩] }
  start := 0
  stop := 1
  dataSource := some "data"

theorem hourFields_accepted : hourFields.errors = [] := by
  simp [hourFields, Config.RunFields.errors, Config.idErrors, Config.idChar,
    Config.contractSizeErrors, Dict.empty, Config.require]

theorem hourFields_normalised :
    Config.coerceFeedList hourFields.feedShape = .ok [⟨"EURUSD", .h1⟩] := by
  decide +kernel

def hourConfig : LiveBacktestConfig where
  runs := [⟨hourFields, [⟨"EURUSD", .h1⟩], hourFields_accepted, hourFields_normalised⟩]
  strategies := ["s1"]

def startBetween : List LiveLabel :=
  [.start "hour" 1, .stop, .ends 0, .start "hour" 1, .resumed 0, .start "hour" 1]

def twoMoreStops : List LiveLabel := [.stop, .ends 2, .resumed 0, .stop]

theorem startBetween_loses :
    (replay? (fun _ _ => True) (fun s label => s.step? hourConfig label) boot
      startBetween).map
        (fun s => ((s.alive, s.controller.task, s.next, s.overlapped),
          (replay? (fun _ _ => True) (fun s label => s.step? hourConfig label) s
            twoMoreStops).map (fun s => (s.alive, s.cancelled)))) =
      some (([1, 2], some 2, 3, 1), some ([1], [0, 2])) := by
  decide +kernel

theorem startBetween_bounded :
    ∃ s : LiveBacktests, s.alive.length = 2 ∧ s.overlapped = 1 ∧
      s.alive.length ≤ s.overlapped + 1 := by
  rcases Option.map_eq_some_iff.mp startBetween_loses with ⟨s, reached, seen⟩
  simp only [Prod.mk.injEq] at seen
  refine ⟨s, ?_, seen.1.2.2.2, (running_bounded (run_of_replay? reached).unguard).1⟩
  rw [seen.1.1]
  rfl

theorem second_unreachable :
    ∃ s s' : LiveBacktests, Run (Step hourConfig) s twoMoreStops s' ∧ 1 ∈ s.alive ∧
      s'.controller.task ≠ some 1 ∧ (1 ∈ s'.cancelled → 1 ∈ s.cancelled) := by
  rcases Option.map_eq_some_iff.mp startBetween_loses with ⟨s, -, seen⟩
  simp only [Prod.mk.injEq] at seen
  obtain ⟨⟨alive, tracked, next, -⟩, later⟩ := seen
  obtain ⟨s', reached, -⟩ := Option.map_eq_some_iff.mp later
  have run := (run_of_replay? reached).unguard
  have member : 1 ∈ s.alive := by
    rw [alive]
    decide
  have created : 1 < s.next := by
    rw [next]
    decide
  have other : s.controller.task ≠ some 1 := by
    rw [tracked]
    decide
  exact ⟨s, s', run, member, lost_unreachable created other run⟩

end LiveBacktests

end StingerFx
