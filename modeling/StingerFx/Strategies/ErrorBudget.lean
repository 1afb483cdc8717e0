/-
Module: StingerFx.Strategies.ErrorBudget
Layer: Strategies
Purpose: The hooks of one runner. Each consumer of the runner handles one event at a
  time and makes its guarded calls one after the other, each under the reload lock;
  a handler asks whether the runner is active only when it begins. A hook that
  raises is recorded, and too many of them within a minute quarantine the strategy.
Trusted boundary: human-reviewed model of the source's strategy runner; the
  monotonic clock does not go back
Main exports: HookConsumer, HookEnd, HookRunner, HookRunner.recordError, HookLabel,
  HookRunner.step?, HookRunner.Step
-/
import StingerFx.Lib.Runs
import StingerFx.Lib.SlidingWindow
import StingerFx.Strategies.Runner

namespace StingerFx

open Lib

def maxErrorsPerMinute : Nat := 5

def quarantineWindowSeconds : ℚ := 60

/-- The consumers whose handlers call hooks. -/
inductive HookConsumer where
  | tick
  | bar
  | filled
  | rejected
  | cancelled
  | closed
deriving Repr, DecidableEq

/-- How a hook ends. -/
inductive HookEnd where
  | returns
  | raises
  /-- with `StrategyQuarantinedError`, which is not recorded -/
  | refuses
deriving Repr, DecidableEq

/-- The calls that are left of a handler's once one of them has ended. -/
def HookEnd.left (calls : Nat) : HookEnd → Nat
  | .returns | .raises => calls - 1
  -- the handler raises as well
  | .refuses => 0

theorem HookEnd.left_lt {calls : Nat} (pending : calls ≠ 0) (ending : HookEnd) :
    ending.left calls < calls := by
  cases ending with
  | returns => exact Nat.pred_lt pending
  | raises => exact Nat.pred_lt pending
  | refuses => exact Nat.pos_of_ne_zero pending

structure HookRunner where
  flags : RunnerFlags
  /-- `_errors`, in seconds -/
  errors : List ℚ
  /-- the guarded calls that the handler of a consumer has still to make -/
  calls : HookConsumer → Nat
  clock : ℚ
  /-- when hooks raised; nothing reads it -/
  raised : List ℚ

inductive HookLabel where
  /-- a handler begins, with this many hooks of managers and of the strategy -/
  | begins (consumer : HookConsumer) (hooks : Nat)
  /-- the next hook of a handler takes its turn -/
  | runs (consumer : HookConsumer) (ending : HookEnd) (now : ℚ)
  /-- `on_start`, `on_stop` or `on_params_reloaded` -/
  | direct (ending : HookEnd) (now : ℚ)
  | pause (paused : Bool)
  | stop
  /-- the runner stops, and a consumer is cancelled where it is -/
  | cancel (consumer : HookConsumer)
deriving Repr, DecidableEq

namespace HookRunner

def create : HookRunner where
  flags := .fresh
  errors := []
  calls := fun _ => 0
  clock := 0
  raised := []

/-- `_record_error`. -/
def recordError (s : HookRunner) (now : ℚ) : HookRunner :=
  let errors := expire id (now - quarantineWindowSeconds) (s.errors ++ [now])
  { s with
    flags :=
      { s.flags with
        quarantined :=
          s.flags.quarantined || decide (maxErrorsPerMinute < errors.length) }
    errors := errors
    raised := s.raised ++ [now] }

def setCalls (s : HookRunner) (consumer : HookConsumer) (hooks : Nat) : HookRunner :=
  { s with calls := Function.update s.calls consumer hooks }

/-- `_guarded`, once the lock is there and the hook has ended. -/
def guarded (s : HookRunner) (ending : HookEnd) (now : ℚ) : HookRunner :=
  match ending with
  | .returns | .refuses => { s with clock := now }
  | .raises => { s with clock := now }.recordError now

/-- The state after a step, if the step can happen. -/
def step? (s : HookRunner) : HookLabel → Option HookRunner
  | .begins consumer hooks =>
      if s.flags.active ∧ s.calls consumer = 0 then some (s.setCalls consumer hooks)
      else none
  | .runs consumer ending now =>
      if s.calls consumer ≠ 0 ∧ s.clock ≤ now then
        some ((s.setCalls consumer (ending.left (s.calls consumer))).guarded ending now)
      else none
  | .direct ending now =>
      if s.clock ≤ now then some (s.guarded ending now) else none
  | .pause paused => some { s with flags := { s.flags with paused := paused } }
  | .stop => some { s with flags := { s.flags with stopped := true } }
  | .cancel consumer =>
      if s.flags.stopped then some (s.setCalls consumer 0) else none

def Step : HookRunner → HookLabel → HookRunner → Prop := stepOf? step?

end HookRunner

end StingerFx
