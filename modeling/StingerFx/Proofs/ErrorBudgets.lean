/-
Module: StingerFx.Proofs.ErrorBudgets
Layer: Proofs
Purpose: A strategy is quarantined exactly when, at one of its errors, more than the
  budget fell into the minute that ended there. From then on no handler begins; a
  consumer makes at most the calls that its handler had still to make.
Trusted boundary: none (fully proved)
Main exports: OverBudget, HookRunner.quarantined_iff, HookRunner.quarantine_final
-/
import StingerFx.Strategies.ErrorBudget

namespace StingerFx

open Lib

/-- At one of these errors, too many fell into the window that ended there. -/
def OverBudget (raised : List ℚ) : Prop :=
  ∃ before now, before ++ [now] <+: raised ∧
    maxErrorsPerMinute <
      (recent id (now - quarantineWindowSeconds) (before ++ [now])).length

/-- One more error. -/
theorem overBudget_concat (raised : List ℚ) (now : ℚ) :
    OverBudget (raised ++ [now]) ↔ OverBudget raised ∨
      maxErrorsPerMinute <
        (recent id (now - quarantineWindowSeconds) (raised ++ [now])).length := by
  constructor
  · rintro ⟨before, last, early, many⟩
    rcases List.prefix_concat_iff.mp early with whole | inside
    · have same : before = raised ∧ last = now := by simpa using whole
      rw [same.1, same.2] at many
      exact .inr many
    · exact .inl ⟨before, last, inside, many⟩
  · rintro (⟨before, last, early, many⟩ | many)
    · exact ⟨before, last, early.trans (List.prefix_append _ _), many⟩
    · exact ⟨raised, now, List.prefix_refl _, many⟩

namespace HookRunner

variable {s s' : HookRunner} {label : HookLabel} {now : ℚ}

/-- The recorded errors are those of the last minute, and the flag is up exactly
when there were too many. -/
structure Budgeted (s : HookRunner) : Prop where
  ordered : s.raised.Pairwise fun a b => a ≤ b
  past : ∀ time ∈ s.raised, time ≤ s.clock
  window : Windowed id (s.clock - quarantineWindowSeconds) s.raised s.errors
  exact_ : s.flags.quarantined = true ↔ OverBudget s.raised

theorem budgeted_create : create.Budgeted where
  ordered := List.Pairwise.nil
  past := fun _ member => by cases member
  window := .refl _ _
  exact_ := by
    constructor
    · intro up
      cases up
    · rintro ⟨before, now, early, -⟩
      have empty := List.prefix_nil.mp early
      simp at empty

/-- Time goes by. -/
theorem Budgeted.wait (budgeted : s.Budgeted) (order : s.clock ≤ now) :
    ({ s with clock := now } : HookRunner).Budgeted where
  ordered := budgeted.ordered
  past := fun time member => (budgeted.past time member).trans order
  window := budgeted.window.mono (sub_le_sub_right order _)
  exact_ := budgeted.exact_

theorem Budgeted.recordError (budgeted : s.Budgeted) :
    (s.recordError s.clock).Budgeted := by
  have pushed := budgeted.window.push s.clock
  have ordered : (s.raised ++ [s.clock]).Pairwise fun a b => a ≤ b := by
    apply List.pairwise_append.mpr
    refine ⟨budgeted.ordered, List.pairwise_singleton _ _, ?_⟩
    intro time member other last
    rw [List.mem_singleton.mp last]
    exact budgeted.past time member
  refine ⟨ordered, ?_, pushed.expire (le_refl _), ?_⟩
  · intro time member
    rcases List.mem_append.mp member with early | last
    · exact budgeted.past time early
    · exact le_of_eq (List.mem_singleton.mp last)
  · have held := pushed.expire_eq_recent ordered (le_refl _)
    simp only [HookRunner.recordError, held, Bool.or_eq_true, decide_eq_true_eq,
      budgeted.exact_, overBudget_concat]

theorem Budgeted.setCalls (budgeted : s.Budgeted) (consumer : HookConsumer)
    (hooks : Nat) : (s.setCalls consumer hooks).Budgeted :=
  ⟨budgeted.ordered, budgeted.past, budgeted.window, budgeted.exact_⟩

theorem Budgeted.guarded (budgeted : s.Budgeted) (ending : HookEnd)
    (order : s.clock ≤ now) : (s.guarded ending now).Budgeted := by
  cases ending with
  | returns => exact budgeted.wait order
  | refuses => exact budgeted.wait order
  | raises => exact (budgeted.wait order).recordError

theorem Budgeted.step (budgeted : s.Budgeted) (taken : Step s label s') :
    s'.Budgeted := by
  simp only [Step, stepOf?] at taken
  cases label with
  | begins consumer hooks =>
      simp only [step?] at taken
      split at taken
      · cases taken
        exact budgeted.setCalls consumer hooks
      · cases taken
  | runs consumer ending now =>
      simp only [step?] at taken
      split at taken
      · rename_i allowed
        cases taken
        exact (budgeted.setCalls consumer _).guarded ending allowed.2
      · cases taken
  | direct ending now =>
      simp only [step?] at taken
      split at taken
      · rename_i order
        cases taken
        exact budgeted.guarded ending order
      · cases taken
  | pause paused =>
      cases taken
      exact ⟨budgeted.ordered, budgeted.past, budgeted.window, budgeted.exact_⟩
  | stop =>
      cases taken
      exact ⟨budgeted.ordered, budgeted.past, budgeted.window, budgeted.exact_⟩
  | cancel consumer =>
      simp only [step?] at taken
      split at taken
      · cases taken
        exact budgeted.setCalls consumer 0
      · cases taken

/-- Whatever the consumers do and however they take turns: a runner is quarantined
exactly when at one of the errors so far more than five, that one included, fell
into the sixty seconds that ended there. -/
theorem quarantined_iff {labels : List HookLabel}
    (run : Run Step create labels s) :
    s.flags.quarantined = true ↔ OverBudget s.raised := by
  have budgeted : s.Budgeted :=
    run.invariant budgeted_create fun taken budgeted => budgeted.step taken
  exact budgeted.exact_

/-! Six errors within a minute, the last of them while the handler has one more
hook to call. -/

def sixErrors : List HookLabel :=
  [.begins .bar 4, .runs .bar .raises 10, .runs .bar .raises 20, .begins .tick 2,
    .runs .tick .raises 30, .pause true, .runs .bar .raises 40, .direct .raises 50,
    .runs .bar .raises 70, .pause false]

theorem sixErrors_raised :
    (replay? (fun _ _ => True) step? create sixErrors).map
      (fun s => (s.raised, s.calls .tick)) =
        some ([10, 20, 30, 40, 50, 70], 1) := by
  decide +kernel

theorem sixErrors_quarantined :
    ∃ s : HookRunner, s.raised = [10, 20, 30, 40, 50, 70] ∧
      s.flags.quarantined = true := by
  rcases Option.map_eq_some_iff.mp sixErrors_raised with ⟨s, reached, seen⟩
  have raised : s.raised = [10, 20, 30, 40, 50, 70] := congrArg Prod.fst seen
  refine ⟨s, raised, (quarantined_iff (run_of_replay? reached).unguard).mpr ?_⟩
  rw [raised]
  exact ⟨[10, 20, 30, 40, 50], 70, List.prefix_refl _, by decide +kernel⟩

/-! ### After the quarantine -/

/-- The turns that a consumer's handlers took. -/
def turns (consumer : HookConsumer) (labels : List HookLabel) : Nat :=
  labels.countP fun
    | .runs other _ _ => decide (other = consumer)
    | _ => false

theorem guarded_frame (s : HookRunner) (ending : HookEnd) (now : ℚ) :
    (s.guarded ending now).calls = s.calls ∧
      (s.flags.quarantined = true →
        (s.guarded ending now).flags.quarantined = true) := by
  cases ending with
  | returns => exact ⟨rfl, id⟩
  | refuses => exact ⟨rfl, id⟩
  | raises =>
      refine ⟨rfl, fun up => ?_⟩
      simp [guarded, HookRunner.recordError, up]

/-- A quarantined runner stays so, and every turn uses up a call. -/
theorem quarantined_step {consumer : HookConsumer}
    (up : s.flags.quarantined = true) (taken : Step s label s') :
    s'.flags.quarantined = true ∧
      turns consumer [label] + s'.calls consumer ≤ s.calls consumer := by
  simp only [Step, stepOf?] at taken
  cases label with
  | begins other hooks =>
      have idle : s.flags.active = false := by simp [RunnerFlags.active, up]
      simp [step?, idle] at taken
  | runs other ending now =>
      simp only [step?] at taken
      split at taken
      · rename_i allowed
        cases taken
        have frame := guarded_frame
          (s.setCalls other (ending.left (s.calls other))) ending now
        refine ⟨frame.2 up, ?_⟩
        rw [frame.1]
        by_cases own : other = consumer
        · subst own
          have fewer := ending.left_lt allowed.1
          simp only [turns, HookRunner.setCalls, Function.update_self,
            List.countP_singleton, decide_true, if_true]
          omega
        · have away : consumer ≠ other := fun same => own same.symm
          simp [turns, own, HookRunner.setCalls, Function.update_of_ne away]
      · cases taken
  | direct ending now =>
      simp only [step?] at taken
      split at taken
      · cases taken
        have frame := guarded_frame s ending now
        refine ⟨frame.2 up, ?_⟩
        rw [frame.1]
        simp [turns]
      · cases taken
  | pause paused =>
      cases taken
      exact ⟨up, by simp [turns]⟩
  | stop =>
      cases taken
      exact ⟨up, by simp [turns]⟩
  | cancel other =>
      simp only [step?] at taken
      split at taken
      · cases taken
        refine ⟨up, ?_⟩
        by_cases own : other = consumer
        · subst own
          simp [turns, HookRunner.setCalls]
        · have away : consumer ≠ other := fun same => own same.symm
          simp [turns, HookRunner.setCalls, Function.update_of_ne away]
      · cases taken

/-- Once a runner is quarantined it stays so, whoever pauses and resumes it, and no
consumer calls a hook any more, but for those that its handler had still to call. -/
theorem quarantine_final {labels : List HookLabel}
    (up : s.flags.quarantined = true) (run : Run Step s labels s') :
    s'.flags.quarantined = true ∧
      ∀ consumer, turns consumer labels + s'.calls consumer ≤ s.calls consumer := by
  induction run with
  | refl s => exact ⟨up, fun consumer => by simp [turns]⟩
  | step head tail ih =>
      have kept := ih (@quarantined_step _ _ _ .tick up head).1
      refine ⟨kept.1, fun consumer => ?_⟩
      have first := (@quarantined_step _ _ _ consumer up head).2
      have later := kept.2 consumer
      simp only [turns, List.countP_cons, List.countP_nil] at first later ⊢
      omega

/-- Where the six errors end. -/
def exhausted : HookRunner where
  flags := ⟨false, false, true⟩
  errors := [10, 20, 30, 40, 50, 70]
  calls consumer := if consumer = .tick then 1 else 0
  clock := 70
  raised := [10, 20, 30, 40, 50, 70]

theorem exhausted_final :
    ∃ s : HookRunner, s.clock = 80 ∧ s.flags.quarantined = true ∧
      ∀ consumer, turns consumer [.pause false, .runs .tick .returns 80] +
        s.calls consumer ≤ exhausted.calls consumer := by
  have ends : Step exhausted (.runs .tick .returns 80)
      ((exhausted.setCalls .tick 0).guarded .returns 80) := by
    simp only [Step, stepOf?, step?]
    exact if_pos ⟨by decide, by norm_num [exhausted]⟩
  exact ⟨_, rfl, quarantine_final rfl (.step rfl (Run.single ends))⟩

end HookRunner

end StingerFx
