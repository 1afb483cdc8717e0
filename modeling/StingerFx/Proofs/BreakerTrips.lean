/-
Module: StingerFx.Proofs.BreakerTrips
Layer: Proofs
Purpose: When a trip of the circuit breaker leaves the runner paused. What counts
  as a trip is read off the history alone, so the streaks that the breaker keeps are
  compared with the closes themselves. The breaker remembers for good whom it has
  paused: the first trip of a strategy pauses its runner, a later one leaves the
  runner as it finds it.
Trusted boundary: none (fully proved)
Main exports: losingStreak, resultsOf, Trips, TrippedBefore, RunnerPaused, Tallied,
  Tallied.step, trip_pauses_iff
-/
import StingerFx.Observability.CircuitBreaker

namespace StingerFx

open Lib

/-! ### Reading the history -/

/-- The losses at the head of a list of results, the newest first. -/
def losingStreak (results : List ℚ) : Nat :=
  (results.takeWhile fun pnl => decide (pnl < 0)).length

section History

variable (config : CircuitBreakerConfig)
variable (strategyForMagic : Int → Option StrategyId)

/-- The result that a label brings to a strategy. -/
def resultFor? (strategy : StrategyId) : BreakerLabel → Option ℚ
  | .closed magic realizedPnl _ =>
      if strategyForMagic magic = some strategy then some realizedPnl else none
  | _ => none

/-- The results of a strategy's closes, the newest first. -/
def resultsOf (strategy : StrategyId) (history : List BreakerLabel) : List ℚ :=
  history.filterMap (resultFor? strategyForMagic strategy)

/-- Handled after a history, a label makes the strategy's losing streak long enough
or reports its drift. -/
def Trips (history : List BreakerLabel) (label : BreakerLabel)
    (strategy : StrategyId) : Prop :=
  match label with
  | .closed magic realizedPnl _ =>
      strategyForMagic magic = some strategy ∧
        config.maxConsecutiveLosses ≤
          losingStreak
            (realizedPnl :: resultsOf strategyForMagic strategy history)
  | .drift drifting _ => config.pauseOnDrift = true ∧ drifting = strategy
  | _ => False

/-- Some label of a history tripped the breaker for the strategy. -/
def TrippedBefore : List BreakerLabel → StrategyId → Prop
  | [], _ => False
  | label :: earlier, strategy =>
      Trips config strategyForMagic earlier label strategy ∨
        TrippedBefore earlier strategy

end History

/-- The strategy's runner, if it has one, is paused. -/
def RunnerPaused (desk : BreakerDesk) (strategy : StrategyId) : Prop :=
  ∀ flags, desk.runners.get? strategy = some flags → flags.paused = true

/-- How the pause call of a label ends, if one is made. -/
def BreakerLabel.call? : BreakerLabel → Option PauseCall
  | .closed _ _ call | .drift _ call => some call
  | _ => none

theorem losingStreak_cons (pnl : ℚ) (results : List ℚ) :
    losingStreak (pnl :: results) =
      if pnl < 0 then losingStreak results + 1 else 0 := by
  by_cases loss : pnl < 0 <;> simp [losingStreak, loss]

/-! ### What one call does -/

section Calls

variable {desk : BreakerDesk}

theorem setPaused_get? (paused : Bool) (strategy : StrategyId)
    (runners : Dict StrategyId RunnerFlags) :
    (setPaused paused strategy runners).get? strategy =
      (runners.get? strategy).map fun flags => { flags with paused := paused } := by
  cases found : runners.get? strategy with
  | none => simp [setPaused, found]
  | some flags => simp [setPaused, found]

theorem pause_streaks (strategy : StrategyId) (call : PauseCall) :
    (desk.pause strategy call).breaker.losingStreak =
      desk.breaker.losingStreak := by
  unfold BreakerDesk.pause
  split <;> rfl

theorem mem_pause (strategy other : StrategyId) (call : PauseCall) :
    other ∈ (desk.pause strategy call).breaker.paused ↔
      other = strategy ∨ other ∈ desk.breaker.paused := by
  unfold BreakerDesk.pause
  split
  · rename_i known
    constructor
    · exact Or.inr
    · rintro (rfl | old)
      · exact known
      · exact old
  · exact List.mem_cons

/-- A call that does not fail leaves the runner paused exactly when it was made or
was not needed. -/
theorem pause_paused (strategy : StrategyId) :
    RunnerPaused (desk.pause strategy .returns) strategy ↔
      strategy ∉ desk.breaker.paused ∨ RunnerPaused desk strategy := by
  by_cases known : strategy ∈ desk.breaker.paused
  · simp [BreakerDesk.pause, known]
  · constructor
    · intro paused
      exact Or.inl known
    · intro either flags found
      simp only [BreakerDesk.pause, known, if_false, PauseCall.setsFlag, if_true,
        setPaused_get?, Option.map_eq_some_iff] at found
      obtain ⟨before, held, rfl⟩ := found
      rfl

theorem count_streak (strategy other : StrategyId) (pnl : ℚ) :
    (desk.count strategy pnl).breaker.losingStreak.getD other 0 =
      if other = strategy then
        if pnl < 0 then desk.breaker.losingStreak.getD strategy 0 + 1 else 0
      else desk.breaker.losingStreak.getD other 0 := by
  by_cases loss : pnl < 0 <;> by_cases same : other = strategy <;>
    simp [BreakerDesk.count, countClose, Dict.getD, Dict.get?_set, loss, same]

end Calls

/-! ### The tally of a run -/

section Runs

variable {config : CircuitBreakerConfig}
variable {strategyForMagic : Int → Option StrategyId}
variable {desk desk' : BreakerDesk} {label : BreakerLabel}

/-- The breaker's books agree with the history. -/
structure Tallied (config : CircuitBreakerConfig)
    (strategyForMagic : Int → Option StrategyId) (desk : BreakerDesk) :
    Prop where
  streaks : ∀ strategy, desk.breaker.losingStreak.getD strategy 0 =
    losingStreak (resultsOf strategyForMagic strategy desk.history)
  marks : ∀ strategy, strategy ∈ desk.breaker.paused ↔
    TrippedBefore config strategyForMagic desk.history strategy

theorem tallied_start (runners : Dict StrategyId RunnerFlags) :
    Tallied config strategyForMagic (.start runners) where
  streaks := fun _ => rfl
  marks := fun _ => by simp [BreakerDesk.start, TrippedBefore]

/-- The streaks of the closes handled so far and of the close at hand. -/
theorem Tallied.count (tallied : Tallied config strategyForMagic desk)
    {magic : Int} {strategy : StrategyId} (owner : strategyForMagic magic = some strategy)
    (pnl : ℚ) (call : PauseCall) (other : StrategyId) :
    (desk.count strategy pnl).breaker.losingStreak.getD other 0 =
      losingStreak (resultsOf strategyForMagic other
        (.closed magic pnl call :: desk.history)) := by
  rw [count_streak]
  by_cases same : other = strategy
  · subst same
    simp [resultsOf, resultFor?, owner, losingStreak_cons, tallied.streaks]
  · have apart : strategy ≠ other := fun h => same h.symm
    simp [resultsOf, resultFor?, owner, same, apart, tallied.streaks]

/-- A close with a known magic: the streak grows or ends, and the breaker pauses when
the close trips it. -/
theorem Tallied.onClosed (tallied : Tallied config strategyForMagic desk)
    (on : 0 < config.maxConsecutiveLosses) {magic : Int} {strategy : StrategyId}
    (owner : strategyForMagic magic = some strategy) (pnl : ℚ) (call : PauseCall) :
    (Trips config strategyForMagic desk.history (.closed magic pnl call) strategy ∧
      desk.onClosed config strategyForMagic magic pnl call =
        (desk.count strategy pnl).pause strategy call) ∨
    (¬ Trips config strategyForMagic desk.history (.closed magic pnl call) strategy ∧
      desk.onClosed config strategyForMagic magic pnl call =
        desk.count strategy pnl) := by
  have streak := tallied.count owner pnl call strategy
  have own : resultsOf strategyForMagic strategy
      (.closed magic pnl call :: desk.history) =
      pnl :: resultsOf strategyForMagic strategy desk.history := by
    simp [resultsOf, resultFor?, owner]
  rw [own] at streak
  have off : config.maxConsecutiveLosses ≠ 0 := Nat.pos_iff_ne_zero.mp on
  by_cases long : config.maxConsecutiveLosses ≤
      losingStreak (pnl :: resultsOf strategyForMagic strategy desk.history)
  · left
    constructor
    · exact ⟨owner, long⟩
    · simp only [BreakerDesk.onClosed, off, if_false, owner, streak, long, if_true]
  · right
    constructor
    · intro trips
      exact long trips.2
    · simp only [BreakerDesk.onClosed, off, if_false, owner, streak, long]

/-- The step that handles a label, and the record it leaves. -/
theorem next?_cases (handled : desk.next? config strategyForMagic label = some desk') :
    ∃ acted, desk.act? config strategyForMagic label = some acted ∧
      desk' = { acted with history := label :: desk.history } := by
  obtain ⟨acted, took, is⟩ := Option.map_eq_some_iff.mp handled
  exact ⟨acted, took, is.symm⟩

/-- What the books need after a label: the streaks with it, and a mark for whom it
trips. -/
theorem Tallied.of_books (tallied : Tallied config strategyForMagic desk)
    {acted : BreakerDesk}
    (streaks : ∀ strategy, acted.breaker.losingStreak.getD strategy 0 =
      losingStreak (resultsOf strategyForMagic strategy (label :: desk.history)))
    (marks : ∀ strategy, strategy ∈ acted.breaker.paused ↔
      Trips config strategyForMagic desk.history label strategy ∨
        strategy ∈ desk.breaker.paused) :
    Tallied config strategyForMagic
      { acted with history := label :: desk.history } where
  streaks := streaks
  marks := by
    intro strategy
    refine (marks strategy).trans ?_
    rw [tallied.marks strategy]
    rfl

/-- A label that is neither a close nor a drift leaves the books alone. -/
theorem Tallied.of_quiet (tallied : Tallied config strategyForMagic desk)
    {acted : BreakerDesk} (same : acted.breaker = desk.breaker)
    (noResult : ∀ strategy, resultFor? strategyForMagic strategy label = none)
    (noTrip : ∀ strategy,
      ¬ Trips config strategyForMagic desk.history label strategy) :
    Tallied config strategyForMagic
      { acted with history := label :: desk.history } := by
  apply tallied.of_books
  · intro strategy
    simp [same, resultsOf, noResult, tallied.streaks]
  · intro strategy
    simp [same, noTrip]

theorem Tallied.closed (tallied : Tallied config strategyForMagic desk)
    (on : 0 < config.maxConsecutiveLosses) (magic : Int) (pnl : ℚ)
    (call : PauseCall) :
    Tallied config strategyForMagic
      { desk.onClosed config strategyForMagic magic pnl call with
        history := .closed magic pnl call :: desk.history } := by
  have off : config.maxConsecutiveLosses ≠ 0 := Nat.pos_iff_ne_zero.mp on
  cases owner : strategyForMagic magic with
  | none =>
      apply tallied.of_quiet
      · simp [BreakerDesk.onClosed, off, owner]
      · simp [resultFor?, owner]
      · simp [Trips, owner]
  | some strategy =>
      have others : ∀ other, Trips config strategyForMagic desk.history
          (.closed magic pnl call) other → other = strategy := by
        intro other trips
        exact Option.some.inj (trips.1.symm.trans owner)
      obtain ⟨trips, is⟩ | ⟨still, is⟩ := tallied.onClosed on owner pnl call
      · rw [is]
        apply tallied.of_books
        · intro other
          rw [pause_streaks]
          exact tallied.count owner pnl call other
        · intro other
          rw [mem_pause]
          apply or_congr _ Iff.rfl
          constructor
          · rintro rfl
            exact trips
          · exact others other
      · rw [is]
        apply tallied.of_books
        · exact tallied.count owner pnl call
        · intro other
          constructor
          · exact Or.inr
          · rintro (tripped | known)
            · exact absurd (others other tripped ▸ tripped) still
            · exact known

theorem Tallied.drift (tallied : Tallied config strategyForMagic desk)
    (on : config.pauseOnDrift = true) (strategy : StrategyId) (call : PauseCall) :
    Tallied config strategyForMagic
      { desk.onDrift config strategy call with
        history := .drift strategy call :: desk.history } := by
  simp only [BreakerDesk.onDrift, on, if_true]
  apply tallied.of_books
  · intro other
    rw [pause_streaks, tallied.streaks]
    rfl
  · intro other
    simp [mem_pause, Trips, on, eq_comm]

theorem Tallied.step (tallied : Tallied config strategyForMagic desk)
    (handled : desk.next? config strategyForMagic label = some desk') :
    Tallied config strategyForMagic desk' := by
  obtain ⟨acted, took, rfl⟩ := next?_cases handled
  cases label with
  | closed magic pnl call =>
      obtain ⟨on, is⟩ := Option.ite_none_right_eq_some.mp took
      cases is
      exact tallied.closed on magic pnl call
  | drift strategy call =>
      obtain ⟨on, is⟩ := Option.ite_none_right_eq_some.mp took
      cases is
      exact tallied.drift on strategy call
  | operatorPause strategy | operatorResume strategy | launch strategy
  | remove strategy =>
      cases took
      apply tallied.of_quiet
      · rfl
      · intro other
        rfl
      · intro other
        exact id

/-- The label that trips the breaker for a strategy has the breaker's `_pause` run
for it, with the runners as they are. -/
theorem Tallied.pauses (tallied : Tallied config strategyForMagic desk)
    {strategy : StrategyId} {call : PauseCall}
    (trips : Trips config strategyForMagic desk.history label strategy)
    (ends : label.call? = some call)
    (handled : desk.next? config strategyForMagic label = some desk') :
    ∃ before : BreakerDesk, before.runners = desk.runners ∧
      before.breaker.paused = desk.breaker.paused ∧
      desk'.runners = (before.pause strategy call).runners := by
  obtain ⟨acted, took, rfl⟩ := next?_cases handled
  cases label with
  | closed magic pnl made =>
      obtain ⟨on, is⟩ := Option.ite_none_right_eq_some.mp took
      cases is
      cases ends
      obtain ⟨_, runs⟩ | ⟨still, _⟩ := tallied.onClosed on trips.1 pnl call
      · exact ⟨desk.count strategy pnl, rfl, rfl, by simp only [runs]⟩
      · exact absurd trips still
  | drift drifting made =>
      obtain ⟨on, is⟩ := Option.ite_none_right_eq_some.mp took
      cases is
      cases ends
      obtain ⟨_, rfl⟩ := trips
      exact ⟨desk, rfl, rfl, by simp [BreakerDesk.onDrift, on]⟩
  | operatorPause | operatorResume | launch | remove => exact absurd trips id

/-- In every run, a trip whose pause call does not fail leaves the strategy's runner
paused exactly when it is the strategy's first trip or the runner was still paused. -/
theorem trip_pauses_iff {runners : Dict StrategyId RunnerFlags}
    {labels : List BreakerLabel} {strategy : StrategyId}
    (run : Run (stepOf? (BreakerDesk.next? config strategyForMagic))
      (.start runners) labels desk)
    (trips : Trips config strategyForMagic desk.history label strategy)
    (succeeds : label.call? = some .returns)
    (handled : desk.next? config strategyForMagic label = some desk') :
    RunnerPaused desk' strategy ↔
      ¬ TrippedBefore config strategyForMagic desk.history strategy ∨
        RunnerPaused desk strategy := by
  have tallied : Tallied config strategyForMagic desk :=
    run.invariant (tallied_start runners) fun step tallied => tallied.step step
  obtain ⟨before, runners, marked, after⟩ :=
    tallied.pauses trips succeeds handled
  have paused := @pause_paused before strategy
  simp only [RunnerPaused, runners, marked, tallied.marks] at paused
  simp only [RunnerPaused, after]
  exact paused

end Runs

/-! ### One loss is enough, and the operator resumes -/

/-- A breaker that pauses on every losing close. -/
def oneLoss : CircuitBreakerConfig := ⟨false, 1⟩

/-- One strategy, with magic 7. -/
def magicSeven (magic : Int) : Option StrategyId :=
  if magic = 7 then some "s1" else none

def oneRunner : Dict StrategyId RunnerFlags := Dict.empty.set "s1" .fresh

def losingClose : BreakerLabel := .closed 7 (-1) .returns

/-- The desk after the first losing close. -/
def firstTrip : BreakerDesk :=
  ⟨⟨Dict.empty.set "s1" 1, ["s1"]⟩, Dict.empty.set "s1" ⟨true, false, false⟩,
    [losingClose]⟩

/-- The desk after the operator has resumed the strategy. -/
def resumed : BreakerDesk :=
  ⟨⟨Dict.empty.set "s1" 1, ["s1"]⟩, oneRunner,
    [.operatorResume "s1", losingClose]⟩

/-- The desk after one more losing close. -/
def secondTrip : BreakerDesk :=
  ⟨⟨Dict.empty.set "s1" 2, ["s1"]⟩, oneRunner,
    [losingClose, .operatorResume "s1", losingClose]⟩

theorem trip_pauses_iff_first :
    ∃ desk', BreakerDesk.next? oneLoss magicSeven (.start oneRunner) losingClose =
      some desk' ∧
      (RunnerPaused desk' "s1" ↔
        ¬ TrippedBefore oneLoss magicSeven [] "s1" ∨
          RunnerPaused (.start oneRunner) "s1") := by
  have handled : BreakerDesk.next? oneLoss magicSeven (.start oneRunner) losingClose =
      some firstTrip := by
    decide +kernel
  have trips : Trips oneLoss magicSeven [] losingClose "s1" := by
    constructor <;> decide +kernel
  exact ⟨firstTrip, handled, trip_pauses_iff (.refl _) trips rfl handled⟩

/-- The losing close after the operator's resume makes the streak long enough again,
and the runner stays as it is. -/
theorem trip_after_resume_pauses_nothing :
    ∃ labels desk desk',
      Run (stepOf? (BreakerDesk.next? oneLoss magicSeven)) (.start oneRunner)
        labels desk ∧
      Trips oneLoss magicSeven desk.history losingClose "s1" ∧
      losingClose.call? = some .returns ∧
      BreakerDesk.next? oneLoss magicSeven desk losingClose = some desk' ∧
      ¬ RunnerPaused desk' "s1" := by
  have replayed : replay? (fun _ _ => True) (BreakerDesk.next? oneLoss magicSeven)
      (.start oneRunner) [losingClose, .operatorResume "s1"] = some resumed := by
    decide +kernel
  have handled : BreakerDesk.next? oneLoss magicSeven resumed losingClose =
      some secondTrip := by
    decide +kernel
  refine ⟨_, resumed, secondTrip, (run_of_replay? replayed).unguard, ?_, rfl,
    handled, ?_⟩
  · constructor <;> decide +kernel
  · intro paused
    have flag := paused .fresh (by decide +kernel)
    cases flag

end StingerFx
