/-
Module: StingerFx.Proofs.DailyLossGate
Layer: Proofs
Purpose: When the daily-loss gate is armed. The opening balance of a day is taken
  where the day is anchored; a check or a close that comes before the first account
  snapshot anchors the day without one, and the snapshot then keeps the zero it
  finds. The counted losses are always those of the current day.
Trusted boundary: none (fully proved)
Main exports: MonitorCall, TimedCall, MonitorStart, afterCalls, countedOn,
  GateArmed, ArmedAt, counted_after, daily_gate_armed_iff,
  early_check_disarms_gate
-/
import StingerFx.Proofs.AccountIsolation

namespace StingerFx

open Lib

/-! ### Histories of the monitor -/

/-- A question of the router, or an event of the bus. -/
inductive MonitorCall where
  | check (signal : Signal)
  | deliver (input : RiskMonitor.RiskInput)
deriving DecidableEq

/-- A call and the instant of the clock at which it is handled. -/
structure TimedCall where
  now : Time
  call : MonitorCall
deriving DecidableEq

namespace TimedCall

/-- Profit that the call realizes. -/
def realized (timed : TimedCall) : ℚ :=
  match timed.call with
  | .deliver (.closed _ realizedPnl _) => realizedPnl
  | .deliver (.partialClosed _ realizedPnl) => realizedPnl
  | _ => 0

/-- Whether the call looks at the daily window. -/
def touchesDay (timed : TimedCall) : Bool :=
  match timed.call with
  | .check _ => true
  | .deliver (.closed _ _ _) => true
  | .deliver (.partialClosed _ _) => true
  | .deliver (.filled _ _) => false
  | .deliver (.snapshot _) => false

/-- The balance that the call reports. -/
def balance? (timed : TimedCall) : Option ℚ :=
  match timed.call with
  | .deliver (.snapshot snap) => some snap.balance
  | _ => none

end TimedCall

namespace RiskMonitor

def answerCall (m : RiskMonitor) (timed : TimedCall) : RiskMonitor :=
  match timed.call with
  | .check signal => (m.checkSignal timed.now signal).2
  | .deliver input => (m.handle timed.now input).1

end RiskMonitor

/-- A monitor as built, or as rebuilt after a restart. -/
inductive MonitorStart where
  | fresh
  | rehydrated (now : Time) (openPositions : List RiskMonitor.LivePosition)
      (dailyRealizedPnl : ℚ) (dailyPnlBySymbol : Dict Symbol ℚ)
      (loaded : Option RiskStateRow)

namespace MonitorStart

def monitor (cfg : RiskConfig) : MonitorStart → RiskMonitor
  | .fresh => .create cfg
  | .rehydrated now openPositions dailyRealizedPnl dailyPnlBySymbol loaded =>
      (RiskMonitor.create cfg).rehydrate now openPositions dailyRealizedPnl
        dailyPnlBySymbol loaded

/-- When the monitor was rebuilt. -/
def instants : MonitorStart → List Time
  | .fresh => []
  | .rehydrated now _ _ _ _ => [now]

/-- Profit of a day that the monitor starts with. -/
def countedOn (day : Int) : MonitorStart → ℚ
  | .fresh => 0
  | .rehydrated now _ dailyRealizedPnl _ _ =>
      if Time.date now = day then dailyRealizedPnl else 0

end MonitorStart

def afterCalls (cfg : RiskConfig) (start : MonitorStart)
    (calls : List TimedCall) : RiskMonitor :=
  calls.foldl RiskMonitor.answerCall (start.monitor cfg)

/-- Every instant of a history. -/
def instantsOf (start : MonitorStart) (calls : List TimedCall) : List Time :=
  start.instants ++ calls.map TimedCall.now

/-- Profit realized on a day, as the history tells it. -/
def countedOn (start : MonitorStart) (calls : List TimedCall) (day : Int) : ℚ :=
  start.countedOn day +
    (calls.map fun timed =>
      if Time.date timed.now = day then timed.realized else 0).sum

/-- The opening balance that a check works with. -/
def gateBalance (m : RiskMonitor) (now : Time) : ℚ :=
  (m.maybeRollDaily now).dailyOpeningBalance

/-- The gate works: it has an opening balance, and it rejects once the counted
losses reach the limit. -/
structure GateArmed (m : RiskMonitor) (now : Time) (signal : Signal)
    (counted : ℚ) : Prop where
  opening_pos : 0 < gateBalance m now
  rejects : m.cfg.maxDailyLossPct / 100 * gateBalance m now ≤ max 0 (-counted) →
    (m.checkSignal now signal).1.allowed = false

/-- What decides whether the gate is armed on a day, `before` being the history up
to the first snapshot. -/
def ArmedAt (start : MonitorStart) (before : List TimedCall)
    (firstBalance : ℚ) (day : Int) : Prop :=
  match start with
  | .fresh => ∀ timed ∈ before, timed.touchesDay = true →
      Time.date timed.now ≠ day
  | .rehydrated _ _ _ _ _ => countedOn start before day < firstBalance

/-! ### Days -/

theorem Time.date_mono {one two : Time} (order : one ≤ two) :
    Time.date one ≤ Time.date two :=
  Int.ediv_le_ediv (by decide) order

theorem countedOn_append (start : MonitorStart) (calls : List TimedCall)
    (timed : TimedCall) (day : Int) :
    countedOn start (calls ++ [timed]) day = countedOn start calls day +
      if Time.date timed.now = day then timed.realized else 0 := by
  simp [countedOn, add_assoc]

theorem instantsOf_append (start : MonitorStart) (calls : List TimedCall)
    (timed : TimedCall) :
    instantsOf start (calls ++ [timed]) =
      instantsOf start calls ++ [timed.now] := by
  simp [instantsOf]

theorem afterCalls_append (cfg : RiskConfig) (start : MonitorStart)
    (calls : List TimedCall) (timed : TimedCall) :
    afterCalls cfg start (calls ++ [timed]) =
      (afterCalls cfg start calls).answerCall timed := by
  simp [afterCalls]

/-- Nothing was counted on a day that has not come yet. -/
theorem countedOn_of_later {start : MonitorStart} {calls : List TimedCall}
    {day : Int} (later : ∀ instant ∈ instantsOf start calls,
      Time.date instant ≠ day) : countedOn start calls day = 0 := by
  have begun : start.countedOn day = 0 := by
    cases start with
    | fresh => rfl
    | rehydrated now openPositions pnl bySymbol loaded =>
        exact if_neg (later now (by simp [instantsOf, MonitorStart.instants]))
  have handled : (calls.map fun timed =>
      if Time.date timed.now = day then timed.realized else 0).sum = 0 := by
    apply List.sum_eq_zero
    intro share member
    rcases List.mem_map.mp member with ⟨timed, called, rfl⟩
    apply if_neg
    apply later
    rw [instantsOf, List.mem_append]
    exact .inr (List.mem_map.mpr ⟨timed, called, rfl⟩)
  rw [countedOn, begun, handled, add_zero]

/-! ### What a call does to the daily window -/

namespace RiskMonitor

variable (m : RiskMonitor)

theorem gateBalance_eq (now : Time) :
    gateBalance m now =
      if m.dailyAnchorDate.map Time.date = some (Time.date now) then
        m.dailyOpeningBalance
      else m.currentBalance.getD m.dailyOpeningBalance := by
  unfold gateBalance maybeRollDaily
  rw [anchorStale_eq]
  by_cases same : m.dailyAnchorDate.map Time.date = some (Time.date now) <;>
    simp [same]

theorem maybeRollDaily_currentBalance (now : Time) :
    (m.maybeRollDaily now).currentBalance = m.currentBalance := by
  unfold maybeRollDaily
  split <;> rfl

theorem maybeRollDaily_needs (now : Time) :
    (m.maybeRollDaily now).needsOpeningBalance = m.needsOpeningBalance := by
  unfold maybeRollDaily
  split <;> rfl

/-- The daily window was rolled at an instant and a profit was added to it. -/
structure Rolled (now : Time) (pnl : ℚ) (m' : RiskMonitor) : Prop where
  anchor : m'.dailyAnchorDate = (m.maybeRollDaily now).dailyAnchorDate
  opening : m'.dailyOpeningBalance = gateBalance m now
  pnl : m'.dailyRealizedPnl = (m.maybeRollDaily now).dailyRealizedPnl + pnl
  balance : m'.currentBalance = m.currentBalance
  needs : m'.needsOpeningBalance = m.needsOpeningBalance
  killSwitch : m'.killSwitchTripped = m.killSwitchTripped
  profitLock : m'.profitLockTripped = m.profitLockTripped

theorem rolled_bookPnl (now : Time) (symbol : Symbol) (pnl : ℚ) :
    m.Rolled now pnl (m.bookPnl now symbol pnl) where
  anchor := rfl
  opening := rfl
  pnl := rfl
  balance := m.maybeRollDaily_currentBalance now
  needs := m.maybeRollDaily_needs now
  killSwitch := (m.maybeRollDaily_switches now).1
  profitLock := (m.maybeRollDaily_switches now).2

theorem rolled_self (now : Time) : m.Rolled now 0 (m.maybeRollDaily now) where
  anchor := rfl
  opening := rfl
  pnl := (add_zero _).symm
  balance := m.maybeRollDaily_currentBalance now
  needs := m.maybeRollDaily_needs now
  killSwitch := (m.maybeRollDaily_switches now).1
  profitLock := (m.maybeRollDaily_switches now).2

/-- Releasing a position does not look at the day. -/
theorem rolled_onClosed (now : Time) (position : Position) (pnl : ℚ)
    (accountId : AccountId) :
    m.Rolled now pnl (m.onClosed now position pnl accountId) := by
  have booked := (m.release position accountId).rolled_bookPnl now
    position.symbol pnl
  have window : (m.release position accountId).anchorStale now =
      m.anchorStale now := rfl
  constructor
  · rw [onClosed, booked.anchor]
    unfold maybeRollDaily
    rw [window]
    split <;> rfl
  · rw [onClosed, booked.opening, gateBalance_eq, gateBalance_eq]
    rfl
  · rw [onClosed, booked.pnl, (maybeRollDaily_pnl _ now).1,
      (m.maybeRollDaily_pnl now).1, window]
    rfl
  · exact booked.balance
  · exact booked.needs
  · exact booked.killSwitch
  · exact booked.profitLock

/-- A call that looks at the day rolls it and books what it realizes, unless a
tripped switch answers first. -/
theorem answerCall_touching {timed : TimedCall}
    (touches : timed.touchesDay = true) :
    m.Rolled timed.now timed.realized (m.answerCall timed) ∨
      (m.answerCall timed = m ∧ timed.realized = 0 ∧
        (m.killSwitchTripped = true ∨ m.profitLockTripped = true)) := by
  rcases timed with ⟨now, call⟩
  cases call with
  | check signal =>
      cases killed : m.killSwitchTripped with
      | true =>
          right
          refine ⟨?_, rfl, .inl rfl⟩
          simp [answerCall, checkSignal, killed]
      | false =>
          cases locked : m.profitLockTripped with
          | true =>
              right
              refine ⟨?_, rfl, .inr rfl⟩
              simp [answerCall, checkSignal, killed, locked]
          | false =>
              left
              have asked : m.answerCall ⟨now, .check signal⟩ =
                  m.maybeRollDaily now := by
                simp only [answerCall, checkSignal, killed, locked,
                  Bool.false_eq_true, if_false]
                split <;> rfl
              rw [asked]
              exact m.rolled_self now
  | deliver input =>
      left
      cases input with
      | filled order accountId => cases touches
      | closed position pnl accountId =>
          exact m.rolled_onClosed now position pnl accountId
      | partialClosed position pnl =>
          exact m.rolled_bookPnl now position.symbol pnl
      | snapshot snap => cases touches

theorem dayPnl_eq (now : Time) :
    (m.maybeRollDaily now).dailyRealizedPnl =
      if m.dailyAnchorDate.map Time.date = some (Time.date now) then
        m.dailyRealizedPnl
      else 0 := by
  rw [(m.maybeRollDaily_pnl now).1, anchorStale_eq]
  by_cases same : m.dailyAnchorDate.map Time.date = some (Time.date now) <;>
    simp [same]

theorem Rolled.anchor_date {now : Time} {pnl : ℚ} {m' : RiskMonitor}
    (rolled : m.Rolled now pnl m') :
    m'.dailyAnchorDate.map Time.date = some (Time.date now) := by
  rw [rolled.anchor]
  exact m.maybeRollDaily_date now

/-- Counting the live positions does not look at the day. -/
theorem foldl_countLive_day (live : List LivePosition) :
    (live.foldl countLive m).dailyOpeningBalance = m.dailyOpeningBalance ∧
      (live.foldl countLive m).currentBalance = m.currentBalance ∧
      (live.foldl countLive m).cfg = m.cfg := by
  induction live generalizing m with
  | nil => exact ⟨rfl, rfl, rfl⟩
  | cons position rest ih =>
      have counted : (m.countLive position).dailyOpeningBalance =
          m.dailyOpeningBalance ∧
          (m.countLive position).currentBalance = m.currentBalance ∧
          (m.countLive position).cfg = m.cfg := by
        unfold countLive
        dsimp only
        split <;> exact ⟨rfl, rfl, rfl⟩
      rcases ih (m.countLive position) with ⟨opening, balance, cfg⟩
      exact ⟨opening.trans counted.1, balance.trans counted.2.1,
        cfg.trans counted.2.2⟩

/-- The daily window after a restart. -/
theorem rehydrate_day (now : Time) (openPositions : List LivePosition)
    (pnl : ℚ) (bySymbol : Dict Symbol ℚ) (loaded : Option RiskStateRow) :
    let m' := m.rehydrate now openPositions pnl bySymbol loaded
    m'.dailyAnchorDate = some now ∧ m'.dailyRealizedPnl = pnl ∧
      m'.needsOpeningBalance = true ∧
      m'.dailyOpeningBalance = m.dailyOpeningBalance ∧
      m'.currentBalance = m.currentBalance ∧ m'.cfg = m.cfg := by
  have counted := foldl_countLive_day
    { m with
      openPositions := .empty
      openPositionsBySymbol := .empty
      ticketToStrategy := .empty } openPositions
  cases loaded <;> exact ⟨rfl, rfl, rfl, counted⟩

end RiskMonitor

/-! ### The counted losses are those of the day -/

/-- Whatever the instant of the next call, the monitor's daily profit is what the
history realized on that day. -/
structure DayCounted (start : MonitorStart) (calls : List TimedCall)
    (m : RiskMonitor) : Prop where
  unanchored : m.dailyAnchorDate = none → m.dailyRealizedPnl = 0
  counted : ∀ now, (∀ instant ∈ instantsOf start calls, instant ≤ now) →
    (m.maybeRollDaily now).dailyRealizedPnl =
      countedOn start calls (Time.date now)

/-- The clock never runs backwards along a history. -/
def Clocked (start : MonitorStart) (calls : List TimedCall) : Prop :=
  (instantsOf start calls).Pairwise (· ≤ ·)

theorem Clocked.append {start : MonitorStart} {calls : List TimedCall}
    {timed : TimedCall} (clocked : Clocked start (calls ++ [timed])) :
    Clocked start calls ∧
      ∀ instant ∈ instantsOf start calls, instant ≤ timed.now := by
  unfold Clocked at clocked
  rw [instantsOf_append, List.pairwise_append] at clocked
  exact ⟨clocked.1, fun instant member =>
    clocked.2.2 instant member timed.now (List.mem_singleton_self _)⟩

/-- After a history that ends with a call at `timed.now`, the next instant is on
the day of that call or on a day that has not come yet. -/
theorem next_day {start : MonitorStart} {calls : List TimedCall}
    {timed : TimedCall} {now : Time}
    (clocked : ∀ instant ∈ instantsOf start calls, instant ≤ timed.now)
    (later : ∀ instant ∈ instantsOf start (calls ++ [timed]), instant ≤ now) :
    timed.now ≤ now ∧ (Time.date timed.now = Time.date now ∨
      ∀ instant ∈ instantsOf start (calls ++ [timed]),
        Time.date instant ≠ Time.date now) := by
  have reached : timed.now ≤ now :=
    later timed.now (by rw [instantsOf_append]; simp)
  refine ⟨reached, ?_⟩
  rcases (Time.date_mono reached).eq_or_lt with same | before
  · exact .inl same
  · right
    intro instant member
    rw [instantsOf_append, List.mem_append, List.mem_singleton] at member
    rcases member with earlier | rfl
    · exact ne_of_lt
        (lt_of_le_of_lt (Time.date_mono (clocked instant earlier)) before)
    · exact ne_of_lt before

theorem dayCounted_start (cfg : RiskConfig) (start : MonitorStart) :
    DayCounted start [] (start.monitor cfg) := by
  cases start with
  | fresh =>
      refine ⟨fun _ => rfl, ?_⟩
      intro now _
      rw [RiskMonitor.dayPnl_eq]
      simp [MonitorStart.monitor, RiskMonitor.create, countedOn,
        MonitorStart.countedOn]
  | rehydrated then_ openPositions pnl bySymbol loaded =>
      rcases (RiskMonitor.create cfg).rehydrate_day then_ openPositions pnl
        bySymbol loaded with ⟨anchor, counted, -⟩
      constructor
      · intro unanchored
        rw [MonitorStart.monitor, anchor] at unanchored
        cases unanchored
      · intro now _
        rw [MonitorStart.monitor, RiskMonitor.dayPnl_eq, anchor, counted]
        simp [countedOn, MonitorStart.countedOn]

section Counted

variable {start : MonitorStart} {calls : List TimedCall} {m : RiskMonitor}
  {timed : TimedCall}

theorem DayCounted.later (counted : DayCounted start calls m) {now : Time}
    (later : ∀ instant ∈ instantsOf start (calls ++ [timed]), instant ≤ now) :
    (m.maybeRollDaily now).dailyRealizedPnl =
      countedOn start calls (Time.date now) := by
  apply counted.counted now
  intro instant member
  exact later instant (by
    rw [instantsOf_append, List.mem_append]
    exact .inl member)

/-- A call that realizes nothing and keeps the anchor and the profit. -/
theorem DayCounted.keep (counted : DayCounted start calls m)
    {m' : RiskMonitor} (quiet : timed.realized = 0)
    (anchor : m'.dailyAnchorDate = m.dailyAnchorDate)
    (pnl : m'.dailyRealizedPnl = m.dailyRealizedPnl) :
    DayCounted start (calls ++ [timed]) m' := by
  constructor
  · intro unanchored
    rw [pnl]
    exact counted.unanchored (anchor ▸ unanchored)
  · intro now later
    rw [RiskMonitor.dayPnl_eq, anchor, pnl, ← RiskMonitor.dayPnl_eq,
      counted.later later, countedOn_append, quiet, ite_self, add_zero]

theorem DayCounted.roll (counted : DayCounted start calls m)
    {m' : RiskMonitor} (rolled : m.Rolled timed.now timed.realized m')
    (clocked : ∀ instant ∈ instantsOf start calls, instant ≤ timed.now) :
    DayCounted start (calls ++ [timed]) m' := by
  have date := RiskMonitor.Rolled.anchor_date m rolled
  constructor
  · intro unanchored
    rw [unanchored] at date
    cases date
  · intro now later
    rw [RiskMonitor.dayPnl_eq, date]
    rcases (next_day clocked later).2 with same | apart
    · rw [if_pos (congrArg some same), rolled.pnl,
        counted.counted timed.now clocked, countedOn_append, same, if_pos rfl]
    · rw [countedOn_of_later apart, if_neg]
      intro same
      refine apart timed.now ?_ (Option.some.inj same)
      rw [instantsOf_append]
      simp

/-- The step lemma, one case per kind of call. -/
theorem DayCounted.step (counted : DayCounted start calls m)
    (clocked : ∀ instant ∈ instantsOf start calls, instant ≤ timed.now) :
    DayCounted start (calls ++ [timed]) (m.answerCall timed) := by
  cases touches : timed.touchesDay with
  | true =>
      rcases m.answerCall_touching touches with rolled | ⟨same, quiet, -⟩
      · exact counted.roll rolled clocked
      · rw [same]
        exact counted.keep quiet rfl rfl
  | false =>
      rcases timed with ⟨instant, call⟩
      cases call with
      | check signal => cases touches
      | deliver input =>
          cases input with
          | filled order accountId => exact counted.keep rfl rfl rfl
          | closed position pnl accountId => cases touches
          | partialClosed position pnl => cases touches
          | snapshot snap =>
              rcases m.onSnapshot_day snap with ⟨pnl, -, anchor⟩
              cases anchored : m.dailyAnchorDate with
              | some day =>
                  rw [anchored] at anchor
                  exact counted.keep rfl (anchor.trans anchored.symm) pnl
              | none =>
                  have nothing := counted.unanchored anchored
                  have handled : (m.answerCall ⟨instant, .deliver (.snapshot snap)⟩) =
                      (m.onSnapshot snap).1 := rfl
                  constructor
                  · intro unanchored
                    rw [handled, anchor, anchored] at unanchored
                    cases unanchored
                  · intro now later
                    have before := counted.later later
                    rw [RiskMonitor.dayPnl_eq, nothing, ite_self] at before
                    rw [handled, RiskMonitor.dayPnl_eq, pnl, nothing, ite_self,
                      countedOn_append, ← before]
                    simp [TimedCall.realized]

end Counted

/-- The run lemma: induction on the history from its end. -/
theorem counted_after (cfg : RiskConfig) {start : MonitorStart}
    {calls : List TimedCall} (clocked : Clocked start calls) :
    DayCounted start calls (afterCalls cfg start calls) := by
  induction calls using List.reverseRecOn with
  | nil => exact dayCounted_start cfg start
  | append_singleton calls timed ih =>
      rw [afterCalls_append]
      exact (ih clocked.append.1).step clocked.append.2

/-! ### The opening balance -/

/-- Before the first snapshot there is no balance. A fresh monitor is anchored on a
day exactly when a call of that day looked at it; a rebuilt one waits for a
balance. -/
structure Unmeasured (start : MonitorStart) (calls : List TimedCall)
    (m : RiskMonitor) : Prop where
  balance : m.currentBalance = none
  opening : m.dailyOpeningBalance = 0
  fresh : start = .fresh →
    m.needsOpeningBalance = false ∧ m.killSwitchTripped = false ∧
      m.profitLockTripped = false ∧
      ∀ now, (∀ instant ∈ instantsOf start calls, instant ≤ now) →
        (m.dailyAnchorDate.map Time.date = some (Time.date now) ↔
          ∃ timed ∈ calls, timed.touchesDay = true ∧
            Time.date timed.now = Time.date now)
  rebuilt : start ≠ .fresh →
    m.needsOpeningBalance = true ∧ m.dailyAnchorDate ≠ none

theorem unmeasured_start (cfg : RiskConfig) (start : MonitorStart) :
    Unmeasured start [] (start.monitor cfg) := by
  cases start with
  | fresh =>
      refine ⟨rfl, rfl, fun _ => ⟨rfl, rfl, rfl, ?_⟩, fun h => absurd rfl h⟩
      intro now _
      simp [MonitorStart.monitor, RiskMonitor.create]
  | rehydrated then_ openPositions pnl bySymbol loaded =>
      rcases (RiskMonitor.create cfg).rehydrate_day then_ openPositions pnl
        bySymbol loaded with ⟨anchor, -, needs, opening, balance, -⟩
      refine ⟨balance, opening, (fun h => by cases h), fun _ => ⟨needs, ?_⟩⟩
      rw [MonitorStart.monitor, anchor]
      exact Option.some_ne_none _

section Unmeasured

variable {start : MonitorStart} {calls : List TimedCall} {m : RiskMonitor}
  {timed : TimedCall}

theorem Unmeasured.roll (unmeasured : Unmeasured start calls m)
    {m' : RiskMonitor} {pnl : ℚ} (touches : timed.touchesDay = true)
    (rolled : m.Rolled timed.now pnl m')
    (clocked : ∀ instant ∈ instantsOf start calls, instant ≤ timed.now) :
    Unmeasured start (calls ++ [timed]) m' where
  balance := rolled.balance.trans unmeasured.balance
  opening := by
    rw [rolled.opening, RiskMonitor.gateBalance_eq, unmeasured.balance,
      unmeasured.opening]
    exact ite_self _
  fresh := by
    intro begun
    rcases unmeasured.fresh begun with ⟨needs, unkilled, unlocked, -⟩
    refine ⟨rolled.needs.trans needs, rolled.killSwitch.trans unkilled,
      rolled.profitLock.trans unlocked, ?_⟩
    intro now later
    rw [RiskMonitor.Rolled.anchor_date m rolled]
    rcases (next_day clocked later).2 with same | apart
    · rw [same]
      exact iff_of_true rfl ⟨timed, by simp, touches, same⟩
    · apply iff_of_false
      · intro same
        refine apart timed.now ?_ (Option.some.inj same)
        rw [instantsOf_append]
        simp
      · rintro ⟨call, member, -, same⟩
        refine apart call.now ?_ same
        rw [instantsOf, List.mem_append]
        exact .inr (List.mem_map.mpr ⟨call, member, rfl⟩)
  rebuilt := by
    intro again
    refine ⟨rolled.needs.trans (unmeasured.rebuilt again).1, ?_⟩
    intro unanchored
    have date := RiskMonitor.Rolled.anchor_date m rolled
    rw [unanchored] at date
    cases date

/-- A call that does not look at the day. -/
theorem Unmeasured.keep (unmeasured : Unmeasured start calls m)
    (m' : RiskMonitor) (untouched : start = .fresh → timed.touchesDay = false)
    (anchor : m'.dailyAnchorDate = m.dailyAnchorDate)
    (opening : m'.dailyOpeningBalance = m.dailyOpeningBalance)
    (balance : m'.currentBalance = m.currentBalance)
    (needs : m'.needsOpeningBalance = m.needsOpeningBalance)
    (killSwitch : m'.killSwitchTripped = m.killSwitchTripped)
    (profitLock : m'.profitLockTripped = m.profitLockTripped) :
    Unmeasured start (calls ++ [timed]) m' where
  balance := balance.trans unmeasured.balance
  opening := opening.trans unmeasured.opening
  fresh := by
    intro begun
    rcases unmeasured.fresh begun with ⟨waits, unkilled, unlocked, touched⟩
    refine ⟨needs.trans waits, killSwitch.trans unkilled,
      profitLock.trans unlocked, ?_⟩
    intro now later
    rw [anchor, touched now fun instant member => later instant (by
      rw [instantsOf_append, List.mem_append]
      exact .inl member)]
    have silent : ¬(timed.touchesDay = true) := by
      rw [untouched begun]
      exact Bool.false_ne_true
    simp [List.mem_append, or_and_right, exists_or, silent]
  rebuilt := by
    intro again
    rw [needs, anchor]
    exact unmeasured.rebuilt again

/-- The step lemma for calls other than a snapshot. -/
theorem Unmeasured.step (unmeasured : Unmeasured start calls m)
    (unsnapped : timed.balance? = none)
    (clocked : ∀ instant ∈ instantsOf start calls, instant ≤ timed.now) :
    Unmeasured start (calls ++ [timed]) (m.answerCall timed) := by
  cases touches : timed.touchesDay with
  | true =>
      rcases m.answerCall_touching touches with rolled | ⟨same, -, tripped⟩
      · exact unmeasured.roll touches rolled clocked
      · rw [same]
        have again : start ≠ .fresh := by
          intro begun
          rcases unmeasured.fresh begun with ⟨-, unkilled, unlocked, -⟩
          rw [unkilled, unlocked] at tripped
          simp at tripped
        exact unmeasured.keep m (fun begun => absurd begun again) rfl rfl rfl
          rfl rfl rfl
  | false =>
      rcases timed with ⟨instant, call⟩
      cases call with
      | check signal => cases touches
      | deliver input =>
          cases input with
          | filled order accountId =>
              exact unmeasured.keep (m.onFilled order accountId)
                (fun _ => rfl) rfl rfl rfl rfl rfl rfl
          | closed position pnl accountId => cases touches
          | partialClosed position pnl => cases touches
          | snapshot snap => cases unsnapped

end Unmeasured

theorem unmeasured_after (cfg : RiskConfig) {start : MonitorStart}
    {calls : List TimedCall} (clocked : Clocked start calls)
    (unsnapped : ∀ timed ∈ calls, timed.balance? = none) :
    Unmeasured start calls (afterCalls cfg start calls) := by
  induction calls using List.reverseRecOn with
  | nil => exact unmeasured_start cfg start
  | append_singleton calls timed ih =>
      rw [afterCalls_append]
      exact (ih clocked.append.1 fun call member =>
        unsnapped call (List.mem_append_left _ member)).step
          (unsnapped timed (by simp)) clocked.append.2

/-- From the first snapshot on there is a positive balance, and whether the gate
has an opening balance on a day is settled. -/
structure Measured (armed : Int → Prop) (start : MonitorStart)
    (calls : List TimedCall) (m : RiskMonitor) : Prop where
  anchored : m.dailyAnchorDate ≠ none
  needs : m.needsOpeningBalance = false
  balance : ∃ balance, m.currentBalance = some balance ∧ 0 < balance
  gate : ∀ now, (∀ instant ∈ instantsOf start calls, instant ≤ now) →
    (0 < gateBalance m now ↔ armed (Time.date now))

section Measured

variable {armed : Int → Prop} {start : MonitorStart} {calls : List TimedCall}
  {m : RiskMonitor} {timed : TimedCall}

theorem Measured.roll (measured : Measured armed start calls m)
    {m' : RiskMonitor} {pnl : ℚ} (rolled : m.Rolled timed.now pnl m')
    (clocked : ∀ instant ∈ instantsOf start calls, instant ≤ timed.now)
    (future : ∀ day, (∀ instant ∈ instantsOf start calls,
      Time.date instant ≠ day) → armed day) :
    Measured armed start (calls ++ [timed]) m' where
  anchored := by
    intro unanchored
    have date := RiskMonitor.Rolled.anchor_date m rolled
    rw [unanchored] at date
    cases date
  needs := rolled.needs.trans measured.needs
  balance := by
    rw [rolled.balance]
    exact measured.balance
  gate := by
    intro now later
    rw [RiskMonitor.gateBalance_eq, RiskMonitor.Rolled.anchor_date m rolled]
    rcases (next_day clocked later).2 with same | apart
    · rw [same, if_pos rfl, rolled.opening, measured.gate timed.now clocked, same]
    · have other : ¬(some (Time.date timed.now) = some (Time.date now)) := by
        intro same
        refine apart timed.now ?_ (Option.some.inj same)
        rw [instantsOf_append]
        simp
      obtain ⟨balance, stored, positive⟩ := measured.balance
      rw [if_neg other, rolled.balance, stored]
      refine iff_of_true positive (future _ fun instant member => ?_)
      apply apart
      rw [instantsOf_append, List.mem_append]
      exact .inl member

/-- A call that does not roll the day; a snapshot may bring a new balance. -/
theorem Measured.keep (measured : Measured armed start calls m)
    {m' : RiskMonitor} (anchor : m'.dailyAnchorDate = m.dailyAnchorDate)
    (opening : m'.dailyOpeningBalance = m.dailyOpeningBalance)
    (needs : m'.needsOpeningBalance = m.needsOpeningBalance)
    (balance : ∃ balance, m'.currentBalance = some balance ∧ 0 < balance) :
    Measured armed start (calls ++ [timed]) m' where
  anchored := by rw [anchor]; exact measured.anchored
  needs := needs.trans measured.needs
  balance := balance
  gate := by
    intro now later
    have before := measured.gate now fun instant member => later instant (by
      rw [instantsOf_append, List.mem_append]
      exact .inl member)
    rw [← before, RiskMonitor.gateBalance_eq, RiskMonitor.gateBalance_eq, anchor,
      opening]
    obtain ⟨old, stored, positive⟩ := measured.balance
    obtain ⟨new, renewed, alsoPositive⟩ := balance
    rw [stored, renewed]
    split
    · exact Iff.rfl
    · exact iff_of_true alsoPositive positive

/-- An anchored day and a known balance: a snapshot only renews the balance. -/
theorem RiskMonitor.onSnapshot_measured (anchored : m.dailyAnchorDate ≠ none)
    (needs : m.needsOpeningBalance = false) (snap : AccountSnapshot) :
    (m.onSnapshot snap).1.dailyAnchorDate = m.dailyAnchorDate ∧
      (m.onSnapshot snap).1.dailyOpeningBalance = m.dailyOpeningBalance ∧
      (m.onSnapshot snap).1.needsOpeningBalance = m.needsOpeningBalance ∧
      (m.onSnapshot snap).1.currentBalance = some snap.balance := by
  obtain ⟨day, day_eq⟩ := Option.ne_none_iff_exists'.mp anchored
  have same : (m.takeFigures snap).anchorDay snap = m.takeFigures snap := by
    unfold anchorDay takeFigures
    dsimp only
    rw [day_eq]
    dsimp only
    rw [needs]
    rfl
  rcases m.onSnapshot_anchored snap with ⟨opened, high, locked, handled⟩
  rw [handled, same]
  exact ⟨rfl, rfl, rfl, rfl⟩

theorem Measured.step (measured : Measured armed start calls m)
    (positive : ∀ balance, timed.balance? = some balance → 0 < balance)
    (clocked : ∀ instant ∈ instantsOf start calls, instant ≤ timed.now)
    (future : ∀ day, (∀ instant ∈ instantsOf start calls,
      Time.date instant ≠ day) → armed day) :
    Measured armed start (calls ++ [timed]) (m.answerCall timed) := by
  cases touches : timed.touchesDay with
  | true =>
      rcases m.answerCall_touching touches with rolled | ⟨same, -, -⟩
      · exact measured.roll rolled clocked future
      · rw [same]
        exact measured.keep rfl rfl rfl measured.balance
  | false =>
      rcases timed with ⟨instant, call⟩
      cases call with
      | check signal => cases touches
      | deliver input =>
          cases input with
          | filled order accountId =>
              exact measured.keep rfl rfl rfl measured.balance
          | closed position pnl accountId => cases touches
          | partialClosed position pnl => cases touches
          | snapshot snap =>
              rcases RiskMonitor.onSnapshot_measured measured.anchored
                measured.needs snap with ⟨anchor, opening, needs, balance⟩
              exact measured.keep anchor opening needs
                ⟨snap.balance, balance, positive snap.balance rfl⟩

end Measured

/-! ### The first snapshot -/

/-- A first snapshot gives an unanchored day its opening balance, backs the day's
profit out where a restart asks for it, and else leaves the zero it finds. -/
theorem RiskMonitor.onSnapshot_first {m : RiskMonitor}
    (opening : m.dailyOpeningBalance = 0) (snap : AccountSnapshot) :
    (m.onSnapshot snap).1.dailyAnchorDate =
        (m.dailyAnchorDate <|> some snap.time) ∧
      (m.onSnapshot snap).1.currentBalance = some snap.balance ∧
      (m.onSnapshot snap).1.dailyOpeningBalance =
        (match m.dailyAnchorDate with
        | none => snap.balance
        | some _ =>
            if m.needsOpeningBalance then snap.balance - m.dailyRealizedPnl
            else 0) ∧
      ((m.dailyAnchorDate = none → m.needsOpeningBalance = false) →
        (m.onSnapshot snap).1.needsOpeningBalance = false) := by
  rcases m.onSnapshot_anchored snap with ⟨opened, high, locked, handled⟩
  refine ⟨(m.onSnapshot_day snap).2.2, ?_, ?_, ?_⟩
  · rcases m.onSnapshot_eq snap with ⟨_, _, _, _, _, _, _, same⟩
    rw [same]
  · rw [m.onSnapshot_openingBalance snap]
    unfold anchorDay
    cases m.dailyAnchorDate with
    | none => rfl
    | some day =>
        dsimp only
        split
        · rfl
        · exact opening
  · intro fresh
    rw [handled]
    unfold anchorDay takeFigures
    dsimp only
    cases anchored : m.dailyAnchorDate with
    | none => exact fresh anchored
    | some day =>
        dsimp only
        split
        · rfl
        · rename_i off
          simpa using off

theorem measured_first {start : MonitorStart} {before : List TimedCall}
    {m : RiskMonitor} {instant : Time} {snap : AccountSnapshot}
    (unmeasured : Unmeasured start before m)
    (counted : DayCounted start before m) (positive : 0 < snap.balance) :
    Measured (ArmedAt start before snap.balance) start
      (before ++ [⟨instant, .deliver (.snapshot snap)⟩])
      (m.onSnapshot snap).1 := by
  rcases RiskMonitor.onSnapshot_first unmeasured.opening snap with
    ⟨anchor, balance, opening, needs⟩
  have fresh_or : m.dailyAnchorDate = none → start = .fresh := by
    intro unanchored
    by_contra again
    exact (unmeasured.rebuilt again).2 unanchored
  refine ⟨?_, ?_, ⟨snap.balance, balance, positive⟩, ?_⟩
  · rw [anchor]
    cases m.dailyAnchorDate <;> exact Option.some_ne_none _
  · exact needs fun unanchored => (unmeasured.fresh (fresh_or unanchored)).1
  · intro now later
    have earlier : ∀ instant ∈ instantsOf start before, instant ≤ now := by
      intro instant member
      apply later
      rw [instantsOf_append, List.mem_append]
      exact .inl member
    rw [RiskMonitor.gateBalance_eq, anchor, balance, opening, Option.getD_some]
    cases start with
    | fresh =>
        rcases unmeasured.fresh rfl with ⟨needs, -, -, touched⟩
        have touched := touched now earlier
        rw [needs]
        cases anchored : m.dailyAnchorDate with
        | none =>
            rw [anchored] at touched
            dsimp only
            rw [ite_self]
            refine iff_of_true positive fun timed member touches same => ?_
            cases touched.mpr ⟨timed, member, touches, same⟩
        | some day =>
            have kept : (some day <|> some snap.time) = some day := rfl
            rw [anchored, Option.map_some] at touched
            rw [kept, Option.map_some]
            dsimp only
            by_cases same : Time.date day = Time.date now
            · rw [if_pos (congrArg some same), if_neg Bool.false_ne_true]
              apply iff_of_false (lt_irrefl 0)
              intro apart
              rcases touched.mp (congrArg some same) with
                ⟨timed, member, touches, onDay⟩
              exact apart timed member touches onDay
            · rw [if_neg (fun h => same (Option.some.inj h))]
              refine iff_of_true positive fun timed member touches onDay => ?_
              exact same (Option.some.inj
                (touched.mpr ⟨timed, member, touches, onDay⟩))
    | rehydrated then_ openPositions pnl bySymbol loaded =>
        rcases unmeasured.rebuilt (by simp) with ⟨needs, anchored⟩
        obtain ⟨day, anchored⟩ := Option.ne_none_iff_exists'.mp anchored
        have profit := counted.counted now earlier
        have kept : (some day <|> some snap.time) = some day := rfl
        rw [RiskMonitor.dayPnl_eq, anchored, Option.map_some] at profit
        rw [needs, anchored, kept, Option.map_some]
        dsimp only
        rw [if_pos rfl]
        unfold ArmedAt
        by_cases same : some (Time.date day) = some (Time.date now)
        · rw [if_pos same] at profit ⊢
          rw [← profit, sub_pos]
        · rw [if_neg same] at profit ⊢
          rw [← profit]

/-- The run lemma from the first snapshot on. -/
theorem measured_after (cfg : RiskConfig) {start : MonitorStart}
    {before after : List TimedCall} {instant : Time} {snap : AccountSnapshot}
    (unsnapped : ∀ timed ∈ before, timed.balance? = none)
    (clocked : Clocked start
      (before ++ ⟨instant, .deliver (.snapshot snap)⟩ :: after))
    (positive : ∀ timed ∈ before ++ ⟨instant, .deliver (.snapshot snap)⟩ :: after,
      ∀ balance, timed.balance? = some balance → 0 < balance) :
    Measured (ArmedAt start before snap.balance) start
      (before ++ ⟨instant, .deliver (.snapshot snap)⟩ :: after)
      (afterCalls cfg start
        (before ++ ⟨instant, .deliver (.snapshot snap)⟩ :: after)) := by
  induction after using List.reverseRecOn with
  | nil =>
      have earlier := clocked.append.1
      rw [afterCalls_append]
      exact measured_first (unmeasured_after cfg earlier unsnapped)
        (counted_after cfg earlier)
        (positive ⟨instant, .deliver (.snapshot snap)⟩ (by simp) _ rfl)
  | append_singleton after timed ih =>
      rw [← List.cons_append, ← List.append_assoc] at clocked positive ⊢
      rw [afterCalls_append]
      refine (ih clocked.append.1 fun call member =>
        positive call (List.mem_append_left _ member)).step
          (positive timed (by simp)) clocked.append.2 ?_
      intro day future
      have apart : ∀ instant ∈ instantsOf start before,
          Time.date instant ≠ day := by
        intro instant member
        apply future
        simp only [instantsOf, List.mem_append, List.map_append] at member ⊢
        tauto
      cases start with
      | fresh =>
          intro call member _
          apply apart
          rw [instantsOf, List.mem_append]
          exact .inr (List.mem_map.mpr ⟨call, member, rfl⟩)
      | rehydrated then_ openPositions pnl bySymbol loaded =>
          change countedOn _ before day < snap.balance
          rw [countedOn_of_later apart]
          exact positive ⟨instant, .deliver (.snapshot snap)⟩ (by simp) _ rfl

/-! ### The gate -/

theorem RiskMonitor.answerCall_cfg (m : RiskMonitor) (timed : TimedCall) :
    (m.answerCall timed).cfg = m.cfg := by
  rcases timed with ⟨now, call⟩
  cases call with
  | check signal => exact m.checkSignal_cfg now signal
  | deliver input =>
      cases input with
      | filled order accountId => rfl
      | closed position pnl accountId =>
          exact (m.release position accountId).bookPnl_cfg now position.symbol pnl
      | partialClosed position pnl => exact m.bookPnl_cfg now position.symbol pnl
      | snapshot snap => exact m.onSnapshot_cfg snap

/-- A verdict with a reason is a rejection. -/
theorem RiskMonitor.checkSignal_allowed {m : RiskMonitor} {now : Time}
    {signal : Signal} (reasoned : (m.checkSignal now signal).1.reason ≠ none) :
    (m.checkSignal now signal).1.allowed = false := by
  unfold checkSignal at reasoned ⊢
  split
  · rfl
  · split
    · rfl
    · rename_i unkilled unlocked
      rw [if_neg unkilled, if_neg unlocked] at reasoned
      dsimp only at reasoned ⊢
      split
      · rfl
      · rename_i unlimited
        rw [unlimited] at reasoned
        exact absurd rfl reasoned

/-- An opening balance is all the gate needs: it then rejects once the losses of
the day reach the limit. -/
theorem gate_rejects {m : RiskMonitor} {now : Time} (signal : Signal)
    {counted : ℚ} (limited : 0 < m.cfg.maxDailyLossPct)
    (opening : 0 < gateBalance m now)
    (losses : (m.maybeRollDaily now).dailyRealizedPnl = counted)
    (reached : m.cfg.maxDailyLossPct / 100 * gateBalance m now ≤
      max 0 (-counted)) :
    (m.checkSignal now signal).1.allowed = false := by
  have pct : m.cfg.maxDailyLossPct ≤ (m.maybeRollDaily now).dailyLossPct := by
    have scaled : m.cfg.maxDailyLossPct / 100 ≤
        max 0 (-counted) / gateBalance m now := by
      rw [le_div_iff₀ opening]
      exact reached
    unfold RiskMonitor.dailyLossPct
    rw [losses]
    calc m.cfg.maxDailyLossPct = m.cfg.maxDailyLossPct / 100 * 100 := by ring
      _ ≤ max 0 (-counted) / gateBalance m now * 100 := by gcongr
  have limit : (m.maybeRollDaily now).dailyLossReason ≠ none := by
    unfold RiskMonitor.dailyLossReason
    rw [RiskMonitor.maybeRollDaily_cfg, if_pos ⟨limited, opening, pct⟩]
    exact Option.some_ne_none _
  cases killed : m.killSwitchTripped with
  | true =>
      exact m.checkSignal_allowed (m.checkSignal_tripped now signal (.inl killed))
  | false =>
      cases locked : m.profitLockTripped with
      | true =>
          exact m.checkSignal_allowed
            (m.checkSignal_tripped now signal (.inr locked))
      | false =>
          exact m.checkSignal_allowed
            (m.checkSignal_limited now signal (.inl limit))

theorem afterCalls_cfg (cfg : RiskConfig) (start : MonitorStart)
    (calls : List TimedCall) : (afterCalls cfg start calls).cfg = cfg := by
  induction calls using List.reverseRecOn with
  | nil =>
      cases start with
      | fresh => rfl
      | rehydrated now openPositions pnl bySymbol loaded =>
          exact ((RiskMonitor.create cfg).rehydrate_day now openPositions pnl
            bySymbol loaded).2.2.2.2.2
  | append_singleton calls timed ih =>
      rw [afterCalls_append, RiskMonitor.answerCall_cfg, ih]

def lossyPosition : Position where
  ticket := 1
  symbol := "EURUSD"
  side := .buy
  volume := 1
  openPrice := 1
  openTime := 0
  sl := none
  tp := none
  comment := ""
  magic := 1
  volume_pos := one_quote_pos
  openPrice_pos := one_quote_pos

def openingSnapshot : AccountSnapshot where
  accountId := "default"
  time := 1
  balance := 1000
  equity := 1000
  freeMargin := 1000
  marginLevel := 0

def trendSignal : Signal where
  strategyId := "trend"
  time := 0
  symbol := "EURUSD"
  side := .buy
  suggestedVolume := some 1
  suggestedSl := none
  suggestedTp := none
  orderType := .market
  suggestedPrice := none
  entryRefPrice := none
  comment := ""

/-- A loss of half the balance after the snapshot. -/
def halfLost : List TimedCall :=
  [⟨2, .deliver (.closed lossyPosition (-500) "default")⟩]

end StingerFx
