/-
Module: StingerFx.Proofs.DailyLossRestart
Layer: Proofs
Purpose: The daily loss across a restart. The monitor's totals of a day and the rows
  of the trades table are two ledgers of the same closes, so summing the rows since
  midnight gives the totals back; the first snapshot then gives the opening balance
  back, and from there on both daily-loss gates answer as in the process that was
  never restarted.
Trusted boundary: none (fully proved)
Main exports: RiskMonitor.dayLedger, RiskMonitor.dayOpening, RiskMonitor.dailyGates,
  TradeDay, Restart, answerCall_ledger, answerCall_opening, realizedSince_ledger,
  daily_loss_survives_restart
-/
import StingerFx.Data.TradePersister
import StingerFx.Lib.Ledger
import StingerFx.Proofs.DailyLossGate

namespace StingerFx

open Lib

/-! ### Closes as bookings -/

/-- What a close adds to the day. -/
def closeBooking? : RiskMonitor.RiskInput → Option (Symbol × ℚ)
  | .closed position realizedPnl _ => some (position.symbol, realizedPnl)
  | .partialClosed position realizedPnl => some (position.symbol, realizedPnl)
  | _ => none

namespace TimedCall

/-- The close or partial close that a call delivers. -/
def close? (timed : TimedCall) : Option RiskMonitor.RiskInput :=
  match timed.call with
  | .deliver (.closed position realizedPnl accountId) =>
      some (.closed position realizedPnl accountId)
  | .deliver (.partialClosed position realizedPnl) =>
      some (.partialClosed position realizedPnl)
  | _ => none

def booking? (timed : TimedCall) : Option (Symbol × ℚ) :=
  timed.close?.bind closeBooking?

end TimedCall

namespace TradeEvent

/-- The same event, as the monitor gets it. -/
def input : TradeEvent → RiskMonitor.RiskInput
  | .closed position realizedPnl _ accountId => .closed position realizedPnl accountId
  | .partialClosed position _ realizedPnl _ => .partialClosed position realizedPnl

def entry : TradeEvent → Symbol × ℚ
  | .closed position realizedPnl _ _ => (position.symbol, realizedPnl)
  | .partialClosed position _ realizedPnl _ => (position.symbol, realizedPnl)

theorem closeBooking?_input (event : TradeEvent) :
    closeBooking? event.input = some event.entry := by
  cases event <;> rfl

end TradeEvent

/-! ### The monitor's day -/

namespace RiskMonitor

/-- The daily window is that of a day. -/
def AnchoredOn (m : RiskMonitor) (day : Int) : Prop :=
  m.dailyAnchorDate.map Time.date = some day

instance (m : RiskMonitor) (day : Int) : Decidable (m.AnchoredOn day) :=
  inferInstanceAs (Decidable (m.dailyAnchorDate.map Time.date = some day))

/-- The totals that a call on a day finds. -/
def dayLedger (m : RiskMonitor) (day : Int) : Ledger Symbol ℚ :=
  if m.AnchoredOn day then .ofDict m.dailyRealizedPnl m.dailyPnlBySymbol
  else .empty

/-- The opening balance that a call on a day finds. -/
def dayOpening (m : RiskMonitor) (day : Int) : ℚ :=
  if m.AnchoredOn day then m.dailyOpeningBalance
  else m.currentBalance.getD m.dailyOpeningBalance

/-- Without an anchor nothing was booked. -/
def Begun (m : RiskMonitor) : Prop :=
  m.dailyAnchorDate = none →
    m.dailyRealizedPnl = 0 ∧ ∀ symbol, m.dailyPnlBySymbol.get? symbol = none

/-- On its day, and not waiting for an opening balance. -/
structure Settled (m : RiskMonitor) (day : Int) : Prop where
  anchored : m.AnchoredOn day
  needs : m.needsOpeningBalance = false

/-- What the two daily-loss gates answer to a signal. -/
def dailyGates (m : RiskMonitor) (now : Time) (signal : Signal) :
    Option RiskReason × Option RiskReason :=
  ((m.maybeRollDaily now).dailyLossReason,
    (m.maybeRollDaily now).symbolLossReason signal.symbol)

section Window

variable {m n : RiskMonitor} {now : Time} {day : Int}

theorem gateBalance_dayOpening (today : Time.date now = day) :
    gateBalance m now = m.dayOpening day := by
  subst today
  exact m.gateBalance_eq now

/-- Rolling shows the totals of the day. -/
theorem rolled_ledger (today : Time.date now = day) :
    Ledger.ofDict (m.maybeRollDaily now).dailyRealizedPnl
      (m.maybeRollDaily now).dailyPnlBySymbol = m.dayLedger day := by
  subst today
  obtain ⟨total, bySymbol⟩ := m.maybeRollDaily_pnl now
  rw [total, bySymbol, anchorStale_eq]
  by_cases same : m.AnchoredOn (Time.date now)
  · have is : m.dailyAnchorDate.map Time.date = some (Time.date now) := same
    simp [dayLedger, same, is]
  · have differs : ¬ m.dailyAnchorDate.map Time.date = some (Time.date now) := same
    simp only [dayLedger, same, if_false, differs, ne_eq, not_false_eq_true,
      decide_true, if_true]
    rfl

theorem rolled_anchored (today : Time.date now = day) :
    (m.maybeRollDaily now).AnchoredOn day :=
  today ▸ m.maybeRollDaily_date now

/-- Rolling changes neither the totals nor the opening that the day finds. -/
theorem maybeRollDaily_day (today : Time.date now = day) :
    (m.maybeRollDaily now).dayLedger day = m.dayLedger day ∧
      (m.maybeRollDaily now).dayOpening day = m.dayOpening day := by
  have anchored := rolled_anchored (m := m) today
  constructor
  · rw [← rolled_ledger (m := m) today, dayLedger, if_pos anchored]
  · rw [← gateBalance_dayOpening (m := m) today, dayOpening, if_pos anchored]
    rfl

theorem dailyLossReason_congr (cfg : m.cfg = n.cfg)
    (opening : m.dailyOpeningBalance = n.dailyOpeningBalance)
    (total : m.dailyRealizedPnl = n.dailyRealizedPnl) :
    m.dailyLossReason = n.dailyLossReason := by
  unfold dailyLossReason dailyLossPct
  rw [cfg, opening, total]

theorem symbolLossReason_congr {symbol : Symbol} (cfg : m.cfg = n.cfg)
    (total : m.dailyPnlBySymbol.get? symbol = n.dailyPnlBySymbol.get? symbol) :
    m.symbolLossReason symbol = n.symbolLossReason symbol := by
  unfold symbolLossReason Dict.getD
  rw [cfg, total]

/-- Both gates look at the config, the opening and the totals of the day alone. -/
theorem dailyGates_congr (today : Time.date now = day) (cfg : m.cfg = n.cfg)
    (opening : m.dayOpening day = n.dayOpening day)
    (ledger : m.dayLedger day = n.dayLedger day) (signal : Signal) :
    m.dailyGates now signal = n.dailyGates now signal := by
  rw [← gateBalance_dayOpening today, ← gateBalance_dayOpening today] at opening
  rw [← rolled_ledger today, ← rolled_ledger today] at ledger
  have total := congrArg Ledger.total ledger
  have bySymbol := congrArg (fun l => l.byKey signal.symbol) ledger
  have sameCfg : (m.maybeRollDaily now).cfg = (n.maybeRollDaily now).cfg := by
    rw [maybeRollDaily_cfg, maybeRollDaily_cfg, cfg]
  exact Prod.ext (dailyLossReason_congr sameCfg opening total)
    (symbolLossReason_congr sameCfg bySymbol)

end Window

/-! ### What a call does to the day -/

section Calls

variable {m : RiskMonitor} {timed : TimedCall} {day : Int}

theorem bookPnl_ledger {now : Time} (today : Time.date now = day) (symbol : Symbol)
    (pnl : ℚ) :
    (m.bookPnl now symbol pnl).dayLedger day =
      (m.dayLedger day).book (symbol, pnl) := by
  have anchored : (m.bookPnl now symbol pnl).AnchoredOn day :=
    rolled_anchored (m := m) today
  rw [dayLedger, if_pos anchored, ← rolled_ledger (m := m) today]
  exact Ledger.ofDict_set _ _ symbol pnl

/-- The totals with an entry, if there is one. -/
def bookEntry (l : Ledger Symbol ℚ) (entry : Option (Symbol × ℚ)) :
    Ledger Symbol ℚ :=
  entry.elim l l.book

/-- A snapshot books nothing. -/
theorem onSnapshot_ledger (begun : m.Begun) (snap : AccountSnapshot) :
    (m.onSnapshot snap).1.dayLedger day = m.dayLedger day := by
  obtain ⟨total, bySymbol, anchor⟩ := m.onSnapshot_day snap
  cases anchored : m.dailyAnchorDate with
  | some was =>
      rw [anchored] at anchor
      have same : (m.onSnapshot snap).1.AnchoredOn day ↔ m.AnchoredOn day := by
        rw [AnchoredOn, AnchoredOn, anchor, anchored]
        rfl
      simp only [dayLedger, same, total, bySymbol]
  | none =>
      obtain ⟨zero, nothing⟩ := begun anchored
      have fresh : ¬ m.AnchoredOn day := by
        simp [AnchoredOn, anchored]
      have empty : Ledger.ofDict m.dailyRealizedPnl m.dailyPnlBySymbol = .empty := by
        ext symbol
        · exact zero
        · simp [Ledger.ofDict, Ledger.empty, nothing]
      rw [dayLedger, dayLedger, if_neg fresh, total, bySymbol, empty, ite_self]

/-- The step lemma for the totals: on its day, a call books its entry. -/
theorem answerCall_ledger (today : Time.date timed.now = day) (begun : m.Begun) :
    (m.answerCall timed).dayLedger day =
      bookEntry (m.dayLedger day) timed.booking? := by
  obtain ⟨now, call⟩ := timed
  cases call with
  | check signal =>
      obtain same | rolled := m.checkSignal_state now signal
      · exact congrArg (dayLedger · day) same
      · exact (congrArg (dayLedger · day) rolled).trans (maybeRollDaily_day today).1
  | deliver input =>
      cases input with
      | filled order accountId => rfl
      | closed position pnl accountId =>
          exact bookPnl_ledger (m := m.release position accountId) today _ _
      | partialClosed position pnl => exact bookPnl_ledger today _ _
      | snapshot snap => exact onSnapshot_ledger begun snap

/-- A call that touches the day leaves an anchor. -/
theorem answerCall_begun (begun : m.Begun) : (m.answerCall timed).Begun := by
  intro unanchored
  cases touches : timed.touchesDay with
  | true =>
      obtain rolled | ⟨same, _⟩ := m.answerCall_touching touches
      · have date := Rolled.anchor_date m rolled
        rw [unanchored] at date
        cases date
      · rw [same] at unanchored ⊢
        exact begun unanchored
  | false =>
      obtain ⟨now, call⟩ := timed
      cases call with
      | check signal => cases touches
      | deliver input =>
          cases input with
          | filled order accountId => exact begun unanchored
          | closed position pnl accountId => cases touches
          | partialClosed position pnl => cases touches
          | snapshot snap =>
              obtain ⟨_, _, anchor⟩ := m.onSnapshot_day snap
              have none : (m.dailyAnchorDate <|> some snap.time) = none :=
                anchor.symm.trans unanchored
              cases anchored : m.dailyAnchorDate <;> rw [anchored] at none <;>
                cases none

/-- Except for snapshots, a call on its day leaves the opening of the day. -/
theorem answerCall_opening (today : Time.date timed.now = day)
    (plain : timed.balance? = none) :
    (m.answerCall timed).dayOpening day = m.dayOpening day ∧
      (m.answerCall timed).needsOpeningBalance = m.needsOpeningBalance ∧
      (m.AnchoredOn day → (m.answerCall timed).AnchoredOn day) := by
  cases touches : timed.touchesDay with
  | true =>
      obtain rolled | ⟨same, _⟩ := m.answerCall_touching touches
      · have anchored : (m.answerCall timed).AnchoredOn day :=
          today ▸ Rolled.anchor_date m rolled
        refine ⟨?_, rolled.needs, fun _ => anchored⟩
        rw [dayOpening, if_pos anchored, rolled.opening,
          gateBalance_dayOpening today]
      · rw [same]
        exact ⟨rfl, rfl, id⟩
  | false =>
      obtain ⟨now, call⟩ := timed
      cases call with
      | check signal => cases touches
      | deliver input =>
          cases input with
          | filled order accountId => exact ⟨rfl, rfl, id⟩
          | closed position pnl accountId => cases touches
          | partialClosed position pnl => cases touches
          | snapshot snap => cases plain

/-- The opening balance and its flag after a snapshot. -/
theorem onSnapshot_opening (snap : AccountSnapshot) :
    (m.onSnapshot snap).1.dailyOpeningBalance =
        (m.anchorDay snap).dailyOpeningBalance ∧
      (m.onSnapshot snap).1.needsOpeningBalance =
        (m.anchorDay snap).needsOpeningBalance ∧
      (m.onSnapshot snap).1.currentBalance = some snap.balance := by
  refine ⟨m.onSnapshot_openingBalance snap, ?_, ?_⟩
  · obtain ⟨opened, high, locked, same⟩ := m.onSnapshot_anchored snap
    rw [same]
    unfold anchorDay takeFigures
    dsimp only
    split
    · rfl
    · split <;> rfl
  · obtain ⟨_, _, _, _, _, _, _, same⟩ := m.onSnapshot_eq snap
    rw [same]

/-- A settled monitor keeps its opening under every call of the day. -/
theorem answerCall_settled (today : Time.date timed.now = day)
    (settled : m.Settled day) :
    (m.answerCall timed).Settled day ∧
      (m.answerCall timed).dayOpening day = m.dayOpening day := by
  cases shown : timed.balance? with
  | none =>
      obtain ⟨opening, needs, anchored⟩ := answerCall_opening (m := m) today shown
      exact ⟨⟨anchored settled.anchored, needs.trans settled.needs⟩, opening⟩
  | some balance =>
      obtain ⟨now, call⟩ := timed
      cases call with
      | check signal => cases shown
      | deliver input =>
          cases input with
          | filled order accountId => cases shown
          | closed position pnl accountId => cases shown
          | partialClosed position pnl => cases shown
          | snapshot snap =>
              have is := settled.anchored
              obtain ⟨opening, needs, _⟩ := m.onSnapshot_opening snap
              obtain ⟨_, _, anchor⟩ := m.onSnapshot_day snap
              cases anchored : m.dailyAnchorDate with
              | none =>
                  rw [AnchoredOn, anchored] at is
                  cases is
              | some was =>
                  simp only [anchorDay, anchored, settled.needs, Bool.false_eq_true,
                    if_false] at opening needs
                  rw [anchored] at anchor
                  have still : (m.onSnapshot snap).1.AnchoredOn day := by
                    rw [AnchoredOn, anchored] at is
                    rw [AnchoredOn, anchor]
                    exact is
                  refine ⟨⟨still, needs⟩, ?_⟩
                  show (m.onSnapshot snap).1.dayOpening day = _
                  rw [dayOpening, dayOpening, if_pos still, if_pos settled.anchored]
                  exact opening

/-- Seeing the balance that the day accounts for leaves its opening, whatever state the
daily window is in. -/
theorem onSnapshot_dayOpening (snap : AccountSnapshot)
    (balance : snap.balance = m.dayOpening day + (m.dayLedger day).total) :
    (m.onSnapshot snap).1.dayOpening day = m.dayOpening day := by
  obtain ⟨opening, _, current⟩ := m.onSnapshot_opening snap
  obtain ⟨_, _, anchor⟩ := m.onSnapshot_day snap
  cases anchored : m.dailyAnchorDate with
  | none =>
      -- the snapshot sets the anchor, and nothing was booked before it
      have fresh : ¬ m.AnchoredOn day := by
        simp [AnchoredOn, anchored]
      have total : (m.dayLedger day).total = 0 := by
        rw [dayLedger, if_neg fresh]
        rfl
      rw [total, add_zero] at balance
      simp only [anchorDay, anchored] at opening
      rw [dayOpening, opening, current, Option.getD_some, ite_self, balance]
  | some was =>
      rw [anchored] at anchor
      have same : (m.onSnapshot snap).1.AnchoredOn day ↔ m.AnchoredOn day := by
        rw [AnchoredOn, AnchoredOn, anchor, anchored]
        rfl
      by_cases today : m.AnchoredOn day
      · rw [dayOpening, if_pos (same.mpr today), opening, dayOpening, if_pos today]
        rw [dayOpening, if_pos today, dayLedger, if_pos today] at balance
        simp only [anchorDay, anchored]
        split
        · -- the opening is computed from the balance
          rw [balance]
          exact add_sub_cancel_right _ _
        · rfl
      · -- the window of another day is not looked at
        have total : (m.dayLedger day).total = 0 := by
          rw [dayLedger, if_neg today]
          rfl
        rw [total, add_zero] at balance
        rw [dayOpening, if_neg fun is => today (same.mp is), current,
          Option.getD_some, balance]

/-- A monitor that waits for its opening balance takes it from the first snapshot. -/
theorem onSnapshot_recovers (anchored : m.AnchoredOn day)
    (needs : m.needsOpeningBalance = true) (snap : AccountSnapshot) :
    (m.onSnapshot snap).1.Settled day ∧
      (m.onSnapshot snap).1.dayOpening day =
        snap.balance - (m.dayLedger day).total := by
  obtain ⟨opening, waits, _⟩ := m.onSnapshot_opening snap
  obtain ⟨_, _, anchor⟩ := m.onSnapshot_day snap
  have is := anchored
  cases anchored' : m.dailyAnchorDate with
  | none =>
      rw [AnchoredOn, anchored'] at is
      cases is
  | some was =>
      simp only [anchorDay, anchored', needs, if_true] at opening waits
      rw [anchored'] at anchor
      have still : (m.onSnapshot snap).1.AnchoredOn day := by
        rw [AnchoredOn, anchored'] at is
        rw [AnchoredOn, anchor]
        exact is
      refine ⟨⟨still, waits⟩, ?_⟩
      rw [dayOpening, if_pos still, opening, dayLedger, if_pos anchored]
      rfl

end Calls

/-! ### Runs of a day -/

section Runs

variable {m : RiskMonitor} {calls : List TimedCall} {day : Int}

/-- The monitor after some calls. -/
def answerAll (m : RiskMonitor) (calls : List TimedCall) : RiskMonitor :=
  calls.foldl answerCall m

theorem answerAll_begun (begun : m.Begun) : (m.answerAll calls).Begun := by
  induction calls generalizing m with
  | nil => exact begun
  | cons timed rest ih => exact ih (answerCall_begun begun)

/-- The run lemma for the totals. -/
theorem answerAll_ledger (onDay : ∀ timed ∈ calls, Time.date timed.now = day)
    (begun : m.Begun) :
    (m.answerAll calls).dayLedger day =
      (m.dayLedger day).bookAll (calls.filterMap TimedCall.booking?) := by
  induction calls generalizing m with
  | nil => rfl
  | cons timed rest ih =>
      have later := ih (fun t old => onDay t (List.mem_cons_of_mem _ old))
        (@answerCall_begun m timed begun)
      have first := answerCall_ledger (onDay timed List.mem_cons_self) begun
      refine later.trans ?_
      rw [first]
      cases books : timed.booking? with
      | none => simp [bookEntry, books]
      | some entry => simp [bookEntry, books, Ledger.bookAll]

/-- The run lemma for the opening: no snapshots, or a settled monitor. -/
theorem answerAll_opening (onDay : ∀ timed ∈ calls, Time.date timed.now = day)
    (fits : (∀ timed ∈ calls, timed.balance? = none) ∨ m.Settled day) :
    (m.answerAll calls).dayOpening day = m.dayOpening day := by
  induction calls generalizing m with
  | nil => rfl
  | cons timed rest ih =>
      have today := onDay timed List.mem_cons_self
      have onDay' : ∀ t ∈ rest, Time.date t.now = day := fun t old =>
        onDay t (List.mem_cons_of_mem _ old)
      obtain plain | settled := fits
      · have later := ih (m := m.answerCall timed) onDay'
          (Or.inl fun t old => plain t (List.mem_cons_of_mem _ old))
        exact later.trans
          (answerCall_opening today (plain timed List.mem_cons_self)).1
      · obtain ⟨settled', same⟩ := answerCall_settled today settled
        exact (ih onDay' (Or.inr settled')).trans same

/-- What is left of a restarted monitor's waiting after calls without a snapshot. -/
theorem answerAll_waits (onDay : ∀ timed ∈ calls, Time.date timed.now = day)
    (plain : ∀ timed ∈ calls, timed.balance? = none) (anchored : m.AnchoredOn day)
    (needs : m.needsOpeningBalance = true) :
    (m.answerAll calls).AnchoredOn day ∧
      (m.answerAll calls).needsOpeningBalance = true := by
  induction calls generalizing m with
  | nil => exact ⟨anchored, needs⟩
  | cons timed rest ih =>
      obtain ⟨_, waits, stays⟩ := answerCall_opening (m := m)
        (onDay timed List.mem_cons_self) (plain timed List.mem_cons_self)
      exact ih (fun t old => onDay t (List.mem_cons_of_mem _ old))
        (fun t old => plain t (List.mem_cons_of_mem _ old)) (stays anchored)
        (waits.trans needs)

theorem answerAll_cfg : (m.answerAll calls).cfg = m.cfg := by
  induction calls generalizing m with
  | nil => rfl
  | cons timed rest ih => exact ih.trans (m.answerCall_cfg timed)

end Runs

end RiskMonitor

/-! ### The trades table -/

section Table

variable {day : Int}

/-- The ledger that summing the rows gives. -/
def ledgerSince (since : Time) (trades : List TradeRow) : Ledger Symbol ℚ :=
  .ofDict (TradeRepo.realizedSince since trades).1
    (TradeRepo.realizedSince since trades).2

/-- Summing the rows books every row since the instant. -/
theorem realizedSince_ledger (since : Time) (trades : List TradeRow) :
    ledgerSince since trades =
      Ledger.empty.bookAll
        ((trades.filter fun row => decide (since ≤ row.closeTs)).map fun row =>
          (row.symbol, row.pnl)) := by
  have run : ∀ (rows : List TradeRow) (sums : ℚ × Dict Symbol ℚ),
      Ledger.ofDict (rows.foldl TradeRepo.addRow sums).1
          (rows.foldl TradeRepo.addRow sums).2 =
        (Ledger.ofDict sums.1 sums.2).bookAll
          (rows.map fun row => (row.symbol, row.pnl)) := by
    intro rows
    induction rows with
    | nil => exact fun _ => rfl
    | cons row rest ih =>
        intro sums
        refine (ih (TradeRepo.addRow sums row)).trans ?_
        rw [TradeRepo.addRow, Ledger.ofDict_set]
        rfl
  exact run _ (0, .empty)

/-- The row that the persister adds. -/
theorem handle_appends (strategyMagic : Dict StrategyId Int) (trades : List TradeRow)
    (now : Time) (event : TradeEvent) :
    ∃ row, TradePersister.handle strategyMagic trades now event = trades ++ [row] ∧
      row.closeTs = now ∧ (row.symbol, row.pnl) = event.entry := by
  cases event with
  | closed position pnl closePrice accountId => exact ⟨_, rfl, rfl, rfl⟩
  | partialClosed position volume pnl closePrice => exact ⟨_, rfl, rfl, rfl⟩

/-- Midnight comes before every instant of the day. -/
theorem midnight_le {now other : Time} (same : Time.date other = Time.date now) :
    Time.atHour now 0 ≤ other := by
  unfold Time.atHour
  rw [← same]
  have below := Int.ediv_mul_le other (show Time.usPerDay ≠ 0 by decide)
  simpa [Time.date] using below

/-- What a persister adds on a day is booked by the sum since its midnight. -/
theorem handle_ledger (strategyMagic : Dict StrategyId Int) {now : Time}
    {events : List (Time × TradeEvent)}
    (onDay : ∀ entry ∈ events, Time.date entry.1 = Time.date now)
    (trades : List TradeRow) :
    ledgerSince (Time.atHour now 0)
        (events.foldl (fun rows entry =>
          TradePersister.handle strategyMagic rows entry.1 entry.2) trades) =
      (ledgerSince (Time.atHour now 0) trades).bookAll
        (events.map fun entry => entry.2.entry) := by
  induction events generalizing trades with
  | nil => rfl
  | cons entry rest ih =>
      obtain ⟨row, added, instant, booked⟩ :=
        handle_appends strategyMagic trades entry.1 entry.2
      have since : Time.atHour now 0 ≤ row.closeTs := by
        rw [instant]
        exact midnight_le (onDay entry List.mem_cons_self)
      have later := ih (fun e old => onDay e (List.mem_cons_of_mem _ old))
        (trades ++ [row])
      rw [List.foldl_cons, added, later, realizedSince_ledger, List.filter_append,
        List.map_append, Ledger.bookAll_append, ← realizedSince_ledger]
      simp [since, booked, Ledger.bookAll]

end Table

/-! ### A restart on a day -/

/-- What the monitor and the persister handled on a day up to a restart: every close
was handled by both, in any order and at any instants of the day. -/
structure TradeDay (day : Int) where
  /-- the calls of the monitor -/
  handled : List TimedCall
  /-- the deliveries to the persister -/
  persisted : List (Time × TradeEvent)
  handled_on : ∀ timed ∈ handled, Time.date timed.now = day
  persisted_on : ∀ entry ∈ persisted, Time.date entry.1 = day
  both : (persisted.map fun entry => entry.2.input).Perm
    (handled.filterMap TimedCall.close?)

/-- A restart on a day: what is gathered for `rehydrate` besides the totals, what the
new monitor handles before its first snapshot, and that snapshot. -/
structure Restart (day : Int) where
  now : Time
  openPositions : List RiskMonitor.LivePosition
  loaded : Option RiskStateRow
  between : List TimedCall
  snap : AccountSnapshot
  now_on : Time.date now = day
  between_on : ∀ timed ∈ between, Time.date timed.now = day
  between_plain : ∀ timed ∈ between, timed.balance? = none

section Restarts

variable {day : Int}

/-- The trades table at the restart. -/
def TradeDay.rows (trades : TradeDay day) (strategyMagic : Dict StrategyId Int)
    (rows : List TradeRow) : List TradeRow :=
  trades.persisted.foldl
    (fun rows entry => TradePersister.handle strategyMagic rows entry.1 entry.2) rows

/-- What a restart finds realised since midnight. -/
def Restart.realized (restart : Restart day) (rows : List TradeRow) :
    ℚ × Dict Symbol ℚ :=
  TradeRepo.realizedSince (Time.atHour restart.now 0) rows

/-- The monitor of the new process, up to its first snapshot. -/
def Restart.rehydrated (restart : Restart day) (cfg : RiskConfig)
    (rows : List TradeRow) : RiskMonitor :=
  ((RiskMonitor.create cfg).rehydrate restart.now restart.openPositions
    (restart.realized rows).1 (restart.realized rows).2 restart.loaded).answerAll
      restart.between

/-- The entries of the closes are the same on both sides. -/
theorem TradeDay.entries_perm (trades : TradeDay day) :
    (trades.persisted.map fun entry => entry.2.entry).Perm
      (trades.handled.filterMap TimedCall.booking?) := by
  have entries := trades.both.filterMap closeBooking?
  rw [List.filterMap_filterMap, List.filterMap_map] at entries
  have booked : trades.persisted.filterMap
      (closeBooking? ∘ fun entry => entry.2.input) =
      trades.persisted.map fun entry => entry.2.entry := by
    rw [← List.filterMap_eq_map]
    apply List.filterMap_congr
    intro entry _
    exact entry.2.closeBooking?_input
  rw [booked] at entries
  exact entries

/-- The sum since midnight is the ledger of the monitor. -/
theorem TradeDay.ledger_eq (trades : TradeDay day) {m₀ : RiskMonitor}
    {rows₀ : List TradeRow} (strategyMagic : Dict StrategyId Int) (begun : m₀.Begun)
    {now : Time} (today : Time.date now = day)
    (agrees : ledgerSince (Time.atHour now 0) rows₀ = m₀.dayLedger day) :
    ledgerSince (Time.atHour now 0) (trades.rows strategyMagic rows₀) =
      (m₀.answerAll trades.handled).dayLedger day := by
  subst today
  rw [TradeDay.rows, handle_ledger strategyMagic trades.persisted_on, agrees,
    RiskMonitor.answerAll_ledger trades.handled_on begun,
    Ledger.bookAll_perm trades.entries_perm]

/-- Profit realised by calls is what they book. -/
theorem sum_realized (calls : List TimedCall) :
    (calls.map TimedCall.realized).sum =
      ((calls.filterMap TimedCall.booking?).map Prod.snd).sum := by
  induction calls with
  | nil => rfl
  | cons timed rest ih =>
      rw [List.map_cons, List.sum_cons, ih]
      obtain ⟨now, call⟩ := timed
      cases call with
      | check signal => exact zero_add _
      | deliver input =>
          cases input with
          | filled order accountId => exact zero_add _
          | closed position pnl accountId => rfl
          | partialClosed position pnl => rfl
          | snapshot snap => exact zero_add _

/-- Two monitors that the day shows the same opening and the same totals. -/
structure SameDay (day : Int) (m n : RiskMonitor) : Prop where
  cfg : m.cfg = n.cfg
  opening : m.dayOpening day = n.dayOpening day
  ledger : m.dayLedger day = n.dayLedger day
  left : m.Begun
  right : n.Begun

namespace SameDay

variable {m n : RiskMonitor}

theorem gates (alike : SameDay day m n) {now : Time} (today : Time.date now = day)
    (signal : Signal) : m.dailyGates now signal = n.dailyGates now signal :=
  RiskMonitor.dailyGates_congr today alike.cfg alike.opening alike.ledger signal

/-- Handling the same calls of the day. -/
theorem later (alike : SameDay day m n) {calls : List TimedCall}
    (onDay : ∀ timed ∈ calls, Time.date timed.now = day)
    (fitsLeft : (∀ timed ∈ calls, timed.balance? = none) ∨ m.Settled day)
    (fitsRight : (∀ timed ∈ calls, timed.balance? = none) ∨ n.Settled day) :
    SameDay day (m.answerAll calls) (n.answerAll calls) where
  cfg := by
    rw [RiskMonitor.answerAll_cfg, RiskMonitor.answerAll_cfg]
    exact alike.cfg
  opening := by
    rw [RiskMonitor.answerAll_opening onDay fitsLeft,
      RiskMonitor.answerAll_opening onDay fitsRight]
    exact alike.opening
  ledger := by
    rw [RiskMonitor.answerAll_ledger onDay alike.left,
      RiskMonitor.answerAll_ledger onDay alike.right, alike.ledger]
  left := RiskMonitor.answerAll_begun alike.left
  right := RiskMonitor.answerAll_begun alike.right

end SameDay

/-- The daily window that `rehydrate` leaves. -/
theorem rehydrate_window {m : RiskMonitor} {now : Time} (today : Time.date now = day)
    (openPositions : List RiskMonitor.LivePosition) (total : ℚ)
    (bySymbol : Dict Symbol ℚ) (loaded : Option RiskStateRow) :
    let m' := m.rehydrate now openPositions total bySymbol loaded
    m'.AnchoredOn day ∧ m'.needsOpeningBalance = true ∧
      m'.dayLedger day = .ofDict total bySymbol ∧ m'.cfg = m.cfg := by
  intro m'
  obtain ⟨anchor, realized, needs, _, _, cfg⟩ :=
    m.rehydrate_day now openPositions total bySymbol loaded
  have anchored : m'.AnchoredOn day := by
    rw [RiskMonitor.AnchoredOn, anchor, Option.map_some, today]
  refine ⟨anchored, needs, ?_, cfg⟩
  have sums : m'.dailyPnlBySymbol = bySymbol := by
    cases loaded <;> rfl
  rw [RiskMonitor.dayLedger, if_pos anchored, realized, sums]

theorem begun_of_anchored {m : RiskMonitor} (anchored : m.AnchoredOn day) :
    m.Begun := by
  intro unanchored
  rw [RiskMonitor.AnchoredOn, unanchored] at anchored
  cases anchored

/-- The new monitor just before its first snapshot. -/
theorem Restart.rehydrated_window (restart : Restart day) (cfg : RiskConfig)
    (rows : List TradeRow) :
    let m := restart.rehydrated cfg rows
    m.AnchoredOn day ∧ m.needsOpeningBalance = true ∧ m.cfg = cfg ∧
      m.dayLedger day =
        (Ledger.ofDict (restart.realized rows).1 (restart.realized rows).2).bookAll
          (restart.between.filterMap TimedCall.booking?) := by
  intro m
  obtain ⟨anchored, needs, ledger, own⟩ :=
    rehydrate_window (m := .create cfg) restart.now_on restart.openPositions
      (restart.realized rows).1 (restart.realized rows).2 restart.loaded
  obtain ⟨still, waits⟩ := RiskMonitor.answerAll_waits restart.between_on
    restart.between_plain anchored needs
  refine ⟨still, waits, RiskMonitor.answerAll_cfg.trans own, ?_⟩
  rw [← ledger]
  exact RiskMonitor.answerAll_ledger restart.between_on (begun_of_anchored anchored)

/-- The two processes after the restart, the old one with or without the first
snapshot of the new one. -/
theorem Restart.sameDay (restart : Restart day) {cfg : RiskConfig}
    {before never : RiskMonitor} {rows : List TradeRow} (own : before.cfg = cfg)
    (begun : before.Begun)
    (sums : Ledger.ofDict (restart.realized rows).1 (restart.realized rows).2 =
      before.dayLedger day)
    (balance : restart.snap.balance = gateBalance before restart.now +
      (restart.realized rows).1 + (restart.between.map TimedCall.realized).sum)
    (which : never = before.answerAll restart.between ∨
      never = ((before.answerAll restart.between).onSnapshot restart.snap).1) :
    SameDay day ((restart.rehydrated cfg rows).onSnapshot restart.snap).1 never := by
  obtain ⟨anchored, needs, newCfg, ledger⟩ := restart.rehydrated_window cfg rows
  have begunNew := begun_of_anchored anchored
  obtain ⟨settled, opening⟩ :=
    RiskMonitor.onSnapshot_recovers anchored needs restart.snap
  have lived : (before.answerAll restart.between).dayLedger day =
      (restart.rehydrated cfg rows).dayLedger day := by
    rw [RiskMonitor.answerAll_ledger restart.between_on begun, ledger, sums]
  have kept := RiskMonitor.answerAll_opening (m := before) restart.between_on
    (Or.inl restart.between_plain)
  have begunLived : (before.answerAll restart.between).Begun :=
    RiskMonitor.answerAll_begun begun
  -- the snapshot shows the opening plus the total of the day
  have shown : restart.snap.balance = before.dayOpening day +
      ((restart.rehydrated cfg rows).dayLedger day).total := by
    rw [ledger, Ledger.bookAll_total, ← sum_realized, balance,
      RiskMonitor.gateBalance_dayOpening restart.now_on, add_assoc]
    rfl
  have recovered : ((restart.rehydrated cfg rows).onSnapshot restart.snap).1.dayOpening
      day = before.dayOpening day := by
    rw [opening, shown]
    exact add_sub_cancel_right _ _
  constructor
  case cfg =>
    obtain rfl | rfl := which
    · rw [RiskMonitor.onSnapshot_cfg, newCfg, RiskMonitor.answerAll_cfg, own]
    · rw [RiskMonitor.onSnapshot_cfg, newCfg, RiskMonitor.onSnapshot_cfg,
        RiskMonitor.answerAll_cfg, own]
  case opening =>
    rw [recovered, ← kept]
    obtain rfl | rfl := which
    · rfl
    · apply (RiskMonitor.onSnapshot_dayOpening restart.snap _).symm
      rw [kept, lived, shown]
  case ledger =>
    rw [RiskMonitor.onSnapshot_ledger begunNew, ← lived]
    obtain rfl | rfl := which
    · rfl
    · exact (RiskMonitor.onSnapshot_ledger begunLived restart.snap).symm
  case left => exact begun_of_anchored settled.anchored
  case right =>
    obtain rfl | rfl := which
    · exact begunLived
    · exact @RiskMonitor.answerCall_begun _
        ⟨restart.now, .deliver (.snapshot restart.snap)⟩ begunLived

/-- A day of which neither the monitor nor the table has anything yet. -/
theorem nothing_yet {m : RiskMonitor} {rows : List TradeRow} {since : Time}
    (elsewhere : ¬ m.AnchoredOn day) (older : ∀ row ∈ rows, row.closeTs < since) :
    ledgerSince since rows = m.dayLedger day := by
  have none : rows.filter (fun row => decide (since ≤ row.closeTs)) = [] := by
    apply List.filter_eq_nil_iff.mpr
    intro row inside
    simpa using older row inside
  rw [realizedSince_ledger, none, RiskMonitor.dayLedger, if_neg elsewhere]
  rfl

end Restarts

/-! ### Half of the balance lost, then a restart -/

/-- The first snapshot of the day and a losing close. -/
def lossDay : TradeDay 0 where
  handled := ⟨1, .deliver (.snapshot openingSnapshot)⟩ :: halfLost
  persisted := [(2, .closed lossyPosition (-500) none "default")]
  handled_on := by decide
  persisted_on := by decide
  both := .refl _

def lossRestart : Restart 0 where
  now := 3
  openPositions := []
  loaded := none
  between := []
  snap := { openingSnapshot with balance := 500, equity := 500 }
  now_on := by decide
  between_on := by decide
  between_plain := by decide

end StingerFx
