/-
Module: StingerFx.Strategies.Examples.OpeningRangeBreakout
Layer: Strategies
Purpose: The strategy that takes the breakout of a session's opening range. It
  freezes the range of the first minutes of a session at the first bar behind them,
  and sends an order when a bar closes beyond the range by more than a buffer and the
  last structure bar closed beyond it as well.
Trusted boundary: human-reviewed model of the source's opening range strategy
Main exports: OpeningRangeBreakoutParams, OpeningRange, openingRange?,
  OpeningRangeBreakout, OpeningRangeBreakout.onBar, OpeningRangeBreakout.scalper,
  OrbFeed, OrbFeed.step?, OrbFeed.Step
-/
import StingerFx.Lib.Runs
import StingerFx.Strategies.Examples.SessionScalper
import StingerFx.Strategies.HistoryView

namespace StingerFx

open Lib Time

inductive OrbSlMode where
  | oppositeOr
  | orMid
  | atr
deriving Repr, DecidableEq

inductive OrbTpMode where
  | orRange
  | fixedR
  | trailing
deriving Repr, DecidableEq

/-- The parameters, within the bounds that validation checks. -/
structure OpeningRangeBreakoutParams extends ScalperCadence where
  openingRangeMinutes : Nat
  maxEntryMinutesFromOpen : Nat
  atrPeriod : Nat
  breakoutBufferAtr : ℚ
  stopBufferAtr : ℚ
  minOrRangeAtr : ℚ
  maxOrRangeAtr : ℚ
  slMode : OrbSlMode
  tpMode : OrbTpMode
  takeProfitR : ℚ
  minRr : ℚ
  trailing : TrailingAtr
  skipFridayLate : Bool
  fridayLateHourUtc : Nat
  openingRange_bounds : 5 ≤ openingRangeMinutes ∧ openingRangeMinutes ≤ 60
  maxEntry_bounds : 15 ≤ maxEntryMinutesFromOpen ∧ maxEntryMinutesFromOpen ≤ 360
  atrPeriod_bounds : 5 ≤ atrPeriod ∧ atrPeriod ≤ 50
  buffers_bounds : 0 ≤ breakoutBufferAtr ∧ 0 < stopBufferAtr
  orRange_bounds : 0 < minOrRangeAtr ∧ 0 < maxOrRangeAtr
  reward_bounds : 0 < takeProfitR ∧ 0 < minRr
  fridayLate_bounds : 12 ≤ fridayLateHourUtc ∧ fridayLateHourUtc ≤ 23
deriving Repr

/-- The parameters when the configuration gives none. -/
def OpeningRangeBreakoutParams.default : OpeningRangeBreakoutParams where
  symbol := "XAUUSD"
  entryTimeframe := .m1
  structureTimeframe := .m5
  sessionStartHourUtc := 7
  sessionEndHourUtc := 16
  volume := 1 / 100
  maxHoldBars := 60
  cooldownBars := 0
  maxTradesPerSession := 1
  openingRangeMinutes := 15
  maxEntryMinutesFromOpen := 90
  atrPeriod := 14
  breakoutBufferAtr := 1 / 10
  stopBufferAtr := 3 / 10
  minOrRangeAtr := 1 / 2
  maxOrRangeAtr := 3
  slMode := .oppositeOr
  tpMode := .orRange
  takeProfitR := 1
  minRr := 4 / 5
  trailing := ⟨4 / 5, 1 / 2, 1 / 100, by norm_num⟩
  skipFridayLate := false
  fridayLateHourUtc := 20
  sessionEnd_bounds := sixteen_sessionEnd
  cadence_bounds := by norm_num
  openingRange_bounds := by decide
  maxEntry_bounds := by decide
  atrPeriod_bounds := fourteen_atrPeriod
  buffers_bounds := by norm_num
  orRange_bounds := by norm_num
  reward_bounds := by norm_num
  fridayLate_bounds := by decide

/-! ### The opening range -/

/-- A frozen range. -/
structure OpeningRange where
  high : ℚ
  low : ℚ
  builtAt : Time
  low_le_high : low ≤ high

def highest (first : Bar) (rest : List Bar) : ℚ :=
  (rest.map Bar.high).foldl max first.high

def lowest (first : Bar) (rest : List Bar) : ℚ :=
  (rest.map Bar.low).foldl min first.low

theorem lowest_le_highest (first : Bar) (rest : List Bar) :
    lowest first rest ≤ highest first rest :=
  calc
    lowest first rest ≤ first.low := (foldl_min_le _ _).1
    _ ≤ first.high := first.low_le_open.trans first.open_le_high
    _ ≤ highest first rest := (foldl_max_ge _ _).1

/-- The range of the bars of a window; without a bar there is none. -/
def openingRange? (window : List Bar) (builtAt : Time) : Option OpeningRange :=
  match window with
  | [] => none
  | first :: rest =>
      some
        { high := highest first rest
          low := lowest first rest
          builtAt := builtAt
          low_le_high := lowest_le_highest first rest }

structure OpeningRangeBreakout where
  book : SessionBook
  /-- `_or_high`, `_or_low` and `_or_built_at`, which are set and reset together -/
  range : Option OpeningRange

namespace OpeningRangeBreakoutParams

variable (params : OpeningRangeBreakoutParams)

def anchor (now : Time) : Time := sessionStart now params.sessionStartHourUtc

/-- Where the window of the opening range ends. -/
def orEnd (now : Time) : Time :=
  params.anchor now + params.openingRangeMinutes * usPerMinute

/-- `_is_friday_late`. -/
def isFridayLate (now : Time) : Bool :=
  decide (weekday (date now) = ForexWeekCalendar.friday ∧
    (params.fridayLateHourUtc : Int) ≤ hour now)

/-- The bars behind which `on_bar` looks at the opening range. -/
def isOpen (now : Time) : Bool :=
  params.inSession now && !(params.skipFridayLate && params.isFridayLate now)

end OpeningRangeBreakoutParams

namespace OpeningRangeBreakout

variable (strategy : OpeningRangeBreakout) (params : OpeningRangeBreakoutParams)

def start : OpeningRangeBreakout := ⟨.create, none⟩

/-- The book at the next entry bar; a new session has no range yet. -/
def nextBar (now : Time) : OpeningRangeBreakout :=
  let book := strategy.book.nextBar params.toScalperCadence now
  { book := book
    range := if strategy.book.sessionKey = book.sessionKey then strategy.range else none }

/-- `_maybe_build_or`. -/
def maybeBuildOr (m1 : Option (List Bar)) (now : Time) : OpeningRangeBreakout :=
  match strategy.range with
  | some _ => strategy
  | none =>
      if now < params.orEnd now then strategy
      else
        match m1 with
        | none => strategy
        | some bars =>
            { strategy with
              range := openingRange?
                (bars.filter fun bar =>
                  decide (params.anchor now ≤ bar.time ∧ bar.time < params.orEnd now))
                (params.orEnd now) }

/-- `_past_max_entry_minutes`; there is a range. -/
def pastMaxEntryMinutes (now : Time) : Bool :=
  decide (params.anchor now + params.maxEntryMinutesFromOpen * usPerMinute ≤ now)

/-- `_compute_sl`. -/
def computeSl (range : OpeningRange) (side : Side) (entry atrValue : ℚ) : ℚ :=
  match params.slMode, side with
  | .oppositeOr, .buy => range.low
  | .oppositeOr, .sell => range.high
  | .orMid, _ => (range.high + range.low) / 2
  | .atr, .buy => entry - params.stopBufferAtr * atrValue
  | .atr, .sell => entry + params.stopBufferAtr * atrValue

/-- `_compute_tp`. -/
def computeTp (side : Side) (entry sl orRange : ℚ) : Option ℚ :=
  match params.tpMode, side with
  | .orRange, .buy => some (entry + orRange)
  | .orRange, .sell => some (entry - orRange)
  | .fixedR, _ | .trailing, _ => riskTarget entry sl side params.takeProfitR

def entryComment : Side → String
  | .buy => "orb_long"
  | .sell => "orb_short"

/-- `_enter_long` and `_enter_short`. -/
def enter (ctx : StrategyContext) (range : OpeningRange) (side : Side) (bar : Bar)
    (atrValue : ℚ) : Except ScalperError (List ScalperEntry) :=
  let entry := bar.close
  let sl := computeSl params range side entry atrValue
  let tp := computeTp params side entry sl (range.high - range.low)
  if rrOk entry sl tp side params.minRr = false then .ok []
  else
    match params.tpMode with
    | .trailing => do
        let manager ← params.trailing.manager params.symbol atrValue
        return [⟨ctx.enter side params.volume sl none (entryComment side), some manager⟩]
    | .orRange | .fixedR =>
        .ok [⟨ctx.enter side params.volume sl tp (entryComment side), none⟩]

/-- The side on which a bar breaks out of a range of the right size, and the last
structure bar with it. -/
def breakoutSide (range : OpeningRange) (bar lastClosedM5 : Bar) (atrValue : ℚ) :
    Option Side :=
  let orRange := range.high - range.low
  let buf := params.breakoutBufferAtr * atrValue
  if orRange < params.minOrRangeAtr * atrValue then none
  else if params.maxOrRangeAtr * atrValue < orRange then none
  else if range.high + buf < bar.close ∧ range.high < lastClosedM5.close then some .buy
  else if bar.close < range.low - buf ∧ lastClosedM5.close < range.low then some .sell
  else none

/-- The end of `on_bar`, once there is a range and the book lets an order pass. -/
def breakout (scene : ScalperScene) (range : OpeningRange) (bar : Bar) :
    Except ScalperError (List ScalperEntry) :=
  match scene.history params.structureTimeframe with
  | none => .ok []
  | some m5Bars =>
      if m5Bars.length < params.atrPeriod + 1 then .ok []
      else
        match StingerFx.atr m5Bars params.atrPeriod, m5Bars.getLast? with
        | .error error, _ => .error (.indicator error)
        | .ok (some atrValue), some lastClosedM5 =>
            match breakoutSide params range bar lastClosedM5 atrValue with
            | none => .ok []
            | some side => enter params scene.ctx range side bar atrValue
        | .ok _, _ => .ok []

def exitReason : String := "orb_time_exit"

def onBar (scene : ScalperScene) (bar : Bar) : ScalperTurn OpeningRangeBreakout :=
  if params.isEntry bar = false then .idle strategy
  else
    let strategy := strategy.nextBar params bar.time
    let closes :=
      strategy.book.timeExits params.toScalperCadence scene.ctx exitReason
    if params.isOpen bar.time = false then ⟨strategy, closes, .ok []⟩
    else
      let strategy :=
        strategy.maybeBuildOr params (scene.history params.entryTimeframe) bar.time
      match strategy.range with
      | none => ⟨strategy, closes, .ok []⟩
      | some range =>
          if strategy.book.mayEnter params.toScalperCadence scene.positions = false ∨
              pastMaxEntryMinutes params bar.time then
            ⟨strategy, closes, .ok []⟩
          else ⟨strategy, closes, breakout params scene range bar⟩

/-! ### A session strategy -/

variable {strategy params} {scene : ScalperScene} {bar : Bar}

theorem maybeBuildOr_book (m1 : Option (List Bar)) (now : Time) :
    (strategy.maybeBuildOr params m1 now).book = strategy.book := by
  unfold maybeBuildOr
  split
  · rfl
  · split
    · rfl
    · split <;> rfl

/-- What `on_bar` does at an entry bar. -/
theorem onBar_cases (own : params.isEntry bar = true) :
    (onBar strategy params scene bar).strategy.book =
        strategy.book.nextBar params.toScalperCadence bar.time ∧
      (onBar strategy params scene bar).closes =
        (strategy.book.nextBar params.toScalperCadence bar.time).timeExits
          params.toScalperCadence scene.ctx exitReason ∧
      ((onBar strategy params scene bar).sent = [] ∨
        ((strategy.book.nextBar params.toScalperCadence bar.time).mayEnter
            params.toScalperCadence scene.positions = true ∧
          ∃ range, (onBar strategy params scene bar).strategy.range = some range ∧
            (onBar strategy params scene bar).entries =
              breakout params scene range bar)) := by
  unfold onBar
  rw [if_neg (by simp [own])]
  dsimp only
  split
  · exact ⟨rfl, rfl, .inl rfl⟩
  · split
    · exact ⟨maybeBuildOr_book _ _, rfl, .inl rfl⟩
    · rename_i range frozen
      split
      · exact ⟨maybeBuildOr_book _ _, rfl, .inl rfl⟩
      · rename_i gates
        refine ⟨maybeBuildOr_book _ _, rfl, .inr ⟨?_, range, frozen, rfl⟩⟩
        have free := (not_or.mp gates).1
        rw [maybeBuildOr_book, Bool.not_eq_false] at free
        exact free

/-- What `enter` sends: an order whose reward is worth its risk, with the stop of the
side. -/
theorem enter_sent {range : OpeningRange} {side : Side} {atrValue : ℚ}
    {entries : List ScalperEntry} {entry : ScalperEntry}
    (sent : enter params scene.ctx range side bar atrValue = .ok entries)
    (member : entry ∈ entries) :
    let sl := computeSl params range side bar.close atrValue
    rrOk bar.close sl (computeTp params side bar.close sl (range.high - range.low)) side
        params.minRr = true ∧
      ∃ tp, entry.signal =
        scene.ctx.enter side params.volume sl tp (entryComment side) := by
  unfold enter at sent
  dsimp only at sent
  split at sent
  · cases sent
    cases member
  · rename_i worth
    refine ⟨by simpa using worth, ?_⟩
    split at sent
    · cases made : params.trailing.manager params.symbol atrValue with
      | error error =>
          rw [made] at sent
          cases sent
      | ok manager =>
          rw [made] at sent
          cases sent
          rw [List.mem_singleton.mp member]
          exact ⟨none, rfl⟩
    all_goals
      cases sent
      rw [List.mem_singleton.mp member]
      exact ⟨_, rfl⟩

/-- A breakout goes one way, or nowhere. -/
theorem breakout_cases {range : OpeningRange} {entries : List ScalperEntry}
    (sent : breakout params scene range bar = .ok entries) :
    entries = [] ∨ ∃ side lastClosedM5 atrValue,
      breakoutSide params range bar lastClosedM5 atrValue = some side ∧
        enter params scene.ctx range side bar atrValue = .ok entries := by
  unfold breakout at sent
  split at sent
  · cases sent
    exact .inl rfl
  · split at sent
    · cases sent
      exact .inl rfl
    · split at sent
      · cases sent
      · rename_i atrValue lastClosedM5 _ _
        split at sent
        · cases sent
          exact .inl rfl
        · rename_i side broke
          exact .inr ⟨side, lastClosedM5, atrValue, broke, sent⟩
      · cases sent
        exact .inl rfl

theorem onBar_symbol (entry : ScalperEntry)
    (member : entry ∈ (onBar strategy params scene bar).sent) :
    entry.signal.symbol = scene.ctx.symbol := by
  cases own : params.isEntry bar with
  | false =>
      unfold onBar at member
      rw [if_pos own] at member
      cases member
  | true =>
      rcases (onBar_cases own).2.2 with none_ | ⟨-, range, -, tried⟩
      · rw [none_] at member
        cases member
      · cases ends : breakout params scene range bar with
        | error error =>
            rw [ScalperTurn.sent, tried, ends] at member
            cases member
        | ok entries =>
            rw [ScalperTurn.sent, tried, ends] at member
            rcases breakout_cases ends with nothing | ⟨side, last, atrValue, -, entered⟩
            · rw [nothing] at member
              cases member
            · obtain ⟨tp, signal⟩ := (enter_sent entered member).2
              rw [signal, StrategyContext.enter_symbol]

/-- The strategy with some parameters. -/
def scalper (params : OpeningRangeBreakoutParams) : SessionScalper where
  State := OpeningRangeBreakout
  cadence := params.toScalperCadence
  exitReason := exitReason
  start := start
  book := book
  onBar scene bar strategy := onBar strategy params scene bar
  onOrderFilled ctx order strategy :=
    { strategy with book := strategy.book.onOrderFilled ctx order }
  onPositionClosed position strategy :=
    { strategy with book := strategy.book.onPositionClosed position }
  book_start := rfl
  book_onOrderFilled _ _ _ := rfl
  book_onPositionClosed _ _ := rfl
  onBar_other _ _ _ other := if_pos other
  book_onBar _ _ _ own := (onBar_cases own).1
  closes_onBar _ _ _ own := (onBar_cases own).2.1
  mayEnter_onBar scene bar strategy sent := by
    cases own : params.isEntry bar with
    | false =>
        unfold onBar at sent
        rw [if_pos own] at sent
        exact absurd rfl sent
    | true =>
        rcases (onBar_cases own).2.2 with none_ | ⟨may, -⟩
        · exact absurd none_ sent
        · exact may
  symbol_onBar _ _ _ := onBar_symbol

end OpeningRangeBreakout

/-! ### The entry feed -/

/-- The bars that a history view keeps. -/
def historyCapacity : Nat := 2000

/-- The strategy and the view of its entry feed, which the runner extends before it
calls the hook. -/
structure OrbFeed where
  view : HistoryView
  strategy : OpeningRangeBreakout
  /-- the entry bars so far; nothing reads it -/
  taken : List Bar

inductive OrbLabel where
  /-- a closed bar of the entry feed, and what else the hook sees -/
  | bar (scene : ScalperScene) (bar : Bar)
  | filled (ctx : StrategyContext) (order : Order)
  | closed (position : Position)

namespace OrbFeed

def boot : OrbFeed := ⟨.create historyCapacity, .start, []⟩

/-- The next bar of a feed opens later than the last, at a whole minute. -/
def Follows (taken : List Bar) (bar : Bar) : Prop :=
  (∀ last ∈ taken.getLast?, last.time < bar.time) ∧ bar.time % usPerMinute = 0

instance (taken : List Bar) (bar : Bar) : Decidable (Follows taken bar) := by
  unfold Follows
  infer_instance

/-- What the hook sees of the bars. -/
def withEntryBars (scene : ScalperScene) (entryTimeframe : Timeframe)
    (bars : List Bar) : ScalperScene :=
  { scene with
    history := fun timeframe =>
      if timeframe = entryTimeframe then some bars else scene.history timeframe }

/-- The state after a step, if the step can happen. -/
def step? (params : OpeningRangeBreakoutParams) (s : OrbFeed) :
    OrbLabel → Option OrbFeed
  | .bar scene bar =>
      if params.isEntry bar ∧ Follows s.taken bar then
        match s.view.appendBar true bar with
        | .error _ => none
        | .ok view =>
            some
              { view := view
                strategy := (s.strategy.onBar params
                  (withEntryBars scene params.entryTimeframe view.bars) bar).strategy
                taken := s.taken ++ [bar] }
      else none
  | .filled ctx order =>
      some
        { s with
          strategy :=
            { s.strategy with book := s.strategy.book.onOrderFilled ctx order } }
  | .closed position =>
      some
        { s with
          strategy :=
            { s.strategy with book := s.strategy.book.onPositionClosed position } }

def Step (params : OpeningRangeBreakoutParams) : OrbFeed → OrbLabel → OrbFeed → Prop :=
  stepOf? (step? params)

end OrbFeed

end StingerFx
