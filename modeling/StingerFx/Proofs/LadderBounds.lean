/-
Module: StingerFx.Proofs.LadderBounds
Layer: Proofs
Purpose: When a ladder is bounded. The manager counts rungs for each ticket, and
  its own fills are tickets too. As long as no own fill reaches a rung of its own,
  each position of the strategy gets at most the configured number of orders.
Trusted boundary: none (fully proved)
Main exports: LadderDesk.OwnRungsRest, LadderDesk.Bounded,
  LadderDesk.ladder_bounded, LadderDesk.two_rungs_bounded,
  LadderDesk.ladder_climbs_itself
-/
import StingerFx.Proofs.PositionView
import StingerFx.Runtime.LadderDesk

namespace StingerFx

open Lib

/-- The position that a modify or a partial close reports. -/
def PositionEvent.leg? : PositionEvent → Option Position
  | .modified position | .partialClosed position => some position
  | .filled _ | .closed _ => none

namespace PositionRunner

variable {runner : PositionRunner}

/-- What one event can do to the view. -/
structure Noticed (runner next : PositionRunner) (event : PositionEvent) :
    Prop where
  magic : next.magic = runner.magic
  tidy : next.Tidy
  /-- only the event's ticket is new -/
  shown : ∀ pos ∈ next.positions, pos ∈ runner.positions ∨
    pos.ticket = event.ticket ∧ (event.kind ≠ .fill → event.leg? = some pos)

theorem noticed_same (tidy : runner.Tidy) (event : PositionEvent) :
    Noticed runner runner event :=
  ⟨rfl, tidy, fun _ member => .inl member⟩

theorem handle_noticed (tidy : runner.Tidy) (event : PositionEvent) :
    Noticed runner (runner.handle event) event := by
  cases active : runner.flags.active with
  | false =>
      rw [handle_idle active]
      exact noticed_same tidy event
  | true =>
      rw [handle_active tidy active]
      cases found : changeOf runner.id runner.magic event with
      | none => exact noticed_same tidy event
      | some change =>
          rcases changeOf_spec found with ⟨named, -, outcome⟩
          have leg : event.kind ≠ .fill → change.outcome = event.leg? := by
            intro other
            cases event with
            | filled order => exact absurd rfl other
            | modified position =>
                simp only [changeOf] at found
                split at found
                · cases found
                  rfl
                · cases found
            | partialClosed position =>
                simp only [changeOf] at found
                split at found
                · cases found
                  rfl
                · cases found
            | closed position =>
                simp only [changeOf] at found
                split at found
                · cases found
                  rfl
                · cases found
          refine ⟨rfl, ?_, ?_⟩
          · apply tidy.changed
            intro position shown
            rw [named]
            exact outcome position shown
          · intro pos member
            rcases List.mem_append.mp member with old | new
            · exact .inl (List.mem_filter.mp old).1
            · have shown := Option.mem_toList.mp new
              refine .inr ⟨(outcome pos shown).1, fun other => ?_⟩
              rw [← leg other]
              exact shown

end PositionRunner

namespace LadderDesk

variable {s s' : LadderDesk} {label : LadderLabel}

/-- At most so many orders for each position of the strategy, and for all of them
together. -/
def Bounded (m : Nat) (s : LadderDesk) : Prop :=
  (∀ ticket ∈ s.opened, s.issued.count ticket ≤ m) ∧
    s.issued.length ≤ s.opened.length * m

/-- No fill of the ladder reaches a rung of its own. -/
def Rests (s : LadderDesk) (tick : Tick) : Prop :=
  ∀ pos ∈ s.runner.positions, pos.symbol = s.manager.symbol →
    pos.ticket ∉ s.opened → ¬ s.manager.Fires tick pos

/-- Own fills rest whenever the manager is called, and nothing brings back a
position that has left the view. -/
def OwnRungsRest (s : LadderDesk) : LadderLabel → Prop
  | .tick tick _ _ =>
      s.runner.flags.active = true → tick.symbol = s.manager.symbol →
        s.Rests tick
  | .notice event =>
      ∀ leg ∈ event.leg?, ∃ pos ∈ s.runner.positions,
        pos.ticket = leg.ticket ∧ pos.symbol = leg.symbol
  | .opens _ | .fills _ _ | .refuses _ | .pause _ => True

/-! ### The invariant -/

/-- The manager's count for a position of the strategy is the number of its orders
as long as the manager remembers it, and it remembers it as long as it is in the
view. -/
structure Counted (m : Nat) (symbol : Symbol) (s : LadderDesk) : Prop where
  most : s.manager.max = m
  feed : s.manager.symbol = symbol
  tidy : s.runner.Tidy
  known : ∀ pos ∈ s.runner.positions, s.origin.get? pos.ticket ≠ none
  remembered : ∀ ticket, s.manager.levels.get? ticket ≠ none →
    s.origin.get? ticket ≠ none
  own : ∀ ticket ∈ s.opened, s.origin.get? ticket = some ticket
  issued : ∀ ticket ∈ s.issued, ticket ∈ s.opened
  bounded : ∀ ticket, s.issued.count ticket ≤ m
  levels : ∀ ticket ∈ s.opened, ∀ level,
    s.manager.levels.get? ticket = some level →
      level = s.issued.count ticket
  fresh : ∀ pos ∈ s.runner.positions, pos.symbol = symbol →
    pos.ticket ∈ s.opened → s.manager.levels.get? pos.ticket = none →
      s.issued.count pos.ticket = 0

theorem counted_boot {ctx : StrategyContext} {magic : Int}
    {manager : LadderManager} (cold : manager.levels = .empty) :
    Counted manager.max manager.symbol (boot ctx magic manager) where
  most := rfl
  feed := rfl
  tidy := PositionTracking.tidy_start ctx.strategyId magic
  known := List.forall_mem_nil _
  remembered := by
    intro ticket there
    have none : (boot ctx magic manager).manager.levels = Dict.empty := cold
    rw [none] at there
    exact absurd rfl there
  own := List.forall_mem_nil _
  issued := List.forall_mem_nil _
  bounded := fun _ => Nat.zero_le _
  levels := List.forall_mem_nil _
  fresh := List.forall_mem_nil _

variable {m : Nat} {symbol : Symbol}

/-- A fill under a new ticket. -/
theorem Counted.filled (counted : Counted m symbol s) {order : Order}
    (fresh : s.origin.get? order.ticket = none) (target : Ticket)
    (underWay : List LadderEntry) {opened : List Ticket}
    (grown : ∀ ticket ∈ opened, ticket ∈ s.opened ∨
      ticket = order.ticket ∧ target = order.ticket)
    (kept : ∀ ticket ∈ s.opened, ticket ∈ opened) :
    Counted m symbol
      { s with
        runner := s.runner.handle (.filled order)
        underWay := underWay
        origin := s.origin.set order.ticket target
        opened := opened } := by
  have noticed := PositionRunner.handle_noticed counted.tidy (.filled order)
  have unissued : s.issued.count order.ticket = 0 := by
    apply List.count_eq_zero.mpr
    intro member
    have own := counted.own _ (counted.issued _ member)
    rw [fresh] at own
    cases own
  have unknown : s.manager.levels.get? order.ticket = none := by
    by_contra there
    exact counted.remembered _ there fresh
  exact
    { most := counted.most
      feed := counted.feed
      tidy := noticed.tidy
      known := by
        intro pos member
        dsimp only
        rw [Dict.get?_set]
        split
        · simp
        · rename_i other
          rcases noticed.shown pos member with old | ⟨new, -⟩
          · exact counted.known pos old
          · exact absurd new other
      remembered := by
        intro ticket there
        dsimp only
        rw [Dict.get?_set]
        split
        · simp
        · exact counted.remembered ticket there
      own := by
        intro ticket member
        dsimp only
        rw [Dict.get?_set]
        rcases grown ticket member with old | ⟨new, own⟩
        · split
          · rename_i same
            subst same
            have there := counted.own _ old
            rw [fresh] at there
            cases there
          · exact counted.own ticket old
        · rw [if_pos new, own, new]
      issued := fun ticket member => kept _ (counted.issued ticket member)
      bounded := counted.bounded
      levels := by
        intro ticket member level stored
        rcases grown ticket member with old | ⟨new, -⟩
        · exact counted.levels ticket old level stored
        · subst new
          dsimp only at stored
          rw [unknown] at stored
          cases stored
      fresh := by
        intro pos member watched own cold
        rcases grown pos.ticket own with old | ⟨new, -⟩
        · rcases noticed.shown pos member with before | ⟨same, -⟩
          · exact counted.fresh pos before watched old cold
          · have same' : pos.ticket = order.ticket := same
            dsimp only
            rw [same']
            exact unissued
        · dsimp only
          rw [new]
          exact unissued }

/-- Another event about a position that is in the view. -/
theorem Counted.noticed (counted : Counted m symbol s) {event : PositionEvent}
    (other : event.kind ≠ .fill) (fits : OwnRungsRest s (.notice event)) :
    Counted m symbol { s with runner := s.runner.handle event } := by
  have noticed := PositionRunner.handle_noticed counted.tidy event
  -- what is shown was shown before, with the same symbol
  have before : ∀ pos ∈ (s.runner.handle event).positions,
      ∃ old ∈ s.runner.positions, old.ticket = pos.ticket ∧
        old.symbol = pos.symbol := by
    intro pos member
    rcases noticed.shown pos member with old | ⟨-, leg⟩
    · exact ⟨pos, old, rfl, rfl⟩
    · exact fits pos (leg other)
  exact
    { counted with
      tidy := noticed.tidy
      known := by
        intro pos member
        rcases before pos member with ⟨old, there, same, -⟩
        rw [← same]
        exact counted.known old there
      fresh := by
        intro pos member watched own cold
        rcases before pos member with ⟨old, there, same, sameSymbol⟩
        rw [← same] at own cold ⊢
        exact counted.fresh old there (sameSymbol.trans watched) own cold }

/-- The manager's count for a position of the strategy in the view. -/
theorem Counted.levelOf (counted : Counted m symbol s) {pos : Position}
    (there : pos ∈ s.runner.positions) (watched : pos.symbol = symbol)
    (own : pos.ticket ∈ s.opened) :
    s.manager.levelOf pos.ticket = s.issued.count pos.ticket := by
  rw [LadderManager.levelOf, Dict.getD]
  cases stored : s.manager.levels.get? pos.ticket with
  | none =>
      rw [counted.fresh pos there watched own stored]
      rfl
  | some level =>
      rw [← counted.levels _ own level stored]
      rfl

/-- Every order of a tick is for a position of the strategy that still has a rung. -/
theorem Counted.mine (counted : Counted m symbol s) {tick : Tick}
    (rests : s.Rests tick) {m' : LadderManager} {entries : List LadderEntry}
    (all : s.manager.VisitedAll m' tick
      (s.manager.watched s.runner.positions) entries) :
    ∀ rung ∈ entries.map LadderEntry.rung,
      rung ∈ s.opened ∧ s.issued.count rung < m := by
  intro rung member
  rcases all.fired rung member with ⟨pos, inside, rfl, fires⟩
  rcases List.mem_filter.mp inside with ⟨there, same⟩
  have watched : pos.symbol = s.manager.symbol := of_decide_eq_true same
  have own : pos.ticket ∈ s.opened := by
    by_contra foreign
    exact rests pos there watched foreign fires
  refine ⟨own, ?_⟩
  have below := fires.1
  rw [LadderManager.levelOf, Dict.getD, s.manager.register_levelOf pos] at below
  rw [← counted.levelOf there (watched.trans counted.feed) own, ← counted.most]
  exact below

/-- The counts after a tick's orders. -/
theorem Counted.visited (counted : Counted m symbol s) {tick : Tick}
    (rests : s.Rests tick) {m' : LadderManager} {entries : List LadderEntry} (ctx : StrategyContext)
    (all : s.manager.VisitedAll m' tick
      (s.manager.watched s.runner.positions) entries) :
    Counted m symbol
      { s with
        ctx := ctx
        manager :=
          m'.purge
            ((s.manager.watched s.runner.positions).map Position.ticket)
        underWay := s.underWay ++ entries
        issued := s.issued ++ entries.map LadderEntry.rung } := by
  have mine := counted.mine rests all
  have shown : ∀ pos ∈ s.manager.watched s.runner.positions,
      pos ∈ s.runner.positions ∧ pos.symbol = symbol := by
    intro pos member
    rcases List.mem_filter.mp member with ⟨there, same⟩
    exact ⟨there, (of_decide_eq_true same).trans counted.feed⟩
  exact
    { most := all.kept.max.trans counted.most
      feed := all.kept.symbol.trans counted.feed
      tidy := counted.tidy
      known := counted.known
      remembered := by
        intro ticket there
        dsimp only at there
        rw [LadderManager.purge_get?] at there
        split at there
        · rename_i inside
          rcases List.mem_map.mp inside with ⟨pos, member, rfl⟩
          exact counted.known pos (shown pos member).1
        · exact absurd rfl there
      own := counted.own
      issued := by
        intro ticket member
        rcases List.mem_append.mp member with old | new
        · exact counted.issued ticket old
        · exact (mine ticket new).1
      bounded := by
        intro ticket
        dsimp only
        rw [List.count_append]
        by_cases new : ticket ∈ entries.map LadderEntry.rung
        · have below := (mine ticket new).2
          have once : (entries.map LadderEntry.rung).count ticket ≤ 1 :=
            List.nodup_iff_count_le_one.mp all.single _
          omega
        · rw [List.count_eq_zero.mpr new]
          exact counted.bounded ticket
      levels := by
        intro ticket own level stored
        dsimp only at stored ⊢
        rw [LadderManager.purge_get?] at stored
        split at stored
        · rename_i inside
          rw [all.visited ticket inside] at stored
          cases stored
          rcases List.mem_map.mp inside with ⟨pos, member, rfl⟩
          rcases shown pos member with ⟨there, watched⟩
          rw [counted.levelOf there watched own, List.count_append]
        · cases stored
      fresh := by
        intro pos member same own cold
        dsimp only at cold
        have inside : pos ∈ s.manager.watched s.runner.positions :=
          List.mem_filter.mpr
            ⟨member, decide_eq_true (same.trans counted.feed.symm)⟩
        have there : pos.ticket ∈ (s.manager.watched s.runner.positions).map
            Position.ticket := List.mem_map_of_mem inside
        rw [LadderManager.purge_get?, if_pos there, all.visited _ there] at cold
        cases cold }

/-- The manager's turn, when no own fill reaches a rung. -/
theorem Counted.tick (counted : Counted m symbol s) {tick : Tick} {now : Time}
    {lastPrice : Option ℚ} (fits : OwnRungsRest s (.tick tick now lastPrice)) :
    Counted m symbol
      ({ s with
        ctx := { s.ctx with now := now, lastPrice := lastPrice } }.runManager
          tick) := by
  unfold runManager
  dsimp only
  split
  · rename_i active
    unfold LadderManager.onTick
    split
    · simpa using { counted with }
    · rename_i mine
      have rests := fits active (not_not.mp mine)
      have single : ((s.manager.watched s.runner.positions).map
          Position.ticket).Nodup :=
        counted.tidy.single.sublist (List.filter_sublist.map _)
      have all := LadderManager.visitAll_spec
        { s.ctx with now := now, lastPrice := lastPrice } tick _ s.manager single
      have origins : (LadderManager.visitAll
          { s.ctx with now := now, lastPrice := lastPrice } tick s.manager
          (s.manager.watched s.runner.positions)).2.map
            (fun entry => originOf s.origin entry.rung) =
          (LadderManager.visitAll
            { s.ctx with now := now, lastPrice := lastPrice } tick s.manager
            (s.manager.watched s.runner.positions)).2.map LadderEntry.rung := by
        apply List.map_congr_left
        intro entry member
        have own := counted.own _
          (counted.mine rests all _ (List.mem_map_of_mem member)).1
        rw [originOf, Dict.getD, own]
        rfl
      have after := counted.visited rests
        { s.ctx with now := now, lastPrice := lastPrice } all
      rw [← origins] at after
      exact after
  · exact { counted with }

theorem Counted.step (counted : Counted m symbol s) (fits : OwnRungsRest s label)
    (taken : Step s label s') : Counted m symbol s' := by
  simp only [Step, stepOf?] at taken
  cases label with
  | opens order =>
      simp only [step?] at taken
      split at taken
      · rename_i allowed
        cases taken
        apply counted.filled allowed.1 order.ticket s.underWay
        · intro ticket member
          rcases List.mem_append.mp member with old | new
          · exact .inl old
          · exact .inr ⟨List.mem_singleton.mp new, rfl⟩
        · exact fun ticket member => List.mem_append_left _ member
      · cases taken
  | fills index order =>
      simp only [step?] at taken
      cases there : s.underWay[index]? with
      | none => simp [there] at taken
      | some entry =>
          simp only [there] at taken
          split at taken
          · rename_i allowed
            cases taken
            exact counted.filled allowed.1 (originOf s.origin entry.rung)
              (s.underWay.eraseIdx index) (fun _ => .inl) (fun _ => id)
          · cases taken
  | refuses index =>
      simp only [step?] at taken
      split at taken
      · cases taken
        exact { counted with }
      · cases taken
  | notice event =>
      simp only [step?] at taken
      split at taken
      · cases taken
      · rename_i other
        cases taken
        exact counted.noticed other fits
  | pause paused =>
      simp only [step?] at taken
      cases taken
      exact
        { counted with
          tidy := ⟨counted.tidy.own, counted.tidy.single⟩ }
  | tick tick now lastPrice =>
      simp only [step?] at taken
      cases taken
      exact counted.tick fits

/-- Orders for positions of the strategy, so many for each, are so many in all. -/
theorem Counted.total (counted : Counted m symbol s) : Bounded m s := by
  refine ⟨fun ticket _ => counted.bounded ticket, ?_⟩
  calc s.issued.length
      = ∑ ticket ∈ s.issued.toFinset, s.issued.count ticket :=
        (List.sum_toFinset_count_eq_length s.issued).symm
    _ ≤ s.issued.toFinset.card * m := by
        apply Finset.sum_le_card_nsmul
        exact fun ticket _ => counted.bounded ticket
    _ ≤ s.opened.length * m := by
        apply Nat.mul_le_mul_right
        have subset : s.issued.toFinset ⊆ s.opened.toFinset := by
          intro ticket member
          exact List.mem_toFinset.mpr
            (counted.issued ticket (List.mem_toFinset.mp member))
        exact (Finset.card_le_card subset).trans s.opened.toFinset_card_le

theorem create_spec {ctxSymbol : Symbol} {stepPips : ℚ} {maxLevels : Int}
    {levelVolume : ℚ} {only : Option Symbol} {point : ℚ}
    {manager : LadderManager}
    (made : LadderManager.create ctxSymbol stepPips maxLevels levelVolume only
      point = .ok manager) :
    manager.levels = .empty ∧ manager.max = maxLevels.toNat := by
  unfold LadderManager.create at made
  split at made
  · cases made
  · split at made
    · cases made
    · split at made
      · cases made
      · cases made
        exact ⟨rfl, rfl⟩

/-- For every run of ticks, fills, refusals and other events. -/
theorem ladder_bounded {ctx : StrategyContext} {magic : Int} {stepPips : ℚ}
    {maxLevels : Int} {levelVolume : ℚ} {only : Option Symbol} {point : ℚ}
    {manager : LadderManager} {labels : List LadderLabel}
    (made : LadderManager.create ctx.symbol stepPips maxLevels levelVolume only
      point = .ok manager)
    (run : Run (Guarded OwnRungsRest Step) (boot ctx magic manager) labels s) :
    Bounded maxLevels.toNat s := by
  rcases create_spec made with ⟨cold, levels⟩
  have counted : Counted manager.max manager.symbol s :=
    run.invariant (counted_boot cold) fun taken counted =>
      counted.step taken.1 taken.2
  rw [← levels]
  exact counted.total

/-! ### A ladder of two rungs, and one that climbs itself -/

instance (s : LadderDesk) (tick : Tick) : Decidable (s.Rests tick) := by
  unfold Rests
  infer_instance

instance (s : LadderDesk) (label : LadderLabel) :
    Decidable (OwnRungsRest s label) := by
  cases label <;> unfold OwnRungsRest <;> infer_instance

/-- Buy orders are filled at a price. -/
def boughtAt (ticket : Ticket) (price : ℚ) : Order where
  ticket := ticket
  strategyId := "trend"
  symbol := "EURUSD"
  side := .buy
  type := .market
  volume := 1
  filledVolume := 1
  price := none
  fillPrice := some price
  sl := none
  tp := none
  status := .filled
  comment := ""
  magic := 7
  clientOrderId := ""
  requestedAt := none
  filledAt := some 0
  volume_pos := one_quote_pos

def priceAt (bid : ℚ) (bid_pos : 0 < bid) : LadderLabel :=
  .tick
    { symbol := "EURUSD"
      time := 0
      bid := bid
      ask := bid
      bid_pos := bid_pos
      ask_pos := bid_pos } 0 none

def trendCtx : StrategyContext := ⟨"trend", "EURUSD", 0, none⟩

/-- Steps of ten, and so many rungs. -/
def tenStep (maxLevels : Int) : Except LadderError LadderManager :=
  LadderManager.create trendCtx.symbol 10 maxLevels 1 none 1

theorem tenStep_of_toOption {maxLevels : Int} {manager : LadderManager}
    (made : (tenStep maxLevels).toOption = some manager) :
    tenStep maxLevels = .ok manager := by
  cases result : tenStep maxLevels with
  | error _ => simp [result, Except.toOption] at made
  | ok other =>
      simp only [result, Except.toOption, Option.some_inj] at made
      rw [made]

/-- Two rungs of the position at 100; the fills at 112 and 121 are never ten
better off. -/
def twoRungs : List LadderLabel :=
  [.opens (boughtAt 1 100), priceAt 110 (by decide), .fills 0 (boughtAt 2 112),
    priceAt 121 (by decide), .fills 0 (boughtAt 3 121),
    priceAt 121 (by decide)]

theorem two_rungs_bounded :
    ∃ s : LadderDesk, s.issued = [1, 1] ∧ Bounded 2 s := by
  have reached : ((tenStep 2).toOption.bind fun manager =>
      (replay? OwnRungsRest step? (boot trendCtx 7 manager) twoRungs).map
        LadderDesk.issued) = some [1, 1] := by
    decide +kernel
  rcases Option.bind_eq_some_iff.mp reached with ⟨manager, made, replayed⟩
  rcases Option.map_eq_some_iff.mp replayed with ⟨s, through, issued⟩
  have made' : LadderManager.create trendCtx.symbol 10 2 1 none 1 =
      .ok manager := tenStep_of_toOption made
  exact ⟨s, issued, ladder_bounded made' (run_of_replay? through)⟩

/-- One rung for the position at 100; its fill at 110 is a new ticket. -/
def climbing : List LadderLabel :=
  [.opens (boughtAt 1 100), priceAt 110 (by decide), .fills 0 (boughtAt 2 110),
    priceAt 120 (by decide)]

/-- The second order adds to the same position, where one was allowed. -/
theorem ladder_climbs_itself :
    ¬ ∀ (ctx : StrategyContext) (magic : Int) (stepPips : ℚ) (maxLevels : Int)
        (levelVolume : ℚ) (only : Option Symbol) (point : ℚ)
        (manager : LadderManager) (labels : List LadderLabel) (s : LadderDesk),
        LadderManager.create ctx.symbol stepPips maxLevels levelVolume only
          point = .ok manager →
        Run Step (boot ctx magic manager) labels s →
        Bounded maxLevels.toNat s := by
  intro claim
  have reached : ((tenStep 1).toOption.bind fun manager =>
      (replay? (fun _ _ => True) step? (boot trendCtx 7 manager) climbing).map
        LadderDesk.issued) = some [1, 1] ∧
      ((tenStep 1).toOption.bind fun manager =>
        (replay? (fun _ _ => True) step? (boot trendCtx 7 manager) climbing).map
          LadderDesk.opened) = some [1] := by
    decide +kernel
  rcases Option.bind_eq_some_iff.mp reached.1 with ⟨manager, made, replayed⟩
  rcases Option.map_eq_some_iff.mp replayed with ⟨s, through, issued⟩
  have made' : LadderManager.create trendCtx.symbol 10 1 1 none 1 =
      .ok manager := tenStep_of_toOption made
  have opened : s.opened = [1] := by
    have same := reached.2
    rw [made, Option.bind_some, through, Option.map_some, Option.some_inj] at same
    exact same
  have bounded := claim trendCtx 7 10 1 1 none 1 manager climbing s made'
    (run_of_replay? through).unguard
  have total := bounded.2
  rw [issued, opened] at total
  exact absurd total (by decide)

end LadderDesk

end StingerFx
