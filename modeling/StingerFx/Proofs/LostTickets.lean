/-
Module: StingerFx.Proofs.LostTickets
Layer: Proofs
Purpose: What a scalper that follows one ticket loses sight of. A fill displaces the
  ticket that was held only where an order was sent while another one was under way;
  a ticket that was displaced is never asked to be closed. Behind a close the strategy
  waits out its cooldown, and while it holds a ticket it sends nothing, even if the
  position was closed before its fill came by.
Trusted boundary: none (fully proved)
Main exports: TicketDesk.Followed, TicketDesk.losses_bounded, TicketDesk.held_silences
-/
import StingerFx.Proofs.SessionCaps
import StingerFx.Strategies.Examples.OneTicketScalpers

namespace StingerFx

open Lib

namespace TicketDesk

variable {scalper : TicketScalper} {s s' : TicketDesk scalper} {label : TicketLabel}

/-- The ticket that the strategy holds. -/
def held (s : TicketDesk scalper) : Option Ticket := (scalper.book s.strategy).ticket

/-- What it knows of its tickets, and what it asked for. -/
structure Followed (s : TicketDesk scalper) : Prop where
  known : ∀ ticket, s.held = some ticket ∨ ticket ∈ s.lost → ticket ∈ s.filled
  apart : ∀ ticket, s.held = some ticket → ticket ∉ s.lost
  few : s.lost.length ≤ s.overlapped
  /-- each order under way, the held ticket and each lost one are the trace of an order
  that overlapped, but for one of them -/
  room : s.orders.length + s.held.toList.length + s.lost.length ≤ 1 + s.overlapped
  asks : ∀ request ∈ s.closes, request.ticket ∉ s.lost
  cools : ∀ bars, s.sinceClose = some bars →
    scalper.cadence.cooldownBars ≤ (scalper.book s.strategy).cooldownLeft + bars
  waited : ∀ gap ∈ s.gaps, scalper.cadence.cooldownBars ≤ gap

theorem followed_boot (id : StrategyId) : (boot scalper id).Followed := by
  have nothing : (boot scalper id).held = none := by
    unfold held boot
    rw [scalper.book_start]
    rfl
  constructor
  · rintro ticket (holds | lost)
    · rw [nothing] at holds
      cases holds
    · cases lost
  · intro ticket holds
    rw [nothing] at holds
    cases holds
  · exact Nat.le_refl _
  · rw [nothing]
    exact Nat.zero_le _
  · intro request asked
    cases asked
  · intro bars since
    cases since
  · intro gap member
    cases member

/-! ### Steps -/

theorem held_turned (scene : TicketScene) (bar : Bar) :
    (s.turned bar (scalper.onBar scene bar s.strategy)).held = s.held := by
  have kept := (scalper.held_onBar scene bar s.strategy).1
  exact congrArg (Option.map Prod.fst) kept

theorem Followed.turned (followed : s.Followed) (scene : TicketScene) (bar : Bar) :
    (s.turned bar (scalper.onBar scene bar s.strategy)).Followed where
  known := by
    rw [held_turned]
    exact followed.known
  apart := by
    rw [held_turned]
    exact followed.apart
  few := followed.few
  room := by
    rw [held_turned]
    exact followed.room
  asks := fun request asked =>
    followed.apart _ (scalper.closes_onBar scene bar s.strategy request asked)
  cools := by
    intro bars since
    dsimp only [TicketDesk.turned] at since ⊢
    split at since
    · obtain ⟨before, then_, rfl⟩ := Option.map_eq_some_iff.mp since
      have cooled := followed.cools before then_
      have left := (scalper.held_onBar scene bar s.strategy).2
      omega
    · rename_i other
      rw [scalper.onBar_other scene bar s.strategy (by simpa using other)]
      exact followed.cools bars since
  waited := followed.waited

/-- An order is sent while nothing is held, behind the cooldown. -/
theorem Followed.sends (followed : s.Followed) (signal : Signal) (flat : s.held = none)
    (cooled : ∀ bars, s.sinceClose = some bars → scalper.cadence.cooldownBars ≤ bars) :
    (s.sends signal).Followed := by
  have room := followed.room
  have few := followed.few
  have holds : (s.sends signal).held = none := flat
  constructor
  · exact followed.known
  · exact followed.apart
  · refine few.trans ?_
    unfold TicketDesk.sends
    dsimp only
    split <;> omega
  · rw [holds]
    unfold TicketDesk.sends
    rw [flat] at room
    simp only [Option.toList_none, List.length_nil, List.length_append,
      List.length_singleton] at room ⊢
    split
    · rename_i none_
      rw [none_]
      simp only [List.length_nil]
      omega
    · omega
  · exact followed.asks
  · exact followed.cools
  · intro gap member
    rcases List.mem_append.mp member with now | old
    · exact cooled gap (Option.mem_toList.mp now)
    · exact followed.waited gap old

theorem Followed.bar (followed : s.Followed) {scene : TicketScene} {bar : Bar}
    (taken : Step s (.bar scene bar) s') : s'.Followed := by
  have turned := followed.turned scene bar
  simp only [Step, stepOf?, step?] at taken
  split at taken
  · cases taken
    exact turned
  · rename_i signal sent
    cases taken
    have fires : (scalper.onBar scene bar s.strategy).sent ≠ none := by
      rw [sent]
      exact Option.some_ne_none _
    obtain ⟨flat, cool⟩ := scalper.flat_onBar scene bar s.strategy fires
    apply turned.sends signal
    · rw [held_turned, held, TicketBook.ticket, flat]
      rfl
    · intro bars since
      dsimp only [TicketDesk.turned] at since
      have cooled := followed.cools
      rw [cool] at cooled
      split at since
      · obtain ⟨before, then_, rfl⟩ := Option.map_eq_some_iff.mp since
        have enough := cooled before then_
        omega
      · simpa using cooled bars since

theorem held_filled {ctx : StrategyContext} {order : Order} (fill : s.FillOf ctx order) :
    (scalper.book (scalper.onOrderFilled ctx order s.strategy)).ticket =
        some order.ticket ∧
      (scalper.book (scalper.onOrderFilled ctx order s.strategy)).cooldownLeft =
        (scalper.book s.strategy).cooldownLeft := by
  obtain ⟨own, mine, some_, -⟩ := fill
  rw [scalper.book_onOrderFilled, TicketBook.onOrderFilled,
    if_pos ⟨mine.trans own.symm, some_⟩]
  exact ⟨rfl, rfl⟩

theorem Followed.filled (followed : s.Followed) {index : Nat} {ctx : StrategyContext}
    {order : Order} (taken : Step s (.filled index ctx order) s') : s'.Followed := by
  simp only [Step, stepOf?, step?] at taken
  split at taken
  · rename_i allowed
    obtain ⟨inside, fill⟩ := allowed
    obtain ⟨holds, left⟩ := held_filled fill
    have fresh := fill.2.2.2
    have room := followed.room
    have few := followed.few
    cases taken
    have erased : (s.orders.eraseIdx index).length + 1 = s.orders.length := by
      rw [List.length_eraseIdx_of_lt inside]
      omega
    have displaced : ∀ ticket, ticket ∈ s.held.toList ++ s.lost →
        ticket ∈ s.filled := by
      intro ticket member
      rcases List.mem_append.mp member with now | old
      · exact followed.known ticket (.inl (Option.mem_toList.mp now))
      · exact followed.known ticket (.inr old)
    constructor
    · rintro ticket (now | old)
      · rw [held, holds] at now
        exact List.mem_cons.mpr (.inl (Option.some.inj now).symm)
      · exact List.mem_cons_of_mem _ (displaced ticket old)
    · intro ticket now member
      rw [held, holds] at now
      rw [← Option.some.inj now] at member
      exact fresh (displaced _ member)
    · change (s.held.toList ++ s.lost).length ≤ s.overlapped
      rw [List.length_append]
      omega
    · change (s.orders.eraseIdx index).length + _ + (s.held.toList ++ s.lost).length ≤ _
      rw [held, holds, List.length_append, Option.toList_some, List.length_singleton]
      dsimp only
      omega
    · intro request asked
      cases asked
    · intro bars since
      dsimp only
      rw [left]
      exact followed.cools bars since
    · exact followed.waited
  · cases taken

theorem Followed.missed (followed : s.Followed) {index : Nat}
    (taken : Step s (.missed index) s') : s'.Followed := by
  simp only [Step, stepOf?, step?] at taken
  split at taken
  · rename_i inside
    cases taken
    refine { followed with room := ?_ }
    have room := followed.room
    have fewer := List.length_eraseIdx_le s.orders index
    change (s.orders.eraseIdx index).length + s.held.toList.length + s.lost.length ≤
      1 + s.overlapped
    omega
  · cases taken

theorem Followed.closed (followed : s.Followed) {position : Position}
    (taken : Step s (.closed position) s') : s'.Followed := by
  cases taken
  have book := scalper.book_onPositionClosed position s.strategy
  by_cases same : s.held = some position.ticket
  · have gone : scalper.book (scalper.onPositionClosed position s.strategy) =
        ⟨none, 0, scalper.cadence.cooldownBars⟩ := by
      rw [book]
      exact if_pos same
    have nothing : ∀ ticket, ¬ (TicketBook.mk none 0
        scalper.cadence.cooldownBars).ticket = some ticket := by
      intro ticket holds
      cases holds
    have room := followed.room
    constructor
    · rintro ticket (now | old)
      · rw [held, gone] at now
        exact absurd now (nothing ticket)
      · exact followed.known ticket (.inr old)
    · intro ticket now
      rw [held, gone] at now
      exact absurd now (nothing ticket)
    · exact followed.few
    · rw [held, gone]
      change s.orders.length + 0 + s.lost.length ≤ _
      dsimp only
      omega
    · intro request asked
      cases asked
    · intro bars since
      change (if s.held = some position.ticket then some 0 else s.sinceClose) =
        some bars at since
      rw [if_pos same] at since
      rw [gone, ← Option.some.inj since]
      exact Nat.le_refl _
    · exact followed.waited
  · have kept : scalper.book (scalper.onPositionClosed position s.strategy) =
        scalper.book s.strategy := by
      rw [book]
      exact if_neg same
    constructor
    · rw [held, kept]
      exact followed.known
    · rw [held, kept]
      exact followed.apart
    · exact followed.few
    · rw [held, kept]
      exact followed.room
    · intro request asked
      cases asked
    · intro bars since
      change (if s.held = some position.ticket then some 0 else s.sinceClose) =
        some bars at since
      rw [if_neg same] at since
      rw [kept]
      exact followed.cools bars since
    · exact followed.waited

theorem Followed.tick (followed : s.Followed) {tick : SizedTick}
    (taken : Step s (.tick tick) s') : s'.Followed := by
  cases taken
  have kept := scalper.book_onTick tick s.strategy
  constructor
  · rw [held, kept]
    exact followed.known
  · rw [held, kept]
    exact followed.apart
  · exact followed.few
  · rw [held, kept]
    exact followed.room
  · intro request asked
    cases asked
  · dsimp only
    rw [kept]
    exact followed.cools
  · exact followed.waited

theorem Followed.step (followed : s.Followed) (taken : Step s label s') :
    s'.Followed := by
  cases label with
  | tick tick => exact followed.tick taken
  | bar scene bar => exact followed.bar taken
  | filled index ctx order => exact followed.filled taken
  | missed index => exact followed.missed taken
  | closed position => exact followed.closed taken

/-- However ticks, bars, fills, closes and refusals interleave: a scalper loses sight of
no more tickets than orders that it sent while another one was under way, it never asks
to close a ticket that it lost, and no order follows a close within the cooldown. -/
theorem losses_bounded {id : StrategyId} {labels : List TicketLabel}
    (run : Run Step (boot scalper id) labels s) :
    s.lost.length ≤ s.overlapped ∧ (∀ request ∈ s.closes, request.ticket ∉ s.lost) ∧
      ∀ gap ∈ s.gaps, scalper.cadence.cooldownBars ≤ gap := by
  have followed : s.Followed :=
    run.invariant (P := fun s => s.Followed) (followed_boot id) fun taken before =>
      before.step taken
  exact ⟨followed.few, followed.asks, followed.waited⟩

/-! Two bars close beyond the channel before the fill of the first order comes by: the
second fill displaces the ticket of the first, and only the second is closed when it is
held too long. -/

/-- Quiet bars, and one that breaks out. -/
def risingView (timeframe : Timeframe) : HistoryView where
  capacity := 64
  bars := List.replicate 51 (ScalperDesk.quietGold timeframe 0) ++
    [ScalperDesk.breakingGold timeframe 10]
  inc := .empty

def goldScene : TicketScene where
  ctx := ⟨"s1", "XAUUSD", 0, none⟩
  views
    | .m1 => some (risingView .m1)
    | .m5 => some (risingView .m5)
    | _ => none

def breakout (minute : Int) : TicketLabel :=
  .bar goldScene (ScalperDesk.breakingGold .m1 minute)

def goldFill (ticket : Ticket) : TicketLabel :=
  .filled 0 goldScene.ctx { ScalperDesk.goldOrder with ticket := ticket }

def twoFills : List TicketLabel :=
  [breakout 15, breakout 16, goldFill 5, goldFill 6] ++ List.replicate 30 (breakout 17)

theorem twoFills_lose :
    (replay? (fun _ _ => True) step? (boot (MomentumBreakout.scalper .default) "s1")
      twoFills).map
        (fun s => (s.lost, s.overlapped, s.closes.map ClosePositionRequest.ticket)) =
          some ([5], 1, [6]) := by
  decide +kernel

theorem twoFills_bounded :
    ∃ s : TicketDesk (MomentumBreakout.scalper .default),
      (s.lost = [5] ∧ s.overlapped = 1 ∧ s.closes.map ClosePositionRequest.ticket = [6]) ∧
        s.lost.length ≤ s.overlapped ∧
        (∀ request ∈ s.closes, request.ticket ∉ s.lost) ∧
        ∀ gap ∈ s.gaps,
          (MomentumBreakout.scalper .default).cadence.cooldownBars ≤ gap := by
  rcases Option.map_eq_some_iff.mp twoFills_lose with ⟨s, reached, seen⟩
  simp only [Prod.mk.injEq] at seen
  exact ⟨s, seen, losses_bounded (run_of_replay? reached).unguard⟩

/-! ### A ticket that is not let go -/

/-- The close hook of a ticket. -/
def Closes (ticket : Ticket) : TicketLabel → Prop
  | .closed position => position.ticket = ticket
  | _ => False

instance (ticket : Ticket) (label : TicketLabel) : Decidable (Closes ticket label) := by
  unfold Closes
  split <;> infer_instance

/-- A step that is not the close of the ticket that is held, while nothing is under
way. -/
theorem holds_on {ticket : Ticket} (holds : s.held = some ticket)
    (alone : s.orders = []) (other : ¬ Closes ticket label) (taken : Step s label s') :
    s'.held = some ticket ∧ s'.orders = [] ∧ s'.sent = s.sent := by
  cases label with
  | tick tick =>
      cases taken
      refine ⟨?_, alone, rfl⟩
      rw [held, scalper.book_onTick]
      exact holds
  | bar scene bar =>
      have silent : (scalper.onBar scene bar s.strategy).sent = none := by
        by_contra fires
        have flat := (scalper.flat_onBar scene bar s.strategy fires).1
        rw [held, TicketBook.ticket, flat] at holds
        cases holds
      simp only [Step, stepOf?, step?, silent] at taken
      rw [← Option.some.inj taken]
      exact ⟨(held_turned scene bar).trans holds, alone, rfl⟩
  | filled index ctx order =>
      simp [Step, stepOf?, step?, alone] at taken
  | missed index =>
      simp [Step, stepOf?, step?, alone] at taken
  | closed position =>
      cases taken
      refine ⟨?_, alone, rfl⟩
      have apart : s.held ≠ some position.ticket := by
        rw [holds]
        exact fun same => other (Option.some.inj same).symm
      rw [held, scalper.book_onPositionClosed, TicketBook.onPositionClosed]
      exact (congrArg TicketBook.ticket (if_neg apart)).trans holds

/-- While a scalper holds a ticket and nothing is under way, it sends nothing until a
close hook of this ticket runs; where the close hook ran before the fill hook, it holds
a ticket that is closed already, and waits for another close of it. -/
theorem held_silences {ticket : Ticket} {labels : List TicketLabel}
    (holds : s.held = some ticket) (alone : s.orders = [])
    (open_ : ∀ label ∈ labels, ¬ Closes ticket label) (run : Run Step s labels s') :
    s'.sent = s.sent ∧ s'.held = some ticket := by
  induction run with
  | refl s => exact ⟨rfl, holds⟩
  | step head tail ih =>
      obtain ⟨still, none_, same⟩ :=
        holds_on holds alone (open_ _ List.mem_cons_self) head
      obtain ⟨later, held_⟩ := ih still none_ fun label member =>
        open_ label (List.mem_cons_of_mem _ member)
      exact ⟨later.trans same, held_⟩

/-! The close of a position is handled before its fill. -/

def closedThenFilled : List TicketLabel :=
  [breakout 15, .closed ScalperDesk.goldPosition, goldFill 5]

def tenBreakouts : List TicketLabel := List.replicate 10 (breakout 20)

theorem closedThenFilled_stuck :
    (replay? (fun _ _ => True) step? (boot (MomentumBreakout.scalper .default) "s1")
      closedThenFilled).map
        (fun s => ((s.held, s.orders, s.sent),
          (replay? (fun _ _ => True) step? s tenBreakouts).isSome)) =
      some ((some 5, [], 1), true) := by
  decide +kernel

theorem closedThenFilled_silent :
    ∃ s s' : TicketDesk (MomentumBreakout.scalper .default),
      Run Step s tenBreakouts s' ∧ s.sent = 1 ∧ s'.sent = s.sent ∧ s'.held = some 5 := by
  rcases Option.map_eq_some_iff.mp closedThenFilled_stuck with ⟨s, -, seen⟩
  simp only [Prod.mk.injEq] at seen
  obtain ⟨⟨holds, alone, once⟩, goes⟩ := seen
  obtain ⟨s', reached⟩ := Option.isSome_iff_exists.mp goes
  have run := (run_of_replay? reached).unguard
  exact ⟨s, s', run, once, held_silences holds alone (by decide) run⟩

end TicketDesk

end StingerFx
