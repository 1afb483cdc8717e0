/-
Module: StingerFx.Proofs.PositionView
Layer: Proofs
Purpose: When a strategy's view of its positions is the broker's. For each ticket
  the last event that was published decides what the view will hold once all
  queues are empty. The view is right as long as this event tells what the broker
  has, is neither evicted nor ignored, and is handled after the others of its
  ticket, and as long as no runner starts while the strategy has a position open.
Trusted boundary: none (fully proved)
Main exports: PositionTracking.Attentive, PositionTracking.Mirrors,
  PositionTracking.view_mirrors_broker, PositionTracking.paused_fill_is_lost
-/
import StingerFx.Runtime.PositionTracking

namespace StingerFx

open Lib

/-- What the claim compares of a position. -/
def Position.facts (position : Position) :
    Ticket × ℚ × Option ℚ × Option ℚ :=
  (position.ticket, position.volume, position.sl, position.tp)

/-- The entry of a view for a ticket. -/
def viewed (positions : List Position) (ticket : Ticket) : Option Position :=
  positions.find? fun p => decide (p.ticket = ticket)

/-! ### What an event says -/

/-- What an event makes of a ticket in the view of an active runner: a position,
or none. -/
structure ViewChange where
  ticket : Ticket
  outcome : Option Position
deriving Repr, DecidableEq

/-- The change that an event means to a strategy, if it is one of its own. -/
def changeOf (id : StrategyId) (magic : Int) : PositionEvent → Option ViewChange
  | .filled order =>
      if order.strategyId = id ∧ order.magic = magic then
        order.opened?.map fun position => ⟨order.ticket, some position⟩
      else none
  | .modified position | .partialClosed position =>
      if position.magic = magic then some ⟨position.ticket, some position⟩
      else none
  | .closed position =>
      if position.magic = magic then some ⟨position.ticket, none⟩ else none

/-- What an event says about a ticket. -/
def wordOn (id : StrategyId) (magic : Int) (event : PositionEvent)
    (ticket : Ticket) : Option (Option Position) :=
  match changeOf id magic event with
  | none => none
  | some change =>
      if change.ticket = ticket then some change.outcome else none

/-- What the last of some events about a ticket says. -/
def lastWord (id : StrategyId) (magic : Int) (ticket : Ticket) :
    List PositionEvent → Option (Option Position)
  | [] => none
  | event :: rest =>
      (lastWord id magic ticket rest).or (wordOn id magic event ticket)

section Words

variable {id : StrategyId} {magic : Int} {ticket : Ticket}
variable {event : PositionEvent} {waiting rest : List PositionEvent}

theorem opened?_spec {order : Order} {position : Position}
    (opened : order.opened? = some position) :
    position.ticket = order.ticket ∧ position.magic = order.magic ∧
      position.side = order.side := by
  unfold Order.opened? at opened
  split at opened
  · split at opened
    · split at opened
      · cases opened
        exact ⟨rfl, rfl, rfl⟩
      · cases opened
    · cases opened
  · cases opened

/-- A change is about the ticket of its event and made by one's own magic; the
position it tracks carries both. -/
theorem changeOf_spec {change : ViewChange}
    (found : changeOf id magic event = some change) :
    change.ticket = event.ticket ∧ event.magic = magic ∧
      ∀ position ∈ change.outcome,
        position.ticket = event.ticket ∧ position.magic = magic := by
  cases event with
  | filled order =>
      simp only [changeOf] at found
      split at found
      · rename_i own
        rcases Option.map_eq_some_iff.mp found with ⟨position, opened, rfl⟩
        refine ⟨rfl, own.2, ?_⟩
        intro other same
        cases same
        rcases opened?_spec opened with ⟨sameTicket, sameMagic, -⟩
        exact ⟨sameTicket, sameMagic.trans own.2⟩
      · cases found
  | modified position =>
      simp only [changeOf] at found
      split at found
      · rename_i own
        cases found
        refine ⟨rfl, own, ?_⟩
        intro other same
        cases same
        exact ⟨rfl, own⟩
      · cases found
  | partialClosed position =>
      simp only [changeOf] at found
      split at found
      · rename_i own
        cases found
        refine ⟨rfl, own, ?_⟩
        intro other same
        cases same
        exact ⟨rfl, own⟩
      · cases found
  | closed position =>
      simp only [changeOf] at found
      split at found
      · rename_i own
        cases found
        exact ⟨rfl, own, fun _ none => by cases none⟩
      · cases found

theorem wordOn_of_ne (apart : event.ticket ≠ ticket) :
    wordOn id magic event ticket = none := by
  unfold wordOn
  split
  · rfl
  · rename_i change found
    rw [(changeOf_spec found).1, if_neg apart]

theorem lastWord_append (front back : List PositionEvent) :
    lastWord id magic ticket (front ++ back) =
      (lastWord id magic ticket back).or (lastWord id magic ticket front) := by
  induction front with
  | nil => simp [lastWord]
  | cons event rest ih =>
      rw [List.cons_append, lastWord, ih, lastWord, Option.or_assoc]

theorem lastWord_concat (front : List PositionEvent) (event : PositionEvent) :
    lastWord id magic ticket (front ++ [event]) =
      (wordOn id magic event ticket).or (lastWord id magic ticket front) := by
  rw [lastWord_append]
  rfl

/-- No event about a ticket has no word on it. -/
theorem lastWord_of_others
    (others : ∀ event ∈ waiting, event.ticket ≠ ticket) :
    lastWord id magic ticket waiting = none := by
  induction waiting with
  | nil => rfl
  | cons event rest ih =>
      rw [lastWord, ih fun other member =>
        others other (List.mem_cons_of_mem _ member),
        wordOn_of_ne (others event List.mem_cons_self)]
      rfl

theorem takeKind_spec {kind : EventKind}
    (taken : takeKind kind waiting = some (event, rest)) :
    ∃ front back, waiting = front ++ event :: back ∧ rest = front ++ back ∧
      event.kind = kind ∧ ∀ other ∈ front, other.kind ≠ kind := by
  induction waiting generalizing rest with
  | nil => cases taken
  | cons first others ih =>
      unfold takeKind at taken
      split at taken
      · rename_i same
        cases taken
        exact ⟨[], _, rfl, rfl, same, fun _ member => by cases member⟩
      · rename_i apart
        rcases Option.map_eq_some_iff.mp taken with ⟨⟨event', rest'⟩, found, same⟩
        cases same
        rcases ih found with ⟨front, back, rfl, rfl, kind, before⟩
        refine ⟨first :: front, back, rfl, rfl, kind, ?_⟩
        intro other member
        rcases List.mem_cons.mp member with rfl | later
        · exact apart
        · exact before other later

/-- Taking an event without a word on a ticket leaves the last one. -/
theorem lastWord_take {kind : EventKind}
    (taken : takeKind kind waiting = some (event, rest))
    (silent : wordOn id magic event ticket = none) :
    lastWord id magic ticket rest = lastWord id magic ticket waiting := by
  rcases takeKind_spec taken with ⟨front, back, rfl, rfl, -, -⟩
  rw [lastWord_append, lastWord_append, lastWord, silent, Option.or_none]

/-- A taken word was the last one, or another is still to come. -/
theorem lastWord_taken {kind : EventKind} {outcome : Option Position}
    (taken : takeKind kind waiting = some (event, rest))
    (spoken : wordOn id magic event ticket = some outcome) :
    (∃ later, lastWord id magic ticket waiting = some later) ∧
      (lastWord id magic ticket rest = none →
        lastWord id magic ticket waiting = some outcome) := by
  rcases takeKind_spec taken with ⟨front, back, rfl, rfl, -, -⟩
  rw [lastWord_append, lastWord_append, lastWord, spoken]
  cases after : lastWord id magic ticket back with
  | none =>
      cases before : lastWord id magic ticket front <;> simp
  | some later => simp

end Words

/-! ### The queues -/

theorem takeKind_eq_none {kind : EventKind} {waiting : List PositionEvent}
    (empty : takeKind kind waiting = none) :
    ∀ event ∈ waiting, event.kind ≠ kind := by
  induction waiting with
  | nil => exact fun _ member => by cases member
  | cons first rest ih =>
      unfold takeKind at empty
      split at empty
      · cases empty
      · rename_i apart
        have later := ih (Option.map_eq_none_iff.mp empty)
        intro event member
        rcases List.mem_cons.mp member with rfl | after
        · exact apart
        · exact later event after

theorem waitingOf_eq_nil {kind : EventKind} {waiting : List PositionEvent}
    (others : ∀ event ∈ waiting, event.kind ≠ kind) :
    waitingOf kind waiting = [] := by
  apply List.filter_eq_nil_iff.mpr
  intro event member
  simpa using others event member

/-- Dropping the oldest event of a kind shortens one queue from its front. -/
theorem waitingOf_dropKind (kind other : EventKind)
    (waiting : List PositionEvent) :
    waitingOf other (dropKind kind waiting) =
      if kind = other then (waitingOf other waiting).tail
      else waitingOf other waiting := by
  unfold dropKind
  cases taken : takeKind kind waiting with
  | none =>
      split
      · rename_i same
        subst same
        simp [waitingOf_eq_nil (takeKind_eq_none taken)]
      · rfl
  | some pair =>
      obtain ⟨event, rest⟩ := pair
      rcases takeKind_spec taken with ⟨front, back, rfl, rfl, rfl, before⟩
      have ahead := waitingOf_eq_nil before
      unfold waitingOf at ahead ⊢
      split
      · rename_i same
        subst same
        simp [List.filter_append, ahead]
      · rename_i apart
        simp [List.filter_append, apart]

/-- Each kind of event has a bounded queue of its own. -/
theorem waitingOf_receivePosition (kind : EventKind)
    (waiting : List PositionEvent) (event : PositionEvent) :
    waitingOf kind (receivePosition waiting event) =
      if event.kind = kind then
        ((⟨busQueueSize, waitingOf kind waiting, []⟩ :
          Mailbox PositionEvent).push event).items
      else waitingOf kind waiting := by
  have append : ∀ front : List PositionEvent,
      waitingOf kind (front ++ [event]) =
        waitingOf kind front ++ waitingOf kind [event] := fun front =>
    List.filter_append front [event]
  have positive : 0 < busQueueSize := by decide
  by_cases same : event.kind = kind
  · subst same
    have own : waitingOf event.kind [event] = [event] := by simp [waitingOf]
    rw [if_pos rfl]
    unfold receivePosition Mailbox.push Mailbox.full
    split
    · rename_i full
      rw [append, own, waitingOf_dropKind, if_pos rfl, if_pos (by simp [positive, full])]
    · rename_i room
      rw [append, own, if_neg (by simp [room])]
  · have other : waitingOf kind [event] = [] := by simp [waitingOf, same]
    rw [if_neg same]
    unfold receivePosition
    split
    · rw [append, other, List.append_nil, waitingOf_dropKind, if_neg same]
    · rw [append, other, List.append_nil]

/-! ### One handler -/

namespace PositionRunner

variable {runner : PositionRunner} {event : PositionEvent}

/-- The view holds one position for a ticket, all of the strategy's magic. -/
structure Tidy (runner : PositionRunner) : Prop where
  own : ∀ position ∈ runner.positions, position.magic = runner.magic
  single : (runner.positions.map Position.ticket).Nodup

/-- The view after a change of one ticket. -/
def changed (positions : List Position) (change : ViewChange) :
    List Position :=
  positions.filter (fun p => decide (p.ticket ≠ change.ticket)) ++
    change.outcome.toList

theorem viewed_changed (positions : List Position) {change : ViewChange}
    (named : ∀ position ∈ change.outcome, position.ticket = change.ticket)
    (ticket : Ticket) :
    viewed (changed positions change) ticket =
      if change.ticket = ticket then change.outcome
      else viewed positions ticket := by
  unfold viewed changed
  rw [List.find?_append]
  by_cases same : change.ticket = ticket
  · subst same
    have gone : (positions.filter fun p =>
        decide (p.ticket ≠ change.ticket)).find? (fun p =>
          decide (p.ticket = change.ticket)) = none := by
      apply List.find?_eq_none.mpr
      intro position member
      simpa using (List.mem_filter.mp member).2
    rw [gone, if_pos rfl, Option.none_or]
    cases outcome : change.outcome with
    | none => rfl
    | some position => simp [named position outcome]
  · have kept : (positions.filter fun p =>
        decide (p.ticket ≠ change.ticket)).find? (fun p =>
          decide (p.ticket = ticket)) =
            positions.find? fun p => decide (p.ticket = ticket) := by
      rw [List.find?_filter]
      congr 1
      funext p
      by_cases hit : p.ticket = ticket
      · simp [hit, Ne.symm same]
      · simp [hit]
    rw [kept, if_neg same]
    cases outcome : change.outcome with
    | none => simp
    | some position => simp [named position outcome, same]

theorem Tidy.changed (tidy : runner.Tidy) {change : ViewChange}
    (named : ∀ position ∈ change.outcome,
      position.ticket = change.ticket ∧ position.magic = runner.magic) :
    Tidy { runner with positions := changed runner.positions change } where
  own := by
    intro position member
    rcases List.mem_append.mp member with old | new
    · exact tidy.own position (List.mem_filter.mp old).1
    · exact (named position (Option.mem_toList.mp new)).2
  single := by
    rw [PositionRunner.changed, List.map_append, List.nodup_append]
    refine ⟨?_, ?_, ?_⟩
    · exact tidy.single.sublist (List.filter_sublist.map Position.ticket)
    · cases change.outcome with
      | none => exact List.nodup_nil
      | some position => exact List.nodup_singleton _
    · intro ticket old other new
      rcases List.mem_map.mp old with ⟨position, member, rfl⟩
      rcases List.mem_map.mp new with ⟨added, there, rfl⟩
      have apart : position.ticket ≠ change.ticket :=
        of_decide_eq_true (List.mem_filter.mp member).2
      rw [(named added (Option.mem_toList.mp there)).1]
      exact apart

/-- An idle runner ignores every event. -/
theorem handle_idle (idle : runner.flags.active = false) :
    runner.handle event = runner := by
  cases event <;>
    simp [handle, onOrderFilled, onOrderModified, onPartialClosed,
      onPositionClosed, idle]

theorem update_of_own {positions : List Position}
    (own : ∀ position ∈ positions, position.magic = runner.magic) :
    runner.update positions = { runner with positions := positions } := by
  have all : (positions.filter fun p => decide (p.magic = runner.magic)) =
      positions :=
    List.filter_eq_self.mpr fun position member =>
      decide_eq_true (own position member)
  rw [update, all]

theorem trackOpen_of_own (tidy : runner.Tidy) {position : Position}
    (own : position.magic = runner.magic) :
    runner.trackOpen position =
      { runner with
        positions := changed runner.positions
          ⟨position.ticket, some position⟩ } := by
  rw [trackOpen, if_pos own]
  apply update_of_own
  intro other member
  rcases List.mem_append.mp member with old | new
  · exact tidy.own other (List.mem_filter.mp old).1
  · rw [List.mem_singleton.mp new]
    exact own

theorem trackRemove_of_tidy (tidy : runner.Tidy) (ticket : Ticket) :
    runner.trackRemove ticket =
      { runner with positions := changed runner.positions ⟨ticket, none⟩ } := by
  have empty : changed runner.positions ⟨ticket, none⟩ =
      runner.positions.filter fun p => decide (p.ticket ≠ ticket) :=
    List.append_nil _
  rw [trackRemove, empty]
  apply update_of_own
  intro position member
  exact tidy.own position (List.mem_filter.mp member).1

/-- An active one makes the change that the event means. -/
theorem handle_active (tidy : runner.Tidy)
    (active : runner.flags.active = true) :
    runner.handle event =
      match changeOf runner.id runner.magic event with
      | none => runner
      | some change =>
          { runner with positions := changed runner.positions change } := by
  cases event with
  | filled order =>
      simp only [handle, onOrderFilled, changeOf, active]
      by_cases mine : order.strategyId = runner.id
      · cases opened : order.opened? with
        | none => simp [mine]
        | some position =>
            rcases opened?_spec opened with ⟨ticket, magic, -⟩
            by_cases own : order.magic = runner.magic
            · simp [mine, own, trackOpen_of_own tidy (magic.trans own), ticket]
            · have foreign : ¬ position.magic = runner.magic := by
                rw [magic]
                exact own
              simp [mine, own, trackOpen, foreign]
      · simp [mine]
  | modified position =>
      by_cases own : position.magic = runner.magic
      · simp [handle, onOrderModified, changeOf, active, own,
          trackOpen_of_own tidy own]
      · simp [handle, onOrderModified, changeOf, own]
  | partialClosed position =>
      by_cases own : position.magic = runner.magic
      · simp [handle, onPartialClosed, changeOf, active, own,
          trackOpen_of_own tidy own]
      · simp [handle, onPartialClosed, changeOf, own]
  | closed position =>
      by_cases own : position.magic = runner.magic
      · simp [handle, onPositionClosed, changeOf, active, own,
          trackRemove_of_tidy tidy]
      · simp [handle, onPositionClosed, changeOf, own]

/-- A handler keeps the view in order. -/
theorem Tidy.handle (tidy : runner.Tidy) (event : PositionEvent) :
    (runner.handle event).Tidy := by
  cases active : runner.flags.active with
  | false =>
      rw [handle_idle active]
      exact tidy
  | true =>
      rw [handle_active tidy active]
      cases found : changeOf runner.id runner.magic event with
      | none => exact tidy
      | some change =>
          obtain ⟨sameTicket, -, outcome⟩ := changeOf_spec found
          apply tidy.changed
          intro position made
          exact ⟨(outcome position made).1.trans sameTicket.symm,
            (outcome position made).2⟩

end PositionRunner

namespace PositionTracking

variable {s s' : PositionTracking}

/-! ### The condition and the claim -/

/-- What the last waiting event about a ticket says. -/
def word (s : PositionTracking) (waiting : List PositionEvent)
    (ticket : Ticket) : Option (Option Position) :=
  lastWord s.runner.id s.runner.magic ticket waiting

/-- The event is the strategy's own, and tells what the broker has now. -/
def Tells (s : PositionTracking) (event : PositionEvent) : Prop :=
  (wordOn s.runner.id s.runner.magic event event.ticket).map
      (Option.map Position.facts) =
    some ((s.account.get? event.ticket).map Position.facts)

/-- For each ticket the last event tells what the broker has, is not evicted, and
is handled by an active runner after the others; a new runner finds no open
position of the strategy. -/
def Attentive (s : PositionTracking) : TrackingLabel → Prop
  | .publish index =>
      match s.jobs[index]? with
      | some (.publish event) =>
          -- no other call for the ticket is on its way
          (event.magic = s.runner.magic →
            (∀ job ∈ s.jobs.eraseIdx index, job.ticket ≠ event.ticket) →
              s.Tells event) ∧
          ∀ old ∈ s.runner.waiting,
            s.word (receivePosition s.runner.waiting event) old.ticket =
              s.word (s.runner.waiting ++ [event]) old.ticket
      | _ => True
  | .handle kind =>
      match takeKind kind s.runner.waiting with
      | some (event, rest) =>
          s.word rest event.ticket = s.word s.runner.waiting event.ticket ∨
            s.runner.flags.active = true ∧ s.word rest event.ticket = none
      | none => True
  | .replace =>
      ∀ entry ∈ s.account.items, entry.2.magic = s.runner.magic →
        ∃ job ∈ s.jobs, job.ticket = entry.1
  | .restart =>
      ∀ entry ∈ s.account.items, entry.2.magic ≠ s.runner.magic
  | _ => True

/-- The broker's open position under a ticket, if it is the strategy's. -/
def own (s : PositionTracking) (ticket : Ticket) : Option Position :=
  (s.account.get? ticket).filter fun p => decide (p.magic = s.runner.magic)

/-- The view is the broker's, ticket by ticket, except where a call is still on
its way. -/
structure Mirrors (s : PositionTracking) : Prop where
  single : (s.runner.positions.map Position.ticket).Nodup
  same : ∀ ticket, (∀ job ∈ s.jobs, job.ticket ≠ ticket) →
    (viewed s.runner.positions ticket).map Position.facts =
      (s.own ticket).map Position.facts

/-! ### The view to come -/

/-- What the view will say of a ticket once all queues are empty. -/
def outlook (s : PositionTracking) (ticket : Ticket) : Option Position :=
  (s.word s.runner.waiting ticket).getD (viewed s.runner.positions ticket)

/-- Tickets keep their magic, and for each of the strategy's tickets without a call
on its way the view to come is the broker's. -/
structure Following (s : PositionTracking) : Prop where
  account : ∀ ticket position, s.account.get? ticket = some position →
    position.ticket = ticket ∧ s.opened.get? ticket = some position.magic
  calls : ∀ job ∈ s.jobs, s.opened.get? job.ticket = some job.magic
  told : ∀ event ∈ s.runner.waiting,
    s.opened.get? event.ticket = some event.magic
  known : ∀ position ∈ s.runner.positions,
    s.opened.get? position.ticket = some s.runner.magic
  tidy : s.runner.Tidy
  mirrored : ∀ ticket, s.opened.get? ticket = some s.runner.magic →
    (∀ job ∈ s.jobs, job.ticket ≠ ticket) →
      (s.outlook ticket).map Position.facts =
        (s.account.get? ticket).map Position.facts

theorem tidy_start (id : StrategyId) (magic : Int) :
    (PositionRunner.start id magic).Tidy where
  own := fun _ member => by cases member
  single := List.nodup_nil

theorem following_boot (id : StrategyId) (magic : Int) :
    Following (boot id magic) where
  account := fun _ _ found => by cases found
  calls := fun _ member => by cases member
  told := fun _ member => by cases member
  known := fun _ member => by cases member
  tidy := tidy_start _ _
  mirrored := fun _ opened => by cases opened

/-- A call changes the account at one ticket and leaves a job for it. -/
theorem Following.call (following : Following s)
    {account : Dict Ticket Position} {job : BrokerJob}
    (known : s.opened.get? job.ticket = some job.magic)
    (changed : ∀ position, account.get? job.ticket = some position →
      position.ticket = job.ticket ∧ position.magic = job.magic)
    (others : ∀ ticket, ticket ≠ job.ticket →
      account.get? ticket = s.account.get? ticket) :
    Following { s with account := account, jobs := s.jobs ++ [job] } where
  account := by
    intro ticket position found
    by_cases same : ticket = job.ticket
    · subst same
      rcases changed position found with ⟨named, magic⟩
      exact ⟨named, by rw [magic]; exact known⟩
    · have before : s.account.get? ticket = some position :=
        (others ticket same).symm.trans found
      exact following.account ticket position before
  calls := by
    intro other member
    rcases List.mem_append.mp member with old | new
    · exact following.calls other old
    · rw [List.mem_singleton.mp new]
      exact known
  told := following.told
  known := following.known
  tidy := following.tidy
  mirrored := by
    intro ticket opened free
    have apart : ticket ≠ job.ticket := fun same =>
      free job (List.mem_append_right _ List.mem_cons_self) same.symm
    have before := following.mirrored ticket opened fun other member =>
      free other (List.mem_append_left _ member)
    dsimp only
    rw [others ticket apart]
    exact before

theorem current?_spec {read position : Position}
    (found : s.current? read = some position) :
    s.account.get? read.ticket = some position ∧
      position.magic = read.magic := by
  rcases Option.filter_eq_some_iff.mp found with ⟨there, same⟩
  exact ⟨there, of_decide_eq_true same⟩

theorem remaining?_spec {position kept : Position} {chunk : ℚ}
    (left : remaining? position chunk = some kept) :
    kept.ticket = position.ticket ∧ kept.magic = position.magic ∧
      kept.side = position.side := by
  unfold remaining? at left
  split at left
  · cases left
    exact ⟨rfl, rfl, rfl⟩
  · cases left

/-- A new runner of the strategy, where the account has none of its positions
without a call on its way. -/
theorem Following.started (following : Following s) {jobs : List BrokerJob}
    (fewer : ∀ job ∈ jobs, job ∈ s.jobs)
    (flat : ∀ ticket position, s.account.get? ticket = some position →
      position.magic = s.runner.magic → ∃ job ∈ jobs, job.ticket = ticket) :
    Following
      { s with
        jobs := jobs
        runner := .start s.runner.id s.runner.magic } where
  account := following.account
  calls := fun job member => following.calls job (fewer job member)
  told := fun _ member => by cases member
  known := fun _ member => by cases member
  tidy := tidy_start _ _
  mirrored := by
    intro ticket opened free
    cases found : s.account.get? ticket with
    | none => rfl
    | some position =>
        rcases following.account ticket position found with ⟨-, magic⟩
        have mine : position.magic = s.runner.magic :=
          Option.some.inj (magic.symm.trans opened)
        rcases flat ticket position found mine with ⟨job, member, same⟩
        exact absurd same (free job member)

/-- Nothing is known of a ticket that was never opened. -/
theorem Following.unknown (following : Following s) {ticket : Ticket}
    (fresh : s.opened.get? ticket = none) :
    s.account.get? ticket = none ∧ s.outlook ticket = none := by
  refine ⟨?_, ?_⟩
  · cases found : s.account.get? ticket with
    | none => rfl
    | some position =>
        rw [(following.account ticket position found).2] at fresh
        cases fresh
  · have silent : s.word s.runner.waiting ticket = none := by
      apply lastWord_of_others
      rintro event member rfl
      rw [following.told event member] at fresh
      cases fresh
    have unseen : viewed s.runner.positions ticket = none := by
      apply List.find?_eq_none.mpr
      intro position member same
      rw [← of_decide_eq_true same, following.known position member] at fresh
      cases fresh
    rw [outlook, silent, unseen]
    rfl

/-- The broker registers a new ticket. -/
theorem Following.register (following : Following s) {ticket : Ticket}
    (fresh : s.opened.get? ticket = none) (magic : Int) :
    Following { s with opened := s.opened.set ticket magic } := by
  have kept : ∀ {other : Ticket} {value : Int},
      s.opened.get? other = some value →
        (s.opened.set ticket magic).get? other = some value := by
    intro other value known
    have apart : other ≠ ticket := by
      rintro rfl
      rw [known] at fresh
      cases fresh
    exact (Dict.get?_set_of_ne _ _ apart).trans known
  exact
    { account := fun other position found =>
        have before := following.account other position found
        ⟨before.1, kept before.2⟩
      calls := fun job member => kept (following.calls job member)
      told := fun event member => kept (following.told event member)
      known := fun position member => kept (following.known position member)
      tidy := following.tidy
      mirrored := by
        intro other opened free
        by_cases same : other = ticket
        · subst same
          rcases following.unknown fresh with ⟨closed, blank⟩
          have blank' : outlook { s with opened := s.opened.set other magic }
              other = none := blank
          rw [blank', closed]
        · rw [Dict.get?_set_of_ne _ _ same] at opened
          exact following.mirrored other opened free }

/-- A call that read a position before changes it. -/
theorem Following.change (following : Following s) {read position : Position}
    (open_ : s.current? read = some position) {account : Dict Ticket Position}
    {job : BrokerJob} (ticket : job.ticket = read.ticket)
    (magic : job.magic = read.magic)
    (changed : ∀ after, account.get? read.ticket = some after →
      after.ticket = position.ticket ∧ after.magic = position.magic)
    (others : ∀ ticket, ticket ≠ read.ticket →
      account.get? ticket = s.account.get? ticket) :
    Following { s with account := account, jobs := s.jobs ++ [job] } := by
  rcases current?_spec open_ with ⟨there, sameMagic⟩
  rcases following.account _ _ there with ⟨named, opened⟩
  apply following.call
  · rw [ticket, magic, opened, sameMagic]
  · intro after found
    rw [ticket] at found
    rcases changed after found with ⟨sameTicket, keptMagic⟩
    rw [ticket, magic]
    exact ⟨sameTicket.trans named, keptMagic.trans sameMagic⟩
  · intro other apart
    rw [ticket] at apart
    exact others other apart

/-- A job is replaced by another for the same ticket. -/
theorem Following.rejob (following : Following s) {index : Nat}
    {job job' : BrokerJob} (found : s.jobs[index]? = some job)
    (ticket : job'.ticket = job.ticket) (magic : job'.magic = job.magic) :
    Following { s with jobs := s.jobs.set index job' } where
  account := following.account
  calls := by
    intro other member
    rcases List.mem_or_eq_of_mem_set member with old | rfl
    · exact following.calls other old
    · rw [ticket, magic]
      exact following.calls job (List.mem_of_getElem? found)
  told := following.told
  known := following.known
  tidy := following.tidy
  mirrored := by
    intro other opened free
    apply following.mirrored other opened
    intro old member
    rcases List.mem_iff_getElem?.mp member with ⟨place, there⟩
    by_cases same : place = index
    · subst same
      rw [found] at there
      cases there
      rw [← ticket]
      apply free job'
      exact List.mem_set (List.getElem?_eq_some_iff.mp found).1 _
    · apply free old
      apply List.mem_of_getElem? (i := place)
      rw [List.getElem?_set_ne (Ne.symm same)]
      exact there

/-- A published event comes last; the others waited before. -/
theorem receivePosition_split (waiting : List PositionEvent)
    (event : PositionEvent) :
    ∃ kept, receivePosition waiting event = kept ++ [event] ∧
      kept.Sublist waiting := by
  unfold receivePosition
  split
  · refine ⟨_, rfl, ?_⟩
    unfold dropKind
    cases taken : takeKind event.kind waiting with
    | none => exact List.Sublist.refl _
    | some pair =>
        obtain ⟨first, rest⟩ := pair
        rcases takeKind_spec taken with ⟨front, back, rfl, same, -, -⟩
        have shorter : (front ++ back).Sublist (front ++ first :: back) :=
          (List.Sublist.refl front).append (List.sublist_cons_self first back)
        exact same ▸ shorter
  · exact ⟨waiting, rfl, List.Sublist.refl _⟩

theorem mem_eraseIdx_or {α : Type} {xs : List α} {x gone : α} {index : Nat}
    (found : xs[index]? = some gone) (member : x ∈ xs) :
    x ∈ xs.eraseIdx index ∨ x = gone := by
  induction xs generalizing index with
  | nil => cases member
  | cons first rest ih =>
      cases index with
      | zero =>
          cases found
          exact (List.mem_cons.mp member).symm
      | succ index =>
          rcases List.mem_cons.mp member with rfl | later
          · exact .inl List.mem_cons_self
          · rw [List.getElem?_cons_succ] at found
            exact (ih found later).imp_left (List.mem_cons_of_mem _)

/-- A job publishes its event into the runner's queues. -/
theorem Following.publish (following : Following s) {index : Nat}
    {event : PositionEvent}
    (found : s.jobs[index]? = some (.publish event))
    (last : event.magic = s.runner.magic →
      (∀ job ∈ s.jobs.eraseIdx index, job.ticket ≠ event.ticket) →
        s.Tells event)
    (spared : ∀ old ∈ s.runner.waiting,
      s.word (receivePosition s.runner.waiting event) old.ticket =
        s.word (s.runner.waiting ++ [event]) old.ticket) :
    Following
      { s with
        jobs := s.jobs.eraseIdx index
        runner :=
          { s.runner with
            waiting := receivePosition s.runner.waiting event } } := by
  have known := following.calls _ (List.mem_of_getElem? found)
  rcases receivePosition_split s.runner.waiting event with ⟨kept, split, before⟩
  have old : ∀ waiting ∈ kept, waiting ∈ s.runner.waiting := fun _ there =>
    before.subset there
  have words : ∀ ticket,
      s.word (receivePosition s.runner.waiting event) ticket =
        (wordOn s.runner.id s.runner.magic event ticket).or
          (s.word s.runner.waiting ticket) := by
    intro ticket
    by_cases about : ∃ waiting ∈ s.runner.waiting, waiting.ticket = ticket
    · rcases about with ⟨waiting, member, rfl⟩
      rw [spared waiting member]
      exact lastWord_concat _ _
    · have none : ∀ waiting ∈ s.runner.waiting, waiting.ticket ≠ ticket :=
        fun waiting member same => about ⟨waiting, member, same⟩
      rw [split, word, word, lastWord_concat, lastWord_of_others none,
        lastWord_of_others fun waiting member =>
          none waiting (old waiting member)]
  exact
    { account := following.account
      calls := fun job member =>
        following.calls job (List.mem_of_mem_eraseIdx member)
      told := by
        intro waiting member
        dsimp only at member
        rw [split] at member
        rcases List.mem_append.mp member with before | new
        · exact following.told waiting (old waiting before)
        · rw [List.mem_singleton.mp new]
          exact known
      known := following.known
      tidy := ⟨following.tidy.own, following.tidy.single⟩
      mirrored := by
        intro ticket opened free
        have fold : outlook
            { s with
              jobs := s.jobs.eraseIdx index
              runner :=
                { s.runner with
                  waiting := receivePosition s.runner.waiting event } }
            ticket =
              (s.word (receivePosition s.runner.waiting event) ticket).getD
                (viewed s.runner.positions ticket) := rfl
        rw [fold, words]
        by_cases same : event.ticket = ticket
        · subst same
          have mine : event.magic = s.runner.magic :=
            Option.some.inj (known.symm.trans opened)
          have tells := last mine free
          rcases Option.map_eq_some_iff.mp tells with ⟨outcome, spoken, facts⟩
          rw [spoken]
          exact facts
        · rw [wordOn_of_ne same, Option.none_or]
          apply following.mirrored ticket opened
          intro job member
          rcases mem_eraseIdx_or found member with other | rfl
          · exact free job other
          · exact same }

/-- The event is gone, and the view is what it was. -/
theorem Following.unheard (following : Following s) {rest : List PositionEvent}
    (fewer : ∀ old ∈ rest, old ∈ s.runner.waiting)
    (words : ∀ ticket, s.word rest ticket = s.word s.runner.waiting ticket) :
    Following { s with runner := { s.runner with waiting := rest } } :=
  { following with
    told := fun old there => following.told old (fewer old there)
    tidy := ⟨following.tidy.own, following.tidy.single⟩
    mirrored := by
      intro ticket opened free
      have before := following.mirrored ticket opened free
      rw [outlook, ← words ticket] at before
      exact before }

/-- The event changes the view as it says. -/
theorem Following.heard (following : Following s) {kind : EventKind}
    {event : PositionEvent} {rest : List PositionEvent} {change : ViewChange}
    (taken : takeKind kind s.runner.waiting = some (event, rest))
    (fewer : ∀ old ∈ rest, old ∈ s.runner.waiting)
    (known : s.opened.get? event.ticket = some event.magic)
    (changes : changeOf s.runner.id s.runner.magic event = some change)
    (heeded : s.word rest event.ticket = s.word s.runner.waiting event.ticket ∨
      s.word rest event.ticket = none)
    (others : ∀ ticket, ticket ≠ event.ticket →
      s.word rest ticket = s.word s.runner.waiting ticket) :
    Following
      { s with
        runner :=
          { s.runner with
            positions := PositionRunner.changed s.runner.positions change
            waiting := rest } } := by
  rcases changeOf_spec changes with ⟨about, mine, named⟩
  have spoken : wordOn s.runner.id s.runner.magic event event.ticket =
      some change.outcome := by
    simp [wordOn, changes, about]
  have opened : s.opened.get? event.ticket = some s.runner.magic := by
    rw [known, mine]
  have tidy : PositionRunner.Tidy { s.runner with waiting := rest } :=
    ⟨following.tidy.own, following.tidy.single⟩
  constructor
  · exact following.account
  · exact following.calls
  · exact fun old there => following.told old (fewer old there)
  · intro position there
    rcases List.mem_append.mp there with old | new
    · exact following.known position (List.mem_filter.mp old).1
    · rw [(named position (Option.mem_toList.mp new)).1]
      exact opened
  · exact tidy.changed (by rw [about]; exact named)
  · intro ticket mine free
    rw [← following.mirrored ticket mine free]
    apply congrArg (Option.map Position.facts)
    show (s.word rest ticket).getD (viewed
        (PositionRunner.changed s.runner.positions change) ticket) =
      (s.word s.runner.waiting ticket).getD (viewed s.runner.positions ticket)
    rw [PositionRunner.viewed_changed _ fun position outcome =>
      (named position outcome).1.trans about.symm]
    by_cases same : ticket = event.ticket
    · subst same
      rcases lastWord_taken taken spoken with ⟨⟨later, some⟩, last⟩
      rcases heeded with same | none
      · have some' : s.word s.runner.waiting event.ticket = Option.some later := some
        rw [same, some']
        rfl
      · have final : s.word s.runner.waiting event.ticket =
            Option.some change.outcome := last none
        rw [none, final, if_pos about]
        rfl
    · have apart : change.ticket ≠ ticket := by
        rw [about]
        exact Ne.symm same
      rw [others ticket same, if_neg apart]

theorem Following.handle (following : Following s) {kind : EventKind}
    {event : PositionEvent} {rest : List PositionEvent}
    (taken : takeKind kind s.runner.waiting = some (event, rest))
    (heeded : s.word rest event.ticket =
        s.word s.runner.waiting event.ticket ∨
      s.runner.flags.active = true ∧ s.word rest event.ticket = none) :
    Following
      { s with
        runner := PositionRunner.handle { s.runner with waiting := rest }
          event } := by
  rcases takeKind_spec taken with ⟨front, back, whole, rfl, -, -⟩
  have fewer : ∀ old ∈ front ++ back, old ∈ s.runner.waiting := by
    intro old member
    rw [whole]
    rcases List.mem_append.mp member with left | right
    · exact List.mem_append_left _ left
    · exact List.mem_append_right _ (List.mem_cons_of_mem _ right)
  have known := following.told event (by rw [whole]; simp)
  have others : ∀ ticket, ticket ≠ event.ticket →
      s.word (front ++ back) ticket = s.word s.runner.waiting ticket :=
    fun ticket apart => lastWord_take taken (wordOn_of_ne (Ne.symm apart))
  cases active : s.runner.flags.active with
  | false =>
      have idle : RunnerFlags.active
          (PositionRunner.flags { s.runner with waiting := front ++ back }) = false :=
        active
      rw [PositionRunner.handle_idle idle]
      apply following.unheard fewer
      intro ticket
      by_cases same : ticket = event.ticket
      · subst same
        rcases heeded with same | ⟨up, -⟩
        · exact same
        · rw [active] at up
          cases up
      · exact others ticket same
  | true =>
      have awake : RunnerFlags.active
          (PositionRunner.flags { s.runner with waiting := front ++ back }) = true :=
        active
      have tidy : PositionRunner.Tidy
          { s.runner with waiting := front ++ back } :=
        ⟨following.tidy.own, following.tidy.single⟩
      rw [PositionRunner.handle_active tidy awake]
      dsimp only
      cases change : changeOf s.runner.id s.runner.magic event with
      | none =>
          apply following.unheard fewer
          intro ticket
          exact lastWord_take taken (by simp [wordOn, change])
      | some change' =>
          exact following.heard taken fewer known change
            (heeded.imp_right And.right) others

/-- What a step does, label by label. -/
inductive Moved (s : PositionTracking) : TrackingLabel → PositionTracking → Prop where
  | fill {order : Order} {position : Position}
      (named : position.ticket = order.ticket) (magic : position.magic = order.magic)
      (fresh : s.opened.get? order.ticket = none) :
      Moved s (.fill order position)
        { s with
          account := s.account.set order.ticket position
          opened := s.opened.set order.ticket order.magic
          jobs := s.jobs ++ [.publish (.filled order)] }
  | modify {read position : Position} {sl tp : Option ℚ}
      (there : s.current? read = some position) :
      Moved s (.modify read sl tp)
        { s with
          account := s.account.set read.ticket { position with sl := sl, tp := tp }
          jobs := s.jobs ++ [.reread read] }
  | reduce {read position kept told : Position} {chunk : ℚ}
      (there : s.current? read = some position)
      (left : remaining? position chunk = some kept)
      (announced : remaining? read chunk = some told) :
      Moved s (.reduce read chunk)
        { s with
          account := s.account.set read.ticket kept
          jobs := s.jobs ++ [.publish (.partialClosed told)] }
  | close {read position : Position} (there : s.current? read = some position) :
      Moved s (.close read)
        { s with
          account := s.account.erase read.ticket
          jobs := s.jobs ++ [.publish (.closed read)] }
  | reread {index : Nat} {read : Position}
      (found : s.jobs[index]? = some (.reread read)) :
      Moved s (.reread index)
        { s with
          jobs := s.jobs.set index
            (.publish (.modified ((s.account.get? read.ticket).getD read))) }
  | publish {index : Nat} {event : PositionEvent}
      (found : s.jobs[index]? = some (.publish event)) :
      Moved s (.publish index)
        { s with
          jobs := s.jobs.eraseIdx index
          runner :=
            { s.runner with
              waiting := receivePosition s.runner.waiting event } }
  | handle {kind : EventKind} {event : PositionEvent} {rest : List PositionEvent}
      (popped : takeKind kind s.runner.waiting = some (event, rest)) :
      Moved s (.handle kind)
        { s with
          runner := PositionRunner.handle { s.runner with waiting := rest } event }
  | pause (paused : Bool) :
      Moved s (.pause paused)
        { s with
          runner := { s.runner with flags := { s.runner.flags with paused := paused } } }
  | quarantine :
      Moved s .quarantine
        { s with
          runner :=
            { s.runner with flags := { s.runner.flags with quarantined := true } } }
  | replace :
      Moved s .replace { s with runner := .start s.runner.id s.runner.magic }
  | restart :
      Moved s .restart
        { s with jobs := [], runner := .start s.runner.id s.runner.magic }

theorem moved_of_step {label : TrackingLabel} (taken : Step s label s') :
    Moved s label s' := by
  simp only [Step, stepOf?] at taken
  cases label with
  | fill order position =>
      simp only [step?] at taken
      split at taken
      · rename_i fits
        cases taken
        exact .fill fits.1 fits.2.1 fits.2.2
      · cases taken
  | modify read sl tp =>
      simp only [step?] at taken
      cases there : s.current? read with
      | none => simp [there] at taken
      | some position =>
          simp only [there] at taken
          cases taken
          exact .modify there
  | reduce read chunk =>
      simp only [step?] at taken
      cases there : s.current? read with
      | none => simp [there] at taken
      | some position =>
          simp only [there] at taken
          split at taken
          · rename_i kept told left announced
            cases taken
            exact .reduce there left announced
          · cases taken
  | close read =>
      simp only [step?] at taken
      cases there : s.current? read with
      | none => simp [there] at taken
      | some position =>
          simp only [there] at taken
          cases taken
          exact .close there
  | reread index =>
      simp only [step?] at taken
      split at taken
      · rename_i read found
        cases taken
        exact .reread found
      · cases taken
      · cases taken
  | publish index =>
      simp only [step?] at taken
      split at taken
      · rename_i event found
        cases taken
        exact .publish found
      · cases taken
      · cases taken
  | handle kind =>
      simp only [step?] at taken
      cases popped : takeKind kind s.runner.waiting with
      | none => simp [popped] at taken
      | some pair =>
          simp only [popped] at taken
          cases taken
          exact .handle popped
  | pause paused =>
      cases taken
      exact .pause paused
  | quarantine =>
      cases taken
      exact .quarantine
  | replace =>
      cases taken
      exact .replace
  | restart =>
      cases taken
      exact .restart

theorem Following.step (following : Following s) {label : TrackingLabel}
    (attentive : Attentive s label) (taken : Step s label s') :
    Following s' := by
  cases moved_of_step taken with
  | fill named magic fresh =>
      rename_i order position
      apply (following.register fresh order.magic).call
      · exact Dict.get?_set_self _ _ _
      · intro after found
        have same := (Dict.get?_set_self _ _ _).symm.trans found
        cases same
        exact ⟨named, magic⟩
      · intro ticket apart
        exact Dict.get?_set_of_ne _ _ apart
  | modify there =>
      apply following.change there rfl rfl
      · intro after found
        have same := (Dict.get?_set_self _ _ _).symm.trans found
        cases same
        exact ⟨rfl, rfl⟩
      · intro ticket apart
        exact Dict.get?_set_of_ne _ _ apart
  | reduce there left announced =>
      rename_i read position kept told chunk
      rcases remaining?_spec left with ⟨keptTicket, keptMagic, -⟩
      rcases remaining?_spec announced with ⟨toldTicket, toldMagic, -⟩
      have ticket : (BrokerJob.publish (.partialClosed told)).ticket =
        read.ticket := toldTicket
      apply following.change there ticket toldMagic
      · intro after found
        have same := (Dict.get?_set_self _ _ _).symm.trans found
        cases same
        exact ⟨keptTicket, keptMagic⟩
      · intro other apart
        exact Dict.get?_set_of_ne _ _ apart
  | close there =>
      apply following.change there rfl rfl
      · intro after found
        have same := (Dict.get?_erase_self _ _).symm.trans found
        cases same
      · intro ticket apart
        exact Dict.get?_erase_of_ne _ apart
  | reread found =>
      rename_i index read
      have known := following.calls _ (List.mem_of_getElem? found)
      apply following.rejob found
      · cases there : s.account.get? read.ticket with
        | none => rfl
        | some position => exact (following.account _ _ there).1
      · cases there : s.account.get? read.ticket with
        | none => rfl
        | some position =>
            have opened := (following.account _ _ there).2
            exact Option.some.inj (opened.symm.trans known)
  | publish found =>
      simp only [Attentive, found] at attentive
      exact following.publish found attentive.1 attentive.2
  | handle popped =>
      simp only [Attentive, popped] at attentive
      exact following.handle popped attentive
  | pause paused =>
      exact { following with tidy := ⟨following.tidy.own, following.tidy.single⟩ }
  | quarantine =>
      exact { following with tidy := ⟨following.tidy.own, following.tidy.single⟩ }
  | replace =>
      apply following.started (fun _ member => member)
      intro ticket position found mine
      exact attentive (ticket, position)
        ((s.account.get?_eq_some_iff).mp found) mine
  | restart =>
      apply following.started (fun _ member => by cases member)
      intro ticket position found mine
      exact absurd mine (attentive (ticket, position)
        ((s.account.get?_eq_some_iff).mp found))

/-! ### Every run -/

theorem Following.mirrors (following : Following s)
    (drained : s.runner.waiting = []) : Mirrors s where
  single := following.tidy.single
  same := by
    intro ticket free
    by_cases mine : s.opened.get? ticket = some s.runner.magic
    · have mirrored := following.mirrored ticket mine free
      have seen : s.outlook ticket = viewed s.runner.positions ticket := by
        rw [outlook, drained]
        rfl
      have all : s.own ticket = s.account.get? ticket := by
        unfold own
        cases found : s.account.get? ticket with
        | none => rfl
        | some position =>
            have magic := (following.account ticket position found).2
            have same : position.magic = s.runner.magic :=
              Option.some.inj (magic.symm.trans mine)
            simp [Option.filter, same]
      rw [← seen, mirrored, all]
    · have unseen : viewed s.runner.positions ticket = none := by
        apply List.find?_eq_none.mpr
        intro position member same
        apply mine
        rw [← of_decide_eq_true same]
        exact following.known position member
      have foreign : s.own ticket = none := by
        unfold own
        cases found : s.account.get? ticket with
        | none => rfl
        | some position =>
            have magic := (following.account ticket position found).2
            have other : position.magic ≠ s.runner.magic := by
              intro same
              rw [same] at magic
              exact mine magic
            simp [Option.filter, other]
      rw [unseen, foreign]

/-- Whatever happens on the account and to the runner, in whatever order its queues
are drained: as long as for each ticket the last event is right, heard, and heard
last, the view is the broker's whenever the queues are empty. -/
theorem view_mirrors_broker {id : StrategyId} {magic : Int}
    {labels : List TrackingLabel}
    (run : Run (Guarded Attentive Step) (boot id magic) labels s)
    (drained : s.runner.waiting = []) : Mirrors s := by
  have following : Following s :=
    run.invariant (following_boot id magic) fun taken following =>
      following.step taken.1 taken.2
  exact following.mirrors drained

/-! ### A trailed position, and a fill in a pause -/

def entryFill : Order where
  ticket := 7
  strategyId := "trend"
  symbol := "EURUSD"
  side := .buy
  type := .market
  volume := 1
  filledVolume := 1
  price := none
  fillPrice := some 1
  sl := none
  tp := none
  status := .filled
  comment := ""
  magic := 42
  clientOrderId := "a"
  requestedAt := none
  filledAt := some 0
  volume_pos := one_quote_pos

/-- The position that the broker opens for it. -/
def entryPosition : Position where
  ticket := 7
  symbol := "EURUSD"
  side := .buy
  volume := 1
  openPrice := 1
  openTime := 0
  sl := none
  tp := none
  comment := ""
  magic := 42
  volume_pos := one_quote_pos
  openPrice_pos := one_quote_pos

instance (s : PositionTracking) (event : PositionEvent) :
    Decidable (s.Tells event) := by
  unfold Tells
  infer_instance

instance (s : PositionTracking) (label : TrackingLabel) :
    Decidable (Attentive s label) := by
  cases label <;> unfold Attentive <;> dsimp only <;>
    first
    | infer_instance
    | split <;> infer_instance

/-- A fill and a new stop, each handled when it comes. -/
def trailedEntry : List TrackingLabel :=
  [.fill entryFill entryPosition, .publish 0, .handle .fill,
    .modify entryPosition (some (9 / 10)) none, .reread 0, .publish 0,
    .handle .modify]

theorem trailed_entry_mirrored :
    ∃ s : PositionTracking, s.runner.positions.map Position.sl = [some (9 / 10)] ∧
      Mirrors s := by
  have reached :
      ((replay? Attentive step? (boot "trend" 42) trailedEntry).filter
        (fun s => decide (s.runner.waiting = []))).map
          (fun s => s.runner.positions.map Position.sl) =
            some [some (9 / 10)] := by
    decide +kernel
  rcases Option.map_eq_some_iff.mp reached with ⟨s, filtered, stops⟩
  rcases Option.filter_eq_some_iff.mp filtered with ⟨replayed, drained⟩
  exact ⟨s, stops, view_mirrors_broker (run_of_replay? replayed)
    (of_decide_eq_true drained)⟩

/-- A fill that is handled during a pause. -/
def pausedFill : List TrackingLabel :=
  [.fill entryFill entryPosition, .pause true, .publish 0, .handle .fill,
    .pause false]

/-- The active strategy then does not see its open position. -/
theorem paused_fill_is_lost :
    ¬ ∀ (id : StrategyId) (magic : Int) (labels : List TrackingLabel)
        (s : PositionTracking), Run Step (boot id magic) labels s →
          s.runner.flags.active = true → s.runner.waiting = [] →
            Mirrors s := by
  intro claim
  have reached :
      (replay? (fun _ _ => True) step? (boot "trend" 42) pausedFill).any
        (fun s => decide (s.runner.flags.active = true ∧
          s.runner.waiting = [] ∧ s.jobs = [] ∧
            (viewed s.runner.positions 7).map Position.facts ≠
              (s.own 7).map Position.facts)) = true := by
    decide +kernel
  rcases (Option.any_eq_true _ _).mp reached with ⟨s, replayed, blind⟩
  rcases of_decide_eq_true blind with ⟨active, drained, settled, apart⟩
  have mirrors := claim "trend" 42 pausedFill s
    (run_of_replay? replayed).unguard active drained
  apply apart
  apply mirrors.same
  intro job member
  rw [settled] at member
  cases member

end PositionTracking

end StingerFx
