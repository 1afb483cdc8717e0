/-
Module: StingerFx.Proofs.OcoBooks
Layer: Proofs
Purpose: The books of the one-cancels-other manager over any sequence of calls, with
  members of both kinds and cascades that a request interrupts. Both tables describe one
  partial function, no group is empty, no cascade is left under way, and a cascade asks
  for every other member of the group once.
Trusted boundary: none (fully proved)
Main exports: OcoCall, OCOGroupManager.call, OCOGroupManager.runCalls,
  OCOGroupManager.Booked, OCOGroupManager.Dismissed, OCOGroupManager.Cascades,
  OCOGroupManager.books_are_kept
-/
import StingerFx.Strategies.Managers.Oco

namespace StingerFx

open Lib

/-- What a strategy and its runner call. The context may raise at one of the requests of
a cascade. -/
inductive OcoCall where
  | add (ticket : Ticket) (groupId : GroupId) (kind : OcoKind)
  | addBracket (tickets : List Ticket) (groupId : GroupId)
  | remove (ticket : Ticket)
  | orderFilled (order : Order) (raisesAt : Option Nat)
  | positionClosed (position : Position) (raisesAt : Option Nat)
  | orderCancelled (order : Order)

/-- The trigger of a cascade and the reason it gives. -/
def OcoCall.trigger? : OcoCall → Option (Ticket × String)
  | .orderFilled order _ => some (order.ticket, "oco_sibling_filled")
  | .positionClosed position _ => some (position.ticket, "oco_sibling_closed")
  | _ => none

def OcoCall.raisesAt : OcoCall → Option Nat
  | .orderFilled _ raisesAt | .positionClosed _ raisesAt => raisesAt
  | _ => none

namespace OCOGroupManager

/-- The requests that get out before one of them raises. -/
def issued (raisesAt : Option Nat) (requests : List RouterRequest) : List RouterRequest :=
  match raisesAt with
  | none => requests
  | some k => requests.take k

/-- The manager after a call and the requests it has made; the group of a cascade is over
whatever happens to its requests. -/
def call (m : OCOGroupManager) (ctx : StrategyContext) :
    OcoCall → OCOGroupManager × List RouterRequest
  | .add ticket groupId kind =>
      match m.add ticket groupId kind with
      | .ok m' => (m', [])
      | .error _ => (m, [])
  | .addBracket tickets groupId => ((m.addBracket groupId tickets).1, [])
  | .remove ticket => (m.remove ticket, [])
  | .orderFilled order raisesAt =>
      ((m.onOrderFilled ctx order).1, issued raisesAt (m.onOrderFilled ctx order).2)
  | .positionClosed position raisesAt =>
      ((m.onPositionClosed ctx position).1,
        issued raisesAt (m.onPositionClosed ctx position).2)
  | .orderCancelled order => (m.onOrderCancelled order, [])

def runCalls (ctx : StrategyContext) (calls : List OcoCall) : OCOGroupManager :=
  calls.foldl (fun m c => (m.call ctx c).1) create

/-- Both tables agree, no cascade is under way, and no group is empty. -/
structure Booked (m : OCOGroupManager) : Prop extends Matched m where
  occupied : ∀ groupId members, m.groups.get? groupId = some members → members.items ≠ []

variable {m m' : OCOGroupManager} {ctx : StrategyContext}

/-! ### What the calls preserve -/

theorem booked_create : Booked create where
  table := by
    intro ticket groupId
    constructor
    · intro found
      cases found
    · intro found
      cases found
  idle := rfl
  occupied := by
    intro groupId members found
    cases found

theorem items_set_ne_nil (members : Dict Ticket OcoKind) (ticket : Ticket) (kind : OcoKind) :
    (members.set ticket kind).items ≠ [] := by
  intro empty
  have found := Dict.get?_set_self members ticket kind
  rw [Dict.get?, empty] at found
  cases found

/-- A group that has been assigned is not empty if what it was assigned is not. -/
theorem occupied_set {groups : Dict GroupId (Dict Ticket OcoKind)}
    (occupied : ∀ groupId members, groups.get? groupId = some members → members.items ≠ [])
    (groupId : GroupId) {members : Dict Ticket OcoKind} (some_ : members.items ≠ []) :
    ∀ other stored, (groups.set groupId members).get? other = some stored →
      stored.items ≠ [] := by
  intro other stored found
  rw [Dict.get?_set] at found
  split at found
  · cases found
    exact some_
  · exact occupied other stored found

theorem occupied_erase {groups : Dict GroupId (Dict Ticket OcoKind)}
    (occupied : ∀ groupId members, groups.get? groupId = some members → members.items ≠ [])
    (groupId : GroupId) :
    ∀ other stored, (groups.erase groupId).get? other = some stored →
      stored.items ≠ [] := by
  intro other stored found
  rw [Dict.get?_erase] at found
  split at found
  · cases found
  · exact occupied other stored found

theorem Booked.add (booked : m.Booked) {ticket : Ticket} {groupId : GroupId}
    {kind : OcoKind} (added : m.add ticket groupId kind = .ok m') : m'.Booked := by
  obtain ⟨free, rfl⟩ := add_eq_ok added
  exact ⟨booked.toMatched.join kind free,
    occupied_set booked.occupied groupId (items_set_ne_nil _ _ _)⟩

theorem Booked.addBracket (booked : m.Booked) (groupId : GroupId) (tickets : List Ticket) :
    (m.addBracket groupId tickets).1.Booked := by
  induction tickets generalizing m with
  | nil => exact booked
  | cons ticket tickets ih =>
      unfold OCOGroupManager.addBracket
      split
      · exact booked
      · rename_i added
        exact ih (booked.add added)

theorem Booked.remove (booked : m.Booked) (ticket : Ticket) : (m.remove ticket).Booked := by
  refine ⟨booked.toMatched.remove ticket, ?_⟩
  rcases booked.toMatched.remove_cases ticket with unchanged | ⟨groupId, -, left_⟩
  · rw [unchanged]
    exact booked.occupied
  · rw [left_]
    dsimp only
    split
    · exact occupied_erase booked.occupied groupId
    · rename_i some_
      exact occupied_set booked.occupied groupId fun empty =>
        some_ (by rw [empty]; rfl)

theorem Booked.promote (booked : m.Booked) {ticket : Ticket} {groupId : GroupId}
    (found : m.ticketToGroup.get? ticket = some groupId) :
    (m.promote groupId ticket).Booked := by
  refine ⟨booked.toMatched.promote found, ?_⟩
  rw [booked.toMatched.promote_eq found]
  exact occupied_set booked.occupied groupId (items_set_ne_nil _ _ _)

theorem Booked.without (booked : m.Booked) (groupId : GroupId) :
    (m.without groupId).Booked :=
  ⟨booked.toMatched.without groupId, occupied_erase booked.occupied groupId⟩

/-! ### Cascades -/

/-- Every member but the trigger is asked for once, by its kind, and nothing else is. -/
structure Dismissed (m : OCOGroupManager) (ctx : StrategyContext) (trigger : Ticket)
    (groupId : GroupId) (reason : String) (requests : List RouterRequest) : Prop where
  each : ∀ ticket kind, (m.membersOf groupId).get? ticket = some kind → ticket ≠ trigger →
    dismiss ctx reason (ticket, kind) ∈ requests ∧
      requests.countP (fun request => decide (request.ticket = ticket)) = 1
  outside : ∀ request ∈ requests,
    request.ticket ≠ trigger ∧ (m.membersOf groupId).contains request.ticket = true

theorem ticket_dismiss (reason : String) (entry : Ticket × OcoKind) :
    (dismiss ctx reason entry).ticket = entry.1 := by
  obtain ⟨ticket, kind⟩ := entry
  cases kind with
  | pending => rfl
  | position => rfl

/-- The tickets of the requests, in the order of the sorting, are the other members. -/
theorem dismissed_siblings (m : OCOGroupManager) (ctx : StrategyContext) (trigger : Ticket)
    (groupId : GroupId) (reason : String) :
    Dismissed m ctx trigger groupId reason
      (((m.siblings groupId trigger).insertionSort fun a b => a.1 ≤ b.1).map
        (dismiss ctx reason)) := by
  have order := List.perm_insertionSort (fun a b : Ticket × OcoKind => a.1 ≤ b.1)
    (m.siblings groupId trigger)
  have listed : ∀ ticket kind, (ticket, kind) ∈ m.siblings groupId trigger ↔
      (m.membersOf groupId).get? ticket = some kind ∧ ticket ≠ trigger := by
    intro ticket kind
    unfold siblings
    rw [List.mem_filter, Dict.get?_eq_some_iff, decide_eq_true_eq]
  have distinct : ((m.siblings groupId trigger).map Prod.fst).Nodup :=
    (m.membersOf groupId).nodup.sublist (List.filter_sublist.map _)
  constructor
  · intro ticket kind noted other
    have member := (listed ticket kind).mpr ⟨noted, other⟩
    refine ⟨List.mem_map_of_mem (order.mem_iff.mpr member), ?_⟩
    rw [List.countP_map]
    have named : ((fun request : RouterRequest => decide (request.ticket = ticket)) ∘
        dismiss ctx reason) = (fun name => decide (name = ticket)) ∘ Prod.fst := by
      funext entry
      simp only [Function.comp_apply, ticket_dismiss]
    rw [named, order.countP_eq, ← List.countP_map]
    have once := List.count_eq_one_of_mem distinct (List.mem_map_of_mem member)
    rw [← once, List.count]
    congr 1
  · intro request asked
    rcases List.mem_map.mp asked with ⟨⟨ticket, kind⟩, member, rfl⟩
    have noted := (listed ticket kind).mp (order.mem_iff.mp member)
    rw [ticket_dismiss]
    refine ⟨noted.2, ?_⟩
    rw [Dict.contains, noted.1]
    rfl

/-- The new kind of a filled member does not matter to the others. -/
theorem Dismissed.of_promote (matched : m.Matched) {trigger : Ticket} {groupId : GroupId}
    {reason : String} {requests : List RouterRequest}
    (found : m.ticketToGroup.get? trigger = some groupId)
    (dismissed : Dismissed (m.promote groupId trigger) ctx trigger groupId reason requests) :
    Dismissed m ctx trigger groupId reason requests := by
  have inside := (matched.table trigger groupId).mp found
  have members : (m.promote groupId trigger).membersOf groupId =
      (m.membersOf groupId).set trigger .position := by
    rw [matched.promote_eq found, membersOf_set, if_pos rfl]
  constructor
  · intro ticket kind noted other
    refine dismissed.each ticket kind ?_ other
    rw [members, Dict.get?_set_of_ne _ _ other]
    exact noted
  · intro request asked
    obtain ⟨other, member⟩ := dismissed.outside request asked
    rw [members, Dict.contains_set, decide_eq_false other, Bool.false_or] at member
    exact ⟨other, member⟩

/-- What a call does to its group and asks for. A request that raises keeps back those
behind it. -/
structure Cascades (m : OCOGroupManager) (ctx : StrategyContext) (c : OcoCall)
    (result : OCOGroupManager × List RouterRequest) : Prop where
  dismissed : ∀ trigger reasonPrefix groupId, c.trigger? = some (trigger, reasonPrefix) →
    m.ticketToGroup.get? trigger = some groupId →
      ∃ requests, result.2 = issued c.raisesAt requests ∧
        Dismissed m ctx trigger groupId (reasonPrefix ++ ":" ++ toString trigger) requests
  /-- the group is over, whatever happens -/
  gone : ∀ trigger reasonPrefix groupId, c.trigger? = some (trigger, reasonPrefix) →
    m.ticketToGroup.get? trigger = some groupId →
      result.1.groups.get? groupId = none ∧
        ∀ ticket, m.ticketToGroup.get? ticket = some groupId →
          result.1.ticketToGroup.get? ticket = none
  silent : (∀ trigger reasonPrefix, c.trigger? = some (trigger, reasonPrefix) →
    m.ticketToGroup.get? trigger = none) → result.2 = []

/-- The group of a trigger and what a cascade makes of it. -/
theorem Matched.cascades (matched : m.Matched) (ctx : StrategyContext)
    {trigger : Ticket} {groupId : GroupId}
    (found : m.ticketToGroup.get? trigger = some groupId) (reasonPrefix : String) :
    (m.cascade ctx trigger reasonPrefix).1 = m.without groupId ∧
      Dismissed m ctx trigger groupId (reasonPrefix ++ ":" ++ toString trigger)
        (m.cascade ctx trigger reasonPrefix).2 := by
  rw [matched.cascade_eq found]
  exact ⟨rfl, dismissed_siblings m ctx trigger groupId _⟩

theorem Matched.without_gone (matched : m.Matched) (groupId : GroupId) :
    (m.without groupId).groups.get? groupId = none ∧
      ∀ ticket, m.ticketToGroup.get? ticket = some groupId →
        (m.without groupId).ticketToGroup.get? ticket = none := by
  refine ⟨Dict.get?_erase_self _ _, ?_⟩
  intro ticket stored
  rw [without_get?, if_pos ((matched.table ticket groupId).mp stored)]

/-- A call without a cascade. -/
theorem cascades_of_quiet {c : OcoCall} {result : OCOGroupManager × List RouterRequest}
    (quiet : ∀ trigger reasonPrefix, c.trigger? = some (trigger, reasonPrefix) →
      m.ticketToGroup.get? trigger = none) (silent : result.2 = []) :
    Cascades m ctx c result where
  dismissed := by
    intro trigger reasonPrefix groupId triggers found
    rw [quiet trigger reasonPrefix triggers] at found
    cases found
  gone := by
    intro trigger reasonPrefix groupId triggers found
    rw [quiet trigger reasonPrefix triggers] at found
    cases found
  silent := fun _ => silent

/-- A call whose trigger is in a group. -/
theorem cascades_of_member {c : OcoCall} {result : OCOGroupManager × List RouterRequest}
    {trigger : Ticket} {reasonPrefix : String} {groupId : GroupId}
    {requests : List RouterRequest}
    (triggers : c.trigger? = some (trigger, reasonPrefix))
    (found : m.ticketToGroup.get? trigger = some groupId)
    (sent : result.2 = issued c.raisesAt requests)
    (dismissed : Dismissed m ctx trigger groupId
      (reasonPrefix ++ ":" ++ toString trigger) requests)
    (gone : result.1.groups.get? groupId = none ∧
      ∀ ticket, m.ticketToGroup.get? ticket = some groupId →
        result.1.ticketToGroup.get? ticket = none) : Cascades m ctx c result where
  dismissed := by
    intro other text group triggers' found'
    rw [triggers] at triggers'
    cases triggers'
    rw [found] at found'
    cases found'
    exact ⟨requests, sent, dismissed⟩
  gone := by
    intro other text group triggers' found'
    rw [triggers] at triggers'
    cases triggers'
    rw [found] at found'
    cases found'
    exact gone
  silent := by
    intro quiet
    rw [quiet trigger reasonPrefix triggers] at found
    cases found

/-! ### The calls -/

theorem issued_nil (raisesAt : Option Nat) : issued raisesAt [] = [] := by
  cases raisesAt with
  | none => rfl
  | some k => exact List.take_nil

theorem Booked.orderFilled (booked : m.Booked) (ctx : StrategyContext) (order : Order)
    (raisesAt : Option Nat) :
    (m.call ctx (.orderFilled order raisesAt)).1.Booked ∧
      Cascades m ctx (.orderFilled order raisesAt)
        (m.call ctx (.orderFilled order raisesAt)) := by
  simp only [OCOGroupManager.call]
  cases found : m.ticketToGroup.get? order.ticket with
  | none =>
      rw [onOrderFilled_stranger found]
      refine ⟨booked, cascades_of_quiet ?_ (issued_nil raisesAt)⟩
      rintro trigger reasonPrefix ⟨⟩
      exact found
  | some groupId =>
      have handled : m.onOrderFilled ctx order =
          (m.promote groupId order.ticket).cascade ctx order.ticket
            "oco_sibling_filled" := by
        unfold OCOGroupManager.onOrderFilled
        rw [found]
      have promoted := booked.promote found
      have table : (m.promote groupId order.ticket).ticketToGroup = m.ticketToGroup := by
        rw [booked.toMatched.promote_eq found]
      have still : (m.promote groupId order.ticket).ticketToGroup.get? order.ticket =
          some groupId := by
        rw [table]
        exact found
      have dissolves := promoted.toMatched.cascades ctx still "oco_sibling_filled"
      have gone := promoted.toMatched.without_gone groupId
      rw [table] at gone
      rw [handled, dissolves.1]
      exact ⟨promoted.without groupId, cascades_of_member rfl found rfl
        (dissolves.2.of_promote booked.toMatched found) gone⟩

theorem Booked.positionClosed (booked : m.Booked) (ctx : StrategyContext)
    (position : Position) (raisesAt : Option Nat) :
    (m.call ctx (.positionClosed position raisesAt)).1.Booked ∧
      Cascades m ctx (.positionClosed position raisesAt)
        (m.call ctx (.positionClosed position raisesAt)) := by
  simp only [OCOGroupManager.call]
  cases found : m.ticketToGroup.get? position.ticket with
  | none =>
      rw [onPositionClosed_stranger found]
      refine ⟨booked, cascades_of_quiet ?_ (issued_nil raisesAt)⟩
      rintro trigger reasonPrefix ⟨⟩
      exact found
  | some groupId =>
      have handled : m.onPositionClosed ctx position =
          m.cascade ctx position.ticket "oco_sibling_closed" := by
        unfold OCOGroupManager.onPositionClosed Dict.contains
        rw [found]
        rfl
      have dissolves := booked.toMatched.cascades ctx found "oco_sibling_closed"
      rw [handled, dissolves.1]
      exact ⟨booked.without groupId, cascades_of_member rfl found rfl dissolves.2
        (booked.toMatched.without_gone groupId)⟩

/-- One call keeps the books, and its cascade is as it should be. -/
theorem Booked.call (booked : m.Booked) (ctx : StrategyContext) (c : OcoCall) :
    (m.call ctx c).1.Booked ∧ Cascades m ctx c (m.call ctx c) := by
  cases c with
  | add ticket groupId kind =>
      simp only [OCOGroupManager.call]
      split
      · rename_i added
        exact ⟨booked.add added, cascades_of_quiet nofun rfl⟩
      · exact ⟨booked, cascades_of_quiet nofun rfl⟩
  | addBracket tickets groupId =>
      exact ⟨booked.addBracket groupId tickets, cascades_of_quiet nofun rfl⟩
  | remove ticket => exact ⟨booked.remove ticket, cascades_of_quiet nofun rfl⟩
  | orderFilled order raisesAt => exact booked.orderFilled ctx order raisesAt
  | positionClosed position raisesAt => exact booked.positionClosed ctx position raisesAt
  | orderCancelled order =>
      exact ⟨booked.remove order.ticket, cascades_of_quiet nofun rfl⟩

theorem booked_runCalls (ctx : StrategyContext) (calls : List OcoCall) :
    (runCalls ctx calls).Booked := by
  have keeps : ∀ m : OCOGroupManager, m.Booked →
      (calls.foldl (fun m c => (m.call ctx c).1) m).Booked := by
    induction calls with
    | nil => exact fun m booked => booked
    | cons c calls ih => exact fun m booked => ih _ (booked.call ctx c).1
  exact keeps create booked_create

/-! ### Refused tickets -/

/-- A ticket is refused exactly when it is in another group. -/
theorem add_refused (m : OCOGroupManager) (ticket : Ticket) (groupId : GroupId)
    (kind : OcoKind) {existing : GroupId}
    (found : m.ticketToGroup.get? ticket = some existing) (other : existing ≠ groupId) :
    m.add ticket groupId kind = .error (.otherGroup ticket existing groupId) := by
  unfold OCOGroupManager.add
  rw [found]
  exact if_pos other

/-- A bracket is refused at one of its tickets; what was there before it stays. -/
theorem addBracket_refused {groupId : GroupId} {tickets : List Ticket} {error : OcoError}
    (refused : m.addBracket groupId tickets = (m', some error)) :
    ∃ before ticket after, tickets = before ++ ticket :: after ∧
      m.addBracket groupId before = (m', none) ∧
      m'.add ticket groupId .pending = .error error := by
  induction tickets generalizing m with
  | nil => cases refused
  | cons ticket tickets ih =>
      unfold OCOGroupManager.addBracket at refused
      split at refused
      · rename_i failed
        cases refused
        exact ⟨[], ticket, tickets, rfl, rfl, failed⟩
      · rename_i middle added
        obtain ⟨before, last, after, rfl, rest, failed⟩ := ih refused
        refine ⟨ticket :: before, last, after, rfl, ?_, failed⟩
        unfold OCOGroupManager.addBracket
        rw [added]
        exact rest

/-! ### Every sequence of calls -/

/-- After any calls the books are right; a ticket of another group is refused and leaves
them as they are; and whatever is called next, a cascade asks for every other member of
the group once and for nothing else. -/
theorem books_are_kept (ctx : StrategyContext) (calls : List OcoCall) :
    (runCalls ctx calls).Booked ∧
    (∀ ticket groupId kind existing,
      (runCalls ctx calls).ticketToGroup.get? ticket = some existing → existing ≠ groupId →
        (runCalls ctx calls).add ticket groupId kind =
            .error (.otherGroup ticket existing groupId) ∧
          ((runCalls ctx calls).call ctx (.add ticket groupId kind)).1 =
            runCalls ctx calls) ∧
    (∀ groupId tickets m' error,
      (runCalls ctx calls).addBracket groupId tickets = (m', some error) →
        ∃ before ticket after, tickets = before ++ ticket :: after ∧
          (runCalls ctx calls).addBracket groupId before = (m', none) ∧
          m'.add ticket groupId .pending = .error error) ∧
    ∀ c, Cascades (runCalls ctx calls) ctx c ((runCalls ctx calls).call ctx c) := by
  have booked := booked_runCalls ctx calls
  refine ⟨booked, ?_, fun _ _ _ _ => addBracket_refused, fun c => (booked.call ctx c).2⟩
  intro ticket groupId kind existing found other
  have refused := add_refused (runCalls ctx calls) ticket groupId kind found other
  refine ⟨refused, ?_⟩
  simp only [OCOGroupManager.call, refused]

/-- Three members of a bracket; the fill of one cancels the two others. -/
example : ((runCalls ⟨"breakout", "EURUSD", 0, none⟩
      [.addBracket [1, 2, 3] "g"]).siblings "g" 2).map Prod.fst = [1, 3] := by
  decide

end OCOGroupManager

end StingerFx
