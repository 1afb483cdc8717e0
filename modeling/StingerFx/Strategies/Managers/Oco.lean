/-
Module: StingerFx.Strategies.Managers.Oco
Layer: Strategies
Purpose: The one-cancels-other manager. Members of a group are pending orders or
  positions; when one fills or closes, the others are cancelled or closed, each by
  the kind the manager has noted for it, and the group is over.
Trusted boundary: human-reviewed model of the source's group manager; a handler
  runs to its end before another one starts
Main exports: OcoKind, OcoError, OCOGroupManager, OCOGroupManager.addBracket,
  OCOGroupManager.remove, OCOGroupManager.onOrderFilled,
  OCOGroupManager.onPositionClosed, OCOGroupManager.onOrderCancelled,
  OCOGroupManager.Tidy
-/
import StingerFx.Strategies.Context

namespace StingerFx

open Lib

abbrev GroupId := String

inductive OcoKind where
  | pending
  | position
deriving Repr, DecidableEq

/-- `add` refuses to move a ticket to another group. -/
inductive OcoError where
  | otherGroup (ticket : Ticket) (existing groupId : GroupId)
deriving Repr, DecidableEq

def OcoError.text : OcoError → String
  | .otherGroup ticket existing groupId =>
      s!"ticket {ticket} is already in group '" ++ existing ++
        "'; can't reassign to '" ++ groupId ++ "'"

structure OCOGroupManager where
  groups : Dict GroupId (Dict Ticket OcoKind)
  ticketToGroup : Dict Ticket GroupId
  /-- tickets a cascade is dealing with -/
  dissolving : List Ticket

namespace OCOGroupManager

def create : OCOGroupManager where
  groups := .empty
  ticketToGroup := .empty
  dissolving := []

/-- The members of a group, none for an unknown group. -/
def membersOf (m : OCOGroupManager) (groupId : GroupId) : Dict Ticket OcoKind :=
  m.groups.getD groupId .empty

/-- Note a ticket as a member of a group. -/
def join (m : OCOGroupManager) (ticket : Ticket) (groupId : GroupId)
    (kind : OcoKind) : OCOGroupManager :=
  { m with
    groups := m.groups.set groupId ((m.membersOf groupId).set ticket kind)
    ticketToGroup := m.ticketToGroup.set ticket groupId }

def add (m : OCOGroupManager) (ticket : Ticket) (groupId : GroupId)
    (kind : OcoKind) : Except OcoError OCOGroupManager :=
  match m.ticketToGroup.get? ticket with
  | none => .ok (m.join ticket groupId kind)
  | some existing =>
      if existing ≠ groupId then .error (.otherGroup ticket existing groupId)
      else .ok (m.join ticket groupId kind)

/-- The tickets one after the other; those before a refused one stay. -/
def addBracket (groupId : GroupId) :
    List Ticket → OCOGroupManager → OCOGroupManager × Option OcoError
  | [], m => (m, none)
  | ticket :: tickets, m =>
      match m.add ticket groupId .pending with
      | .error error => (m, some error)
      | .ok m => addBracket groupId tickets m

def remove (m : OCOGroupManager) (ticket : Ticket) : OCOGroupManager :=
  match m.ticketToGroup.get? ticket with
  | none => m
  | some groupId =>
      let left := { m with ticketToGroup := m.ticketToGroup.erase ticket }
      match m.groups.get? groupId with
      | none => left
      | some members =>
          let rest := members.erase ticket
          { left with
            groups :=
              if rest.items.isEmpty then m.groups.erase groupId
              else m.groups.set groupId rest }

/-- The request for one sibling, by its noted kind. -/
def dismiss (ctx : StrategyContext) (reason : String) :
    Ticket × OcoKind → RouterRequest
  | (ticket, .pending) => .cancel (ctx.cancelOrder ticket reason)
  | (ticket, .position) => .close (ctx.close ticket reason)

/-- `_cascade`: requests for the siblings by ticket, then the group is over. -/
def cascade (m : OCOGroupManager) (ctx : StrategyContext)
    (triggerTicket : Ticket) (reasonPrefix : String) :
    OCOGroupManager × List RouterRequest :=
  if triggerTicket ∈ m.dissolving then (m, [])
  else
    match m.ticketToGroup.get? triggerTicket with
    | none => (m, [])
    | some groupId =>
        let members := m.membersOf groupId
        let siblingItems := members.items.filter fun entry =>
          decide (entry.1 ≠ triggerTicket ∧ entry.1 ∉ m.dissolving)
        let dissolving := m.dissolving ++ siblingItems.map Prod.fst
        let reason := reasonPrefix ++ ":" ++ toString triggerTicket
        ({ groups := m.groups.erase groupId
           ticketToGroup := m.ticketToGroup.eraseAll members.keys
           dissolving := dissolving.filter fun ticket =>
            decide (ticket ∉ members.keys) },
          (siblingItems.insertionSort fun a b => a.1 ≤ b.1).map
            (dismiss ctx reason))

/-- A triggered order is a position from now on. -/
def promote (m : OCOGroupManager) (groupId : GroupId) (ticket : Ticket) :
    OCOGroupManager :=
  let members := m.membersOf groupId
  if members.contains ticket then
    { m with groups := m.groups.set groupId (members.set ticket .position) }
  else m

def onOrderFilled (m : OCOGroupManager) (ctx : StrategyContext)
    (order : Order) : OCOGroupManager × List RouterRequest :=
  match m.ticketToGroup.get? order.ticket with
  | none => (m, [])
  | some groupId =>
      (m.promote groupId order.ticket).cascade ctx order.ticket
        "oco_sibling_filled"

def onPositionClosed (m : OCOGroupManager) (ctx : StrategyContext)
    (position : Position) : OCOGroupManager × List RouterRequest :=
  if m.ticketToGroup.contains position.ticket then
    m.cascade ctx position.ticket "oco_sibling_closed"
  else (m, [])

def onOrderCancelled (m : OCOGroupManager) (order : Order) : OCOGroupManager :=
  m.remove order.ticket

/-! ### A manager of brackets

Where members join through `addBracket` only, both tables agree between two
handlers, every kind is pending, and no cascade is under way. -/

/-- Both tables agree and no cascade is under way. -/
structure Matched (m : OCOGroupManager) : Prop where
  table : ∀ ticket groupId, m.ticketToGroup.get? ticket = some groupId ↔
    (m.membersOf groupId).contains ticket = true
  idle : m.dissolving = []

structure Tidy (m : OCOGroupManager) : Prop extends Matched m where
  pending : ∀ groupId ticket kind,
    (m.membersOf groupId).get? ticket = some kind → kind = .pending

theorem tidy_create : Tidy create where
  table := fun ticket groupId => ⟨nofun, nofun⟩
  idle := rfl
  pending := by rintro groupId ticket kind ⟨⟩

section Handlers

variable {m m' : OCOGroupManager} {ctx : StrategyContext}

theorem membersOf_set (groups : Dict GroupId (Dict Ticket OcoKind))
    (groupId other : GroupId) (members : Dict Ticket OcoKind)
    (ticketToGroup : Dict Ticket GroupId) (dissolving : List Ticket) :
    membersOf ⟨groups.set groupId members, ticketToGroup, dissolving⟩ other =
      if other = groupId then members
      else membersOf ⟨groups, ticketToGroup, dissolving⟩ other := by
  unfold membersOf
  dsimp only
  rw [Dict.getD_set]

theorem membersOf_erase (groups : Dict GroupId (Dict Ticket OcoKind))
    (groupId other : GroupId) (ticketToGroup : Dict Ticket GroupId)
    (dissolving : List Ticket) :
    membersOf ⟨groups.erase groupId, ticketToGroup, dissolving⟩ other =
      if other = groupId then .empty
      else membersOf ⟨groups, ticketToGroup, dissolving⟩ other := by
  unfold membersOf Dict.getD
  dsimp only
  rw [Dict.get?_erase]
  split <;> rfl

/-- A group that is replaced by what is left of it, if anything is. -/
theorem membersOf_shrunk (groups : Dict GroupId (Dict Ticket OcoKind))
    (groupId other : GroupId) (rest : Dict Ticket OcoKind)
    (ticketToGroup : Dict Ticket GroupId) (dissolving : List Ticket)
    (ticket : Ticket) :
    (membersOf
      ⟨if rest.items.isEmpty then groups.erase groupId
        else groups.set groupId rest, ticketToGroup, dissolving⟩ other).get?
          ticket =
      if other = groupId then rest.get? ticket
      else (membersOf ⟨groups, ticketToGroup, dissolving⟩ other).get? ticket := by
  split
  · rename_i none
    rw [membersOf_erase]
    split
    · unfold Dict.get?
      rw [List.isEmpty_iff.mp none]
      rfl
    · rfl
  · rw [membersOf_set]
    split <;> rfl

/-! #### Joining -/

/-- A ticket joins a group it may already be in. -/
theorem Matched.join (matched : m.Matched) {ticket : Ticket} {groupId : GroupId}
    (kind : OcoKind)
    (free : ∀ other, m.ticketToGroup.get? ticket = some other →
      other = groupId) : (m.join ticket groupId kind).Matched where
  table := by
    intro name other
    unfold OCOGroupManager.join
    dsimp only
    rw [membersOf_set, Dict.get?_set]
    have before := matched.table name other
    by_cases same : name = ticket
    · rw [if_pos same]
      by_cases here : other = groupId
      · rw [if_pos here, here, Dict.contains_set, decide_eq_true same,
          Bool.true_or]
        exact ⟨fun _ => rfl, fun _ => rfl⟩
      · rw [if_neg here]
        refine ⟨fun found => absurd (Option.some.inj found).symm here, ?_⟩
        intro member
        have elsewhere := before.mpr member
        rw [same] at elsewhere
        exact absurd (free other elsewhere) here
    · rw [if_neg same]
      by_cases here : other = groupId
      · rw [if_pos here, Dict.contains_set, decide_eq_false same,
          Bool.false_or, ← here]
        exact before
      · rw [if_neg here]
        exact before
  idle := matched.idle

theorem Tidy.join (tidy : m.Tidy) {ticket : Ticket} {groupId : GroupId}
    (free : ∀ other, m.ticketToGroup.get? ticket = some other →
      other = groupId) : (m.join ticket groupId .pending).Tidy where
  toMatched := tidy.toMatched.join .pending free
  pending := by
    intro other name kind found
    unfold OCOGroupManager.join at found
    rw [membersOf_set] at found
    split at found
    · rw [Dict.get?_set] at found
      split at found
      · cases found
        rfl
      · exact tidy.pending groupId name kind found
    · exact tidy.pending other name kind found

/-- What is added joins, and was in no other group. -/
theorem add_eq_ok {ticket : Ticket} {groupId : GroupId} {kind : OcoKind}
    (added : m.add ticket groupId kind = .ok m') :
    (∀ other, m.ticketToGroup.get? ticket = some other → other = groupId) ∧
      m' = m.join ticket groupId kind := by
  unfold OCOGroupManager.add at added
  split at added
  · rename_i free
    cases added
    refine ⟨?_, rfl⟩
    intro other found
    rw [free] at found
    cases found
  · rename_i existing found
    split at added
    · cases added
    · rename_i same
      cases added
      refine ⟨?_, rfl⟩
      intro other again
      rw [found] at again
      cases again
      exact not_not.mp same

theorem Tidy.add (tidy : m.Tidy) {ticket : Ticket} {groupId : GroupId}
    (added : m.add ticket groupId .pending = .ok m') :
    m'.Tidy ∧ m'.ticketToGroup = m.ticketToGroup.set ticket groupId ∧
      ∀ other, m.ticketToGroup.get? ticket = some other → other = groupId := by
  obtain ⟨free, rfl⟩ := add_eq_ok added
  exact ⟨tidy.join free, rfl, free⟩

/-- What registering a bracket leaves: members stay where they are, and without
an error every ticket of the bracket is in the group. -/
structure Joined (m m' : OCOGroupManager) (groupId : GroupId)
    (tickets : List Ticket) (error : Option OcoError) : Prop where
  tidy : m'.Tidy
  stays : ∀ ticket other, m.ticketToGroup.get? ticket = some other →
    m'.ticketToGroup.get? ticket = some other
  joins : error = none → ∀ ticket ∈ tickets,
    m'.ticketToGroup.get? ticket = some groupId

theorem Tidy.addBracket (tidy : m.Tidy) (groupId : GroupId)
    (tickets : List Ticket) :
    Joined m (m.addBracket groupId tickets).1 groupId tickets
      (m.addBracket groupId tickets).2 := by
  induction tickets generalizing m with
  | nil =>
      exact ⟨tidy, fun _ _ found => found, fun _ _ member => by cases member⟩
  | cons ticket tickets ih =>
      unfold OCOGroupManager.addBracket
      split
      · exact ⟨tidy, fun _ _ found => found, fun failed => by cases failed⟩
      · rename_i middle added
        rcases tidy.add added with ⟨next, table, free⟩
        have rest := ih next
        have stays : ∀ name other, m.ticketToGroup.get? name = some other →
            middle.ticketToGroup.get? name = some other := by
          intro name other found
          rw [table, Dict.get?_set]
          split
          · rename_i same
            rw [same] at found
            rw [free other found]
          · exact found
        refine ⟨rest.tidy, fun name other found =>
          rest.stays name other (stays name other found), ?_⟩
        intro fine name member
        rcases List.mem_cons.mp member with same | later
        · apply rest.stays
          rw [same, table, Dict.get?_set_self]
        · exact rest.joins fine name later

/-! #### Leaving -/

/-- What is left when a ticket leaves its group. -/
theorem Matched.remove_cases (matched : m.Matched) (ticket : Ticket) :
    m.remove ticket = m ∨
      ∃ groupId, m.ticketToGroup.get? ticket = some groupId ∧
        m.remove ticket =
          ⟨if ((m.membersOf groupId).erase ticket).items.isEmpty then
              m.groups.erase groupId
            else m.groups.set groupId ((m.membersOf groupId).erase ticket),
            m.ticketToGroup.erase ticket, m.dissolving⟩ := by
  unfold OCOGroupManager.remove
  split
  · left
    rfl
  · rename_i groupId found
    have inside := (matched.table ticket groupId).mp found
    dsimp only
    split
    · rename_i missing
      unfold membersOf Dict.getD at inside
      rw [missing] at inside
      cases inside
    · rename_i members stored
      have own : m.membersOf groupId = members := by
        unfold membersOf Dict.getD
        rw [stored]
        rfl
      right
      refine ⟨groupId, found, ?_⟩
      rw [own]

theorem Matched.remove (matched : m.Matched) (ticket : Ticket) :
    (m.remove ticket).Matched := by
  rcases matched.remove_cases ticket with unchanged | ⟨groupId, found, left_⟩
  · rw [unchanged]
    exact matched
  · rw [left_]
    refine ⟨?_, matched.idle⟩
    intro name other
    have before := matched.table name other
    unfold Dict.contains at before ⊢
    rw [membersOf_shrunk, Dict.get?_erase]
    by_cases same : name = ticket
    · rw [if_pos same]
      refine ⟨nofun, fun member => ?_⟩
      split at member
      · rw [Dict.get?_erase, if_pos same] at member
        cases member
      · rename_i elsewhere
        have stray := before.mpr member
        rw [same, found] at stray
        exact absurd (Option.some.inj stray).symm elsewhere
    · rw [if_neg same]
      split
      · rename_i here
        rw [Dict.get?_erase, if_neg same, ← here]
        exact before
      · exact before

/-- Removing a ticket touches no other one. -/
theorem Tidy.remove (tidy : m.Tidy) (ticket : Ticket) :
    (m.remove ticket).Tidy ∧ ∀ other, other ≠ ticket →
      (m.remove ticket).ticketToGroup.get? other =
        m.ticketToGroup.get? other := by
  have matched := tidy.toMatched.remove ticket
  rcases tidy.toMatched.remove_cases ticket with unchanged | ⟨groupId, -, left_⟩
  · rw [unchanged]
    exact ⟨tidy, fun _ _ => rfl⟩
  · rw [left_] at matched ⊢
    refine ⟨⟨matched, ?_⟩, ?_⟩
    · intro other name kind stays
      rw [membersOf_shrunk] at stays
      split at stays
      · rw [Dict.get?_erase] at stays
        split at stays
        · cases stays
        · exact tidy.pending groupId name kind stays
      · exact tidy.pending other name kind stays
    · intro other apart
      exact Dict.get?_erase_of_ne _ apart

/-! #### The cascade -/

/-- What a cascade leaves: the group of the trigger is gone, every other member
is asked to be cancelled, and the other groups are as before. -/
structure Dissolved (m : OCOGroupManager) (ctx : StrategyContext)
    (trigger : Ticket) (groupId : GroupId)
    (result : OCOGroupManager × List RouterRequest) : Prop where
  tidy : result.1.Tidy
  others : ∀ ticket other, other ≠ groupId →
    m.ticketToGroup.get? ticket = some other →
      result.1.ticketToGroup.get? ticket = some other
  cancels : ∀ ticket, ticket ≠ trigger →
    m.ticketToGroup.get? ticket = some groupId →
      ∃ reason, RouterRequest.cancel (ctx.cancelOrder ticket reason) ∈ result.2

/-- The members of a group without the one that triggers its end. -/
def siblings (m : OCOGroupManager) (groupId : GroupId) (trigger : Ticket) :
    List (Ticket × OcoKind) :=
  (m.membersOf groupId).items.filter fun entry => decide (entry.1 ≠ trigger)

/-- The manager without a group and its members. -/
def without (m : OCOGroupManager) (groupId : GroupId) : OCOGroupManager where
  groups := m.groups.erase groupId
  ticketToGroup := m.ticketToGroup.eraseAll (m.membersOf groupId).keys
  dissolving := []

/-- A cascade that no other one is under way for. -/
theorem Matched.cascade_eq (matched : m.Matched) {trigger : Ticket}
    {groupId : GroupId} (found : m.ticketToGroup.get? trigger = some groupId)
    (reasonPrefix : String) :
    m.cascade ctx trigger reasonPrefix =
      (m.without groupId,
        ((m.siblings groupId trigger).insertionSort fun a b => a.1 ≤ b.1).map
          (dismiss ctx (reasonPrefix ++ ":" ++ toString trigger))) := by
  unfold OCOGroupManager.cascade without siblings
  rw [matched.idle, if_neg List.not_mem_nil, found]
  simp only [List.not_mem_nil, not_false_eq_true, and_true, List.nil_append]
  congr 2
  apply List.filter_eq_nil_iff.mpr
  intro ticket member
  rcases List.mem_map.mp member with ⟨entry, listed, rfl⟩
  have key : entry.1 ∈ (m.membersOf groupId).keys :=
    List.mem_map.mpr ⟨entry, (List.mem_filter.mp listed).1, rfl⟩
  simp [key]

theorem without_get? (m : OCOGroupManager) (groupId : GroupId) (ticket : Ticket) :
    (m.without groupId).ticketToGroup.get? ticket =
      if (m.membersOf groupId).contains ticket then none
      else m.ticketToGroup.get? ticket := by
  have same : ticket ∈ (m.membersOf groupId).keys ↔
      (m.membersOf groupId).contains ticket = true :=
    (Dict.get?_isSome_iff _).symm
  unfold without
  dsimp only
  rw [Dict.get?_eraseAll]
  simp only [same]

/-- No ticket is in two groups. -/
theorem Matched.apart (matched : m.Matched) {ticket : Ticket}
    {groupId other : GroupId} (elsewhere : other ≠ groupId)
    (stored : m.ticketToGroup.get? ticket = some other) :
    (m.membersOf groupId).contains ticket ≠ true := by
  intro inside
  have here := (matched.table ticket groupId).mpr inside
  rw [stored] at here
  exact elsewhere (Option.some.inj here)

theorem Matched.without (matched : m.Matched) (groupId : GroupId) :
    (m.without groupId).Matched where
  table := by
    intro ticket other
    rw [without_get?]
    unfold OCOGroupManager.without
    rw [membersOf_erase]
    by_cases here : other = groupId
    · rw [if_pos here]
      refine ⟨fun stored => ?_, nofun⟩
      split at stored
      · cases stored
      · rename_i outside
        rw [here] at stored
        exact absurd ((matched.table ticket groupId).mp stored) outside
    · rw [if_neg here]
      have before := matched.table ticket other
      constructor
      · intro stored
        split at stored
        · cases stored
        · exact before.mp stored
      · intro inside
        have stored := before.mpr inside
        rw [if_neg (matched.apart here stored)]
        exact stored
  idle := rfl

theorem Matched.cascade (matched : m.Matched) {trigger : Ticket}
    {groupId : GroupId}
    (found : m.ticketToGroup.get? trigger = some groupId)
    (siblings : ∀ other ticket kind, (m.membersOf other).get? ticket = some kind →
      ticket ≠ trigger → kind = .pending) (reasonPrefix : String) :
    Dissolved m ctx trigger groupId
      (m.cascade ctx trigger reasonPrefix) := by
  rw [matched.cascade_eq found]
  refine ⟨⟨matched.without groupId, ?_⟩, ?_, ?_⟩
  · intro other ticket kind stored
    unfold OCOGroupManager.without at stored
    rw [membersOf_erase] at stored
    split at stored
    · cases stored
    · rename_i elsewhere
      have before : (m.membersOf other).get? ticket = some kind := stored
      apply siblings other ticket kind before
      intro same
      have inside := (matched.table ticket other).mpr (by
        unfold Dict.contains
        rw [before]
        rfl)
      rw [same, found] at inside
      exact elsewhere (Option.some.inj inside).symm
  · intro ticket other elsewhere stored
    rw [without_get?, if_neg (matched.apart elsewhere stored)]
    exact stored
  · intro ticket other stored
    have inside := (matched.table ticket groupId).mp stored
    rcases Option.isSome_iff_exists.mp inside with ⟨kind, noted⟩
    have pending := siblings groupId ticket kind noted other
    rw [pending] at noted
    refine ⟨reasonPrefix ++ ":" ++ toString trigger, ?_⟩
    apply List.mem_map.mpr
    refine ⟨(ticket, .pending), ?_, rfl⟩
    rw [List.mem_insertionSort]
    apply List.mem_filter.mpr
    refine ⟨((m.membersOf groupId).get?_eq_some_iff).mp noted, ?_⟩
    simp [other]

/-! #### A fill -/

/-- A fill notes the new kind of a member and changes no membership. -/
theorem Matched.promote_eq (matched : m.Matched) {ticket : Ticket}
    {groupId : GroupId} (found : m.ticketToGroup.get? ticket = some groupId) :
    m.promote groupId ticket =
      ⟨m.groups.set groupId ((m.membersOf groupId).set ticket .position),
        m.ticketToGroup, m.dissolving⟩ := by
  unfold OCOGroupManager.promote
  dsimp only
  rw [if_pos ((matched.table ticket groupId).mp found)]

theorem Matched.promote (matched : m.Matched) {ticket : Ticket}
    {groupId : GroupId} (found : m.ticketToGroup.get? ticket = some groupId) :
    (m.promote groupId ticket).Matched := by
  have inside := (matched.table ticket groupId).mp found
  rw [matched.promote_eq found]
  refine ⟨?_, matched.idle⟩
  intro name other
  dsimp only
  rw [membersOf_set, matched.table name other]
  split
  · rename_i here
    rw [here, Dict.contains_set]
    by_cases same : name = ticket
    · rw [same, inside, Bool.or_true]
    · rw [decide_eq_false same, Bool.false_or]
  · exact Iff.rfl

/-- A fill of a member dissolves its group. -/
theorem Tidy.onOrderFilled (tidy : m.Tidy) {order : Order} {groupId : GroupId}
    (found : m.ticketToGroup.get? order.ticket = some groupId) :
    Dissolved m ctx order.ticket groupId (m.onOrderFilled ctx order) := by
  have promoted := tidy.toMatched.promote_eq found
  have matched := tidy.toMatched.promote found
  have siblings : ∀ other ticket kind,
      ((m.promote groupId order.ticket).membersOf other).get? ticket =
        some kind → ticket ≠ order.ticket → kind = .pending := by
    intro other ticket kind noted apart
    rw [promoted, membersOf_set] at noted
    split at noted
    · rw [Dict.get?_set, if_neg apart] at noted
      exact tidy.pending groupId ticket kind noted
    · exact tidy.pending other ticket kind noted
  have table : (m.promote groupId order.ticket).ticketToGroup =
      m.ticketToGroup := by
    rw [promoted]
  have dissolved : Dissolved (m.promote groupId order.ticket) ctx order.ticket
      groupId ((m.promote groupId order.ticket).cascade ctx order.ticket
        "oco_sibling_filled") := by
    apply matched.cascade _ siblings
    rw [table]
    exact found
  have handled : m.onOrderFilled ctx order =
      (m.promote groupId order.ticket).cascade ctx order.ticket
        "oco_sibling_filled" := by
    unfold OCOGroupManager.onOrderFilled
    rw [found]
  rw [handled]
  refine ⟨dissolved.tidy, ?_, ?_⟩
  · intro ticket other elsewhere stored
    exact dissolved.others ticket other elsewhere (by rw [table]; exact stored)
  · intro ticket apart stored
    exact dissolved.cancels ticket apart (by rw [table]; exact stored)

theorem onOrderFilled_stranger {order : Order}
    (stranger : m.ticketToGroup.get? order.ticket = none) :
    m.onOrderFilled ctx order = (m, []) := by
  unfold onOrderFilled
  rw [stranger]

/-- A close of a member dissolves its group. -/
theorem Tidy.onPositionClosed (tidy : m.Tidy) {position : Position}
    {groupId : GroupId}
    (found : m.ticketToGroup.get? position.ticket = some groupId) :
    Dissolved m ctx position.ticket groupId
      (m.onPositionClosed ctx position) := by
  have known : m.ticketToGroup.contains position.ticket = true := by
    unfold Dict.contains
    rw [found]
    rfl
  unfold OCOGroupManager.onPositionClosed
  rw [if_pos known]
  exact tidy.cascade found
    (fun other ticket kind noted _ => tidy.pending other ticket kind noted) _

theorem onPositionClosed_stranger {position : Position}
    (stranger : m.ticketToGroup.get? position.ticket = none) :
    m.onPositionClosed ctx position = (m, []) := by
  unfold onPositionClosed Dict.contains
  rw [stranger]
  rfl

end Handlers

end OCOGroupManager

end StingerFx
