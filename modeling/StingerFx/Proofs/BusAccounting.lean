/-
Module: StingerFx.Proofs.BusAccounting
Layer: Proofs
Purpose: The bus with all of its calls, from any number of tasks and in any order.
  Every matching event that was under way when a subscription joined, or was
  published since, is in exactly one place: handled, evicted, waiting, too late, or
  carried by a publish call that has not come by. After a subscription is closed
  nothing is handled any more, and a publisher at its full queue never goes on.
Trusted boundary: none (fully proved)
Main exports: BusSubscription.Account, AsyncEventBus.Accounts,
  AsyncEventBus.every_event_accounted, AsyncEventBus.closed_subscription_holds
-/
import StingerFx.Proofs.BusDelivery

namespace StingerFx

open Lib

/-! ### Publish calls under way -/

namespace PublishCall

variable {ε : Type} {waiting : List (PublishCall ε)} {index : Nat}

theorem carried_append (left right : List (PublishCall ε)) (index : Nat) :
    carried (left ++ right) index = carried left index ++ carried right index := by
  simp [carried]

theorem carried_before {call : PublishCall ε} (later : index < call.waitsAt) :
    carried [call] index = [] := by
  have away : ¬ call.waitsAt ≤ index := Nat.not_le.mpr later
  simp [carried, away]

theorem carried_from {call : PublishCall ε} (reached : call.waitsAt ≤ index) :
    carried [call] index = [call.event] := by
  simp [carried, reached]

/-- One call goes on. -/
theorem carried_eraseIdx {position : Nat} {call : PublishCall ε}
    (found : waiting[position]? = some call) :
    (carried [call] index ++ carried (waiting.eraseIdx position) index).Perm
      (carried waiting index) := by
  obtain ⟨inside, same⟩ := List.getElem?_eq_some_iff.mp found
  have whole := List.getElem_cons_eraseIdx_perm inside
  rw [same] at whole
  rw [← carried_append]
  exact (whole.filter _).map _

/-- A call that stops behind a subscription is not carried to it. -/
theorem carried_stopped_behind {event : ε} {stopped : Option Nat} {skip : Nat}
    (behind : ∀ stop, stopped = some stop → index < skip + stop) :
    carried (stopped.map fun stop =>
      (⟨event, skip + stop⟩ : PublishCall ε)).toList index = [] := by
  cases place : stopped with
  | none => rfl
  | some stop =>
      have away := behind stop place
      rw [Option.map_some, Option.toList_some, carried_before (by exact away)]

theorem carried_all (fits : ∀ call ∈ waiting, call.waitsAt ≤ index) :
    carried waiting index = waiting.map PublishCall.event := by
  have everyone : (waiting.filter fun call => decide (call.waitsAt ≤ index)) =
      waiting := by
    apply List.filter_eq_self.mpr
    intro call member
    exact decide_eq_true (fits call member)
  rw [carried, everyone]

end PublishCall

/-! ### The account of one subscription -/

namespace BusSubscription

variable {τ κ ε : Type} {isInstance : ε → τ → Bool}
variable {sub : BusSubscription τ κ ε} {event : ε}

/-- A subscription of some kind whose events are all where they should be: of the
events it is owed, it has seen those that are not carried by a publish call. -/
structure Account (isInstance : ε → τ → Bool) (spec : SubscriptionSpec τ κ)
    (owed carried : List ε) (sub : BusSubscription τ κ ε) : Prop where
  eventType : sub.eventType = spec.eventType
  handler : sub.handler = spec.handler
  overflow : sub.overflow = spec.overflow
  balanced :
    (sub.seen ++ carried.filter fun event => isInstance event spec.eventType).Perm
      (owed.filter fun event => isInstance event spec.eventType)
  nothingLost : sub.overflow = .block → sub.queue.lost = []
  inTime : sub.closed = false → sub.passedBy = []

theorem seen_push (sub : BusSubscription τ κ ε) (event : ε) :
    ({ sub with queue := sub.queue.push event } : BusSubscription τ κ ε).seen.Perm
      (sub.seen ++ [event]) := by
  have grown : (sub.queue.push event).lost ++ (sub.queue.push event).items =
      sub.queue.lost ++ sub.queue.items ++ [event] := sub.queue.backlog_push event
  have moved : (sub.handled ++ (sub.queue.lost ++ sub.queue.items ++ [event]) ++
      sub.passedBy).Perm
        (sub.handled ++ (sub.queue.lost ++ sub.queue.items) ++ sub.passedBy ++
          [event]) := by
    simp only [List.append_assoc]
    apply List.Perm.append_left
    apply List.Perm.append_left
    apply List.Perm.append_left
    exact List.perm_append_comm
  unfold seen
  simp only [List.append_assoc] at grown moved ⊢
  rw [← List.append_assoc (sub.queue.push event).lost, grown]
  simpa using moved

theorem lost_push_of_room {queue : Mailbox ε} (room : queue.full = false) :
    (queue.push event).lost = queue.lost := by
  simp [Mailbox.push, room]

variable {spec : SubscriptionSpec τ κ} {owed carried carried' : List ε}

theorem Account.wants (account : sub.Account isInstance spec owed carried)
    (event : ε) : sub.wants isInstance event = isInstance event spec.eventType := by
  rw [BusSubscription.wants, account.eventType]

theorem account_create (owed : List ε) :
    (create spec.eventType spec.handler spec.maxsize spec.overflow :
      BusSubscription τ κ ε).Account isInstance spec owed owed where
  eventType := rfl
  handler := rfl
  overflow := rfl
  balanced := List.Perm.refl _
  nothingLost := fun _ => rfl
  inTime := fun _ => rfl

theorem Account.perm (account : sub.Account isInstance spec owed carried)
    (same : carried'.Perm carried) : sub.Account isInstance spec owed carried' :=
  { account with
    balanced := ((same.filter _).append_left _).trans account.balanced }

/-- A publish call begins. -/
theorem Account.offered (account : sub.Account isInstance spec owed carried)
    (event : ε) :
    sub.Account isInstance spec (owed ++ [event]) (event :: carried) :=
  { account with
    balanced := by
      rw [List.filter_append]
      have grown := account.balanced.append_right
        ([event].filter fun event => isInstance event spec.eventType)
      apply List.Perm.trans _ grown
      rw [List.append_assoc, ← List.filter_append]
      apply List.Perm.append_left
      apply List.Perm.filter
      exact (List.perm_append_singleton event carried).symm }

/-- A wanted event that is carried goes over to what the subscription has seen. -/
theorem Account.moved
    (account : sub.Account isInstance spec owed (event :: carried))
    (wanted : isInstance event spec.eventType = true) :
    (sub.seen ++ [event] ++
      carried.filter fun event => isInstance event spec.eventType).Perm
        (owed.filter fun event => isInstance event spec.eventType) := by
  have whole := account.balanced
  simp only [List.filter_cons, wanted, if_true] at whole
  simpa using whole

/-- A publish call puts its event into the queue. -/
theorem Account.put
    (account : sub.Account isInstance spec owed (event :: carried))
    (wanted : isInstance event spec.eventType = true)
    (room : sub.overflow = .block → sub.queue.full = false) :
    ({ sub with queue := sub.queue.push event } :
      BusSubscription τ κ ε).Account isInstance spec owed carried :=
  { account with
    balanced := ((sub.seen_push event).append_right _).trans
      (account.moved wanted)
    nothingLost := by
      intro blocks
      exact (lost_push_of_room (room blocks)).trans (account.nothingLost blocks) }

/-- A publish call comes by. -/
theorem Account.receive
    (account : sub.Account isInstance spec owed (event :: carried))
    (passes : sub.stalls isInstance event = false) :
    (sub.receive isInstance event).Account isInstance spec owed carried := by
  cases wanted : isInstance event spec.eventType with
  | false =>
      have other := (account.wants event).trans wanted
      rw [receive_of_not_wants other]
      have same := account.balanced
      simp only [List.filter_cons, wanted, Bool.false_eq_true, if_false] at same
      exact { account with balanced := same }
  | true =>
      have match_ := (account.wants event).trans wanted
      cases alive : sub.closed with
      | false =>
          rw [receive_of_open match_ alive]
          apply account.put wanted
          intro blocks
          simpa [stalls, alive, match_, blocks] using passes
      | true =>
          have late : sub.receive isInstance event =
              { sub with passedBy := sub.passedBy ++ [event] } := by
            unfold BusSubscription.receive
            rw [if_pos match_, if_pos alive]
          rw [late]
          have moved := account.moved wanted
          refine { account with balanced := ?_, inTime := ?_ }
          · simpa [seen] using moved
          · intro opened
            simp [alive] at opened

/-- The consumer takes the oldest event. -/
theorem Account.take {rest : Mailbox ε}
    (account : sub.Account isInstance spec owed carried)
    (popped : sub.queue.pop? = some (event, rest)) :
    (sub.handedOver rest event).Account isInstance spec owed carried := by
  have items := Mailbox.items_of_pop? popped
  have lost : rest.lost = sub.queue.lost := by
    unfold Mailbox.pop? at popped
    split at popped
    · cases popped
    · cases popped
      rfl
  have same : (sub.handedOver rest event).seen.Perm sub.seen := by
    unfold seen handedOver
    rw [items, lost]
    simp only [List.append_assoc, List.cons_append, List.nil_append]
    apply List.Perm.append_left
    exact List.perm_middle.symm
  exact
    { eventType := account.eventType
      handler := account.handler
      overflow := account.overflow
      balanced := (same.append_right _).trans account.balanced
      nothingLost := fun blocks => lost.trans (account.nothingLost blocks)
      inTime := account.inTime }

theorem Account.unsubscribe
    (account : sub.Account isInstance spec owed carried) :
    sub.unsubscribe.Account isInstance spec owed carried :=
  { eventType := account.eventType
    handler := account.handler
    overflow := account.overflow
    balanced := account.balanced
    nothingLost := account.nothingLost
    inTime := fun opened => by cases opened }

end BusSubscription

/-! ### All the calls -/

namespace AsyncEventBus

variable {τ κ ε : Type} {isInstance : ε → τ → Bool}
variable {bus bus' : AsyncEventBus τ κ ε} {event : ε} {index : Nat}
variable {spec : SubscriptionSpec τ κ} {owed : List ε}

/-- What no call changes about the subscriptions that are there. -/
def kinds (subs : List (BusSubscription τ κ ε)) : List (τ × OverflowPolicy) :=
  subs.map fun sub => (sub.eventType, sub.overflow)

/-- Every publish call under way waits at a blocking subscription that wants its
event. -/
def Waits (isInstance : ε → τ → Bool) (bus : AsyncEventBus τ κ ε) : Prop :=
  ∀ call ∈ bus.waiting, ∃ kind, (kinds bus.subs)[call.waitsAt]? = some kind ∧
    isInstance call.event kind.1 = true ∧ kind.2 = .block

/-- The publish calls wait where they should, and the account of one subscription
is in order. -/
structure Accounts (isInstance : ε → τ → Bool) (spec : SubscriptionSpec τ κ)
    (index : Nat) (owed : List ε) (bus : AsyncEventBus τ κ ε) : Prop where
  waits : bus.Waits isInstance
  account : ∃ sub, bus.subs[index]? = some sub ∧
    sub.Account isInstance spec owed (bus.carriedTo index)

theorem kinds_receive (event : ε) (subs : List (BusSubscription τ κ ε)) :
    kinds (subs.map (BusSubscription.receive isInstance event)) = kinds subs := by
  simp [kinds, Function.comp_def]

theorem kinds_offer (event : ε) (subs : List (BusSubscription τ κ ε)) :
    kinds (offer isInstance event subs).1 = kinds subs := by
  rcases @offer_cases _ _ _ isInstance event subs with
    ⟨-, done⟩ | ⟨front, sub, back, split, -, -, done⟩
  · rw [done]
    exact kinds_receive event subs
  · rw [done, split]
    have early := @kinds_receive _ κ _ isInstance event front
    unfold kinds at early ⊢
    rw [List.map_append, List.map_append, early]

/-- Where an offer stops, a blocking subscription wants the event. -/
theorem offer_stops {stop : Nat} {subs : List (BusSubscription τ κ ε)}
    (stopped : (offer isInstance event subs).2 = some stop) :
    ∃ kind, (kinds subs)[stop]? = some kind ∧
      isInstance event kind.1 = true ∧ kind.2 = .block := by
  rcases @offer_cases _ _ _ isInstance event subs with
    ⟨-, done⟩ | ⟨front, sub, back, split, -, stalls, done⟩
  · rw [done] at stopped
    cases stopped
  · rw [done] at stopped
    cases stopped
    refine ⟨(sub.eventType, sub.overflow), ?_, ?_⟩
    · simp [kinds, split]
    · unfold BusSubscription.stalls at stalls
      simp only [Bool.and_eq_true, decide_eq_true_eq] at stalls
      exact ⟨stalls.1.1.2, stalls.1.2⟩

/-- One subscription in an offer: the publish call comes by, or stops at it or
before it. -/
theorem offer_at {subs : List (BusSubscription τ κ ε)}
    {sub : BusSubscription τ κ ε} (found : subs[index]? = some sub) :
    ((∀ stop, (offer isInstance event subs).2 = some stop → index < stop) ∧
        sub.stalls isInstance event = false ∧
        (offer isInstance event subs).1[index]? =
          some (sub.receive isInstance event)) ∨
      ∃ stop, (offer isInstance event subs).2 = some stop ∧ stop ≤ index ∧
        (offer isInstance event subs).1[index]? = some sub := by
  rcases @offer_cases _ _ _ isInstance event subs with
    ⟨pass, done⟩ | ⟨front, stop, back, split, pass, -, done⟩
  · left
    rw [done]
    refine ⟨fun _ stopped => (by cases stopped), ?_, ?_⟩
    · exact pass sub (List.mem_of_getElem? found)
    · rw [List.getElem?_map, found, Option.map_some]
  · rw [done]
    rw [split] at found
    rcases Nat.lt_or_ge index front.length with inside | beyond
    · left
      rw [List.getElem?_append_left inside] at found
      refine ⟨?_, pass sub (List.mem_of_getElem? found), ?_⟩
      · intro other stopped
        cases stopped
        exact inside
      · rw [List.getElem?_append_left (by simpa using inside),
          List.getElem?_map, found, Option.map_some]
    · right
      refine ⟨front.length, rfl, beyond, ?_⟩
      rw [List.getElem?_append_right (by simpa using beyond), List.length_map]
      rw [List.getElem?_append_right beyond] at found
      exact found

theorem Waits.of_kinds (waits : bus.Waits isInstance)
    (same : ∀ {position : Nat} {kind : τ × OverflowPolicy},
      (kinds bus.subs)[position]? = some kind →
        (kinds bus'.subs)[position]? = some kind)
    (calls : bus'.waiting = bus.waiting) :
    bus'.Waits isInstance := by
  intro call member
  rw [calls] at member
  rcases waits call member with ⟨kind, there, wanted, blocks⟩
  exact ⟨kind, same there, wanted, blocks⟩

/-! ### Publishing -/

theorem Waits.publish (waits : bus.Waits isInstance) (event : ε) :
    (bus.publish isInstance event).Waits isInstance := by
  cases shut : bus.closed with
  | true =>
      rw [publish_of_closed shut]
      exact waits
  | false =>
      unfold AsyncEventBus.publish
      rw [if_neg (by simp [shut])]
      intro call member
      dsimp only at member ⊢
      rw [kinds_offer]
      rcases List.mem_append.mp member with old | new
      · exact waits call old
      · rcases Option.mem_toList.mp new with there
        rcases Option.map_eq_some_iff.mp there with ⟨stop, stopped, rfl⟩
        exact offer_stops stopped

/-- One subscription in a publish call: the event comes by, or is carried on. -/
theorem publish_at {sub : BusSubscription τ κ ε} (opened : bus.closed = false)
    (event : ε) (found : bus.subs[index]? = some sub) :
    (sub.stalls isInstance event = false ∧
        (bus.publish isInstance event).subs[index]? =
          some (sub.receive isInstance event) ∧
        (bus.publish isInstance event).carriedTo index = bus.carriedTo index) ∨
      ((bus.publish isInstance event).subs[index]? = some sub ∧
        (bus.publish isInstance event).carriedTo index =
          bus.carriedTo index ++ [event]) := by
  unfold AsyncEventBus.publish carriedTo
  rw [if_neg (by simp [opened])]
  dsimp only
  rw [PublishCall.carried_append]
  rcases @offer_at _ _ _ isInstance event _ _ _ found with
    ⟨later, passes, there⟩ | ⟨stop, stopped, reached, there⟩
  · have none_ : PublishCall.carried
        ((offer isInstance event bus.subs).2.map fun stop =>
          (⟨event, stop⟩ : PublishCall ε)).toList index = [] := by
      have behind := @PublishCall.carried_stopped_behind _ index event
        (offer isInstance event bus.subs).2 0 (by simpa using later)
      simpa only [Nat.zero_add] using behind
    rw [none_, List.append_nil]
    exact .inl ⟨passes, there, rfl⟩
  · rw [stopped, Option.map_some, Option.toList_some,
      PublishCall.carried_from (by exact reached)]
    exact .inr ⟨there, rfl⟩

theorem Accounts.publish (accounts : bus.Accounts isInstance spec index owed)
    (opened : bus.closed = false) (event : ε) :
    (bus.publish isInstance event).Accounts isInstance spec index
      (owed ++ [event]) := by
  obtain ⟨waits, sub, found, account⟩ := accounts
  refine ⟨waits.publish event, ?_⟩
  have begun := account.offered event
  rcases @publish_at _ _ _ isInstance _ _ _ opened event found with
    ⟨passes, there, same⟩ | ⟨there, carried⟩
  · rw [same]
    exact ⟨_, there, begun.receive passes⟩
  · rw [carried]
    exact ⟨sub, there, begun.perm (List.perm_append_singleton event _)⟩

/-! ### A publish call goes on -/

theorem resume?_cases {position : Nat}
    (resumed : bus.resume? isInstance position = some bus') :
    ∃ call sub back, bus.waiting[position]? = some call ∧
      bus.subs.drop call.waitsAt = sub :: back ∧ sub.queue.full = false ∧
      bus' = { bus with
        subs := bus.subs.take call.waitsAt ++
          { sub with queue := sub.queue.push call.event } ::
            (offer isInstance call.event back).1
        waiting := bus.waiting.eraseIdx position ++
          ((offer isInstance call.event back).2.map fun index =>
            (⟨call.event, call.waitsAt + 1 + index⟩ : PublishCall ε)).toList } := by
  unfold resume? at resumed
  cases first : bus.waiting[position]? with
  | none => simp [first] at resumed
  | some call =>
      simp only [first] at resumed
      cases rest : bus.subs.drop call.waitsAt with
      | nil => simp [rest] at resumed
      | cons sub back =>
          simp only [rest] at resumed
          cases room : sub.queue.full with
          | true => simp [room] at resumed
          | false =>
              simp only [room, Bool.false_eq_true, if_false] at resumed
              exact ⟨call, sub, back, rfl, rest, room,
                (Option.some.inj resumed).symm⟩

theorem kinds_getElem?_drop {waitsAt position : Nat}
    {known : BusSubscription τ κ ε} {back : List (BusSubscription τ κ ε)}
    (cut : bus.subs.drop waitsAt = known :: back) :
    (kinds back)[position]? = (kinds bus.subs)[waitsAt + 1 + position]? := by
  have behind : bus.subs.drop (waitsAt + 1) = back := by
    rw [← List.drop_drop, cut]
    rfl
  unfold kinds
  rw [← behind, List.map_drop, List.getElem?_drop]

theorem Waits.resume {position : Nat} (waits : bus.Waits isInstance)
    (resumed : bus.resume? isInstance position = some bus') :
    bus'.Waits isInstance := by
  rcases resume?_cases resumed with ⟨call, known, back, -, cut, -, rfl⟩
  have same : kinds (bus.subs.take call.waitsAt ++
      { known with queue := known.queue.push call.event } ::
        (offer isInstance call.event back).1) = kinds bus.subs := by
    have later := @kinds_offer _ κ _ isInstance call.event back
    have whole : bus.subs = bus.subs.take call.waitsAt ++ known :: back := by
      rw [← cut, List.take_append_drop]
    conv_rhs => rw [whole]
    unfold kinds at later ⊢
    rw [List.map_append, List.map_append, List.map_cons, List.map_cons, later]
  intro other member
  dsimp only at member ⊢
  rw [same]
  rcases List.mem_append.mp member with old | new
  · exact waits other (List.mem_of_mem_eraseIdx old)
  · rcases Option.mem_toList.mp new with there
    rcases Option.map_eq_some_iff.mp there with ⟨stop, stopped, rfl⟩
    rcases offer_stops stopped with ⟨kind, place, wanted, blocks⟩
    rw [kinds_getElem?_drop cut] at place
    exact ⟨kind, place, wanted, blocks⟩

/-- What a resumed publish call does to one subscription. -/
inductive ResumedAt (isInstance : ε → τ → Bool) (bus bus' : AsyncEventBus τ κ ε)
    (index : Nat) (sub : BusSubscription τ κ ε) (call : PublishCall ε) : Prop where
  /-- the call was past it, or stopped once more before it -/
  | untouched (there : bus'.subs[index]? = some sub)
      (carried : (bus'.carriedTo index).Perm (bus.carriedTo index))
  /-- the call waited here, and there is room -/
  | put (own : index = call.waitsAt) (room : sub.queue.full = false)
      (there : bus'.subs[index]? =
        some { sub with queue := sub.queue.push call.event })
      (carried : (call.event :: bus'.carriedTo index).Perm (bus.carriedTo index))
  /-- the call comes by -/
  | received (passes : sub.stalls isInstance call.event = false)
      (there : bus'.subs[index]? = some (sub.receive isInstance call.event))
      (carried : (call.event :: bus'.carriedTo index).Perm (bus.carriedTo index))

theorem resume?_at {position : Nat} {sub : BusSubscription τ κ ε}
    (resumed : bus.resume? isInstance position = some bus')
    (found : bus.subs[index]? = some sub) :
    ∃ call, bus.waiting[position]? = some call ∧
      ResumedAt isInstance bus bus' index sub call := by
  rcases resume?_cases resumed with ⟨call, known, back, first, cut, room, rfl⟩
  refine ⟨call, first, ?_⟩
  have whole : bus.subs = bus.subs.take call.waitsAt ++ known :: back := by
    rw [← cut, List.take_append_drop]
  have size : (bus.subs.take call.waitsAt).length = call.waitsAt := by
    have short := congrArg List.length cut
    rw [List.length_drop, List.length_cons] at short
    rw [List.length_take]
    omega
  have split := @PublishCall.carried_eraseIdx _ _ index _ _ first
  rw [whole] at found
  -- what the call leaves behind where it does not stop before the subscription
  have passed : (∀ stop, (offer isInstance call.event back).2 = some stop →
      index < call.waitsAt + 1 + stop) →
        PublishCall.carried (bus.waiting.eraseIdx position ++
          ((offer isInstance call.event back).2.map fun stop =>
            (⟨call.event, call.waitsAt + 1 + stop⟩ : PublishCall ε)).toList)
              index = PublishCall.carried (bus.waiting.eraseIdx position) index := by
    intro behind
    rw [PublishCall.carried_append, PublishCall.carried_stopped_behind behind,
      List.append_nil]
  rcases Nat.lt_trichotomy index call.waitsAt with early | own | late
  · rw [List.getElem?_append_left (by rw [size]; exact early)] at found
    rw [PublishCall.carried_before early, List.nil_append] at split
    refine .untouched ?_ ?_
    · rw [List.getElem?_append_left (by rw [size]; exact early)]
      exact found
    · unfold carriedTo
      dsimp only
      rw [passed (fun stop _ => by omega)]
      exact split
  · rw [List.getElem?_append_right (by rw [size]; omega), size, own,
      Nat.sub_self] at found
    cases found
    rw [PublishCall.carried_from (by omega)] at split
    refine .put own room ?_ ?_
    · rw [List.getElem?_append_right (by rw [size]; omega), size, own,
        Nat.sub_self]
      rfl
    · unfold carriedTo
      dsimp only
      rw [passed (fun stop _ => by omega)]
      exact split
  · have shift : index - call.waitsAt = index - call.waitsAt - 1 + 1 := by omega
    rw [List.getElem?_append_right (by rw [size]; omega), size, shift,
      List.getElem?_cons_succ] at found
    rw [PublishCall.carried_from (by omega)] at split
    have moved : ∀ after : BusSubscription τ κ ε,
        (offer isInstance call.event back).1[index - call.waitsAt - 1]? =
            some after →
          (bus.subs.take call.waitsAt ++
            ({ known with queue := known.queue.push call.event } ::
              (offer isInstance call.event back).1))[index]? = some after := by
      intro after there
      rw [List.getElem?_append_right (by rw [size]; omega), size, shift,
        List.getElem?_cons_succ]
      exact there
    rcases @offer_at _ _ _ isInstance call.event _ _ _ found with
      ⟨later, passes, there⟩ | ⟨stop, stopped, reached, there⟩
    · refine .received passes (moved _ there) ?_
      unfold carriedTo
      dsimp only
      rw [passed ?_]
      · exact split
      · intro stop stopped
        have beyond := later stop stopped
        omega
    · refine .untouched (moved _ there) ?_
      unfold carriedTo
      dsimp only
      rw [stopped, Option.map_some, Option.toList_some,
        PublishCall.carried_append, PublishCall.carried_from (by
          change call.waitsAt + 1 + stop ≤ index
          omega)]
      exact (List.perm_append_singleton call.event _).trans split

theorem Accounts.resume {position : Nat}
    (accounts : bus.Accounts isInstance spec index owed)
    (resumed : bus.resume? isInstance position = some bus') :
    bus'.Accounts isInstance spec index owed := by
  obtain ⟨waits, sub, found, account⟩ := accounts
  refine ⟨waits.resume resumed, ?_⟩
  rcases resume?_at resumed found with ⟨call, first, happened⟩
  cases happened with
  | untouched there carried => exact ⟨sub, there, account.perm carried⟩
  | put own room there carried =>
      have wanted : isInstance call.event spec.eventType = true := by
        rcases waits call (List.mem_of_getElem? first) with ⟨kind, place, wanted, -⟩
        unfold kinds at place
        rw [← own, List.getElem?_map, found, Option.map_some] at place
        cases place
        rw [← account.eventType]
        exact wanted
      exact ⟨_, there, (account.perm carried).put wanted fun _ => room⟩
  | received passes there carried =>
      exact ⟨_, there, (account.perm carried).receive passes⟩

/-! ### The other calls -/

theorem Waits.take {position : Nat} {handler : κ} (waits : bus.Waits isInstance)
    (taken : bus.take? position = some (handler, event, bus')) :
    bus'.Waits isInstance := by
  rcases take?_spec taken with
    ⟨front, known, rest, back, whole, -, -, -, -, rfl⟩
  refine waits.of_kinds ?_ rfl
  intro place kind there
  rw [whole] at there
  unfold kinds at there ⊢
  rw [List.map_append, List.map_cons] at there ⊢
  exact there

/-- What a consumer's step does to one subscription. -/
theorem take?_at {position : Nat} {handler : κ} {sub : BusSubscription τ κ ε}
    (taken : bus.take? position = some (handler, event, bus'))
    (found : bus.subs[index]? = some sub) :
    bus'.waiting = bus.waiting ∧
      (bus'.subs[index]? = some sub ∨
        ∃ rest, sub.closed = false ∧ sub.queue.pop? = some (event, rest) ∧
          bus'.subs[index]? = some (sub.handedOver rest event)) := by
  rcases take?_spec taken with
    ⟨front, known, rest, back, whole, -, alive, -, popped, rfl⟩
  refine ⟨rfl, ?_⟩
  rw [whole] at found
  rcases Nat.lt_trichotomy index front.length with early | own | late
  · left
    rw [List.getElem?_append_left early] at found ⊢
    exact found
  · right
    rw [own, List.getElem?_append_right (Nat.le_refl _), Nat.sub_self] at found
    cases found
    refine ⟨rest, alive, popped, ?_⟩
    rw [own, List.getElem?_append_right (Nat.le_refl _), Nat.sub_self]
    rfl
  · left
    have shift : index - front.length = index - front.length - 1 + 1 := by omega
    rw [List.getElem?_append_right (by omega), shift,
      List.getElem?_cons_succ] at found ⊢
    exact found

theorem Accounts.take {position : Nat} {handler : κ}
    (accounts : bus.Accounts isInstance spec index owed)
    (taken : bus.take? position = some (handler, event, bus')) :
    bus'.Accounts isInstance spec index owed := by
  obtain ⟨waits, sub, found, account⟩ := accounts
  obtain ⟨same, there⟩ := take?_at taken found
  refine ⟨waits.take taken, ?_⟩
  unfold carriedTo
  rw [same]
  rcases there with there | ⟨rest, -, popped, there⟩
  · exact ⟨sub, there, account⟩
  · exact ⟨_, there, account.take popped⟩

theorem kinds_unsubscribe (subs : List (BusSubscription τ κ ε)) :
    kinds (subs.map BusSubscription.unsubscribe) = kinds subs := by
  simp [kinds, BusSubscription.unsubscribe, Function.comp_def]

theorem kinds_unsubscribe_at (subs : List (BusSubscription τ κ ε))
    (position : Nat) :
    kinds (subs.modify position BusSubscription.unsubscribe) = kinds subs := by
  apply List.ext_getElem?
  intro place
  unfold kinds
  rw [List.getElem?_map, List.getElem?_map, List.getElem?_modify]
  cases subs[place]? with
  | none => rfl
  | some sub =>
      by_cases same : position = place
      · simp [same, BusSubscription.unsubscribe]
      · simp [same]

theorem Waits.unsubscribe (waits : bus.Waits isInstance) (position : Nat) :
    (bus.unsubscribe position).Waits isInstance := by
  refine waits.of_kinds ?_ rfl
  intro place kind there
  exact (congrArg (·[place]?) (kinds_unsubscribe_at bus.subs position)).trans
    there

theorem Accounts.unsubscribe (accounts : bus.Accounts isInstance spec index owed)
    (position : Nat) :
    (bus.unsubscribe position).Accounts isInstance spec index owed := by
  obtain ⟨waits, sub, found, account⟩ := accounts
  refine ⟨waits.unsubscribe position, ?_⟩
  unfold AsyncEventBus.unsubscribe
  rw [List.getElem?_modify, found]
  by_cases own : position = index
  · exact ⟨sub.unsubscribe, by simp [own], account.unsubscribe⟩
  · exact ⟨sub, by simp [own], account⟩

theorem Waits.close (waits : bus.Waits isInstance) :
    bus.close.Waits isInstance := by
  refine waits.of_kinds ?_ rfl
  intro place kind there
  exact (congrArg (·[place]?) (kinds_unsubscribe bus.subs)).trans there

theorem Accounts.close (accounts : bus.Accounts isInstance spec index owed) :
    bus.close.Accounts isInstance spec index owed := by
  obtain ⟨waits, sub, found, account⟩ := accounts
  refine ⟨waits.close, sub.unsubscribe, ?_, account.unsubscribe⟩
  unfold AsyncEventBus.close
  rw [List.getElem?_map, found, Option.map_some]

theorem subscribe?_cases {other : SubscriptionSpec τ κ}
    (joined : bus.subscribe? other.eventType other.handler other.maxsize
      other.overflow = some bus') :
    bus.closed = false ∧ bus' = { bus with
      subs := bus.subs ++ [.create other.eventType other.handler other.maxsize
        other.overflow] } := by
  unfold subscribe? at joined
  cases shut : bus.closed with
  | true => simp [shut] at joined
  | false =>
      simp only [shut, Bool.false_eq_true, if_false] at joined
      exact ⟨rfl, (Option.some.inj joined).symm⟩

theorem Waits.subscribe {other : SubscriptionSpec τ κ}
    (waits : bus.Waits isInstance)
    (joined : bus.subscribe? other.eventType other.handler other.maxsize
      other.overflow = some bus') : bus'.Waits isInstance := by
  obtain ⟨-, rfl⟩ := subscribe?_cases joined
  refine waits.of_kinds ?_ rfl
  intro place kind there
  have inside := (List.getElem?_eq_some_iff.mp there).1
  unfold kinds at there inside ⊢
  rw [List.map_append, List.getElem?_append_left inside]
  exact there

theorem Accounts.subscribe {other : SubscriptionSpec τ κ}
    (accounts : bus.Accounts isInstance spec index owed)
    (joined : bus.subscribe? other.eventType other.handler other.maxsize
      other.overflow = some bus') :
    bus'.Accounts isInstance spec index owed := by
  obtain ⟨waits, sub, found, account⟩ := accounts
  refine ⟨waits.subscribe joined, sub, ?_, ?_⟩
  · obtain ⟨-, rfl⟩ := subscribe?_cases joined
    rw [List.getElem?_append_left (List.getElem?_eq_some_iff.mp found).1]
    exact found
  · obtain ⟨-, rfl⟩ := subscribe?_cases joined
    exact account

/-! ### Runs -/

/-- What a call does to the log of published events. -/
theorem published_call {label : BusCall τ κ ε}
    (taken : Calls isInstance bus label bus') :
    (bus'.published = bus.published ∧ ∀ event, label = .publish event →
        bus' = bus) ∨
      ∃ event, label = .publish event ∧ bus.closed = false ∧
        bus' = bus.publish isInstance event ∧
          bus'.published = bus.published ++ [event] := by
  simp only [Calls, stepOf?] at taken
  cases label with
  | subscribe other =>
      obtain ⟨-, rfl⟩ := subscribe?_cases taken
      exact .inl ⟨rfl, fun _ other => (by cases other)⟩
  | unsubscribe position =>
      simp only [call?] at taken
      split at taken
      · cases taken
        exact .inl ⟨rfl, fun _ other => (by cases other)⟩
      · cases taken
  | close =>
      cases taken
      exact .inl ⟨rfl, fun _ other => (by cases other)⟩
  | publish event =>
      cases taken
      cases shut : bus.closed with
      | true =>
          rw [publish_of_closed shut]
          exact .inl ⟨rfl, fun _ _ => rfl⟩
      | false =>
          refine .inr ⟨event, rfl, rfl, rfl, ?_⟩
          unfold publish
          rw [if_neg (by simp [shut])]
  | resume call =>
      rcases resume?_cases taken with ⟨_, _, _, -, -, -, rfl⟩
      exact .inl ⟨rfl, fun _ other => (by cases other)⟩
  | take position =>
      rcases Option.map_eq_some_iff.mp taken with
        ⟨⟨handler, event, after⟩, popped, rfl⟩
      rcases take?_spec popped with ⟨_, _, _, _, -, -, -, -, -, same⟩
      dsimp only
      exact .inl ⟨by rw [same], fun _ other => (by cases other)⟩

theorem Waits.call {label : BusCall τ κ ε} (waits : bus.Waits isInstance)
    (taken : Calls isInstance bus label bus') : bus'.Waits isInstance := by
  simp only [Calls, stepOf?] at taken
  cases label with
  | subscribe other => exact waits.subscribe taken
  | unsubscribe position =>
      simp only [call?] at taken
      split at taken
      · cases taken
        exact waits.unsubscribe position
      · cases taken
  | close =>
      cases taken
      exact waits.close
  | publish event =>
      cases taken
      exact waits.publish event
  | resume call => exact waits.resume taken
  | take position =>
      rcases Option.map_eq_some_iff.mp taken with
        ⟨⟨handler, event, after⟩, popped, rfl⟩
      exact waits.take popped

/-- The events owed since some point of the log. -/
theorem Accounts.call {label : BusCall τ κ ε} {earlier : List ε} {since : Nat}
    (accounts : bus.Accounts isInstance spec index
      (earlier ++ bus.published.drop since))
    (within : since ≤ bus.published.length)
    (taken : Calls isInstance bus label bus') :
    bus'.Accounts isInstance spec index
        (earlier ++ bus'.published.drop since) ∧
      since ≤ bus'.published.length := by
  rcases published_call taken with ⟨same, idle⟩ | ⟨event, rfl, opened, rfl, grown⟩
  · rw [same]
    refine ⟨?_, within⟩
    simp only [Calls, stepOf?] at taken
    cases label with
    | subscribe other => exact accounts.subscribe taken
    | unsubscribe position =>
        simp only [call?] at taken
        split at taken
        · cases taken
          exact accounts.unsubscribe position
        · cases taken
    | close =>
        cases taken
        exact accounts.close
    | publish event =>
        rw [idle event rfl]
        exact accounts
    | resume call => exact accounts.resume taken
    | take position =>
        rcases Option.map_eq_some_iff.mp taken with
          ⟨⟨handler, event, after⟩, popped, rfl⟩
        exact accounts.take popped
  · rw [grown, List.drop_append_of_le_length within, ← List.append_assoc,
      List.length_append]
    exact ⟨accounts.publish opened event, by omega⟩

theorem waits_of_run {labels : List (BusCall τ κ ε)}
    (run : Run (Calls isInstance) create labels bus) : bus.Waits isInstance :=
  run.invariant (fun _ member => by cases member) fun taken waits =>
    waits.call taken

/-- A subscription that joins is owed what is under way. -/
theorem accounts_of_join {position : Nat} (waits : bus.Waits isInstance)
    (joined : Calls isInstance bus (.subscribe spec) bus')
    (place : position = bus.subs.length) :
    bus'.Accounts isInstance spec position
      (bus.waiting.map PublishCall.event ++
        bus'.published.drop bus.published.length) := by
  obtain ⟨-, rfl⟩ := subscribe?_cases joined
  refine ⟨waits.subscribe joined,
    .create spec.eventType spec.handler spec.maxsize spec.overflow, ?_, ?_⟩
  · rw [place]
    exact List.getElem?_concat_length
  · have everyone : ∀ call ∈ bus.waiting, call.waitsAt ≤ position := by
      intro call member
      rcases waits call member with ⟨kind, there, -, -⟩
      have inside := (List.getElem?_eq_some_iff.mp there).1
      unfold kinds at inside
      rw [List.length_map] at inside
      omega
    have owed : bus.waiting.map PublishCall.event ++
        bus.published.drop bus.published.length =
          PublishCall.carried bus.waiting position := by
      rw [PublishCall.carried_all everyone, List.drop_length, List.append_nil]
    dsimp only
    rw [owed]
    exact BusSubscription.account_create _

/-- Whatever the tasks do and in whatever order: of the matching events that were
under way when a subscription joined or were published since, each is handled,
evicted, waiting, too late, or carried by a publish call that has not come by;
nothing twice and nothing else. A blocking subscription evicts nothing, and an
open one misses nothing. -/
theorem every_event_accounted {joined final : AsyncEventBus τ κ ε}
    {before after : List (BusCall τ κ ε)}
    (first : Run (Calls isInstance) create before bus)
    (join : Calls isInstance bus (.subscribe spec) joined)
    (later : Run (Calls isInstance) joined after final) :
    ∃ sub, final.subs[bus.subs.length]? = some sub ∧
      sub.Account isInstance spec
        (bus.waiting.map PublishCall.event ++
          final.published.drop bus.published.length)
        (final.carriedTo bus.subs.length) := by
  have waits := waits_of_run first
  have within : bus.published.length ≤ joined.published.length := by
    obtain ⟨-, rfl⟩ := subscribe?_cases join
    exact Nat.le_refl _
  have kept := later.invariant
    (P := fun bus' => bus'.Accounts isInstance spec bus.subs.length
        (bus.waiting.map PublishCall.event ++
          bus'.published.drop bus.published.length) ∧
      bus.published.length ≤ bus'.published.length)
    ⟨accounts_of_join waits join rfl, within⟩
    fun taken accounts => accounts.1.call accounts.2 taken
  exact kept.1.account

/-! Event 2 is under way when the second subscription joins; event 3 evicts it. -/

def oneSlot (overflow : OverflowPolicy) : SubscriptionSpec Unit Unit :=
  ⟨(), (), 1, overflow⟩

def stalledCalls : List (BusCall Unit Unit Nat) :=
  [.subscribe (oneSlot .block), .publish 1, .publish 2]

def stalledBus : AsyncEventBus Unit Unit Nat where
  subs := [{ BusSubscription.create () () 1 .block with queue := ⟨1, [1], []⟩ }]
  closed := false
  waiting := [⟨2, 0⟩]
  published := [1, 2]

theorem stalledBus_reached :
    Run (Calls fun _ _ => true) create stalledCalls stalledBus :=
  .step rfl (.step rfl (.step rfl (.refl _)))

def joinedBus : AsyncEventBus Unit Unit Nat :=
  { stalledBus with
    subs := stalledBus.subs ++ [.create () () 1 .dropOldest] }

def latecomerCalls : List (BusCall Unit Unit Nat) :=
  [.take 0, .resume 0, .unsubscribe 0, .publish 3, .take 1]

theorem latecomer_accounted :
    ∃ sub : BusSubscription Unit Unit Nat,
      sub.handled = [3] ∧ sub.queue.lost = [2] ∧
        sub.Account (fun _ _ => true) (oneSlot .dropOldest) [2, 3] [] := by
  have later : Run (Calls fun _ _ => true) joinedBus latecomerCalls _ :=
    .step rfl (.step rfl (.step rfl (.step rfl (.step rfl (.refl _)))))
  have join : Calls (fun _ _ => true) stalledBus
      (.subscribe (oneSlot .dropOldest)) joinedBus := rfl
  rcases every_event_accounted stalledBus_reached join later with
    ⟨sub, found, account⟩
  cases found
  exact ⟨_, rfl, rfl, account⟩

/-! ### After the end of a subscription -/

/-- A subscription that was closed: nothing is handled any more, and where its queue
was full nothing moves. -/
structure Held (known : BusSubscription τ κ ε) (index : Nat)
    (calls : List (PublishCall ε)) (bus : AsyncEventBus τ κ ε) : Prop where
  quiet : ∃ sub, bus.subs[index]? = some sub ∧ sub.closed = true ∧
    sub.handled = known.handled ∧
      (known.queue.full = true → sub.queue = known.queue)
  stuck : known.queue.full = true →
    ∀ call ∈ calls, call.waitsAt = index → call ∈ bus.waiting

theorem receive_closed_quiet {sub : BusSubscription τ κ ε}
    (shut : sub.closed = true) (event : ε) :
    (sub.receive isInstance event).queue = sub.queue := by
  unfold BusSubscription.receive
  rw [shut]
  split <;> rfl

theorem mem_waiting_resume {position : Nat} {call other : PublishCall ε}
    (resumed : bus.resume? isInstance position = some bus')
    (first : bus.waiting[position]? = some call) (member : other ∈ bus.waiting)
    (different : other ≠ call) : other ∈ bus'.waiting := by
  rcases resume?_cases resumed with ⟨_, _, _, there, -, -, rfl⟩
  rw [first] at there
  cases there
  apply List.mem_append_left
  obtain ⟨inside, same⟩ := List.getElem?_eq_some_iff.mp first
  have whole := (List.getElem_cons_eraseIdx_perm inside).mem_iff.mpr member
  rw [same] at whole
  rcases List.mem_cons.mp whole with rfl | rest
  · exact absurd rfl different
  · exact rest

theorem Held.call {known : BusSubscription τ κ ε} {calls : List (PublishCall ε)}
    {label : BusCall τ κ ε} (held : bus.Held known index calls)
    (taken : Calls isInstance bus label bus') : bus'.Held known index calls := by
  obtain ⟨⟨sub, found, shut, handled, full⟩, stuck⟩ := held
  simp only [Calls, stepOf?] at taken
  cases label with
  | subscribe other =>
      obtain ⟨-, rfl⟩ := subscribe?_cases taken
      refine ⟨⟨sub, ?_, shut, handled, full⟩, stuck⟩
      rw [List.getElem?_append_left (List.getElem?_eq_some_iff.mp found).1]
      exact found
  | unsubscribe position =>
      simp only [call?] at taken
      split at taken
      · cases taken
        refine ⟨?_, stuck⟩
        unfold AsyncEventBus.unsubscribe
        rw [List.getElem?_modify, found]
        by_cases own : position = index
        · exact ⟨sub.unsubscribe, by simp [own], rfl, handled, full⟩
        · exact ⟨sub, by simp [own], shut, handled, full⟩
      · cases taken
  | close =>
      cases taken
      refine ⟨⟨sub.unsubscribe, ?_, rfl, handled, full⟩, stuck⟩
      unfold AsyncEventBus.close
      rw [List.getElem?_map, found, Option.map_some]
  | publish event =>
      cases taken
      cases ended : bus.closed with
      | true =>
          rw [publish_of_closed ended]
          exact ⟨⟨sub, found, shut, handled, full⟩, stuck⟩
      | false =>
          refine ⟨?_, ?_⟩
          · rcases @publish_at _ _ _ isInstance _ _ _ ended event found with
              ⟨-, there, -⟩ | ⟨there, -⟩
            · refine ⟨_, there, BusSubscription.receive_closed.trans shut,
                BusSubscription.receive_handled.trans handled, ?_⟩
              rw [receive_closed_quiet shut]
              exact full
            · exact ⟨sub, there, shut, handled, full⟩
          · intro brimful call member place
            unfold AsyncEventBus.publish
            rw [if_neg (by simp [ended])]
            exact List.mem_append_left _ (stuck brimful call member place)
  | resume position =>
      rcases resume?_at taken found with ⟨call, first, happened⟩
      have moved : known.queue.full = true → call.waitsAt ≠ index := by
        intro brimful own
        rcases resume?_cases taken with ⟨_, other, back, there, cut, room, -⟩
        rw [first] at there
        cases there
        -- a full queue has no room for the call that waits there
        have same : other = sub := by
          have head := congrArg List.head? cut
          rw [List.head?_drop, own, found] at head
          exact (Option.some.inj head).symm
        rw [same, full brimful, brimful] at room
        cases room
      refine ⟨?_, ?_⟩
      · cases happened with
        | untouched there _ => exact ⟨sub, there, shut, handled, full⟩
        | put own room there _ =>
            exact ⟨_, there, shut, handled, fun brimful =>
              absurd own.symm (moved brimful)⟩
        | received _ there _ =>
            refine ⟨_, there, BusSubscription.receive_closed.trans shut,
              BusSubscription.receive_handled.trans handled, ?_⟩
            rw [receive_closed_quiet shut]
            exact full
      · intro brimful other member place
        apply mem_waiting_resume taken first (stuck brimful other member place)
        intro same
        rw [same] at place
        exact moved brimful place
  | take position =>
      rcases Option.map_eq_some_iff.mp taken with
        ⟨⟨handler, event, after⟩, popped, rfl⟩
      obtain ⟨same, there⟩ := take?_at popped found
      refine ⟨?_, fun brimful call member place => ?_⟩
      · rcases there with there | ⟨rest, alive, -, -⟩
        · exact ⟨sub, there, shut, handled, full⟩
        · rw [shut] at alive
          cases alive
      · dsimp only
        rw [same]
        exact stuck brimful call member place

/-- From the moment a subscription is closed, by `unsubscribe` or with the whole bus,
its handler is given nothing more, whatever the tasks do. Where its queue is full
then, every publish call that waits there waits for ever, and the subscriptions
behind never get its event. -/
theorem closed_subscription_holds {known : BusSubscription τ κ ε}
    {labels : List (BusCall τ κ ε)} (found : bus.subs[index]? = some known)
    (shut : known.closed = true) (run : Run (Calls isInstance) bus labels bus') :
    bus'.Held known index bus.waiting ∧
      (known.queue.full = true → ∀ call ∈ bus.waiting, call.waitsAt = index →
        ∀ behind, index ≤ behind → call.event ∈ bus'.carriedTo behind) := by
  have held : bus'.Held known index bus.waiting :=
    run.invariant
      ⟨⟨known, found, shut, rfl, fun _ => rfl⟩, fun _ _ member _ => member⟩
      fun taken held => held.call taken
  refine ⟨held, ?_⟩
  intro brimful call member place behind order
  unfold carriedTo PublishCall.carried
  apply List.mem_map_of_mem
  apply List.mem_filter.mpr
  exact ⟨held.stuck brimful call member place, decide_eq_true (by omega)⟩

/-- The publisher of event 2 is stuck for good once the slow subscriber leaves. -/
theorem leaver_holds_publisher :
    ∃ bus : AsyncEventBus Unit Unit Nat,
      Run (Calls fun _ _ => true) create
        (stalledCalls ++ [.unsubscribe 0, .subscribe (oneSlot .dropOldest),
          .publish 3, .take 1]) bus ∧
        bus.subs.map BusSubscription.handled = [[], [3]] ∧
          2 ∈ bus.carriedTo 1 := by
  have leaves : Calls (fun _ _ => true) stalledBus (.unsubscribe 0)
      (stalledBus.unsubscribe 0) := rfl
  have later : Run (Calls fun _ _ => true) (stalledBus.unsubscribe 0)
      [.subscribe (oneSlot .dropOldest), .publish 3, .take 1] _ :=
    .step rfl (.step rfl (.step rfl (.refl _)))
  have found : (stalledBus.unsubscribe 0).subs[0]? = some
      { BusSubscription.create () () 1 .block with
        closed := true, queue := ⟨1, [1], []⟩ } := rfl
  have holds := closed_subscription_holds found rfl later
  exact ⟨_, stalledBus_reached.trans (.step leaves later), rfl,
    holds.2 rfl ⟨2, 0⟩ List.mem_cons_self rfl 1 (by decide)⟩

end AsyncEventBus

end StingerFx
