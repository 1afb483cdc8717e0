/-
Module: StingerFx.Proofs.BusDelivery
Layer: Proofs
Purpose: What one publisher's events come to, under every schedule of the
  consumers. A blocking subscription handles all that is meant for it, in order; a
  dropping one handles a part that has the latest; and a handler that raises costs
  no later event, unless it is cancelled.
Trusted boundary: none (fully proved)
Main exports: BusSubscription.Recent, BusTasks.Delivers, BusTasks.Uncancelled,
  BusTasks.events_delivered, BusTasks.raising_handler_delivers,
  BusTasks.cancelled_handler_stalls
-/
import StingerFx.Core.BusTasks

namespace StingerFx

open Lib

namespace BusSubscription

variable {τ κ ε : Type} {isInstance : ε → τ → Bool}
variable {sub : BusSubscription τ κ ε} {offered : List ε} {event : ε}

/-- The last entries of a list, as many as a queue holds. -/
def latest (size : Nat) (events : List ε) : List ε :=
  events.drop (events.length - size)

/-- Handled and waiting events are some of the matching ones in their order, with
the latest that fit into the queue; the waiting ones come last. -/
structure Recent (isInstance : ε → τ → Bool) (offered : List ε)
    (sub : BusSubscription τ κ ε) : Prop where
  some_ : (sub.handled ++ sub.queue.items).Sublist
    (offered.filter (sub.wants isInstance))
  newest : sub.queue.items <:+ offered.filter (sub.wants isInstance)
  latest : latest sub.queue.capacity (offered.filter (sub.wants isInstance)) <:+
    sub.handled ++ sub.queue.items
  within : sub.queue.items.length ≤ sub.queue.capacity

/-- What a live subscription has made of the events offered to it. -/
structure Serves (isInstance : ε → τ → Bool) (offered : List ε)
    (sub : BusSubscription τ κ ε) : Prop where
  alive : sub.closed = false
  block : sub.overflow = .block → sub.Complete isInstance offered
  dropOldest : sub.overflow = .dropOldest → 0 < sub.queue.capacity →
    sub.Recent isInstance offered

theorem latest_concat (size : Nat) (positive : 0 < size) (events : List ε)
    (event : ε) :
    latest size (events ++ [event]) = latest (size - 1) events ++ [event] := by
  unfold latest
  rw [List.length_append, List.length_singleton]
  have same : events.length + 1 - size = events.length - (size - 1) := by omega
  rw [same, List.drop_append_of_le_length (by omega)]

theorem latest_suffix {small large : Nat} (order : small ≤ large)
    (events : List ε) : latest small events <:+ latest large events := by
  unfold latest
  have split : events.length - small =
      (events.length - large) +
        ((events.length - small) - (events.length - large)) := by
    omega
  rw [split, ← List.drop_drop]
  exact List.drop_suffix _ _

/-- One more matching event: the queue keeps what is latest. -/
theorem Recent.push (recent : sub.Recent isInstance offered)
    (bounded : 0 < sub.queue.capacity)
    (wanted : sub.wants isInstance event = true) :
    Recent isInstance (offered ++ [event])
      { sub with queue := sub.queue.push event } := by
  have grown : (offered ++ [event]).filter (sub.wants isInstance) =
      offered.filter (sub.wants isInstance) ++ [event] := by
    simp [List.filter_append, wanted]
  have same : wants isInstance { sub with queue := sub.queue.push event } =
      sub.wants isInstance := rfl
  have items := Mailbox.items_push bounded recent.within event
  have size := Mailbox.length_items_push bounded recent.within event
  have within : (sub.queue.push event).items.length ≤ sub.queue.capacity := by
    rw [size]
    exact Nat.min_le_left _ _
  have newest : (sub.queue.push event).items <:+
      offered.filter (sub.wants isInstance) ++ [event] := by
    rw [items]
    apply (List.drop_suffix _ _).trans
    rcases recent.newest with ⟨front, whole⟩
    exact ⟨front, by rw [← whole, List.append_assoc]⟩
  refine ⟨?_, ?_, ?_, ?_⟩
  · rw [same, grown]
    have kept : ((sub.queue.push event).items).Sublist
        (sub.queue.items ++ [event]) := sub.queue.items_push_sublist event
    have all := (List.Sublist.refl sub.handled).append kept
    rw [← List.append_assoc] at all
    exact all.trans (recent.some_.append (List.Sublist.refl [event]))
  · rw [same, grown]
    exact newest
  · rw [same, grown]
    simp only [Mailbox.capacity_push]
    cases full : sub.queue.full with
    | false =>
        have appended : (sub.queue.push event).items =
            sub.queue.items ++ [event] := by
          simp [Mailbox.push, full]
        rw [appended, latest_concat _ bounded, ← List.append_assoc]
        have weaker := (latest_suffix (Nat.sub_le sub.queue.capacity 1)
          (offered.filter (sub.wants isInstance))).trans recent.latest
        rcases weaker with ⟨front, whole⟩
        exact ⟨front, by rw [← whole, List.append_assoc]⟩
    | true =>
        -- the whole queue is what the last events are
        have reached := (of_decide_eq_true full).2
        have long : (sub.queue.push event).items.length =
            sub.queue.capacity := by
          rw [size]
          omega
        rcases newest with ⟨front, whole⟩
        have tail : BusSubscription.latest sub.queue.capacity
            (offered.filter (sub.wants isInstance) ++ [event]) =
              (sub.queue.push event).items := by
          unfold BusSubscription.latest
          rw [← whole, List.length_append, long]
          simp
        rw [tail]
        exact List.suffix_append _ _
  · simp only [Mailbox.capacity_push]
    exact within

/-- An event that does not match changes nothing. -/
theorem Recent.skip (recent : sub.Recent isInstance offered)
    (other : sub.wants isInstance event = false) :
    sub.Recent isInstance (offered ++ [event]) := by
  have same : (offered ++ [event]).filter (sub.wants isInstance) =
      offered.filter (sub.wants isInstance) := by
    simp [List.filter_append, other]
  refine ⟨?_, ?_, ?_, recent.within⟩
  · rw [same]
    exact recent.some_
  · rw [same]
    exact recent.newest
  · rw [same]
    exact recent.latest

/-- A publisher comes by without waiting. -/
theorem Serves.receive (serves : sub.Serves isInstance offered)
    (passes : sub.stalls isInstance event = false) :
    (sub.receive isInstance event).Serves isInstance (offered ++ [event]) where
  alive := receive_closed.trans serves.alive
  block := by
    intro blocks
    have policy : sub.overflow = .block := receive_overflow.symm.trans blocks
    apply Complete.receive (serves.block policy)
    intro wanted
    refine ⟨serves.alive, ?_⟩
    simpa [stalls, serves.alive, wanted, policy] using passes
  dropOldest := by
    intro drops
    have policy : sub.overflow = .dropOldest :=
      receive_overflow.symm.trans drops
    cases wanted : sub.wants isInstance event with
    | false =>
        rw [receive_of_not_wants wanted]
        intro bounded
        exact (serves.dropOldest policy bounded).skip wanted
    | true =>
        rw [receive_of_open wanted serves.alive]
        intro bounded
        have capacity : 0 < sub.queue.capacity := by simpa using bounded
        exact (serves.dropOldest policy capacity).push capacity wanted

/-- The subscription once its consumer has taken the oldest event. -/
def handedOver (sub : BusSubscription τ κ ε) (rest : Mailbox ε) (event : ε) :
    BusSubscription τ κ ε :=
  { sub with queue := rest, handled := sub.handled ++ [event] }

theorem handedOver_items {rest : Mailbox ε}
    (popped : sub.queue.pop? = some (event, rest)) :
    (sub.handedOver rest event).handled ++
        (sub.handedOver rest event).queue.items =
      sub.handled ++ sub.queue.items := by
  rw [Mailbox.items_of_pop? popped]
  simp [handedOver]

/-- The consumer takes the oldest event. -/
theorem Serves.take {rest : Mailbox ε} (serves : sub.Serves isInstance offered)
    (popped : sub.queue.pop? = some (event, rest)) :
    (sub.handedOver rest event).Serves isInstance offered where
  alive := serves.alive
  block := fun blocks =>
    (handedOver_items popped).trans (serves.block blocks)
  dropOldest := by
    intro drops bounded
    have capacity := Mailbox.capacity_of_pop? popped
    have recent := serves.dropOldest drops (lt_of_lt_of_eq bounded capacity)
    refine ⟨?_, ?_, ?_, ?_⟩
    · rw [handedOver_items popped]
      exact recent.some_
    · have later : rest.items <:+ sub.queue.items := by
        rw [Mailbox.items_of_pop? popped]
        exact List.suffix_cons _ _
      exact later.trans recent.newest
    · rw [handedOver_items popped]
      change latest rest.capacity _ <:+ _
      rw [capacity]
      exact recent.latest
    · have short := recent.within
      rw [Mailbox.items_of_pop? popped, List.length_cons] at short
      change rest.items.length ≤ rest.capacity
      omega

end BusSubscription

namespace AsyncEventBus

variable {τ κ ε : Type} {isInstance : ε → τ → Bool}
variable {bus bus' : AsyncEventBus τ κ ε} {event : ε}

/-- A publish call goes past some subscriptions, and stops at one that has no
room or after the last. -/
theorem offer_cases (event : ε) (subs : List (BusSubscription τ κ ε)) :
    ((∀ sub ∈ subs, sub.stalls isInstance event = false) ∧
        offer isInstance event subs =
          (subs.map (BusSubscription.receive isInstance event), none)) ∨
      ∃ front sub back, subs = front ++ sub :: back ∧
        (∀ sub ∈ front, sub.stalls isInstance event = false) ∧
        sub.stalls isInstance event = true ∧
        offer isInstance event subs =
          (front.map (BusSubscription.receive isInstance event) ++ sub :: back,
            some front.length) := by
  induction subs with
  | nil => exact .inl ⟨List.forall_mem_nil _, rfl⟩
  | cons first rest ih =>
      cases stops : first.stalls isInstance event with
      | true =>
          refine .inr ⟨[], first, rest, rfl, List.forall_mem_nil _, stops, ?_⟩
          simp [offer, stops]
      | false =>
          rcases ih with ⟨pass, done⟩ | ⟨front, sub, back, split, pass, full, done⟩
          · refine .inl ⟨?_, ?_⟩
            · intro sub member
              rcases List.mem_cons.mp member with rfl | later
              · exact stops
              · exact pass sub later
            · simp [offer, stops, done]
          · refine .inr ⟨first :: front, sub, back, by rw [split]; rfl, ?_, full,
              ?_⟩
            · intro other member
              rcases List.mem_cons.mp member with rfl | later
              · exact stops
              · exact pass other later
            · simp [offer, stops, done]

/-- Every subscription serves what it was offered; a publish call waits at one
that blocks and wants its event. -/
structure Served (isInstance : ε → τ → Bool) (bus : AsyncEventBus τ κ ε) :
    Prop where
  open_ : bus.closed = false
  serves : ∀ {index : Nat} {sub : BusSubscription τ κ ε},
    bus.subs[index]? = some sub →
    sub.Serves isInstance (bus.offered index)
  underWay : ∀ call ∈ bus.waiting, bus.waiting = [call] ∧
    (∃ before, bus.published = before ++ [call.event]) ∧
      ∃ sub, bus.subs[call.waitsAt]? = some sub ∧
        sub.wants isInstance call.event = true ∧ sub.overflow = .block

theorem getElem?_map_append {front back : List (BusSubscription τ κ ε)}
    {change : BusSubscription τ κ ε → BusSubscription τ κ ε} {index : Nat}
    {sub : BusSubscription τ κ ε}
    (found : (front.map change ++ back)[index]? = some sub) :
    (index < front.length ∧ ∃ old, (front ++ back)[index]? = some old ∧
        sub = change old) ∨
      (front.length ≤ index ∧ (front ++ back)[index]? = some sub) := by
  rcases Nat.lt_or_ge index front.length with inside | beyond
  · refine .inl ⟨inside, ?_⟩
    rw [List.getElem?_append_left (by simpa using inside),
      List.getElem?_map] at found
    rcases Option.map_eq_some_iff.mp found with ⟨old, there, rfl⟩
    exact ⟨old, by rw [List.getElem?_append_left inside]; exact there, rfl⟩
  · refine .inr ⟨beyond, ?_⟩
    rw [List.getElem?_append_right (by simpa using beyond),
      List.length_map] at found
    rw [List.getElem?_append_right beyond]
    exact found

theorem Served.publish (served : bus.Served isInstance) (idle : bus.waiting = [])
    (event : ε) : (bus.publish isInstance event).Served isInstance := by
  have before : ∀ {index : Nat} {sub : BusSubscription τ κ ε},
      bus.subs[index]? = some sub → sub.Serves isInstance bus.published := by
    intro index sub found
    have serves := served.serves found
    unfold offered at serves
    rw [idle] at serves
    exact serves
  have opened : ¬ bus.closed = true := by simp [served.open_]
  unfold AsyncEventBus.publish
  rw [if_neg opened]
  rcases @offer_cases _ _ _ isInstance event bus.subs with
    ⟨pass, done⟩ | ⟨front, stop, back, split, pass, full, done⟩
  · rw [done]
    simp only [idle, Option.map_none, Option.toList_none, List.append_nil]
    refine ⟨served.open_, ?_, fun _ member => by cases member⟩
    intro index sub found
    dsimp only at found
    rw [List.getElem?_map] at found
    rcases Option.map_eq_some_iff.mp found with ⟨old, there, rfl⟩
    exact (before there).receive (pass old (List.mem_of_getElem? there))
  · rw [done]
    simp only [idle, Option.map_some, Option.toList_some, List.nil_append]
    refine ⟨served.open_, ?_, ?_⟩
    · intro index sub found
      dsimp only at found
      rcases getElem?_map_append found with ⟨inside, old, there, rfl⟩ |
        ⟨beyond, there⟩
      · have member : old ∈ front := by
          rw [List.getElem?_append_left inside] at there
          exact List.mem_of_getElem? there
        have serves := (before (by rw [split]; exact there)).receive
          (pass old member)
        unfold offered
        simpa [inside] using serves
      · have held : bus.subs[index]? = some sub := by
          rw [split]
          exact there
        have serves := before held
        unfold offered
        have late : ¬ index < front.length := Nat.not_lt.mpr beyond
        simpa [late] using serves
    · intro call member
      rw [List.mem_singleton.mp member]
      refine ⟨rfl, ⟨bus.published, rfl⟩, stop, ?_, ?_⟩
      · simp
      · unfold BusSubscription.stalls at full
        simp only [Bool.and_eq_true, decide_eq_true_eq] at full
        exact ⟨full.1.1.2, full.1.2⟩

theorem resume?_spec (resumed : bus.resume? isInstance 0 = some bus') :
    ∃ call sub back, bus.waiting[0]? = some call ∧
      bus.subs.drop call.waitsAt = sub :: back ∧ sub.queue.full = false ∧
      bus' = { bus with
        subs := bus.subs.take call.waitsAt ++
          { sub with queue := sub.queue.push call.event } ::
            (offer isInstance call.event back).1
        waiting := bus.waiting.eraseIdx 0 ++
          ((offer isInstance call.event back).2.map fun index =>
            (⟨call.event, call.waitsAt + 1 + index⟩ : PublishCall ε)).toList } := by
  unfold resume? at resumed
  cases first : bus.waiting[0]? with
  | none => simp [first] at resumed
  | some call =>
      simp only [first] at resumed
      cases rest : bus.subs.drop call.waitsAt with
      | nil => simp [rest] at resumed
      | cons sub back =>
          simp only [rest] at resumed
          cases room : sub.queue.full with
          | true => simp [room] at resumed
          | false =>
              simp only [room, Bool.false_eq_true, if_false] at resumed
              exact ⟨call, sub, back, rfl, rest, room,
                (Option.some.inj resumed).symm⟩

/-- A publish that waits at one subscription: those before it have the event, those
behind it have only what came earlier. -/
structure Resuming (isInstance : ε → τ → Bool) (bus : AsyncEventBus τ κ ε)
    (call : PublishCall ε) (past : List ε) (front back : List (BusSubscription τ κ ε))
    (known : BusSubscription τ κ ε) : Prop where
  open_ : bus.closed = false
  size : front.length = call.waitsAt
  published : bus.published = past ++ [call.event]
  early : ∀ {index : Nat} {sub : BusSubscription τ κ ε},
    front[index]? = some sub → sub.Serves isInstance bus.published
  own : (({ known with queue := known.queue.push call.event } :
    BusSubscription τ κ ε)).Serves isInstance bus.published
  behind : ∀ {index : Nat} {sub : BusSubscription τ κ ε},
    back[index]? = some sub → sub.Serves isInstance past

theorem Served.resuming (served : bus.Served isInstance) {call : PublishCall ε}
    {known : BusSubscription τ κ ε} {back : List (BusSubscription τ κ ε)}
    (first : bus.waiting[0]? = some call)
    (cut : bus.subs.drop call.waitsAt = known :: back)
    (room : known.queue.full = false) :
    bus.waiting = [call] ∧ ∃ past,
      Resuming isInstance bus call past (bus.subs.take call.waitsAt) back known := by
  rcases served.underWay call (List.mem_of_getElem? first) with
    ⟨only, ⟨past, published⟩, sub, there, wanted, policy⟩
  have inside : call.waitsAt < bus.subs.length :=
    (List.getElem?_eq_some_iff.mp there).1
  have split : bus.subs = bus.subs.take call.waitsAt ++ known :: back := by
    rw [← cut, List.take_append_drop]
  have size : (bus.subs.take call.waitsAt).length = call.waitsAt := by
    rw [List.length_take]
    omega
  generalize bus.subs.take call.waitsAt = front at *
  have same : sub = known := by
    rw [split, List.getElem?_append_right (by rw [size]), size] at there
    simpa using there.symm
  subst same
  -- what each subscription has been offered before this step
  have late : ∀ {index : Nat} {other : BusSubscription τ κ ε},
      (sub :: back)[index]? = some other → other.Serves isInstance past := by
    intro index other found
    have held : bus.subs[front.length + index]? = some other := by
      rw [split, List.getElem?_append_right (Nat.le_add_right _ _),
        Nat.add_sub_cancel_left]
      exact found
    have serves := served.serves held
    unfold offered at serves
    rw [only, published] at serves
    simpa [← size] using serves
  refine ⟨only, past, ?_⟩
  constructor
  · exact served.open_
  · exact size
  · exact published
  · intro index other found
    have below : index < front.length := (List.getElem?_eq_some_iff.mp found).1
    have held : bus.subs[index]? = some other := by
      rw [split, List.getElem?_append_left below]
      exact found
    have serves := served.serves held
    unfold offered at serves
    rw [only] at serves
    simpa [← size, below] using serves
  · have passes : sub.stalls isInstance call.event = false := by
      simp [BusSubscription.stalls, room]
    have here : (sub :: back)[0]? = some sub := rfl
    have serves := (late here).receive passes
    rw [BusSubscription.receive_of_open wanted (late here).alive] at serves
    rw [published]
    exact serves
  · intro index other found
    have next : (sub :: back)[index + 1]? = some other := by
      rw [List.getElem?_cons_succ]
      exact found
    exact late next

section Resuming

variable {call : PublishCall ε} {past : List ε} {front back : List (BusSubscription τ κ ε)}
variable {known : BusSubscription τ κ ε}

/-- The publish gets through. -/
theorem Resuming.done (resuming : Resuming isInstance bus call past front back known)
    (pass : ∀ sub ∈ back, sub.stalls isInstance call.event = false) :
    Served isInstance
      { bus with
        subs := front ++ { known with queue := known.queue.push call.event } ::
          back.map (BusSubscription.receive isInstance call.event)
        waiting := [] } := by
  refine ⟨resuming.open_, ?_, fun _ member => by cases member⟩
  intro index other found
  change other.Serves isInstance bus.published
  dsimp only at found
  rcases Nat.lt_or_ge index front.length with below | beyond
  · rw [List.getElem?_append_left below] at found
    exact resuming.early found
  · rw [List.getElem?_append_right beyond] at found
    cases place : index - front.length with
    | zero =>
        rw [place] at found
        cases found
        exact resuming.own
    | succ next =>
        rw [place, List.getElem?_cons_succ, List.getElem?_map] at found
        rcases Option.map_eq_some_iff.mp found with ⟨old, there, rfl⟩
        rw [resuming.published]
        exact (resuming.behind there).receive (pass old (List.mem_of_getElem? there))

/-- The publish waits again, at a later subscription. -/
theorem Resuming.stopped {middle rest : List (BusSubscription τ κ ε)}
    {stop : BusSubscription τ κ ε}
    (resuming : Resuming isInstance bus call past front (middle ++ stop :: rest) known)
    (pass : ∀ sub ∈ middle, sub.stalls isInstance call.event = false)
    (full : stop.stalls isInstance call.event = true) :
    Served isInstance
      { bus with
        subs := front ++ { known with queue := known.queue.push call.event } ::
          (middle.map (BusSubscription.receive isInstance call.event) ++ stop :: rest)
        waiting := [⟨call.event, call.waitsAt + 1 + middle.length⟩] } := by
  have size := resuming.size
  refine ⟨resuming.open_, ?_, ?_⟩
  · intro index other found
    dsimp only at found
    have offers : ({ bus with
        subs := front ++ { known with queue := known.queue.push call.event } ::
          (middle.map (BusSubscription.receive isInstance call.event) ++ stop :: rest)
        waiting := [⟨call.event, call.waitsAt + 1 + middle.length⟩] } :
          AsyncEventBus τ κ ε).offered index =
            if index < call.waitsAt + 1 + middle.length then
              bus.published else past := by
      unfold offered
      rw [resuming.published, List.dropLast_concat]
    rw [offers]
    rcases Nat.lt_or_ge index front.length with below | beyond
    · rw [if_pos (by rw [← size]; omega)]
      rw [List.getElem?_append_left below] at found
      exact resuming.early found
    · rw [List.getElem?_append_right beyond] at found
      cases place : index - front.length with
      | zero =>
          rw [if_pos (by rw [← size]; omega)]
          rw [place] at found
          cases found
          exact resuming.own
      | succ next =>
          rw [place, List.getElem?_cons_succ] at found
          rcases getElem?_map_append found with ⟨within, old, there, rfl⟩ |
            ⟨after, there⟩
          · rw [if_pos (by rw [← size]; omega), resuming.published]
            have member : old ∈ middle := by
              rw [List.getElem?_append_left within] at there
              exact List.mem_of_getElem? there
            exact (resuming.behind there).receive (pass old member)
          · rw [if_neg (by rw [← size]; omega)]
            exact resuming.behind there
  · intro next member
    rw [List.mem_singleton.mp member]
    refine ⟨rfl, ⟨past, resuming.published⟩, stop, ?_, ?_⟩
    · dsimp only
      have far : ¬ call.waitsAt + 1 + middle.length < front.length := by
        rw [size]
        omega
      rw [List.getElem?_append_right (Nat.not_lt.mp far)]
      have place : call.waitsAt + 1 + middle.length - front.length =
          middle.length + 1 := by
        rw [size]
        omega
      rw [place, List.getElem?_cons_succ]
      simp
    · unfold BusSubscription.stalls at full
      simp only [Bool.and_eq_true, decide_eq_true_eq] at full
      exact ⟨full.1.1.2, full.1.2⟩

end Resuming

theorem Served.resume (served : bus.Served isInstance)
    (resumed : bus.resume? isInstance 0 = some bus') :
    bus'.Served isInstance := by
  rcases resume?_spec resumed with ⟨call, known, back, first, cut, room, rfl⟩
  rcases served.resuming first cut room with ⟨only, past, resuming⟩
  have none : bus.waiting.eraseIdx 0 = [] := by rw [only]; rfl
  rcases @offer_cases _ _ _ isInstance call.event back with
    ⟨pass, done⟩ | ⟨middle, stop, rest, rfl, pass, full, done⟩
  · rw [done, none]
    exact resuming.done pass
  · rw [done, none]
    exact resuming.stopped pass full

theorem Served.take {index : Nat} {handler : κ} (served : bus.Served isInstance)
    (taken : bus.take? index = some (handler, event, bus')) :
    bus'.Served isInstance := by
  rcases take?_spec taken with
    ⟨front, sub, rest, back, split, here, alive, rfl, popped, rfl⟩
  have place : ∀ {other}, (front ++ sub :: back)[front.length]? = some other →
      other = sub := by
    intro other found
    simpa using found.symm
  have elsewhere : ∀ {at_ : Nat} (new : BusSubscription τ κ ε),
      at_ ≠ front.length →
        (front ++ new :: back)[at_]? = (front ++ sub :: back)[at_]? := by
    intro at_ new apart
    rcases Nat.lt_or_ge at_ front.length with below | beyond
    · rw [List.getElem?_append_left below, List.getElem?_append_left below]
    · rw [List.getElem?_append_right beyond, List.getElem?_append_right beyond]
      cases gap : at_ - front.length with
      | zero => omega
      | succ _ => rfl
  refine ⟨served.open_, ?_, ?_⟩
  · intro at_ other found
    change other.Serves isInstance (bus.offered at_)
    dsimp only at found
    by_cases same : at_ = front.length
    · subst same
      have new : other =
          { sub with queue := rest, handled := sub.handled ++ [event] } := by
        simpa using found.symm
      rw [new]
      apply BusSubscription.Serves.take ?_ popped
      apply served.serves
      rw [split]
      simp
    · rw [elsewhere _ same] at found
      apply served.serves
      rw [split]
      exact found
  · intro call member
    rcases served.underWay call member with ⟨only, last, known, there, wanted, policy⟩
    refine ⟨only, last, ?_⟩
    dsimp only
    by_cases same : call.waitsAt = front.length
    · rw [same, split] at there
      have old := place there
      refine ⟨{ sub with queue := rest, handled := sub.handled ++ [event] }, ?_,
        ?_, ?_⟩
      · rw [same]
        simp
      · rw [old] at wanted
        exact wanted
      · rw [old] at policy
        exact policy
    · refine ⟨known, ?_, wanted, policy⟩
      rw [elsewhere _ same, ← split]
      exact there

end AsyncEventBus

namespace BusTasks

variable {τ κ ε : Type} {isInstance : ε → τ → Bool}
variable {s s' : BusTasks τ κ ε} {label : BusTaskLabel ε}

/-- What the claim says of a reachable state, for the subscriptions whose queue is
empty, and that a waiting event can be taken. -/
structure Delivers (isInstance : ε → τ → Bool) (s : BusTasks τ κ ε) :
    Prop where
  /-- every matching event once, in the order of publishing -/
  block : ∀ {index : Nat} {sub : BusSubscription τ κ ε},
    s.bus.subs[index]? = some sub → sub.overflow = .block → sub.queue.items = [] →
      sub.handled = (s.bus.offered index).filter (sub.wants isInstance)
  /-- some of the matching events in their order, with the latest ones -/
  dropOldest : ∀ {index : Nat} {sub : BusSubscription τ κ ε},
    s.bus.subs[index]? = some sub → sub.overflow = .dropOldest → 1 ≤ sub.queue.capacity →
      sub.queue.items = [] →
        sub.handled.Sublist
            ((s.bus.offered index).filter (sub.wants isInstance)) ∧
          BusSubscription.latest sub.queue.capacity
              ((s.bus.offered index).filter (sub.wants isInstance)) <:+
            sub.handled
  /-- no consumer has stopped -/
  goesOn : ∀ {index : Nat} {sub : BusSubscription τ κ ε},
    s.bus.subs[index]? = some sub → sub.queue.items ≠ [] →
      ∀ outcome, (s.step? isInstance (.take index outcome)).isSome = true

/-- No handler is cancelled. -/
def Uncancelled (_ : BusTasks τ κ ε) : BusTaskLabel ε → Prop
  | .take _ outcome => outcome ≠ .cancelled
  | .publish _ | .resume => True

/-- The invariant: no consumer has ended, and the bus serves everyone. -/
structure Serving (isInstance : ε → τ → Bool) (s : BusTasks τ κ ε) :
    Prop where
  running : s.ended = []
  served : s.bus.Served isInstance

theorem serving_start (specs : List (SubscriptionSpec τ κ)) :
    (start specs : BusTasks τ κ ε).Serving isInstance where
  running := rfl
  served := by
    refine ⟨rfl, ?_, fun _ member => by cases member⟩
    intro index sub found
    have fresh : ∃ spec : SubscriptionSpec τ κ, sub =
        .create spec.eventType spec.handler spec.maxsize spec.overflow := by
      have there : (specs.map fun spec =>
          (BusSubscription.create spec.eventType spec.handler spec.maxsize
            spec.overflow : BusSubscription τ κ ε))[index]? = some sub := found
      rw [List.getElem?_map] at there
      rcases Option.map_eq_some_iff.mp there with ⟨spec, -, same⟩
      exact ⟨spec, same.symm⟩
    rcases fresh with ⟨spec, rfl⟩
    refine ⟨rfl, fun _ => rfl, fun _ _ => ?_⟩
    exact
      { some_ := List.Sublist.refl []
        newest := List.suffix_refl []
        latest := by
          change BusSubscription.latest spec.maxsize [] <:+ []
          rw [BusSubscription.latest, List.drop_nil]
        within := Nat.zero_le _ }

theorem Serving.step (serving : s.Serving isInstance)
    (uncancelled : Uncancelled s label) (taken : Step isInstance s label s') :
    s'.Serving isInstance := by
  simp only [Step, stepOf?] at taken
  cases label with
  | publish event =>
      simp only [step?] at taken
      split at taken
      · rename_i idle
        cases taken
        exact ⟨serving.running, serving.served.publish idle event⟩
      · cases taken
  | resume =>
      simp only [step?] at taken
      rcases Option.map_eq_some_iff.mp taken with ⟨bus, resumed, rfl⟩
      exact ⟨serving.running, serving.served.resume resumed⟩
  | take index outcome =>
      simp only [step?] at taken
      split at taken
      · cases taken
      · split at taken
        · cases taken
        · rename_i handler event bus popped
          cases taken
          refine ⟨?_, serving.served.take popped⟩
          dsimp only
          rw [if_neg uncancelled]
          exact serving.running

theorem Serving.delivers (serving : s.Serving isInstance) :
    s.Delivers isInstance where
  block := by
    intro index sub found policy drained
    have complete : sub.handled ++ sub.queue.items = _ :=
      (serving.served.serves found).block policy
    rw [drained, List.append_nil] at complete
    exact complete
  dropOldest := by
    intro index sub found policy bounded drained
    have recent := (serving.served.serves found).dropOldest policy bounded
    have some_ := recent.some_
    have latest := recent.latest
    rw [drained, List.append_nil] at some_ latest
    exact ⟨some_, latest⟩
  goesOn := by
    intro index sub found waiting outcome
    have alive := (serving.served.serves found).alive
    have popped : ∃ pair, sub.queue.pop? = some pair := by
      unfold Mailbox.pop?
      cases items : sub.queue.items with
      | nil => exact absurd items waiting
      | cons event rest => exact ⟨_, rfl⟩
    rcases popped with ⟨⟨event, rest⟩, popped⟩
    simp [step?, serving.running, AsyncEventBus.take?, found, alive, popped]

/-- Whatever subscriptions there are, whatever is published and however the
consumers are scheduled: as long as no handler is cancelled, every subscription
gets what its policy promises, and handlers may raise as they like. -/
theorem events_delivered (specs : List (SubscriptionSpec τ κ))
    {labels : List (BusTaskLabel ε)}
    (run : Run (Guarded Uncancelled (Step isInstance)) (start specs) labels s) :
    s.Delivers isInstance := by
  have serving : s.Serving isInstance :=
    run.invariant (serving_start specs) fun taken serving =>
      serving.step taken.1 taken.2
  exact serving.delivers

/-! ### A raising handler, and a cancelled one -/

instance (s : BusTasks τ κ ε) (label : BusTaskLabel ε) :
    Decidable (Uncancelled s label) := by
  cases label with
  | publish event => exact instDecidableTrue
  | resume => exact instDecidableTrue
  | take index outcome => exact instDecidableNot

/-- A blocking and a dropping subscription, each with room for one event. -/
def twoQueues : List (SubscriptionSpec Unit Unit) :=
  [⟨(), (), 1, .block⟩, ⟨(), (), 1, .dropOldest⟩]

/-- The publisher waits once; one handler raises. -/
def raisingRun : List (BusTaskLabel Nat) :=
  [.publish 1, .publish 2, .take 0 .raised, .resume, .take 0 .returned,
    .take 1 .returned]

theorem raising_handler_delivers :
    ∃ s : BusTasks Unit Unit Nat,
      s.bus.subs.map BusSubscription.handled = [[1, 2], [2]] ∧
        s.Delivers fun _ _ => true := by
  have reached :
      (replay? Uncancelled (step? fun _ _ => true) (start twoQueues)
        raisingRun).map (fun s => s.bus.subs.map BusSubscription.handled) =
          some [[1, 2], [2]] := by
    decide +kernel
  rcases Option.map_eq_some_iff.mp reached with ⟨s, replayed, handled⟩
  exact ⟨s, handled, events_delivered twoQueues (run_of_replay? replayed)⟩

/-- A handler that is cancelled takes its consumer with it: the next event is
never handled. -/
theorem cancelled_handler_stalls :
    ¬ ∀ (specs : List (SubscriptionSpec Unit Unit))
        (labels : List (BusTaskLabel Nat)) (s : BusTasks Unit Unit Nat),
        Run (Step fun _ _ => true) (start specs) labels s →
          s.Delivers fun _ _ => true := by
  intro claim
  have reached :
      (replay? (fun _ _ => True) (step? fun _ _ => true) (start twoQueues)
        [.publish (1 : Nat), .take 0 .cancelled, .publish 2]).any
          (fun s => decide ((s.bus.subs[0]?.map fun sub => sub.queue.items) =
              some [2] ∧
            (s.step? (fun _ _ => true) (.take 0 .returned)).isSome =
              false)) = true := by
    decide +kernel
  rcases (Option.any_eq_true _ _).mp reached with ⟨s, replayed, stalled⟩
  rcases of_decide_eq_true stalled with ⟨waits, stuck⟩
  rcases Option.map_eq_some_iff.mp waits with ⟨sub, found, items⟩
  have delivers := claim twoQueues _ s (run_of_replay? replayed).unguard
  have goes := delivers.goesOn found (by rw [items]; simp) .returned
  rw [stuck] at goes
  cases goes

end BusTasks

end StingerFx
