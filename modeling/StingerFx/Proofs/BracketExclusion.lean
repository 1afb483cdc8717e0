/-
Module: StingerFx.Proofs.BracketExclusion
Layer: Proofs
Purpose: When the legs of a bracket exclude each other. The manager cancels the
  siblings of a leg once it hears of the fill, so the broker must not fill another
  leg before. That holds along every run in which no pass fires a leg of a bracket
  beside another leg that fires in it or has filled already.
Trusted boundary: none (fully proved)
Main exports: BracketDesk.FiresAlone, BracketDesk.Watched, BracketDesk.Sound,
  BracketDesk.Exclusive, BracketDesk.brackets_exclusive,
  BracketDesk.lone_leg_exclusive, BracketDesk.wide_bar_fills_both
-/
import StingerFx.Proofs.OrderFates
import StingerFx.Runtime.BracketDesk

namespace StingerFx

open Lib

variable {σ : Type}

namespace BracketDesk

/-- A pass of the operation would fill the order that rests under a ticket. -/
def Fires (s : BracketDesk σ) (op : BrokerOp) (ticket : Ticket) : Prop :=
  match s.broker.pending.get? ticket with
  | none => False
  | some order => SimBroker.fires op order = true

instance (s : BracketDesk σ) (op : BrokerOp) (ticket : Ticket) :
    Decidable (s.Fires op ticket) :=
  decidable_of_iff ((s.broker.pending.get? ticket).any (SimBroker.fires op) = true) <| by
    unfold Fires
    cases s.broker.pending.get? ticket with
    | none => simp
    | some order => simp

/-- No pass fires a leg of a bracket beside another leg that fires in it or has
filled already. -/
def FiresAlone (s : BracketDesk σ) : BracketLabel → Prop
  | .drive op =>
      ∀ bracket ∈ s.brackets, ∀ one ∈ bracket.legs, ∀ two ∈ bracket.legs,
        s.Fires op one → s.Fires op two ∨ two ∈ s.filled → two = one
  | _ => True

instance (s : BracketDesk σ) (label : BracketLabel) :
    Decidable (s.FiresAlone label) := by
  cases label <;> unfold FiresAlone <;> infer_instance

/-- At most one leg is open, and once a leg has filled no leg rests. -/
structure Exclusive (s : BracketDesk σ) (bracket : Bracket) : Prop where
  opened : ∀ one ∈ bracket.legs, ∀ two ∈ bracket.legs,
    s.broker.positions.get? one ≠ none →
      s.broker.positions.get? two ≠ none → one = two
  resting : ∀ one ∈ bracket.legs, one ∈ s.filled → ∀ two ∈ bracket.legs,
    s.broker.pending.get? two = none

/-! ### Queues -/

def cancelsOf (requests : List RouterRequest) : List CancelOrderRequest :=
  requests.filterMap fun
    | .cancel request => some request
    | _ => none

def closesOf (requests : List RouterRequest) : List ClosePositionRequest :=
  requests.filterMap fun
    | .close request => some request
    | _ => none

/-- Publishing fills the runner's queues and leaves the rest alone. -/
theorem publish_eq (s : BracketDesk σ) (events : List Event) :
    s.publish events =
      { s with
        fills := s.fills.pushAll (filledIn events)
        cancels := s.cancels.pushAll (cancelledIn events)
        closes := s.closes.pushAll (closedIn events)
        filled := s.filled ++ (filledIn events).map Order.ticket } := by
  induction events generalizing s with
  | nil =>
      have none : s.filled = s.filled ++ [] := (List.append_nil _).symm
      change s = { s with filled := s.filled ++ [] }
      rw [← none]
  | cons event events ih =>
      have next : s.publish (event :: events) =
          (s.deliver event).publish events := rfl
      rw [next, ih]
      cases event with
      | orderFilled order accountId =>
          have more : s.filled ++ [order.ticket] ++
              (filledIn events).map Order.ticket =
                s.filled ++ (filledIn (.orderFilled order accountId ::
                  events)).map Order.ticket := List.append_assoc _ _ _
          dsimp only [deliver]
          rw [more]
          rfl
      | _ => rfl

/-- Requests wait for the router. -/
theorem dispatch_eq (s : BracketDesk σ) (requests : List RouterRequest) :
    s.dispatch requests =
      { s with
        cancelRequests := s.cancelRequests.pushAll (cancelsOf requests)
        closeRequests := s.closeRequests.pushAll (closesOf requests) } := by
  induction requests generalizing s with
  | nil => rfl
  | cons request requests ih =>
      have next : s.dispatch (request :: requests) =
          (s.send request).dispatch requests := rfl
      rw [next, ih]
      cases request <;> rfl

theorem mem_cancelsOf {requests : List RouterRequest}
    {request : CancelOrderRequest} (member : .cancel request ∈ requests) :
    request ∈ cancelsOf requests :=
  List.mem_filterMap.mpr ⟨.cancel request, member, rfl⟩

/-! ### The invariant of a bracket -/

/-- Every leg that rests is about to be cancelled. -/
def Swept (s : BracketDesk σ) (bracket : Bracket) : Prop :=
  ∀ leg ∈ bracket.legs, s.broker.pending.get? leg ≠ none →
    ∃ request ∈ s.cancelRequests.backlog,
      request.ticket = leg ∧ request.strategyId = s.ctx.strategyId

/-- The fill of a ticket is on its way to the manager. -/
def FillAhead (s : BracketDesk σ) (ticket : Ticket) : Prop :=
  ∃ order ∈ s.fills.backlog, order.ticket = ticket ∧
    order.strategyId = s.ctx.strategyId ∧ order.trackRaises = false

/-- Every leg that rests is in the group, and so is a leg that has filled, of
which the manager has still to hear. -/
structure Armed (s : BracketDesk σ) (bracket : Bracket) : Prop where
  resting : ∀ leg ∈ bracket.legs, s.broker.pending.get? leg ≠ none →
    s.manager.ticketToGroup.get? leg = some bracket.groupId
  filled : ∀ leg ∈ bracket.legs, leg ∈ s.filled →
    s.manager.ticketToGroup.get? leg = some bracket.groupId ∧ s.FillAhead leg

structure Watched (s : BracketDesk σ) (bracket : Bracket) : Prop where
  issued : ∀ leg ∈ bracket.legs, leg < s.broker.nextTicket
  own : ∀ leg ∈ bracket.legs, ∀ order,
    s.broker.pending.get? leg = some order →
      order.strategyId = s.ctx.strategyId ∧ order.magic = s.magic
  single : ∀ one ∈ bracket.legs, ∀ two ∈ bracket.legs,
    one ∈ s.filled → two ∈ s.filled → one = two
  opened : ∀ leg ∈ bracket.legs, s.broker.positions.get? leg ≠ none →
    leg ∈ s.filled
  watch : s.Swept bracket ∨ s.Armed bracket

/-- Once everything is handled, a watched bracket is exclusive. -/
theorem Watched.exclusive {s : BracketDesk σ} {bracket : Bracket}
    (watched : s.Watched bracket) (drained : s.Drained) :
    s.Exclusive bracket where
  opened := fun one member two other here there =>
    watched.single one member two other (watched.opened one member here)
      (watched.opened two other there)
  resting := by
    intro one member filled two other
    by_contra rests
    rcases watched.watch with swept | armed
    · rcases swept two other rests with ⟨request, waiting, -⟩
      rw [drained.cancelRequests] at waiting
      cases waiting
    · rcases (armed.filled one member filled).2 with ⟨order, waiting, -⟩
      rw [drained.fills] at waiting
      cases waiting

/-- The invariant of the desk. -/
structure Sound (s : BracketDesk σ) : Prop where
  kept : SimBroker.BooksKept s.broker
  tidy : s.manager.Tidy
  expects : s.router.expectedMagic s.ctx.strategyId = s.magic
  filled : ∀ ticket ∈ s.filled, s.broker.Gone ticket
  fills : ∀ order ∈ s.fills.backlog, s.broker.Gone order.ticket
  closes : ∀ position ∈ s.closes.backlog, s.broker.Gone position.ticket
  cancels : ∀ order ∈ s.cancels.backlog,
    s.broker.Gone order.ticket ∧ order.ticket ∉ s.filled
  brackets : ∀ bracket ∈ s.brackets, s.Watched bracket

/-! ### Broker calls -/

section Calls

variable {cfg : SimConfig σ} {s : BracketDesk σ} {b' : SimBroker σ}
variable {events : List Event} {cancelRequests : Mailbox CancelOrderRequest}
variable {closeRequests : Mailbox ClosePositionRequest}

/-- The desk after a broker call, with what is left of the requests. -/
def afterCall (s : BracketDesk σ) (b' : SimBroker σ) (events : List Event)
    (cancelRequests : Mailbox CancelOrderRequest)
    (closeRequests : Mailbox ClosePositionRequest) : BracketDesk σ :=
  { s with
    broker := b'
    cancelRequests := cancelRequests
    closeRequests := closeRequests }.publish events

/-- A request for a cancellation still waits, or its order does not rest. -/
def Answered (s : BracketDesk σ) (b' : SimBroker σ)
    (cancelRequests : Mailbox CancelOrderRequest) : Prop :=
  ∀ request ∈ s.cancelRequests.backlog,
    request.strategyId = s.ctx.strategyId →
      request ∈ cancelRequests.backlog ∨
        ∀ order, s.broker.pending.get? request.ticket = some order →
          order.magic = s.magic → b'.pending.get? request.ticket = none

theorem Answered.refl (s : BracketDesk σ) (b' : SimBroker σ) :
    s.Answered b' s.cancelRequests :=
  fun _ member _ => .inl member

/-- No leg fires beside another that fires or has filled. -/
def OneFills (s : BracketDesk σ) (events : List Event) (bracket : Bracket) :
    Prop :=
  ∀ one ∈ bracket.legs, ∀ two ∈ bracket.legs,
    (∃ order ∈ filledIn events, order.ticket = one) →
      two ∈ s.filled ∨ (∃ order ∈ filledIn events, order.ticket = two) →
        two = one

theorem rested {leg : Ticket} (fates : SimBroker.Fates s.broker events b')
    (issued : leg < s.broker.nextTicket)
    (rests : b'.pending.get? leg ≠ none) :
    s.broker.pending.get? leg ≠ none := by
  obtain ⟨order', waiting⟩ := Option.ne_none_iff_exists'.mp rests
  rcases fates.pending leg order' issued waiting with ⟨order, before, -⟩
  rw [before]
  exact Option.some_ne_none order

/-- A leg that fills has rested, and its fill is on its way. -/
theorem filled_now {bracket : Bracket} (watched : s.Watched bracket)
    (fates : SimBroker.Fates s.broker events b') {leg : Ticket}
    (member : leg ∈ bracket.legs)
    (now : ∃ order ∈ filledIn events, order.ticket = leg) :
    s.broker.pending.get? leg ≠ none ∧
      ∃ order ∈ filledIn events, order.ticket = leg ∧
        order.strategyId = s.ctx.strategyId ∧ order.trackRaises = false := by
  rcases now with ⟨order, filled, rfl⟩
  rcases (fates.filled order filled).2 (watched.issued _ member) with
    ⟨before, waiting, strategyId, raises⟩
  refine ⟨?_, order, filled, rfl, ?_, raises⟩
  · rw [waiting]
    exact Option.some_ne_none before
  · rw [strategyId]
    exact (watched.own _ member before waiting).1

theorem Watched.afterCall {bracket : Bracket} (watched : s.Watched bracket)
    (fates : SimBroker.Fates s.broker events b')
    (answered : s.Answered b' cancelRequests)
    (alone : s.OneFills events bracket) :
    (s.afterCall b' events cancelRequests closeRequests).Watched bracket := by
  unfold BracketDesk.afterCall
  rw [publish_eq]
  have filledNow : ∀ leg, leg ∈ s.filled ++ (filledIn events).map Order.ticket →
      leg ∈ s.filled ∨ ∃ order ∈ filledIn events, order.ticket = leg := by
    intro leg member
    rcases List.mem_append.mp member with old | new
    · exact .inl old
    · exact .inr (List.mem_map.mp new)
  have later : ∀ leg, (∃ order ∈ filledIn events, order.ticket = leg) →
      leg ∈ s.filled ++ (filledIn events).map Order.ticket :=
    fun leg now => List.mem_append_right _ (List.mem_map.mpr now)
  refine ⟨?_, ?_, ?_, ?_, ?_⟩
  · exact fun leg member =>
      lt_of_lt_of_le (watched.issued leg member) fates.issued
  · intro leg member order' waiting
    rcases fates.pending leg order' (watched.issued leg member) waiting with
      ⟨order, before, strategyId, magic⟩
    rw [strategyId, magic]
    exact watched.own leg member order before
  · intro one memberOne two memberTwo filledOne filledTwo
    rcases filledNow one filledOne with oldOne | nowOne
    · rcases filledNow two filledTwo with oldTwo | nowTwo
      · exact watched.single one memberOne two memberTwo oldOne oldTwo
      · exact alone two memberTwo one memberOne nowTwo (.inl oldOne)
    · exact (alone one memberOne two memberTwo nowOne
        (filledNow two filledTwo)).symm
  · intro leg member held
    rcases fates.positions leg (watched.issued leg member) held with
      before | now
    · exact List.mem_append_left _ (watched.opened leg member before)
    · exact later leg now
  · rcases watched.watch with swept | armed
    · left
      intro leg member rests
      have before := rested fates (watched.issued leg member) rests
      rcases swept leg member before with ⟨request, waiting, named, own⟩
      rcases answered request waiting own with still | settled
      · exact ⟨request, still, named, own⟩
      · obtain ⟨order, held⟩ := Option.ne_none_iff_exists'.mp before
        have gone := settled order (named ▸ held)
          (watched.own leg member order held).2
        rw [named] at gone
        exact absurd gone rests
    · right
      refine ⟨?_, ?_⟩
      · exact fun leg member rests => armed.resting leg member
          (rested fates (watched.issued leg member) rests)
      · intro leg member filled
        unfold FillAhead
        dsimp only
        rw [Mailbox.backlog_pushAll]
        rcases filledNow leg filled with old | now
        · rcases armed.filled leg member old with ⟨group, order, waiting, known⟩
          exact ⟨group, order, List.mem_append_left _ waiting, known⟩
        · rcases filled_now watched fates member now with
            ⟨before, order, fresh, known⟩
          exact ⟨armed.resting leg member before, order,
            List.mem_append_right _ fresh, known⟩

/-- Every broker call keeps the invariant, as long as no second leg fills. -/
theorem Sound.afterCall (sound : s.Sound) (kept : SimBroker.BooksKept b')
    (fates : SimBroker.Fates s.broker events b')
    (answered : s.Answered b' cancelRequests)
    (alone : ∀ bracket ∈ s.brackets, s.OneFills events bracket) :
    (s.afterCall b' events cancelRequests closeRequests).Sound := by
  have watched : ∀ bracket ∈ s.brackets,
      (s.afterCall b' events cancelRequests closeRequests).Watched bracket :=
    fun bracket member => (sound.brackets bracket member).afterCall fates
      answered (alone bracket member)
  unfold BracketDesk.afterCall at watched ⊢
  rw [publish_eq] at watched ⊢
  refine ⟨kept, sound.tidy, sound.expects, ?_, ?_, ?_, ?_, watched⟩
  · intro ticket member
    rcases List.mem_append.mp member with old | new
    · exact fates.gone (sound.filled ticket old)
    · rcases List.mem_map.mp new with ⟨order, fresh, rfl⟩
      exact (fates.filled order fresh).1
  · intro order member
    dsimp only at member
    rw [Mailbox.backlog_pushAll] at member
    rcases List.mem_append.mp member with old | fresh
    · exact fates.gone (sound.fills order old)
    · exact (fates.filled order fresh).1
  · intro position member
    dsimp only at member
    rw [Mailbox.backlog_pushAll] at member
    rcases List.mem_append.mp member with old | fresh
    · exact fates.gone (sound.closes position old)
    · exact fates.closed position fresh
  · intro order member
    dsimp only at member ⊢
    rw [Mailbox.backlog_pushAll] at member
    rcases List.mem_append.mp member with old | fresh
    · rcases sound.cancels order old with ⟨gone, unfilled⟩
      refine ⟨fates.gone gone, fun filled => ?_⟩
      rcases List.mem_append.mp filled with before | now
      · exact unfilled before
      · rcases List.mem_map.mp now with ⟨other, listed, same⟩
        rcases (fates.filled other listed).2 (same ▸ gone.2) with
          ⟨waiting, held, -⟩
        rw [same, gone.1] at held
        cases held
    · rcases fates.cancelled order fresh with ⟨gone, waiting, apart⟩
      refine ⟨gone, fun filled => ?_⟩
      rcases List.mem_append.mp filled with before | now
      · have settled := sound.filled _ before
        exact waiting settled.2 settled.1
      · rcases List.mem_map.mp now with ⟨other, listed, same⟩
        exact apart other listed same

end Calls

/-! ### The manager's handlers -/

section Handlers

variable {s : BracketDesk σ} {bracket : Bracket}
variable {fills : Mailbox Order} {closes : Mailbox Position}

/-- An event of the queues that a dissolved group has been told of. -/
theorem Watched.manage (watched : s.Watched bracket) {trigger : Ticket}
    {groupId : GroupId} {handled : OCOGroupManager × List RouterRequest}
    (found : s.manager.ticketToGroup.get? trigger = some groupId)
    (dissolved :
      OCOGroupManager.Dissolved s.manager s.ctx trigger groupId handled)
    (gone : s.broker.Gone trigger)
    (keeps : ∀ order ∈ s.fills.backlog, order.ticket ≠ trigger →
      order ∈ fills.backlog) :
    ({ s with fills := fills, closes := closes }.manage handled).Watched
      bracket := by
  unfold BracketDesk.manage
  rw [dispatch_eq]
  refine ⟨watched.issued, watched.own, watched.single, watched.opened, ?_⟩
  rcases watched.watch with swept | armed
  · left
    intro leg member rests
    rcases swept leg member rests with ⟨request, waiting, known⟩
    refine ⟨request, ?_, known⟩
    dsimp only
    rw [Mailbox.backlog_pushAll]
    exact List.mem_append_left _ waiting
  · by_cases same : bracket.groupId = groupId
    · -- the bracket's own group is over
      left
      intro leg member rests
      have group := armed.resting leg member rests
      have apart : leg ≠ trigger := fun here => rests (here ▸ gone.1)
      rw [same] at group
      rcases dissolved.cancels leg apart group with ⟨reason, asked⟩
      refine ⟨s.ctx.cancelOrder leg reason, ?_, rfl, rfl⟩
      dsimp only
      rw [Mailbox.backlog_pushAll]
      exact List.mem_append_right _ (mem_cancelsOf asked)
    · right
      refine ⟨?_, ?_⟩
      · exact fun leg member rests => dissolved.others leg _ same
          (armed.resting leg member rests)
      · intro leg member filled
        rcases armed.filled leg member filled with
          ⟨group, order, waiting, named, known⟩
        refine ⟨dissolved.others leg _ same group, order, ?_, named, known⟩
        apply keeps order waiting
        intro here
        rw [← here, named, group] at found
        exact same (Option.some.inj found)

/-- An event that says nothing of a member's fill. -/
theorem Watched.skip (watched : s.Watched bracket)
    (keeps : ∀ order ∈ s.fills.backlog,
      order.strategyId = s.ctx.strategyId → order.trackRaises = false →
        s.manager.ticketToGroup.get? order.ticket ≠ none →
          order ∈ fills.backlog) :
    { s with fills := fills, closes := closes }.Watched bracket := by
  refine ⟨watched.issued, watched.own, watched.single, watched.opened, ?_⟩
  rcases watched.watch with swept | armed
  · exact .inl swept
  · right
    refine ⟨armed.resting, ?_⟩
    intro leg member filled
    rcases armed.filled leg member filled with
      ⟨group, order, waiting, named, own, raises⟩
    refine ⟨group, order, keeps order waiting own raises ?_, named, own, raises⟩
    rw [named, group]
    exact Option.some_ne_none _

/-- A cancelled order leaves its group. -/
theorem Watched.remove (watched : s.Watched bracket) (tidy : s.manager.Tidy)
    {order : Order} {cancels : Mailbox Order} (gone : s.broker.Gone order.ticket)
    (unfilled : order.ticket ∉ s.filled) :
    { s with
      cancels := cancels
      manager := s.manager.onOrderCancelled order }.Watched bracket := by
  refine ⟨watched.issued, watched.own, watched.single, watched.opened, ?_⟩
  have stays := (tidy.remove order.ticket).2
  rcases watched.watch with swept | armed
  · exact .inl swept
  · right
    refine ⟨?_, ?_⟩
    · intro leg member rests
      have apart : leg ≠ order.ticket := fun same => rests (same ▸ gone.1)
      exact (stays leg apart).trans (armed.resting leg member rests)
    · intro leg member filled
      rcases armed.filled leg member filled with ⟨group, ahead⟩
      have apart : leg ≠ order.ticket := fun same => unfilled (same ▸ filled)
      exact ⟨(stays leg apart).trans group, ahead⟩

/-- Registering a bracket leaves those that are watched. -/
theorem Watched.join (watched : s.Watched bracket) {manager : OCOGroupManager}
    {brackets : List Bracket}
    (stays : ∀ ticket other,
      s.manager.ticketToGroup.get? ticket = some other →
        manager.ticketToGroup.get? ticket = some other) :
    { s with manager := manager, brackets := brackets }.Watched bracket := by
  refine ⟨watched.issued, watched.own, watched.single, watched.opened, ?_⟩
  rcases watched.watch with swept | armed
  · exact .inl swept
  · right
    refine ⟨fun leg member rests => stays leg _ (armed.resting leg member rests),
      fun leg member filled => ?_⟩
    rcases armed.filled leg member filled with ⟨group, ahead⟩
    exact ⟨stays leg _ group, ahead⟩

/-- Legs that rest when they are registered. -/
theorem Sound.newBracket (sound : s.Sound) {groupId : GroupId}
    {tickets : List Ticket} {manager : OCOGroupManager}
    {brackets : List Bracket}
    (resting : ∀ ticket ∈ tickets, s.Resting ticket)
    (joins : ∀ ticket ∈ tickets,
      manager.ticketToGroup.get? ticket = some groupId) :
    { s with manager := manager, brackets := brackets }.Watched
      ⟨groupId, tickets⟩ := by
  have waits : ∀ leg ∈ tickets, ∃ order,
      s.broker.pending.get? leg = some order ∧
        order.strategyId = s.ctx.strategyId ∧ order.magic = s.magic := by
    intro leg member
    have rests := resting leg member
    unfold Resting at rests
    split at rests
    · exact rests.elim
    · rename_i order waiting
      exact ⟨order, waiting, rests⟩
  have unfilled : ∀ leg ∈ tickets, leg ∉ s.filled := by
    intro leg member filled
    rcases waits leg member with ⟨order, waiting, -⟩
    rw [(sound.filled leg filled).1] at waiting
    cases waiting
  refine ⟨?_, ?_, ?_, ?_, .inr ⟨?_, ?_⟩⟩
  · intro leg member
    rcases waits leg member with ⟨order, waiting, -⟩
    exact (sound.kept.pending_ticket waiting).2.2
  · intro leg member order waiting
    rcases waits leg member with ⟨found, held, own⟩
    cases held.symm.trans waiting
    exact own
  · exact fun one member _ _ filled => absurd filled (unfilled one member)
  · intro leg member opened
    rcases waits leg member with ⟨order, waiting, -⟩
    exact absurd (sound.kept.apart waiting) opened
  · exact fun leg member _ => joins leg member
  · exact fun leg member filled => absurd filled (unfilled leg member)

end Handlers

/-! ### Steps -/

section Steps

variable {cfg : SimConfig σ} {s s' : BracketDesk σ}

/-- Any call of the router or the replay that fills no resting order. -/
theorem Sound.quietCall (sound : s.Sound) {b' : SimBroker σ}
    {events : List Event} {cancelRequests : Mailbox CancelOrderRequest}
    {closeRequests : Mailbox ClosePositionRequest}
    (kept : SimBroker.BooksKept b')
    (fates : SimBroker.Fates s.broker events b')
    (answered : s.Answered b' cancelRequests)
    (fresh : ∀ order ∈ filledIn events,
      ¬ order.ticket < s.broker.nextTicket) :
    (s.afterCall b' events cancelRequests closeRequests).Sound := by
  apply sound.afterCall kept fates answered
  intro bracket listed one member two _ now
  rcases now with ⟨order, filled, rfl⟩
  exact absurd ((sound.brackets bracket listed).issued _ member)
    (fresh order filled)

theorem Sound.drive (sound : s.Sound) {op : BrokerOp}
    (alone : s.FiresAlone (.drive op)) (taken : Step cfg s (.drive op) s') :
    s'.Sound := by
  unfold Step stepOf? at taken
  simp only [step?] at taken
  split at taken
  · cases taken
  · rename_i notPlacing
    rw [Bool.not_eq_true] at notPlacing
    cases taken
    have moved := SimBroker.perform_moves cfg s.broker op
    have fates := SimBroker.perform_fates cfg sound.kept op
    have fired := SimBroker.perform_fired cfg sound.kept op notPlacing
    have fires : ∀ leg, (∃ order ∈
        filledIn (SimBroker.perform cfg s.broker op).2, order.ticket = leg) →
          s.Fires op leg := by
      rintro leg ⟨order, filled, rfl⟩
      rcases fired order filled with ⟨pending, waiting, hit⟩
      unfold Fires
      rw [waiting]
      exact hit
    apply sound.afterCall (sound.kept.moves moved) fates (.refl s _)
    intro bracket listed one memberOne two memberTwo now
    rintro (old | too)
    · exact alone bracket listed one memberOne two memberTwo (fires one now)
        (.inr old)
    · exact alone bracket listed one memberOne two memberTwo (fires one now)
        (.inl (fires two too))

theorem Sound.place (sound : s.Sound) {req : OrderRequest}
    (taken : Step cfg s (.place req) s') : s'.Sound := by
  unfold Step stepOf? at taken
  simp only [step?, Option.some.injEq] at taken
  rw [← taken]
  have fates := SimBroker.placeOrder_fates cfg sound.kept req s.broker.accountId
  apply sound.quietCall
    (sound.kept.moves (SimBroker.placeOrder_moves cfg s.broker req)) fates
    (.refl s _)
  intro order filled old
  rw [SimBroker.placeOrder_fresh cfg s.broker req s.broker.accountId order
    filled] at old
  exact absurd old (lt_irrefl _)

theorem Sound.addBracket (sound : s.Sound) {groupId : GroupId}
    {tickets : List Ticket}
    (taken : Step cfg s (.addBracket groupId tickets) s') : s'.Sound := by
  unfold Step stepOf? at taken
  simp only [step?, Option.some.injEq] at taken
  have joined := sound.tidy.addBracket groupId tickets
  rw [← taken]
  refine ⟨sound.kept, joined.tidy, sound.expects, sound.filled, sound.fills,
    sound.closes, sound.cancels, ?_⟩
  intro bracket member
  dsimp only at member
  split at member
  · rename_i fine
    rcases List.mem_append.mp member with old | new
    · exact (sound.brackets bracket old).join joined.stays
    · rw [List.mem_singleton.mp new]
      exact sound.newBracket fine.2 (joined.joins fine.1)
  · exact (sound.brackets bracket member).join joined.stays

/-- The manager hears of a fill. -/
theorem Sound.handleFilled (sound : s.Sound)
    (taken : Step cfg s .handleFilled s') : s'.Sound := by
  unfold Step stepOf? at taken
  simp only [step?] at taken
  split at taken
  · cases taken
  · rename_i order rest popped
    rcases Mailbox.mem_backlog_after_pop? popped with ⟨waited, left⟩
    have gone := sound.fills order waited
    have fills : ∀ other ∈ rest.backlog, s.broker.Gone other.ticket :=
      fun other member => sound.fills other (left other member)
    have skipped (known : order.strategyId = s.ctx.strategyId →
          order.trackRaises = false →
            s.manager.ticketToGroup.get? order.ticket = none) :
        ({ s with fills := rest } : BracketDesk σ).Sound := by
      refine ⟨sound.kept, sound.tidy, sound.expects, sound.filled, fills,
        sound.closes, sound.cancels, fun bracket member => ?_⟩
      apply (sound.brackets bracket member).skip
      intro other waiting own raises inside
      rcases Mailbox.mem_backlog_of_pop? popped waiting with same | still
      · rw [same] at own raises inside
        exact absurd (known own raises) inside
      · exact still
    cases taken
    unfold onOrderFilled
    split
    · rename_i foreign
      apply skipped
      intro own raises
      rcases foreign with other | raised
      · exact absurd own other
      · rw [raises] at raised
        cases raised
    · cases found : s.manager.ticketToGroup.get? order.ticket with
      | none =>
          dsimp only
          rw [OCOGroupManager.onOrderFilled_stranger found]
          exact skipped fun _ _ => found
      | some groupId =>
          have dissolved : OCOGroupManager.Dissolved s.manager s.ctx order.ticket
              groupId (s.manager.onOrderFilled s.ctx order) :=
            sound.tidy.onOrderFilled found
          have watched : ∀ bracket ∈ s.brackets,
              ({ s with fills := rest }.manage
                (s.manager.onOrderFilled s.ctx order)).Watched bracket := by
            intro bracket member
            apply (sound.brackets bracket member).manage found dissolved gone
            intro other waiting apart
            rcases Mailbox.mem_backlog_of_pop? popped waiting with same | still
            · exact absurd (congrArg Order.ticket same) apart
            · exact still
          dsimp only
          unfold manage at watched ⊢
          rw [dispatch_eq] at watched ⊢
          exact ⟨sound.kept, dissolved.tidy, sound.expects, sound.filled, fills,
            sound.closes, sound.cancels, watched⟩

/-- The manager hears of a close. -/
theorem Sound.handleClosed (sound : s.Sound)
    (taken : Step cfg s .handleClosed s') : s'.Sound := by
  unfold Step stepOf? at taken
  simp only [step?] at taken
  split at taken
  · cases taken
  · rename_i position rest popped
    rcases Mailbox.mem_backlog_after_pop? popped with ⟨waited, left⟩
    have gone := sound.closes position waited
    have closes : ∀ other ∈ rest.backlog, s.broker.Gone other.ticket :=
      fun other member => sound.closes other (left other member)
    have skipped : ({ s with closes := rest } : BracketDesk σ).Sound :=
      ⟨sound.kept, sound.tidy, sound.expects, sound.filled, sound.fills, closes,
        sound.cancels, fun bracket member =>
          (sound.brackets bracket member).skip fun _ waiting _ _ _ => waiting⟩
    cases taken
    unfold onPositionClosed
    split
    · exact skipped
    · cases found : s.manager.ticketToGroup.get? position.ticket with
      | none =>
          dsimp only
          rw [OCOGroupManager.onPositionClosed_stranger found]
          exact skipped
      | some groupId =>
          have dissolved : OCOGroupManager.Dissolved s.manager s.ctx
              position.ticket groupId
                (s.manager.onPositionClosed s.ctx position) :=
            sound.tidy.onPositionClosed found
          have watched : ∀ bracket ∈ s.brackets,
              ({ s with closes := rest }.manage
                (s.manager.onPositionClosed s.ctx position)).Watched bracket :=
            fun bracket member => (sound.brackets bracket member).manage found
              dissolved gone fun _ waiting _ => waiting
          dsimp only
          unfold manage at watched ⊢
          rw [dispatch_eq] at watched ⊢
          exact ⟨sound.kept, dissolved.tidy, sound.expects, sound.filled,
            sound.fills, closes, sound.cancels, watched⟩

/-- The manager hears of a cancellation. -/
theorem Sound.handleCancelled (sound : s.Sound)
    (taken : Step cfg s .handleCancelled s') : s'.Sound := by
  unfold Step stepOf? at taken
  simp only [step?] at taken
  split at taken
  · cases taken
  · rename_i order rest popped
    rcases Mailbox.mem_backlog_after_pop? popped with ⟨waited, left⟩
    rcases sound.cancels order waited with ⟨gone, unfilled⟩
    have cancels : ∀ other ∈ rest.backlog,
        s.broker.Gone other.ticket ∧ other.ticket ∉ s.filled :=
      fun other member => sound.cancels other (left other member)
    cases taken
    unfold onOrderCancelled
    split
    · exact ⟨sound.kept, sound.tidy, sound.expects, sound.filled, sound.fills,
        sound.closes, cancels, fun bracket member =>
          let watched := sound.brackets bracket member
          ⟨watched.issued, watched.own, watched.single, watched.opened,
            watched.watch.imp id fun armed => ⟨armed.resting, armed.filled⟩⟩⟩
    · exact ⟨sound.kept, (sound.tidy.remove order.ticket).1, sound.expects,
        sound.filled, sound.fills, sound.closes, cancels,
        fun bracket member => (sound.brackets bracket member).remove sound.tidy
          gone unfilled⟩

/-- The router handles a cancellation request of the manager. -/
theorem Sound.routeCancel (sound : s.Sound)
    (taken : Step cfg s .routeCancel s') : s'.Sound := by
  unfold Step stepOf? at taken
  simp only [step?] at taken
  split at taken
  · cases taken
  · rename_i request rest popped
    cases taken
    rcases SimBroker.handleCancel_done cfg s.router sound.kept request with
      ⟨done, cancels⟩
    rcases done.fates sound.kept with ⟨kept, fates⟩
    apply sound.quietCall kept fates
    · intro other waiting own
      rcases Mailbox.mem_backlog_of_pop? popped waiting with same | still
      · right
        rw [same] at own ⊢
        intro order held magic
        apply cancels order held
        rw [own, sound.expects, magic]
      · exact .inl still
    · rw [done.fired sound.kept rfl fun _ => rfl]
      exact List.forall_mem_nil _

/-- The router handles a close request of the manager. -/
theorem Sound.routeClose (sound : s.Sound)
    (taken : Step cfg s .routeClose s') : s'.Sound := by
  unfold Step stepOf? at taken
  simp only [step?] at taken
  split at taken
  · cases taken
  · rename_i request rest popped
    cases taken
    have done := SimBroker.handleClose_done cfg s.router sound.kept request
    rcases done.fates sound.kept with ⟨kept, fates⟩
    apply sound.quietCall kept fates (.refl s _)
    rw [done.fired sound.kept rfl fun _ => rfl]
    exact List.forall_mem_nil _

/-- Every step keeps the invariant. -/
theorem Sound.step (sound : s.Sound) {label : BracketLabel}
    (alone : s.FiresAlone label) (taken : Step cfg s label s') : s'.Sound := by
  cases label with
  | drive op => exact sound.drive alone taken
  | place req => exact sound.place taken
  | addBracket groupId tickets => exact sound.addBracket taken
  | handleFilled => exact sound.handleFilled taken
  | handleCancelled => exact sound.handleCancelled taken
  | handleClosed => exact sound.handleClosed taken
  | routeCancel => exact sound.routeCancel taken
  | routeClose => exact sound.routeClose taken

theorem Sound.boot (ctx : StrategyContext) (magic : Int) (initialBalance : ℚ)
    (slippage : σ) (now : Time) :
    (BracketDesk.boot ctx magic initialBalance slippage now).Sound where
  kept := SimBroker.booksKept_create initialBalance slippage now
  tidy := OCOGroupManager.tidy_create
  expects := by
    unfold RouterState.expectedMagic BracketDesk.boot
    dsimp only
    rw [Dict.getD_set, if_pos rfl]
  filled := List.forall_mem_nil _
  fills := List.forall_mem_nil _
  closes := List.forall_mem_nil _
  cancels := List.forall_mem_nil _
  brackets := List.forall_mem_nil _

end Steps

/-! ### Runs -/

/-- In every run in which no pass fires a leg beside another that fires in it or
has filled already, every bracket is exclusive whenever all events and requests
have been handled. -/
theorem brackets_exclusive {cfg : SimConfig σ} {ctx : StrategyContext}
    {magic : Int} {initialBalance : ℚ} {slippage : σ} {now : Time}
    {labels : List BracketLabel} {s : BracketDesk σ} {bracket : Bracket}
    (run : Run (Guarded FiresAlone (Step cfg))
      (boot ctx magic initialBalance slippage now) labels s)
    (drained : s.Drained) (registered : bracket ∈ s.brackets) :
    s.Exclusive bracket := by
  have sound : s.Sound :=
    run.invariant (Sound.boot ctx magic initialBalance slippage now)
      fun taken sound => sound.step taken.1 taken.2
  exact (sound.brackets bracket registered).exclusive drained

/-! ### A breakout in both directions -/

def breakoutCtx : StrategyContext where
  strategyId := "breakout"
  symbol := "EURUSD"
  now := 0
  lastPrice := some 1

/-- A stop order of one lot. -/
def stopAt (side : Side) (price : ℚ) (clientOrderId : ClientOrderId) :
    OrderRequest where
  strategyId := "breakout"
  symbol := "EURUSD"
  side := side
  type := .stop
  volume := 1
  price := some price
  sl := none
  tp := none
  comment := ""
  magic := 7
  clientOrderId := clientOrderId
  volume_pos := one_quote_pos

def quietBracket : BracketDesk Unit := boot breakoutCtx 7 1000 () 0

/-- A buy stop above the market and a sell stop below it. -/
def breakoutRests : List BracketLabel :=
  [.drive (.setMarketTick "EURUSD" 1 1), .place (stopAt .buy (11 / 10) "a"),
    .place (stopAt .sell (9 / 10) "b"), .addBracket "breakout" [1, 2]]

/-- A bar reaches the buy stop. -/
def breaksUp : List BracketLabel :=
  breakoutRests ++ [.drive (.checkPendingBar "EURUSD" (12 / 10) 1),
    .handleFilled, .routeCancel, .handleCancelled]

/-- A bar reaches both stops. -/
def breaksBoth : List BracketLabel :=
  breakoutRests ++ [.drive (.checkPendingBar "EURUSD" (12 / 10) (8 / 10)),
    .handleFilled, .handleFilled, .routeCancel]

/-- How much waits, which tickets are open, which rest, and what is registered. -/
def situation (s : BracketDesk σ) :
    List Nat × List Ticket × List Ticket × List Bracket :=
  ([s.fills.backlog.length, s.cancels.backlog.length, s.closes.backlog.length,
      s.cancelRequests.backlog.length, s.closeRequests.backlog.length],
    s.broker.positions.keys, s.broker.pending.keys, s.brackets)

theorem situation_drained {s : BracketDesk σ} {opened resting : List Ticket}
    {brackets : List Bracket}
    (seen : situation s = ([0, 0, 0, 0, 0], opened, resting, brackets)) :
    s.Drained ∧ s.broker.positions.keys = opened ∧
      s.broker.pending.keys = resting ∧ s.brackets = brackets := by
  simp only [situation, Prod.mk.injEq, List.cons.injEq, List.length_eq_zero_iff,
    and_true] at seen
  rcases seen with ⟨⟨fills, cancels, closes, asked, closing⟩, rest⟩
  exact ⟨⟨fills, cancels, closes, asked, closing⟩, rest⟩

theorem lone_leg_exclusive :
    ∃ s : BracketDesk Unit, s.broker.positions.keys = [1] ∧
      s.broker.pending.keys = [] ∧ s.Exclusive ⟨"breakout", [1, 2]⟩ := by
  have reached :
      (replay? FiresAlone (step? .plain) quietBracket breaksUp).map situation =
        some ([0, 0, 0, 0, 0], [1], [], [⟨"breakout", [1, 2]⟩]) := by
    decide +kernel
  rcases Option.map_eq_some_iff.mp reached with ⟨s, replayed, seen⟩
  rcases situation_drained seen with ⟨drained, opened, resting, brackets⟩
  refine ⟨s, opened, resting, ?_⟩
  apply brackets_exclusive (run_of_replay? replayed) drained
  rw [brackets]
  exact List.mem_singleton_self _

/-- Without the proviso a wide bar fills both legs: the cancellation of the second
one finds no order, and the group is over when its fill arrives. -/
theorem wide_bar_fills_both :
    ¬ ∀ (cfg : SimConfig Unit) (ctx : StrategyContext) (magic : Int)
        (initialBalance : ℚ) (now : Time) (labels : List BracketLabel)
        (s : BracketDesk Unit) (bracket : Bracket),
        Run (Step cfg) (boot ctx magic initialBalance () now) labels s →
        s.Drained → bracket ∈ s.brackets → s.Exclusive bracket := by
  intro claim
  have reached :
      (replay? (fun _ _ => True) (step? .plain) quietBracket breaksBoth).map
        situation =
          some ([0, 0, 0, 0, 0], [1, 2], [], [⟨"breakout", [1, 2]⟩]) := by
    decide +kernel
  rcases Option.map_eq_some_iff.mp reached with ⟨s, replayed, seen⟩
  rcases situation_drained seen with ⟨drained, opened, resting, brackets⟩
  have kept := claim .plain breakoutCtx 7 1000 0 breaksBoth s
    ⟨"breakout", [1, 2]⟩ (run_of_replay? replayed).unguard drained (by
      rw [brackets]
      exact List.mem_singleton_self _)
  have held : ∀ ticket ∈ [(1 : Ticket), 2],
      s.broker.positions.get? ticket ≠ none := by
    intro ticket member
    rw [← opened] at member
    exact Option.isSome_iff_ne_none.mp ((Dict.get?_isSome_iff _).mpr member)
  have same := kept.opened 1 (by decide) 2 (by decide)
    (held 1 (by decide)) (held 2 (by decide))
  exact absurd same (by decide)

end BracketDesk

end StingerFx
