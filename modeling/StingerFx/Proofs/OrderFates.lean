/-
Module: StingerFx.Proofs.OrderFates
Layer: Proofs
Purpose: What becomes of resting orders. Whatever the broker is asked to do, an
  order that rested before still rests under the same strategy, or is gone for
  good; it fills only when it fires, and every fill, cancellation and close is of a
  ticket that does not rest afterwards.
Trusted boundary: none (fully proved)
Main exports: filledIn, cancelledIn, closedIn, Fates,
  perform_fates, BrokerOp.fires, perform_fired, handleCancel_done,
  handleClose_done, placeOrder_fates
-/
import StingerFx.Proofs.OwnershipIsolation
import StingerFx.Strategies.Runner

namespace StingerFx

open Lib

variable {σ : Type}

def filledIn (events : List Event) : List Order :=
  events.filterMap fun
    | .orderFilled order _ => some order
    | _ => none

def cancelledIn (events : List Event) : List Order :=
  events.filterMap fun
    | .orderCancelled order => some order
    | _ => none

def closedIn (events : List Event) : List Position :=
  events.filterMap fun
    | .positionClosed position _ _ _ => some position
    | _ => none

theorem filledIn_append (first second : List Event) :
    filledIn (first ++ second) = filledIn first ++ filledIn second :=
  List.filterMap_append

theorem cancelledIn_append (first second : List Event) :
    cancelledIn (first ++ second) = cancelledIn first ++ cancelledIn second :=
  List.filterMap_append

theorem closedIn_append (first second : List Event) :
    closedIn (first ++ second) = closedIn first ++ closedIn second :=
  List.filterMap_append

theorem none_listed {α : Type} {P : α → Prop} {listed : List α}
    (none : listed = []) : ∀ entry ∈ listed, P entry := by
  rw [none]
  exact List.forall_mem_nil P

namespace SimBroker

/-- Issued, and resting no more. -/
def Gone (b : SimBroker σ) (ticket : Ticket) : Prop :=
  b.pending.get? ticket = none ∧ ticket < b.nextTicket

/-- What a broker call does to the orders that rest, as far as its events tell. -/
structure Fates (b : SimBroker σ) (events : List Event) (b' : SimBroker σ) :
    Prop where
  issued : b.nextTicket ≤ b'.nextTicket
  pending : ∀ ticket order', ticket < b.nextTicket →
    b'.pending.get? ticket = some order' →
      ∃ order, b.pending.get? ticket = some order ∧
        order'.strategyId = order.strategyId ∧ order'.magic = order.magic
  positions : ∀ ticket, ticket < b.nextTicket →
    b'.positions.get? ticket ≠ none → b.positions.get? ticket ≠ none ∨
      ∃ order ∈ filledIn events, order.ticket = ticket
  filled : ∀ order ∈ filledIn events, b'.Gone order.ticket ∧
    (order.ticket < b.nextTicket →
      ∃ before, b.pending.get? order.ticket = some before ∧
        order.strategyId = before.strategyId ∧ order.trackRaises = false)
  cancelled : ∀ order ∈ cancelledIn events, b'.Gone order.ticket ∧
    (order.ticket < b.nextTicket → b.pending.get? order.ticket ≠ none) ∧
      ∀ other ∈ filledIn events, other.ticket ≠ order.ticket
  closed : ∀ pos ∈ closedIn events, b'.Gone pos.ticket

namespace Fates

variable {cfg : SimConfig σ} {b middle b' : SimBroker σ}
variable {first second events : List Event}

/-- What does not rest never rests again. -/
theorem gone (fates : Fates b events b') {ticket : Ticket}
    (before : b.Gone ticket) : b'.Gone ticket := by
  refine ⟨?_, lt_of_lt_of_le before.2 fates.issued⟩
  cases waiting : b'.pending.get? ticket with
  | none => rfl
  | some order' =>
      rcases fates.pending ticket order' before.2 waiting with ⟨order, held, -⟩
      rw [before.1] at held
      cases held

/-- The same orders rest, and nothing is told. -/
theorem same (issued : b.nextTicket ≤ b'.nextTicket)
    (pending : ∀ ticket, ticket < b.nextTicket →
      b'.pending.get? ticket = b.pending.get? ticket)
    (positions : ∀ ticket, ticket < b.nextTicket →
      b'.positions.get? ticket ≠ none → b.positions.get? ticket ≠ none)
    (noFill : filledIn events = []) (noCancel : cancelledIn events = [])
    (noClose : closedIn events = []) : Fates b events b' where
  issued := issued
  pending := by
    intro ticket order' below waiting
    rw [pending ticket below] at waiting
    exact ⟨order', waiting, rfl, rfl⟩
  positions := fun ticket below stored => .inl (positions ticket below stored)
  filled := none_listed noFill
  cancelled := none_listed noCancel
  closed := none_listed noClose

theorem refl (b : SimBroker σ) : Fates b [] b :=
  same le_rfl (fun _ _ => rfl) (fun _ _ stored => stored) rfl rfl rfl

theorem trans (one : Fates b first middle) (two : Fates middle second b') :
    Fates b (first ++ second) b' where
  issued := one.issued.trans two.issued
  pending := by
    intro ticket order' below waiting
    rcases two.pending ticket order' (lt_of_lt_of_le below one.issued) waiting
      with ⟨between, held, strategyId, magic⟩
    rcases one.pending ticket between below held with
      ⟨order, before, strategyId', magic'⟩
    exact ⟨order, before, strategyId.trans strategyId', magic.trans magic'⟩
  positions := by
    intro ticket below stored
    rw [filledIn_append]
    rcases two.positions ticket (lt_of_lt_of_le below one.issued) stored with
      held | ⟨order, member, named⟩
    · rcases one.positions ticket below held with before | ⟨order, member, named⟩
      · exact .inl before
      · exact .inr ⟨order, List.mem_append_left _ member, named⟩
    · exact .inr ⟨order, List.mem_append_right _ member, named⟩
  filled := by
    intro order member
    rw [filledIn_append] at member
    rcases List.mem_append.mp member with early | late
    · rcases one.filled order early with ⟨left, known⟩
      exact ⟨two.gone left, known⟩
    · rcases two.filled order late with ⟨left, known⟩
      refine ⟨left, fun below => ?_⟩
      rcases known (lt_of_lt_of_le below one.issued) with
        ⟨between, held, strategyId, raises⟩
      rcases one.pending _ between below held with ⟨before, waiting, same, -⟩
      exact ⟨before, waiting, strategyId.trans same, raises⟩
  cancelled := by
    intro order member
    rw [cancelledIn_append] at member
    rw [filledIn_append]
    rcases List.mem_append.mp member with early | late
    · rcases one.cancelled order early with ⟨left, waiting, apart⟩
      refine ⟨two.gone left, waiting, ?_⟩
      intro other filled same
      rcases List.mem_append.mp filled with before | after
      · exact apart other before same
      · rcases (two.filled other after).2 (same ▸ left.2) with
          ⟨between, held, -⟩
        rw [same, left.1] at held
        cases held
    · rcases two.cancelled order late with ⟨left, waiting, apart⟩
      refine ⟨left, ?_, ?_⟩
      · intro below settled
        obtain ⟨between, held⟩ := Option.ne_none_iff_exists'.mp
          (waiting (lt_of_lt_of_le below one.issued))
        rcases one.pending _ between below held with ⟨before, rested, -⟩
        rw [settled] at rested
        cases rested
      · intro other filled same
        rcases List.mem_append.mp filled with before | after
        · have settled := (one.filled other before).1
          rw [same] at settled
          exact waiting settled.2 settled.1
        · exact apart other after same
  closed := by
    intro pos member
    rw [closedIn_append] at member
    rcases List.mem_append.mp member with early | late
    · exact two.gone (one.closed pos early)
    · exact two.closed pos late

end Fates

variable {cfg : SimConfig σ} {placing : Bool} {b b' : SimBroker σ}
variable {events : List Event}

/-- The fill of a promoted order can be tracked. -/
theorem filledOrder_tracks {ticket : Ticket} {pending : Order} {fillPrice : ℚ}
    {pos : Position}
    (built :
      buildPosition ticket pending.symbol pending.side pending.volume fillPrice
        b.simTime pending.sl pending.tp pending.comment pending.magic
        pending.volume_pos = some pos) :
    (b.filledOrder pending fillPrice).trackRaises = false := by
  rcases buildPosition_ticket built with ⟨-, -, -, -, price, -⟩
  have positive : 0 < fillPrice := price ▸ pos.openPrice_pos
  have nonzero : pending.volume ≠ 0 := pending.volume_pos.ne'
  simp [Order.trackRaises, filledOrder, Order.opened?, Order.openedVolume,
    positive, nonzero, pending.volume_pos]

theorem amendOrder_magic {changes : OrderChanges} {pending updated : Order}
    (amended : changes.amendOrder pending = some updated) :
    updated.magic = pending.magic := by
  unfold OrderChanges.amendOrder at amended
  split at amended
  · cases amended
    rfl
  · split at amended
    · cases amended
      rfl
    · cases amended

/-- Storing a position under a ticket that has one. -/
theorem restored_position {ticket other : Ticket} {pos pos' : Position}
    (stored : b.positions.get? ticket = some pos)
    (held : (b.positions.set ticket pos').get? other ≠ none) :
    b.positions.get? other ≠ none := by
  rw [Dict.get?_set] at held
  split at held
  · rename_i same
    rw [same, stored]
    exact Option.some_ne_none pos
  · exact held

/-- An order that leaves the books. -/
theorem gone_erase (kept : BooksKept b) {ticket : Ticket} {order : Order}
    (waiting : b.pending.get? ticket = some order)
    (pending : b'.pending = b.pending.erase ticket)
    (issued : b'.nextTicket = b.nextTicket) : b'.Gone order.ticket := by
  rcases kept.pending_ticket waiting with ⟨named, -, below⟩
  refine ⟨?_, ?_⟩
  · rw [named, pending, Dict.get?_erase_self]
  · rw [named, issued]
    exact below

theorem fewer_pending {ticket : Ticket}
    (pending : b'.pending = b.pending.erase ticket) :
    ∀ other order', other < b.nextTicket →
      b'.pending.get? other = some order' →
        ∃ order, b.pending.get? other = some order ∧
          order'.strategyId = order.strategyId ∧ order'.magic = order.magic := by
  intro other order' _ waiting
  rw [pending, Dict.get?_erase] at waiting
  split at waiting
  · cases waiting
  · exact ⟨order', waiting, rfl, rfl⟩

/-- One move at a time. -/
theorem Move.fates (kept : BooksKept b) (moved : Move cfg placing b events b') :
    Fates b events b' := by
  cases moved with
  | quote => exact .same le_rfl (fun _ _ => rfl) (fun _ _ held => held) rfl rfl rfl
  | burnTicket issues =>
      exact .same (Int.lt_succ _).le (fun _ _ => rfl) (fun _ _ held => held) rfl
        rfl rfl
  | park req issues =>
      refine .same (Int.lt_succ _).le ?_ (fun _ _ held => held) rfl rfl rfl
      intro ticket below
      exact Dict.get?_set_of_ne _ _ below.ne
  | openMarket pos strategyId ticketed issues =>
      refine .same (Int.lt_succ _).le (fun _ _ => rfl) ?_ rfl rfl rfl
      intro ticket below stored
      dsimp only [openPosition] at stored
      rw [Dict.get?_set, ticketed, if_neg below.ne] at stored
      exact stored
  | promote ticket pending fillPrice pos waiting built =>
      have named := (kept.pending_ticket waiting).1
      have fill : filledIn [Event.orderFilled (b.filledOrder pending fillPrice)
          b.accountId] = [b.filledOrder pending fillPrice] := rfl
      refine ⟨le_rfl, fewer_pending rfl, ?_, ?_, none_listed rfl,
        none_listed rfl⟩
      · intro other _ stored
        rw [fill]
        dsimp only [openPosition] at stored
        rw [Dict.get?_set] at stored
        split at stored
        · rename_i same
          right
          refine ⟨_, List.mem_singleton_self _, ?_⟩
          rw [same, (buildPosition_ticket built).1]
          exact named
        · exact .inl stored
      · rw [fill]
        intro order member
        rw [List.mem_singleton.mp member]
        have left : Gone { b.openPosition cfg pos pending.strategyId with
            pending := b.pending.erase ticket } pending.ticket :=
          gone_erase kept waiting rfl rfl
        refine ⟨left, fun _ => ⟨pending, ?_, rfl, filledOrder_tracks built⟩⟩
        have same : (b.filledOrder pending fillPrice).ticket = ticket := named
        rw [same]
        exact waiting
  | amendPending ticket pending updated changes waiting amended =>
      refine ⟨le_rfl, ?_, fun _ _ stored => .inl stored, none_listed rfl,
        none_listed rfl, none_listed rfl⟩
      intro other order' below found
      dsimp only at found
      rw [Dict.get?_set] at found
      split at found
      · rename_i same
        cases found
        rw [same]
        exact ⟨pending, waiting,
          (BooksKept.amendOrder_ticket amended).2.2, amendOrder_magic amended⟩
      · exact ⟨order', found, rfl, rfl⟩
  | amendPosition ticket pos changes stored =>
      exact .same le_rfl (fun _ _ => rfl)
        (fun _ _ held => restored_position stored held) rfl rfl rfl
  | shrink ticket pos chunk closePrice slippage smaller stored positive =>
      exact .same le_rfl (fun _ _ => rfl)
        (fun _ _ held => restored_position stored held) rfl rfl rfl
  | grow ticket pos chunk closePrice slippage smaller stored refused =>
      exact .same le_rfl (fun _ _ => rfl)
        (fun _ _ held => restored_position stored held) rfl rfl rfl
  | close ticket pos closePrice slippage stored =>
      refine ⟨le_rfl, fun other order' _ waiting => ⟨order', waiting, rfl, rfl⟩,
        ?_, none_listed rfl, none_listed rfl, ?_⟩
      · intro other _ held
        left
        dsimp only [removePosition, book] at held
        rw [Dict.get?_erase] at held
        split at held
        · exact absurd rfl held
        · exact held
      · intro closed member
        rcases kept.position_ticket stored with ⟨named, -, below⟩
        have same : closed = pos := List.mem_singleton.mp member
        rw [same, named]
        refine ⟨?_, below⟩
        cases waiting : b.pending.get? ticket with
        | none => exact waiting
        | some order =>
            rw [kept.apart waiting] at stored
            cases stored
  | cancel ticket pending waiting =>
      refine ⟨le_rfl, fewer_pending rfl, fun _ _ stored => .inl stored,
        none_listed rfl, ?_, none_listed rfl⟩
      intro order member
      have same : order = { pending with status := .cancelled } :=
        List.mem_singleton.mp member
      have named := (kept.pending_ticket waiting).1
      have left : Gone { b with pending := b.pending.erase ticket }
          pending.ticket := gone_erase kept waiting rfl rfl
      rw [same]
      refine ⟨left, fun _ => ?_, none_listed rfl⟩
      dsimp only
      rw [named, waiting]
      exact Option.some_ne_none pending

theorem Moves.fates (kept : BooksKept b)
    (moved : Moves cfg placing b events b') : Fates b events b' := by
  have both : BooksKept b → BooksKept b' ∧ Fates b events b' :=
    moved.relates (R := fun s events s' =>
      BooksKept s → BooksKept s' ∧ Fates s events s')
      (fun s kept => ⟨kept, .refl s⟩)
      (fun one two kept =>
        have first := one kept
        have second := two first.1
        ⟨second.1, first.2.trans second.2⟩)
      (fun move kept => ⟨kept.move move, move.fates kept⟩)
  exact (both kept).2

theorem perform_fates (cfg : SimConfig σ) (kept : BooksKept b) (op : BrokerOp) :
    Fates b (perform cfg b op).2 (perform cfg b op).1 :=
  (perform_moves cfg b op).fates kept

/-! ### Only what fires is filled -/

/-- Whether an operation is a pass that an order's trigger meets. -/
def fires : BrokerOp → Order → Bool
  | .checkPending symbol bid ask => firesOnTick symbol bid ask
  | .checkPendingBar symbol barHigh barLow => firesOnBar symbol barHigh barLow
  | _ => fun _ => false

theorem promotePending_filled (cfg : SimConfig σ) (b : SimBroker σ)
    (ticket : Ticket) (pending : Order) (fillPrice : ℚ) :
    ∀ order ∈ filledIn (b.promotePending cfg ticket pending fillPrice).events,
      order.ticket = pending.ticket := by
  unfold promotePending
  split
  · exact none_listed rfl
  · intro order member
    have same : order = b.filledOrder pending fillPrice :=
      List.mem_singleton.mp member
    rw [same]
    rfl

theorem promoteAll_fired (cfg : SimConfig σ) (fires : Order → Bool)
    (fillPrice : Order → σ → ℚ × σ) (listing : List (Ticket × Order))
    (b : SimBroker σ) :
    ∀ order ∈ filledIn (promoteAll cfg fires fillPrice listing b).events,
      ∃ entry ∈ listing, entry.2.ticket = order.ticket ∧
        fires entry.2 = true := by
  induction listing generalizing b with
  | nil => exact none_listed rfl
  | cons entry rest ih =>
      obtain ⟨ticket, pending⟩ := entry
      have later : ∀ {b : SimBroker σ}, ∀ order ∈
          filledIn (promoteAll cfg fires fillPrice rest b).events,
          ∃ entry ∈ (ticket, pending) :: rest,
            entry.2.ticket = order.ticket ∧ fires entry.2 = true := by
        intro b order member
        rcases ih b order member with ⟨entry, listed, fired⟩
        exact ⟨entry, List.mem_cons_of_mem _ listed, fired⟩
      unfold promoteAll
      split
      · rename_i fired
        have here : ∀ (b : SimBroker σ) (fillPrice : ℚ), ∀ order ∈
            filledIn (b.promotePending cfg ticket pending fillPrice).events,
            ∃ entry ∈ (ticket, pending) :: rest,
              entry.2.ticket = order.ticket ∧ fires entry.2 = true := by
          intro b fillPrice order member
          exact ⟨(ticket, pending), List.mem_cons_self,
            (promotePending_filled cfg b ticket pending fillPrice order
              member).symm, fired⟩
        dsimp only
        split
        · exact here _ _
        · intro order member
          rw [filledIn_append] at member
          rcases List.mem_append.mp member with now | after
          · exact here _ _ order now
          · exact later order after
      · exact later

/-- An operation that is no placement fills only resting orders that fire. -/
theorem perform_fired (cfg : SimConfig σ) (kept : BooksKept b) (op : BrokerOp)
    (notPlacing : op.places = false) :
    ∀ order ∈ filledIn (perform cfg b op).2,
      ∃ pending, b.pending.get? order.ticket = some pending ∧
        fires op pending = true := by
  have pass : ∀ (fires : Order → Bool) (fillPrice : Order → σ → ℚ × σ),
      ∀ order ∈ filledIn
        (promoteAll cfg fires fillPrice b.pending.items b).events,
        ∃ pending, b.pending.get? order.ticket = some pending ∧
          fires pending = true := by
    intro fires fillPrice order member
    rcases promoteAll_fired cfg fires fillPrice _ b order member with
      ⟨entry, listed, named, fired⟩
    have waiting := b.pending_items_wait entry listed
    rw [← named, (kept.pending_ticket waiting).1]
    exact ⟨entry.2, waiting, fired⟩
  cases op with
  | setMarket symbol price => exact none_listed rfl
  | setMarketTick symbol bid ask => exact none_listed rfl
  | advanceClock t => exact none_listed rfl
  | placeOrder req => cases notPlacing
  | checkPending symbol bid ask => exact pass _ _
  | checkPendingBar symbol barHigh barLow => exact pass _ _
  | modifyOrder ticket changes =>
      have silent : (b.modifyOrder ticket changes).events = [] := by
        unfold modifyOrder
        split
        · split <;> rfl
        · split <;> rfl
      apply none_listed
      unfold perform
      dsimp only
      rw [silent]
      rfl
  | closePosition ticket volume =>
      apply none_listed
      unfold perform closePosition
      dsimp only
      split
      · rfl
      · split
        · rfl
        · split
          · rfl
          · split
            · unfold closePartly
              dsimp only
              split <;> rfl
            · rfl
  | cancelOrder ticket =>
      apply none_listed
      unfold perform cancelOrder
      dsimp only
      split <;> rfl

/-! ### Requests and placements -/

/-- A handler that has done nothing, or one broker operation. -/
def NothingOr (cfg : SimConfig σ) (b : SimBroker σ) (op : BrokerOp)
    (call : BrokerCall (SimBroker σ) BrokerError RequestOutcome) : Prop :=
  (call.broker = b ∧ call.events = []) ∨
    (call.broker = (perform cfg b op).1 ∧ call.events = (perform cfg b op).2)

theorem NothingOr.fates {op : BrokerOp}
    {call : BrokerCall (SimBroker σ) BrokerError RequestOutcome}
    (done : NothingOr cfg b op call) (kept : BooksKept b) :
    BooksKept call.broker ∧ Fates b call.events call.broker := by
  rcases done with ⟨broker, events⟩ | ⟨broker, events⟩
  · rw [broker, events]
    exact ⟨kept, .refl b⟩
  · rw [broker, events]
    exact ⟨kept.moves (perform_moves cfg b op), perform_fates cfg kept op⟩

theorem NothingOr.fired {op : BrokerOp}
    {call : BrokerCall (SimBroker σ) BrokerError RequestOutcome}
    (done : NothingOr cfg b op call) (kept : BooksKept b)
    (notPlacing : op.places = false) (quiet : ∀ order, fires op order = false) :
    filledIn call.events = [] := by
  rcases done with ⟨-, events⟩ | ⟨-, events⟩
  · rw [events]
    rfl
  · rw [events]
    apply List.eq_nil_iff_forall_not_mem.mpr
    intro order member
    rcases perform_fired cfg kept op notPlacing order member with
      ⟨pending, -, fired⟩
    rw [quiet] at fired
    cases fired

/-- A cancellation of an own resting order is carried out. -/
theorem handleCancel_done (cfg : SimConfig σ) (router : RouterState)
    (kept : BooksKept b) (evt : CancelOrderRequest) :
    NothingOr cfg b (.cancelOrder evt.ticket)
        (handleCancel (simManagePort cfg) router evt b) ∧
      ∀ order, b.pending.get? evt.ticket = some order →
        order.magic = router.expectedMagic evt.strategyId →
          (handleCancel (simManagePort cfg) router evt b).broker.pending.get?
            evt.ticket = none := by
  unfold handleCancel
  simp only [simManagePort, BrokerCall.returns_andThen]
  rw [findOrder_eq kept]
  cases waiting : b.pending.get? evt.ticket with
  | none =>
      refine ⟨.inl ⟨rfl, rfl⟩, fun order same => ?_⟩
      cases same
  | some pending =>
      dsimp only
      split
      · rename_i foreign
        refine ⟨.inl ⟨rfl, rfl⟩, fun order same own => ?_⟩
        cases same
        exact absurd own foreign
      · have cancelled : b.cancelOrder evt.ticket =
            { broker := { b with pending := b.pending.erase evt.ticket }
              events := [.orderCancelled { pending with status := .cancelled }]
              outcome := .ok ⟨true, some evt.ticket, .cancelled, none,
                some { pending with status := .cancelled }⟩ } := by
          unfold cancelOrder
          rw [waiting]
        have performed : perform cfg b (.cancelOrder evt.ticket) =
            ({ b with pending := b.pending.erase evt.ticket },
              [.orderCancelled { pending with status := .cancelled }]) := by
          unfold perform
          dsimp only
          rw [cancelled]
        rw [cancelled, NothingOr, performed]
        refine ⟨.inr ⟨rfl, rfl⟩, fun order _ _ => ?_⟩
        exact Dict.get?_erase_self _ _

/-- A close of an own position is passed on. -/
theorem handleClose_done (cfg : SimConfig σ) (router : RouterState)
    (kept : BooksKept b) (evt : ClosePositionRequest) :
    NothingOr cfg b (.closePosition evt.ticket none)
      (handleClose (simManagePort cfg) router evt b) := by
  unfold handleClose
  simp only [simManagePort, BrokerCall.returns_andThen]
  rw [findPosition_eq kept]
  cases stored : b.positions.get? evt.ticket with
  | none => exact .inl ⟨rfl, rfl⟩
  | some pos =>
      dsimp only
      split
      · exact .inl ⟨rfl, rfl⟩
      · right
        unfold BrokerCall.andThen asCall whenAccepted perform
        dsimp only
        split
        · exact ⟨rfl, rfl⟩
        · split
          · exact ⟨rfl, List.append_nil _⟩
          · exact ⟨rfl, List.append_nil _⟩

/-- A placement touches no order that was there before. -/
theorem placeOrder_fates (cfg : SimConfig σ) (kept : BooksKept b)
    (req : OrderRequest) (accountId : AccountId) :
    Fates b (placementEvents accountId req (b.placeOrder cfg req))
      (b.placeOrder cfg req).broker := by
  have fates := (placeOrder_moves cfg b req).fates kept
  have placed := placeOrder_placed cfg b req
  generalize b.placeOrder cfg req = call at placed fates
  cases placed with
  | refused message =>
      have silent : placementEvents accountId req
          (b.returns (.refused message)) =
            [] ++ [.orderRejected (rejectedOrder req (.refused message))
              (OrderResult.refused message).message] := rfl
      rw [silent]
      exact .same le_rfl (fun _ _ => rfl) (fun _ _ held => held) rfl rfl rfl
  | parked =>
      have silent : placementEvents accountId req (b.parkPending req) =
          (b.parkPending req).events := List.append_nil _
      rw [silent]
      exact fates
  | raised slippage => exact fates
  | filled slippage pos mid fillPrice ticketed symbol =>
      have told : placementEvents accountId req
          (({ b with
              slippageState := slippage
              nextTicket := b.nextTicket + 1 }.openPosition cfg pos
                req.strategyId).returns
            ⟨true, some b.nextTicket, .filled, none,
              some (b.marketOrder req mid fillPrice)⟩) =
            [.orderFilled (b.marketOrder req mid fillPrice) accountId] := rfl
      rw [told]
      refine ⟨fates.issued, fates.pending, ?_, ?_, none_listed rfl,
        none_listed rfl⟩
      · intro ticket below held
        rcases fates.positions ticket below held with old | ⟨order, member, -⟩
        · exact .inl old
        · cases member
      · intro order member
        have same : order = b.marketOrder req mid fillPrice :=
          List.mem_singleton.mp member
        rw [same]
        have left : b.pending.get? b.nextTicket = none := kept.pending_fresh
        exact ⟨⟨left, Int.lt_succ _⟩, fun below => absurd below (lt_irrefl _)⟩

/-- Only a market order fills with its placement, under a new ticket. -/
theorem placeOrder_fresh (cfg : SimConfig σ) (b : SimBroker σ)
    (req : OrderRequest) (accountId : AccountId) :
    ∀ order ∈ filledIn (placementEvents accountId req (b.placeOrder cfg req)),
      order.ticket = b.nextTicket := by
  have placed := placeOrder_placed cfg b req
  generalize b.placeOrder cfg req = call at placed
  cases placed with
  | refused message => exact none_listed rfl
  | parked => exact none_listed rfl
  | raised slippage => exact none_listed rfl
  | filled slippage pos mid fillPrice ticketed symbol =>
      intro order member
      have same : order = b.marketOrder req mid fillPrice :=
        List.mem_singleton.mp member
      rw [same]
      rfl

end SimBroker

end StingerFx
