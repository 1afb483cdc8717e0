/-
Module: StingerFx.Proofs.ModifyFrame
Layer: Proofs
Purpose: A modification touches what was asked. The router fills in the current
  values for what a request leaves out and the broker keeps what it is not given,
  so the target comes out with the supplied fields replaced and nothing else in the
  broker has moved; an event tells of it exactly when a position was the target.
Trusted boundary: none (fully proved)
Main exports: ModifyOrderRequest.amendedOrder, ModifyOrderRequest.amendedPosition,
  OwnsTarget, ModifiedOnly, handleModify_modifiedOnly, modify_touches_only_target
-/
import StingerFx.Proofs.OwnershipIsolation

namespace StingerFx

open Lib SimBroker

variable {σ : Type}

/-! ### What a request asks for -/

namespace ModifyOrderRequest

variable (evt : ModifyOrderRequest)

/-- A volume, where one is supplied, is positive. -/
def VolumePositive : Prop := ∀ volume ∈ evt.volume, 0 < volume

/-- A waiting order with the supplied fields replaced. -/
def amendedOrder (positive : evt.VolumePositive) (order : Order) : Order :=
  { order with
    sl := evt.sl <|> order.sl
    tp := evt.tp <|> order.tp
    price := evt.price <|> order.price
    volume := evt.volume.getD order.volume
    volume_pos := by
      cases supplied : evt.volume with
      | none => exact order.volume_pos
      | some volume => exact positive volume supplied }

/-- An open position with the supplied stops replaced. -/
def amendedPosition (pos : Position) : Position :=
  { pos with
    sl := evt.sl <|> pos.sl
    tp := evt.tp <|> pos.tp }

end ModifyOrderRequest

/-- What the ticket of a request stands for carries the requester's magic number. -/
structure OwnsTarget (router : RouterState) (evt : ModifyOrderRequest)
    (b : SimBroker σ) : Prop where
  order : ∀ order, b.pending.get? evt.ticket = some order →
    order.magic = router.expectedMagic evt.strategyId
  position : ∀ pos, b.positions.get? evt.ticket = some pos →
    pos.magic = router.expectedMagic evt.strategyId

/-- The target has the supplied fields and is otherwise as before; so is all the
rest. The event reports the position as it is stored now. -/
structure ModifiedOnly (evt : ModifyOrderRequest)
    (positive : evt.VolumePositive) (b : SimBroker σ)
    (call : BrokerCall (SimBroker σ) BrokerError RequestOutcome) : Prop where
  order : call.broker.pending.get? evt.ticket =
    (b.pending.get? evt.ticket).map (evt.amendedOrder positive)
  position : call.broker.positions.get? evt.ticket =
    (b.positions.get? evt.ticket).map evt.amendedPosition
  elsewhere : SameElsewhere evt.ticket b call.broker
  others : call.broker =
    { b with
      positions := call.broker.positions
      pending := call.broker.pending }
  events : call.events =
    ((call.broker.positions.get? evt.ticket).map
      (Event.orderModified · evt.reason)).toList

section Modifications

variable (cfg : SimConfig σ) (router : RouterState) {b : SimBroker σ}
variable {evt : ModifyOrderRequest}

/-- A value filled in from the target is not changed by filling it in again. -/
theorem orElse_twice {α : Type} (supplied current : Option α) :
    ((supplied <|> current) <|> current) = (supplied <|> current) := by
  cases supplied with
  | none => cases current <;> rfl
  | some value => rfl

/-- The changes that the router asks for, made to a waiting order. -/
theorem amendOrder_filledIn (positive : evt.VolumePositive) (order : Order) :
    OrderChanges.amendOrder
        { sl := evt.sl <|> order.sl
          tp := evt.tp <|> order.tp
          price := evt.price <|> order.price
          volume := some (evt.volume.getD order.volume) } order =
      some (evt.amendedOrder positive order) := by
  have volume_pos : 0 < evt.volume.getD order.volume :=
    (evt.amendedOrder positive order).volume_pos
  simp only [OrderChanges.amendOrder, dif_pos volume_pos, orElse_twice]
  rfl

theorem amendPosition_filledIn (pos : Position) :
    OrderChanges.amendPosition
        { sl := evt.sl <|> pos.sl
          tp := evt.tp <|> pos.tp
          price := none
          volume := none } pos = evt.amendedPosition pos := by
  simp only [OrderChanges.amendPosition, orElse_twice]
  rfl

theorem modifyPending_modifiedOnly (kept : BooksKept b)
    (positive : evt.VolumePositive) {order : Order}
    (waiting : b.pending.get? evt.ticket = some order)
    (owned : order.magic = router.expectedMagic evt.strategyId) :
    ModifiedOnly evt positive b
      (modifyPending (simManagePort cfg) router evt order b) := by
  have updated : modifyPending (simManagePort cfg) router evt order b =
      .returns
        { b with
          pending :=
            b.pending.set evt.ticket (evt.amendedOrder positive order) }
        .done := by
    simp only [modifyPending, owned, ne_eq, not_true_eq_false, if_false,
      simManagePort, modifyOrder, waiting, amendOrder_filledIn positive]
    rfl
  rw [updated]
  exact
    { order := by
        rw [waiting]
        exact Dict.get?_set_self _ _ _
      position := by
        rw [kept.apart waiting]
        exact kept.apart waiting
      elsewhere :=
        ⟨fun _ _ => rfl, fun _ apart => Dict.get?_set_of_ne _ _ apart⟩
      others := rfl
      events := by
        have none : b.positions.get? evt.ticket = none := kept.apart waiting
        simp only [BrokerCall.returns, none, Option.map_none, Option.toList_none] }

theorem modifyOpen_modifiedOnly (kept : BooksKept b)
    (positive : evt.VolumePositive) {pos : Position}
    (stored : b.positions.get? evt.ticket = some pos)
    (owned : pos.magic = router.expectedMagic evt.strategyId) :
    ModifiedOnly evt positive b
      (modifyOpen (simManagePort cfg) router evt pos b) := by
  have nothing : b.pending.get? evt.ticket = none := no_order_beside kept stored
  let amended : SimBroker σ :=
    { b with
      positions := b.positions.set evt.ticket (evt.amendedPosition pos) }
  have now : amended.positions.get? evt.ticket =
      some (evt.amendedPosition pos) := Dict.get?_set_self _ _ _
  have keptNow : BooksKept amended := kept.resetPosition _ stored rfl
  have readAgain : findPosition amended.getPositions evt.ticket =
      some (evt.amendedPosition pos) := (findPosition_eq keptNow _).trans now
  have updated : modifyOpen (simManagePort cfg) router evt pos b =
      ⟨amended, [.orderModified (evt.amendedPosition pos) evt.reason],
        .ok .done⟩ := by
    simp only [modifyOpen, owned, ne_eq, not_true_eq_false, if_false,
      simManagePort, modifyOrder, nothing, stored, amendPosition_filledIn]
    simp only [SimBroker.returns, asCall, BrokerCall.andThen, whenAccepted,
      BrokerCall.returns, if_true, List.nil_append]
    rw [readAgain]
    rfl
  rw [updated]
  exact
    { order := by
        rw [nothing]
        rfl
      position := by
        rw [stored]
        exact now
      elsewhere :=
        ⟨fun _ apart => Dict.get?_set_of_ne _ _ apart, fun _ _ => rfl⟩
      others := rfl
      events := by simp only [now, Option.map_some, Option.toList_some] }

/-- The step lemma: a request of the target's owner. -/
theorem handleModify_modifiedOnly (kept : BooksKept b)
    (positive : evt.VolumePositive) (owns : OwnsTarget router evt b) :
    ModifiedOnly evt positive b
      (handleModify (simManagePort cfg) router evt b) := by
  unfold handleModify
  simp only [simManagePort, BrokerCall.returns_andThen]
  rw [findOrder_eq kept, findPosition_eq kept]
  cases waiting : b.pending.get? evt.ticket with
  | some order =>
      exact modifyPending_modifiedOnly cfg router kept positive waiting
        (owns.order order waiting)
  | none =>
      cases stored : b.positions.get? evt.ticket with
      | some pos =>
          exact modifyOpen_modifiedOnly cfg router kept positive stored
            (owns.position pos stored)
      | none =>
          exact
            { order := by rw [waiting]; exact waiting
              position := by rw [stored]; exact stored
              elsewhere := ⟨fun _ _ => rfl, fun _ _ => rfl⟩
              others := rfl
              events := by
                have none : b.positions.get? evt.ticket = none := stored
                simp only [BrokerCall.returns, none, Option.map_none,
                  Option.toList_none] }

end Modifications

/-- For every broker that any operations lead to from a fresh one, and every request
of the owner of what its ticket stands for. -/
theorem modify_touches_only_target (cfg : SimConfig σ) (initialBalance : ℚ)
    (slippage : σ) (start : Time) (ops : List BrokerOp) (router : RouterState)
    (evt : ModifyOrderRequest) (positive : evt.VolumePositive) :
    let b := SimBroker.run cfg (.create initialBalance slippage start) ops
    OwnsTarget router evt b →
      ModifiedOnly evt positive b
        (handleModify (simManagePort cfg) router evt b) := by
  intro b owns
  have kept : BooksKept b := (booksKept_create _ _ _).run ops
  exact handleModify_modifiedOnly cfg router kept positive owns

/-- A resting limit order of a strategy with magic number 7. -/
def restingLimit : List BrokerOp :=
  [.setMarket "EURUSD" (11 / 10),
    .placeOrder
      { strategyId := "s1", symbol := "EURUSD", side := .buy, type := .limit
        volume := 1, price := some (109 / 100), sl := none, tp := some (6 / 5)
        comment := "", magic := 7, clientOrderId := "c1"
        volume_pos := one_quote_pos }]

/-- A new price and a stop, for that order. -/
def lowerLimit : ModifyOrderRequest where
  strategyId := "s1"
  ticket := 1
  sl := some 1
  tp := none
  price := some (108 / 100)
  stopPrice := none
  volume := none
  reason := ""

theorem modify_touches_only_target_limit :
    ModifiedOnly lowerLimit (fun _ none => by cases none)
      (SimBroker.run .plain (.create 10000 () 0) restingLimit)
      (handleModify (simManagePort .plain) ⟨Dict.empty.set "s1" 7, .empty⟩
        lowerLimit
        (SimBroker.run .plain (.create 10000 () 0) restingLimit)) := by
  apply modify_touches_only_target
  constructor
  · intro order waiting
    have there : ((SimBroker.run .plain (.create 10000 () 0)
        restingLimit).pending.get? lowerLimit.ticket).all
          (fun order => decide (order.magic = 7)) = true := by decide +kernel
    rw [waiting] at there
    exact of_decide_eq_true there
  · intro pos stored
    have nothing : (SimBroker.run .plain (.create 10000 () 0)
        restingLimit).positions.get? lowerLimit.ticket = none := by
      decide +kernel
    rw [nothing] at stored
    cases stored

end StingerFx
