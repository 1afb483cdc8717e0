/-
Module: StingerFx.Proofs.Mt5Events
Layer: Proofs
Purpose: The fills and closes that a live account announces. They are complete
  whenever the bot is at rest, if nothing but the bot's own calls opens or closes a
  position of the bot and every call does at the server what its answer says. Where
  the server closes a position, nothing announces the close.
Trusted boundary: none (fully proved)
Main exports: Mt5Desk.Complete, Mt5Desk.AsAnswered, Mt5Desk.events_complete,
  Mt5Desk.server_close_untold
-/
import StingerFx.Lib.Announcements
import StingerFx.Runtime.Mt5Desk

namespace StingerFx

open Lib

/-! ### Announcements -/

/-- What an event tells of positions that open and close. -/
def Event.announcements : Event → List (Announcement Ticket)
  | .orderFilled order _ => [.opened order.ticket]
  | .positionClosed position _ _ _ => [.closed position.ticket]
  | _ => []

/-- What a call in flight has still to tell. -/
def Mt5Call.owes : Mt5Call → List (Announcement Ticket)
  | .settling deal => if deal.FullClose then [.closed deal.raw.ticket] else []
  | .telling events => events.flatMap Event.announcements
  | _ => []

/-- What a call will tell because of an answer. -/
def Mt5Call.tells (answer : Option TradeResult) : Mt5Call → Option (Announcement Ticket)
  | .placing _ _ _ =>
      answer.bind fun result =>
        if (acceptedStatus result.retcode).any OrderStatus.isFilled then
          some (.opened result.order)
        else none
  | .closeSending raw price volume =>
      (answer.filter closeAccepted).bind fun result =>
        if (CloseDeal.create raw price volume result).FullClose then
          some (.closed raw.ticket)
        else none
  | _ => none

theorem announcements_closeEvent (deal : CloseDeal) (accountId : AccountId)
    (contractSize : Option ℚ) (deals : List HistoryDeal) :
    (deal.event accountId contractSize deals).announcements =
      (Mt5Call.settling deal).owes := by
  unfold CloseDeal.event
  by_cases full : deal.FullClose
  · have owes : (Mt5Call.settling deal).owes = [.closed deal.raw.ticket] := if_pos full
    rw [dif_neg (not_not.mpr full), owes]
    rfl
  · have owes : (Mt5Call.settling deal).owes = [] := if_neg full
    rw [dif_pos full, owes]
    rfl

theorem announcements_refused (accountId : AccountId) (req : OrderRequest)
    (message : RejectMessage) :
    (placedEvents accountId req (.refused message)).flatMap Event.announcements = [] := rfl

theorem announcements_accepted (accountId : AccountId) (req : OrderRequest) (price : ℚ)
    (now : Time) (result : TradeResult) {status : OrderStatus}
    (accepted : acceptedStatus result.retcode = some status) :
    (placedEvents accountId req
      { ok := true
        ticket := some result.order
        status := status
        message := some (.broker result.comment)
        order := some (acceptedOrder req price now result status) }).flatMap
          Event.announcements =
      if status.isFilled then [.opened result.order] else [] := by
  unfold acceptedStatus at accepted
  split_ifs at accepted
  · cases accepted
    rfl
  · cases accepted
    rfl
  · cases accepted
    rfl

/-- The events of a placement tell what its answer tells. -/
theorem announcements_placed {req : OrderRequest} {price : ℚ} {attempt : Nat} {now : Time}
    {lastError : String} {answer : Option TradeResult} {result : OrderResult}
    (accountId : AccountId)
    (ended : placeAnswered req price attempt now lastError answer = .over result) :
    (placedEvents accountId req result).flatMap Event.announcements =
      ((Mt5Call.placing req price attempt).tells answer).toList := by
  cases answer with
  | none =>
      cases ended
      rfl
  | some sent =>
      cases accepted : acceptedStatus sent.retcode with
      | none =>
          have silent : (Mt5Call.placing req price attempt).tells (some sent) = none := by
            simp [Mt5Call.tells, accepted]
          rw [silent]
          simp only [placeAnswered, accepted] at ended
          split at ended
          · cases ended
          · cases ended
            rfl
      | some status =>
          simp only [placeAnswered, accepted] at ended
          cases ended
          rw [announcements_accepted accountId req price now sent accepted]
          cases filled : status.isFilled with
          | true => simp [Mt5Call.tells, accepted, filled]
          | false => simp [Mt5Call.tells, accepted, filled]

/-- An attempt that is made again tells nothing. -/
theorem tells_again {req : OrderRequest} {price : ℚ} {attempt : Nat} {now : Time}
    {lastError : String} {answer : Option TradeResult}
    (again : placeAnswered req price attempt now lastError answer = .again) :
    (Mt5Call.placing req price attempt).tells answer = none := by
  cases answer with
  | none => cases again
  | some sent =>
      cases accepted : acceptedStatus sent.retcode with
      | none => simp [Mt5Call.tells, accepted]
      | some status =>
          simp only [placeAnswered, accepted] at again
          cases again

namespace Mt5Desk

variable {s s' : Mt5Desk}

/-- What has been told of the bot's positions. -/
def told (s : Mt5Desk) : List (Announcement Ticket) :=
  s.published.flatMap Event.announcements

def owed (s : Mt5Desk) : List (Announcement Ticket) := s.calls.flatMap Mt5Call.owes

/-- The tickets told filled and not told closed are those of the bot's positions,
every position that is gone was told closed once, and every resting order that
became a position was told filled once. -/
structure Complete (s : Mt5Desk) : Prop where
  open_iff : ∀ positions ∈ s.getPositions, ∀ ticket,
    (Announcement.opened ticket ∈ s.told ∧ Announcement.closed ticket ∉ s.told) ↔
      ∃ pos ∈ positions, s.router.Owns pos.magic ∧ pos.ticket = ticket
  closed_once : ∀ ticket ∈ s.opened, ticket ∉ s.held →
    s.told.count (.closed ticket) = 1
  filled_once : ∀ ticket ∈ s.rested, ticket ∈ s.opened →
    s.told.count (.opened ticket) = 1

/-! ### Where the bot acts alone -/

/-- The account after an `order_send` is the one that its answer tells of. -/
def Does (s : Mt5Desk) (account : Mt5Account) : Option (Announcement Ticket) → Prop
  | none => account.held s.router = s.held
  | some (.opened ticket) =>
      ticket ∉ s.opened ∧ account.held s.router = insert ticket s.held
  | some (.closed ticket) =>
      ticket ∈ s.held ∧ account.held s.router = s.held.erase ticket

instance (s : Mt5Desk) (account : Mt5Account) (tells : Option (Announcement Ticket)) :
    Decidable (s.Does account tells) :=
  match tells with
  | none => inferInstanceAs (Decidable (_ = _))
  | some (.opened _) => inferInstanceAs (Decidable (_ ∧ _))
  | some (.closed _) => inferInstanceAs (Decidable (_ ∧ _))

/-- On its own the server neither opens nor closes a position of the bot, every
`order_send` does what its answer says, no call ends between its `order_send` and
its event, and the terminal does not fail unnoticed. -/
def AsAnswered (s : Mt5Desk) : Mt5DeskLabel → Prop
  | .server account => s.Does account none
  | .terminal answers => s.connected = true → answers = true
  | .send index answer account _ _ =>
      ∀ call ∈ s.calls[index]?, s.Does account (call.tells answer)
  | .abort index => ∀ call ∈ s.calls[index]?, call.owes = []
  | _ => True

instance (s : Mt5Desk) (label : Mt5DeskLabel) : Decidable (s.AsAnswered label) :=
  match label with
  | .server _ => inferInstanceAs (Decidable (s.Does _ none))
  | .terminal _ => inferInstanceAs (Decidable (_ → _))
  | .send _ _ _ _ _ => inferInstanceAs (Decidable (∀ _ ∈ _, _))
  | .abort _ => inferInstanceAs (Decidable (∀ _ ∈ _, _))
  | .disconnect | .reconnect | .place _ _ | .request _ | .read _ _ | .settle _ _ _
  | .publish _ => instDecidableTrue

/-- Each opening and close is told or owed once, and a broker that counts as
connected has a terminal that answers. -/
structure Accounted (s : Mt5Desk) : Prop where
  once : ToldOnce s.opened s.held (s.told ++ s.owed)
  answers : s.connected = true → s.answers = true

/-! ### The calls in flight -/

/-- The call at an index is over, or waits at other points. -/
def after (s : Mt5Desk) (index : Nat) (waiting : List Mt5Call) : Mt5Desk :=
  { s with calls := waiting ++ s.calls.eraseIdx index }

/-- What is owed is owed by one call or by the others. -/
theorem owed_split {index : Nat} {call : Mt5Call}
    (found : s.calls[index]? = some call) :
    s.owed.Perm (call.owes ++ (s.calls.eraseIdx index).flatMap Mt5Call.owes) := by
  obtain ⟨inside, here⟩ := List.getElem?_eq_some_iff.mp found
  have whole := List.getElem_cons_eraseIdx_perm inside
  rw [here] at whole
  exact (whole.flatMap_right Mt5Call.owes).symm

/-- A call goes on and owes something more. -/
theorem owed_after {index : Nat} {call : Mt5Call}
    (found : s.calls[index]? = some call) {waiting : List Mt5Call}
    {more : List (Announcement Ticket)}
    (owes : waiting.flatMap Mt5Call.owes = call.owes ++ more) :
    (s.after index waiting).owed.Perm (s.owed ++ more) := by
  have left : (s.after index waiting).owed =
      call.owes ++ more ++ (s.calls.eraseIdx index).flatMap Mt5Call.owes := by
    rw [owed, after, List.flatMap_append, owes]
  rw [left, List.append_assoc]
  refine ((List.perm_append_comm).append_left call.owes).trans ?_
  rw [← List.append_assoc]
  exact (owed_split found).symm.append_right more

/-- A call that reads tells nothing. -/
theorem readBy_after {index : Nat} {quote : Option Quote} {call : Mt5Call}
    (taken : s.readBy index quote call = some s') :
    call.owes = [] ∧
      ∃ waiting, s' = s.after index waiting ∧ waiting.flatMap Mt5Call.owes = [] := by
  cases call with
  | closing ticket volume =>
      simp only [readBy] at taken
      split at taken
      · cases taken
        exact ⟨rfl, [_], rfl, rfl⟩
      · cases taken
        exact ⟨rfl, [], rfl, rfl⟩
  | modifying evt pos changes =>
      simp only [readBy] at taken
      split at taken
      · cases taken
        exact ⟨rfl, [], rfl, rfl⟩
      · cases taken
        exact ⟨rfl, [_], rfl, rfl⟩
  | rereading evt pos =>
      cases taken
      exact ⟨rfl, [_], rfl, rfl⟩
  | cancelling ticket =>
      cases taken
      exact ⟨rfl, [_], rfl, rfl⟩
  | placing req price attempt => cases taken
  | closeSending raw price volume => cases taken
  | settling deal => cases taken
  | modifySending evt pos => cases taken
  | cancelSending ticket snapshot => cases taken
  | telling events => cases taken

/-- A call that was answered will tell what the answer tells. -/
theorem answered_after {index : Nat} {answer : Option TradeResult} {lastError : String}
    {now : Time} {call : Mt5Call}
    (taken : s.answered index answer lastError now call = some s') :
    call.owes = [] ∧
      ∃ waiting, s' = s.after index waiting ∧
        waiting.flatMap Mt5Call.owes = (call.tells answer).toList := by
  cases call with
  | placing req price attempt =>
      simp only [answered] at taken
      split at taken
      · rename_i again
        cases taken
        refine ⟨rfl, [_], rfl, ?_⟩
        rw [tells_again again]
        rfl
      · rename_i result ended
        cases taken
        refine ⟨rfl, [_], rfl, ?_⟩
        rw [← announcements_placed s.accountId ended]
        exact List.append_nil _
  | closeSending raw price volume =>
      simp only [answered] at taken
      split at taken
      · rename_i result accepted
        cases taken
        refine ⟨rfl, [_], rfl, ?_⟩
        simp only [Mt5Call.tells, accepted, List.flatMap_cons, List.flatMap_nil,
          List.append_nil, Option.bind_some]
        by_cases full : (CloseDeal.create raw price volume result).FullClose
        · rw [if_pos full]
          exact if_pos full
        · rw [if_neg full]
          exact if_neg full
      · rename_i refused
        cases taken
        refine ⟨rfl, [], rfl, ?_⟩
        simp only [Mt5Call.tells, refused, Option.bind_none]
        rfl
  | modifySending evt pos =>
      simp only [answered] at taken
      split at taken
      · cases taken
        exact ⟨rfl, [_], rfl, rfl⟩
      · cases taken
        exact ⟨rfl, [], rfl, rfl⟩
  | cancelSending ticket snapshot =>
      simp only [answered] at taken
      split at taken
      · cases taken
        exact ⟨rfl, [_], rfl, rfl⟩
      · cases taken
        exact ⟨rfl, [], rfl, rfl⟩
  | closing ticket volume => cases taken
  | settling deal => cases taken
  | modifying evt pos changes => cases taken
  | rereading evt pos => cases taken
  | cancelling ticket => cases taken
  | telling events => cases taken

/-! ### What a step keeps -/

/-- The account changes as told, and the announcement is on its way. -/
theorem once_observe (accounted : s.Accounted) {account : Mt5Account}
    {tells : Option (Announcement Ticket)} (does : s.Does account tells) :
    ToldOnce (s.observe account).opened (s.observe account).held
      (s.told ++ s.owed ++ tells.toList) := by
  have once := accounted.once
  have known := once.held_opened
  change ToldOnce (s.opened ∪ account.held s.router) (account.held s.router) _
  cases tells with
  | none =>
      have same : account.held s.router = s.held := does
      rw [same, Finset.union_eq_left.mpr known, Option.toList_none, List.append_nil]
      exact once
  | some notice =>
      cases notice with
      | opened ticket =>
          obtain ⟨fresh, held⟩ := does
          rw [held, Finset.union_insert, Finset.union_eq_left.mpr known]
          exact once.opens fresh
      | closed ticket =>
          obtain ⟨holds, held⟩ := does
          rw [held, Finset.union_eq_left.mpr ((Finset.erase_subset _ _).trans known)]
          exact once.closes holds

/-- A call goes on, and no account changes. -/
theorem Accounted.after (accounted : s.Accounted) {index : Nat} {call : Mt5Call}
    (found : s.calls[index]? = some call) (waiting : List Mt5Call)
    (owes : waiting.flatMap Mt5Call.owes = call.owes) :
    (s.after index waiting).Accounted where
  once := by
    have perm := owed_after found (by rw [owes, List.append_nil])
    rw [List.append_nil] at perm
    exact accounted.once.perm (perm.append_left s.told)
  answers := accounted.answers

theorem Accounted.start (accounted : s.Accounted) {call : Mt5Call}
    (owes : call.owes = []) : (s.start call).Accounted where
  once := by
    have same : (s.start call).owed = s.owed := by
      rw [owed, Mt5Desk.start, List.flatMap_cons, owes]
      rfl
    rw [same]
    exact accounted.once
  answers := accounted.answers

theorem Accounted.place (accounted : s.Accounted) (req : OrderRequest)
    (quote : Option Quote) : (s.place req quote).Accounted := by
  unfold Mt5Desk.place
  split
  · split
    · exact accounted.start rfl
    · exact accounted.start rfl
    · exact accounted.start (announcements_refused s.accountId req _)
  · exact accounted

theorem Accounted.checkModify (accounted : s.Accounted) (evt : ModifyOrderRequest) :
    (s.checkModify evt).Accounted := by
  unfold Mt5Desk.checkModify
  split
  · split
    · exact accounted
    · exact accounted.start rfl
  · split
    · exact accounted
    · split
      · exact accounted
      · exact accounted.start rfl

theorem Accounted.checkPartialClose (accounted : s.Accounted)
    (evt : PartialCloseRequest) : (s.checkPartialClose evt).Accounted := by
  unfold Mt5Desk.checkPartialClose
  split
  · exact accounted
  · split
    · exact accounted
    · split
      · exact accounted
      · exact accounted.start rfl

theorem Accounted.checkClose (accounted : s.Accounted) (evt : ClosePositionRequest) :
    (s.checkClose evt).Accounted := by
  unfold Mt5Desk.checkClose
  split
  · exact accounted
  · split
    · exact accounted
    · exact accounted.start rfl

theorem Accounted.checkCancel (accounted : s.Accounted) (evt : CancelOrderRequest) :
    (s.checkCancel evt).Accounted := by
  unfold Mt5Desk.checkCancel
  split
  · exact accounted
  · split
    · exact accounted
    · exact accounted.start rfl

theorem Accounted.handle (accounted : s.Accounted) (request : RouterRequest) :
    (s.handle request).Accounted := by
  unfold Mt5Desk.handle
  split
  · cases request with
    | modify evt => exact accounted.checkModify evt
    | partialClose evt => exact accounted.checkPartialClose evt
    | close evt => exact accounted.checkClose evt
    | cancel evt => exact accounted.checkCancel evt
  · exact accounted

/-- An answered call owes its announcement from now on. -/
theorem Accounted.send (accounted : s.Accounted) {index : Nat}
    {answer : Option TradeResult} {account : Mt5Account} {lastError : String}
    {now : Time} (does : s.AsAnswered (.send index answer account lastError now))
    (taken : Step s (.send index answer account lastError now) s') : s'.Accounted := by
  unfold Step stepOf? at taken
  simp only [step?] at taken
  split at taken
  · cases taken
  · rename_i call found
    obtain ⟨owesNone, waiting, rfl, owes⟩ := answered_after taken
    refine ⟨?_, accounted.answers⟩
    have observed : (s.observe account).calls[index]? = some call := found
    have perm := owed_after observed
      (by rw [owes, owesNone, List.nil_append])
    have once := once_observe accounted (does call found)
    rw [List.append_assoc] at once
    exact once.perm (perm.append_left s.told)

/-- The events of a call go out. -/
theorem Accounted.publish (accounted : s.Accounted) {index : Nat}
    (taken : Step s (.publish index) s') : s'.Accounted := by
  unfold Step stepOf? at taken
  simp only [step?] at taken
  split at taken
  · rename_i events found
    cases taken
    refine ⟨?_, accounted.answers⟩
    change ToldOnce s.opened s.held
      ((s.published ++ events).flatMap Event.announcements ++
        (s.calls.eraseIdx index).flatMap Mt5Call.owes)
    rw [List.flatMap_append, List.append_assoc]
    exact accounted.once.perm ((owed_split found).symm.append_left s.told)
  · cases taken

theorem Accounted.read (accounted : s.Accounted) {index : Nat} {quote : Option Quote}
    (taken : Step s (.read index quote) s') : s'.Accounted := by
  unfold Step stepOf? at taken
  simp only [step?] at taken
  split at taken
  · cases taken
  · rename_i call found
    split at taken
    · obtain ⟨owesNone, waiting, rfl, owes⟩ := readBy_after taken
      exact accounted.after found waiting (owes.trans owesNone.symm)
    · cases taken

theorem Accounted.settle (accounted : s.Accounted) {index : Nat}
    {contractSize : Option ℚ} {deals : List HistoryDeal}
    (taken : Step s (.settle index contractSize deals) s') : s'.Accounted := by
  unfold Step stepOf? at taken
  simp only [step?] at taken
  split at taken
  · rename_i deal found
    cases taken
    apply accounted.after found [.telling [deal.event s.accountId contractSize deals]]
    rw [← announcements_closeEvent deal s.accountId contractSize deals]
    simp [Mt5Call.owes]
  · cases taken

theorem Accounted.abort (accounted : s.Accounted) {index : Nat}
    (silent : s.AsAnswered (.abort index)) (taken : Step s (.abort index) s') :
    s'.Accounted := by
  unfold Step stepOf? at taken
  simp only [step?] at taken
  split at taken
  · rename_i inside
    cases taken
    have found := List.getElem?_eq_getElem inside
    exact accounted.after found [] (silent _ found).symm
  · cases taken

theorem Accounted.reconnect (accounted : s.Accounted) (taken : Step s .reconnect s') :
    s'.Accounted := by
  unfold Step stepOf? at taken
  simp only [step?] at taken
  split at taken
  · rename_i answers
    cases taken
    exact ⟨accounted.once, fun _ => answers⟩
  · cases taken

theorem Accounted.server (accounted : s.Accounted) {account : Mt5Account}
    (does : s.Does account none) : (s.observe account).Accounted where
  once := by
    have once := once_observe accounted does
    rw [Option.toList_none, List.append_nil] at once
    exact once
  answers := accounted.answers

/-- A step that a condition on the caller allows. -/
theorem Accounted.ofGuard {next : Mt5Desk} (accounted : next.Accounted) {c : Prop}
    [Decidable c] (taken : (if c then some next else none) = some s') :
    s'.Accounted := by
  split at taken
  · cases taken
    exact accounted
  · cases taken

/-- Every step in which the bot acts alone keeps the accounts. -/
theorem Accounted.step (accounted : s.Accounted) {label : Mt5DeskLabel}
    (does : s.AsAnswered label) (taken : Step s label s') : s'.Accounted := by
  cases label with
  | server account =>
      cases taken
      exact accounted.server does
  | terminal answers =>
      cases taken
      exact ⟨accounted.once, does⟩
  | disconnect =>
      cases taken
      exact ⟨accounted.once, fun same => by cases same⟩
  | reconnect => exact accounted.reconnect taken
  | place req quote => exact (accounted.place req quote).ofGuard taken
  | request request => exact (accounted.handle request).ofGuard taken
  | read index quote => exact accounted.read taken
  | send index answer account lastError now => exact accounted.send does taken
  | settle index contractSize deals => exact accounted.settle taken
  | publish index => exact accounted.publish taken
  | abort index => exact accounted.abort does taken

/-- At a start without positions of the bot nothing is told and nothing owed. -/
theorem Accounted.boot {router : RouterState} (accountId : AccountId)
    {account : Mt5Account} (unheld : account.held router = ∅) :
    (Mt5Desk.boot router accountId account).Accounted where
  once := by
    change ToldOnce (account.held router) (account.held router) []
    rw [unheld]
    exact ToldOnce.empty
  answers := fun _ => rfl

theorem mem_held_iff {ticket : Ticket} :
    ticket ∈ s.held ↔
      ∃ pos ∈ s.account.positions, s.router.Owns pos.magic ∧ pos.ticket = ticket := by
  unfold held Mt5Account.held
  simp [and_assoc]

/-- At rest the accounts are those of the published events. -/
theorem Accounted.complete (accounted : s.Accounted) (rest : s.calls = []) :
    s.Complete := by
  have once := accounted.once
  have settled : s.owed = [] := by rw [owed, rest, List.flatMap_nil]
  rw [settled, List.append_nil] at once
  refine ⟨?_, ?_, ?_⟩
  · intro positions returned ticket
    unfold getPositions at returned
    split at returned
    · rename_i connected
      cases returned
      rw [Mt5Desk.positions, if_pos (accounted.answers connected), ← mem_held_iff]
      exact once.mem_held_iff.symm
    · cases returned
  · intro ticket was gone
    exact once.closed_once was gone
  · intro ticket _ was
    exact once.opened_once was

/-- In every run from an account without positions of the bot in which the bot acts
alone, the announced fills and closes are complete whenever no call is in flight. -/
theorem events_complete {router : RouterState} {accountId : AccountId}
    {account : Mt5Account} {labels : List Mt5DeskLabel} {s : Mt5Desk}
    (unheld : account.held router = ∅)
    (run : Run (Guarded AsAnswered Step) (boot router accountId account) labels s)
    (rest : s.calls = []) : s.Complete := by
  have accounted : s.Accounted :=
    run.invariant (Accounted.boot accountId unheld)
      fun taken accounted => accounted.step taken.1 taken.2
  exact accounted.complete rest

/-- At rest a server that opens or closes a position of the bot on its own leaves
the announcements incomplete: no call is there to tell of it. -/
theorem not_complete_of_server {account : Mt5Account} (complete : s.Complete)
    (connected : s.connected = true) (answers : s.answers = true)
    (changed : account.held s.router ≠ s.held) : ¬(s.observe account).Complete := by
  intro still
  apply changed
  ext ticket
  have before := complete.open_iff s.account.positions
    (by simp [getPositions, positions, connected, answers]) ticket
  have later := still.open_iff account.positions
    (by simp [getPositions, positions, observe, connected, answers]) ticket
  have same : (s.observe account).told = s.told := rfl
  rw [same] at later
  rw [mem_held_iff, ← before, later]
  exact mem_held_iff (s := s.observe account)

/-! ### One lot bought -/

def trendRouter : RouterState where
  strategyMagic := Dict.empty.set "trend" 7
  contractSizeCache := .empty

def buysOneLot : OrderRequest where
  strategyId := "trend"
  symbol := "EURUSD"
  side := .buy
  type := .market
  volume := 1
  price := none
  sl := some (1 / 2)
  tp := none
  comment := ""
  magic := 7
  clientOrderId := "a"
  volume_pos := one_quote_pos

def boughtLot : Position where
  ticket := 1
  symbol := "EURUSD"
  side := .buy
  volume := 1
  openPrice := 1
  openTime := 0
  sl := some (1 / 2)
  tp := none
  comment := ""
  magic := 7
  volume_pos := one_quote_pos
  openPrice_pos := one_quote_pos

def noPositions : Mt5Account := ⟨[], []⟩

/-- The order is filled and announced. -/
def buys : List Mt5DeskLabel :=
  [.place buysOneLot (some ⟨1, 1⟩),
    .send 0 (some ⟨retcodeDone, 1, 5, 1, 1, ""⟩) ⟨[boughtLot], []⟩ "" 0,
    .publish 0]

/-- The strategy closes its position. -/
def closesAgain : List Mt5DeskLabel :=
  buys ++ [.request (.close ⟨"trend", 1, "exit"⟩), .read 0 (some ⟨2, 2⟩),
    .send 0 (some ⟨retcodeDone, 2, 6, 1, 2, ""⟩) noPositions "" 0,
    .settle 0 (some 100000) [], .publish 0]

/-- The server closes it at its stop. -/
def stoppedOut : List Mt5DeskLabel := buys ++ [.server noPositions]

/-- How many calls are in flight, what was told, and what `get_positions` returns. -/
def view (s : Mt5Desk) : Nat × List (Announcement Ticket) × Option (List Position) :=
  (s.calls.length, s.told, s.getPositions)

theorem events_complete_closed :
    ∃ s : Mt5Desk, s.told = [.opened 1, .closed 1] ∧ s.Complete := by
  have reached : (replay? AsAnswered step? (boot trendRouter "live" noPositions)
      closesAgain).map view = some (0, [.opened 1, .closed 1], some []) := by
    decide +kernel
  rcases Option.map_eq_some_iff.mp reached with ⟨s, replayed, seen⟩
  simp only [view, Prod.mk.injEq, List.length_eq_zero_iff] at seen
  obtain ⟨rest, told, -⟩ := seen
  exact ⟨s, told, events_complete (by decide) (run_of_replay? replayed) rest⟩

/-- A stop that the server takes is never announced. -/
theorem server_close_untold :
    ¬∀ (router : RouterState) (accountId : AccountId) (account : Mt5Account)
        (labels : List Mt5DeskLabel) (s : Mt5Desk), account.held router = ∅ →
      Run Step (boot router accountId account) labels s → s.calls = [] →
        s.Complete := by
  intro claim
  have reached : (replay? (fun _ _ => True) step? (boot trendRouter "live" noPositions)
      stoppedOut).map view = some (0, [.opened 1], some []) := by
    decide +kernel
  rcases Option.map_eq_some_iff.mp reached with ⟨s, replayed, seen⟩
  simp only [view, Prod.mk.injEq, List.length_eq_zero_iff] at seen
  obtain ⟨rest, told, positions⟩ := seen
  have complete := claim trendRouter "live" noPositions stoppedOut s (by decide)
    (run_of_replay? replayed).unguard rest
  have open' := (complete.open_iff [] positions 1).mp (by
    rw [told]
    decide)
  obtain ⟨pos, member, -⟩ := open'
  cases member

end Mt5Desk

end StingerFx
