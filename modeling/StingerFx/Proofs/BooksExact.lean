/-
Module: StingerFx.Proofs.BooksExact
Layer: Proofs
Purpose: Exactness of the monitor's position counters and of its daily profit.
  The counters stand for the positions whose fill was handled and whose close was
  not; they are exact along every run in which each close is handled once, after
  the fill of its ticket. A close that overtakes its fill, or one delivered
  twice, leaves them wrong for good.
Trusted boundary: none (fully proved)
Main exports: ClosesInTurn, counters_nonneg, bookkeeping_exact,
  redelivered_close_booked_twice
-/
import StingerFx.Runtime.Bookkeeping
import StingerFx.Proofs.OrderFlow

namespace StingerFx

open Lib

/-! ### Counters -/

theorem RiskMonitor.getD_decrement {κ : Type} [DecidableEq κ]
    (counters : Dict κ Int) (k other : κ) (positive : 0 < counters.getD k 0) :
    (decrement counters k).getD other 0 =
      counters.getD other 0 - if other = k then 1 else 0 := by
  split
  · rename_i same
    rw [same, getD_decrement_self, if_pos positive]
  · rename_i apart
    rw [getD_decrement_of_ne counters k other apart, sub_zero]

/-- Neither raising nor lowering makes a counter negative. -/
theorem RiskMonitor.increment_nonneg {κ : Type} [DecidableEq κ]
    {counters : Dict κ Int} (nonneg : ∀ k, 0 ≤ counters.getD k 0) (k other : κ) :
    0 ≤ (increment counters k).getD other 0 := by
  have before := nonneg other
  rw [getD_increment]
  split <;> omega

theorem RiskMonitor.decrement_nonneg {κ : Type} [DecidableEq κ]
    {counters : Dict κ Int} (nonneg : ∀ k, 0 ≤ counters.getD k 0) (k other : κ) :
    0 ≤ (decrement counters k).getD other 0 := by
  cases decEq other k with
  | isTrue same =>
      rw [same, getD_decrement_self]
      have before := nonneg k
      split <;> omega
  | isFalse apart =>
      rw [getD_decrement_of_ne counters k other apart]
      exact nonneg other

/-- A fill raises the counters of its scopes. -/
theorem Scope.counter_onFilled (scope : Scope) (m : RiskMonitor) (order : Order)
    (accountId : AccountId) :
    scope.counter (m.onFilled order accountId) =
      scope.counter m + if scope.order order then 1 else 0 := by
  cases scope with
  | strategy id =>
      simp only [Scope.counter, RiskMonitor.onFilled, Scope.order,
        RiskMonitor.getD_increment, decide_eq_true_eq,
        @eq_comm _ id order.strategyId]
  | symbol name =>
      simp only [Scope.counter, RiskMonitor.onFilled, Scope.order,
        RiskMonitor.getD_increment, decide_eq_true_eq,
        @eq_comm _ name order.symbol]

/-- A counter depends on the position books only. -/
theorem Scope.counter_congr (scope : Scope) {m m' : RiskMonitor}
    (same : m'.books = m.books) : scope.counter m' = scope.counter m := by
  rcases Prod.mk.inj same with ⟨byStrategy, rest⟩
  have bySymbol := (Prod.mk.inj rest).1
  cases scope with
  | strategy id => simp only [Scope.counter, byStrategy]
  | symbol name => simp only [Scope.counter, bySymbol]

theorem RiskMonitor.ticketToStrategy_congr {m m' : RiskMonitor}
    (same : m'.books = m.books) : m'.ticketToStrategy = m.ticketToStrategy :=
  (Prod.mk.inj (Prod.mk.inj same).2).2

/-- A close whose ticket is known lowers the counters of its scopes. -/
theorem Scope.counter_release {scope : Scope} {m : RiskMonitor}
    {position : Position} {accountId : AccountId} {order : Order}
    (known : m.ticketToStrategy.get? (accountId, position.ticket) =
      some order.strategyId)
    (symbol : order.symbol = position.symbol)
    (positive : ∀ scope : Scope, scope.order order = true → 0 < scope.counter m) :
    scope.counter (m.release position accountId) =
      scope.counter m - if scope.order order then 1 else 0 := by
  cases scope with
  | strategy id =>
      have own := positive (.strategy order.strategyId) (decide_eq_true rfl)
      simp only [Scope.counter, RiskMonitor.release, known, Scope.order,
        decide_eq_true_eq] at own ⊢
      rw [RiskMonitor.getD_decrement _ _ _ own]
      simp only [@eq_comm _ id order.strategyId]
  | symbol name =>
      have own := positive (.symbol order.symbol) (decide_eq_true rfl)
      rw [symbol] at own
      simp only [Scope.counter, RiskMonitor.release, Scope.order,
        decide_eq_true_eq] at own ⊢
      rw [RiskMonitor.getD_decrement _ _ _ own, symbol]
      simp only [@eq_comm _ name position.symbol]

namespace Bookkeeping

/-! ### No counter is ever negative -/

/-- Both families of counters are non-negative. -/
def CountersNonneg (m : RiskMonitor) : Prop :=
  (∀ id, 0 ≤ m.openPositions.getD id 0) ∧
    ∀ name, 0 ≤ m.openPositionsBySymbol.getD name 0

namespace CountersNonneg

variable {m m' : RiskMonitor}

theorem congr (nonneg : CountersNonneg m) (same : m'.books = m.books) :
    CountersNonneg m' := by
  rcases Prod.mk.inj same with ⟨byStrategy, rest⟩
  have bySymbol := (Prod.mk.inj rest).1
  unfold CountersNonneg
  rw [byStrategy, bySymbol]
  exact nonneg

theorem onFilled (nonneg : CountersNonneg m) (order : Order)
    (accountId : AccountId) : CountersNonneg (m.onFilled order accountId) :=
  ⟨RiskMonitor.increment_nonneg nonneg.1 _,
    RiskMonitor.increment_nonneg nonneg.2 _⟩

theorem release (nonneg : CountersNonneg m) (position : Position)
    (accountId : AccountId) : CountersNonneg (m.release position accountId) := by
  constructor
  · intro id
    unfold RiskMonitor.release
    dsimp only
    split
    · exact RiskMonitor.decrement_nonneg nonneg.1 _ id
    · exact nonneg.1 id
  · exact RiskMonitor.decrement_nonneg nonneg.2 _

theorem counter (nonneg : CountersNonneg m) (scope : Scope) :
    0 ≤ scope.counter m := by
  cases scope with
  | strategy id => exact nonneg.1 id
  | symbol name => exact nonneg.2 name

end CountersNonneg

/-- What a step does, label by label. -/
inductive Moved (s : Bookkeeping) : BookLabel → Bookkeeping → Prop where
  | fill {order : Order} {accountId : AccountId}
      (fresh : s.opened.get? (accountId, order.ticket) = none) :
      Moved s (.fill order accountId)
        { s with
          opened := s.opened.set (accountId, order.ticket) order
          fills := s.fills.push ⟨order, accountId⟩ }
  | partialClose {position : Position} {realizedPnl : ℚ} {accountId : AccountId}
      (held : s.holds accountId position = true) :
      Moved s (.partialClose position realizedPnl accountId)
        { s with
          partialEvents := s.partialEvents ++ [⟨position, realizedPnl⟩]
          partials := s.partials.push ⟨position, realizedPnl⟩ }
  | close {position : Position} {realizedPnl : ℚ} {accountId : AccountId}
      (held : s.holds accountId position = true) :
      Moved s (.close position realizedPnl accountId)
        { s with
          closeEvents := s.closeEvents ++ [⟨position, realizedPnl, accountId⟩]
          closes := s.closes.push ⟨position, realizedPnl, accountId⟩ }
  | redeliver {close : CloseMessage} (published : close ∈ s.closeEvents) :
      Moved s (.redeliver close)
        { s with
          redelivered := close.key :: s.redelivered
          closes := s.closes.push close }
  | handleFilled {fill : FillMessage} {rest : Mailbox FillMessage}
      (popped : s.fills.pop? = some (fill, rest)) :
      Moved s .handleFilled
        { s with
          monitor := s.monitor.onFilled fill.order fill.accountId
          fills := rest
          seenFills := fill.key :: s.seenFills }
  | handlePartialClosed {now : Time} {chunk : PartialMessage}
      {rest : Mailbox PartialMessage}
      (popped : s.partials.pop? = some (chunk, rest)) :
      Moved s (.handlePartialClosed now)
        { s with
          monitor := s.monitor.onPartialClosed now chunk.position chunk.realizedPnl
          partials := rest }
  | handleClosed {now : Time} {close : CloseMessage} {rest : Mailbox CloseMessage}
      (popped : s.closes.pop? = some (close, rest)) :
      Moved s (.handleClosed now)
        { s with
          monitor :=
            s.monitor.onClosed now close.position close.realizedPnl close.accountId
          closes := rest
          seenCloses := close :: s.seenCloses }
  | handleSnapshot (snap : AccountSnapshot) :
      Moved s (.handleSnapshot snap) { s with monitor := (s.monitor.onSnapshot snap).1 }
  | checkSignal (now : Time) (signal : Signal) :
      Moved s (.checkSignal now signal)
        { s with monitor := (s.monitor.checkSignal now signal).2 }

theorem moved_of_step {s s' : Bookkeeping} {label : BookLabel}
    (taken : Step s label s') : Moved s label s' := by
  unfold Step stepOf? at taken
  cases label with
  | fill order accountId =>
      simp only [step?] at taken
      split at taken
      · cases taken
      · rename_i unused
        cases taken
        exact .fill (by simpa [Dict.contains] using unused)
  | partialClose position realizedPnl accountId =>
      simp only [step?] at taken
      split at taken
      · rename_i held
        cases taken
        exact .partialClose held
      · cases taken
  | close position realizedPnl accountId =>
      simp only [step?] at taken
      split at taken
      · rename_i held
        cases taken
        exact .close held
      · cases taken
  | redeliver close =>
      simp only [step?] at taken
      split at taken
      · rename_i published
        cases taken
        exact .redeliver published.1
      · cases taken
  | handleFilled =>
      simp only [step?] at taken
      split at taken
      · cases taken
      · rename_i fill rest popped
        cases taken
        exact .handleFilled popped
  | handlePartialClosed now =>
      simp only [step?] at taken
      split at taken
      · cases taken
      · rename_i chunk rest popped
        cases taken
        exact .handlePartialClosed popped
  | handleClosed now =>
      simp only [step?] at taken
      split at taken
      · cases taken
      · rename_i close rest popped
        cases taken
        exact .handleClosed popped
  | handleSnapshot snap =>
      cases taken
      exact .handleSnapshot snap
  | checkSignal now signal =>
      cases taken
      exact .checkSignal now signal

/-- What a step does to the monitor's books: nothing, a fill, or a release. -/
theorem books_step {s s' : Bookkeeping} {label : BookLabel}
    (taken : Step s label s') :
    s'.monitor.books = s.monitor.books ∨
      (∃ order accountId,
        s'.monitor.books = (s.monitor.onFilled order accountId).books) ∨
      ∃ position accountId,
        s'.monitor.books = (s.monitor.release position accountId).books := by
  cases moved_of_step taken with
  | fill fresh => exact .inl rfl
  | partialClose held => exact .inl rfl
  | close held => exact .inl rfl
  | redeliver published => exact .inl rfl
  | handleFilled popped => exact .inr (.inl ⟨_, _, rfl⟩)
  | handlePartialClosed popped => exact .inl (s.monitor.bookPnl_books _ _ _)
  | handleClosed popped => exact .inr (.inr ⟨_, _, RiskMonitor.bookPnl_books _ _ _ _⟩)
  | handleSnapshot snap => exact .inl (s.monitor.onSnapshot_books snap)
  | checkSignal now signal => exact .inl (s.monitor.checkSignal_books now signal)

/-- No run makes a counter negative. -/
theorem counters_nonneg {cfg : RiskConfig} {labels : List BookLabel}
    {s : Bookkeeping} (run : Run Step (boot cfg) labels s) :
    CountersNonneg s.monitor := by
  apply run.invariant
  · exact ⟨fun _ => le_rfl, fun _ => le_rfl⟩
  · intro s label s' taken nonneg
    rcases books_step taken with same | ⟨order, accountId, same⟩ |
      ⟨position, accountId, same⟩
    · exact nonneg.congr same
    · exact (nonneg.onFilled order accountId).congr same
    · exact (nonneg.release position accountId).congr same

/-! ### Fills -/

/-- A fill that waits belongs to a position not counted yet; every position has
its fill handled or waiting. -/
structure FillsTracked (opened : Dict PositionKey Order)
    (waiting : List FillMessage) (seen : List PositionKey) : Prop where
  order : ∀ fill ∈ waiting, opened.get? fill.key = some fill.order
  unseen : ∀ fill ∈ waiting, fill.key ∉ seen
  nodup : (waiting.map FillMessage.key).Nodup
  seen_opened : ∀ key ∈ seen, ∃ order, opened.get? key = some order
  covered : ∀ {key order}, opened.get? key = some order →
    key ∈ seen ∨ key ∈ waiting.map FillMessage.key
  ticket_ne : ∀ {key order}, opened.get? key = some order → key.2 ≠ 0

namespace FillsTracked

variable {opened : Dict PositionKey Order} {waiting : List FillMessage}
  {seen : List PositionKey}

/-- A new position is filled. -/
theorem filled (tracked : FillsTracked opened waiting seen) (fill : FillMessage)
    (fresh : opened.get? fill.key = none) (ticket : fill.key.2 ≠ 0) :
    FillsTracked (opened.set fill.key fill.order) (waiting ++ [fill]) seen where
  order := by
    intro other member
    rcases List.mem_append.mp member with old | new
    · have before := tracked.order other old
      have apart : other.key ≠ fill.key := by
        intro same
        rw [same, fresh] at before
        cases before
      rw [Dict.get?_set_of_ne _ _ apart]
      exact before
    · cases List.mem_singleton.mp new
      exact Dict.get?_set_self _ _ _
  unseen := by
    intro other member
    rcases List.mem_append.mp member with old | new
    · exact tracked.unseen other old
    · cases List.mem_singleton.mp new
      intro counted
      rcases tracked.seen_opened _ counted with ⟨order, stored⟩
      rw [fresh] at stored
      cases stored
  nodup := by
    rw [List.map_append, List.nodup_append]
    refine ⟨tracked.nodup, List.nodup_singleton _, ?_⟩
    intro key old other new same
    rcases List.mem_map.mp old with ⟨earlier, member, rfl⟩
    cases List.mem_singleton.mp new
    have before := tracked.order earlier member
    rw [same, fresh] at before
    cases before
  seen_opened := by
    intro key counted
    rcases tracked.seen_opened key counted with ⟨order, stored⟩
    have apart : key ≠ fill.key := by
      intro same
      rw [same, fresh] at stored
      cases stored
    exact ⟨order, (Dict.get?_set_of_ne _ _ apart).trans stored⟩
  covered := by
    intro key order stored
    rw [List.map_append, List.mem_append]
    rw [Dict.get?_set] at stored
    split at stored
    · rename_i same
      exact .inr (.inr (List.mem_singleton.mpr same))
    · rcases tracked.covered stored with counted | waits
      · exact .inl counted
      · exact .inr (.inl waits)
  ticket_ne := by
    intro key order stored
    rw [Dict.get?_set] at stored
    split at stored
    · rename_i same
      rw [same]
      exact ticket
    · exact tracked.ticket_ne stored

/-- A fill that waited is handled. -/
theorem handled {fill : FillMessage} {before after : List FillMessage}
    (tracked : FillsTracked opened (before ++ fill :: after) seen) :
    FillsTracked opened (before ++ after) (fill.key :: seen) := by
  have removed : (before ++ after).Sublist (before ++ fill :: after) :=
    (List.Sublist.refl before).append (List.sublist_cons_self fill after)
  have middle := List.perm_middle.map FillMessage.key |>.nodup_iff.mp tracked.nodup
  rw [List.map_cons, List.nodup_cons] at middle
  exact
    { order := fun other member => tracked.order other (removed.subset member)
      unseen := by
        intro other member counted
        rcases List.mem_cons.mp counted with same | old
        · exact middle.1 (same ▸ List.mem_map_of_mem member)
        · exact tracked.unseen other (removed.subset member) old
      nodup := middle.2
      seen_opened := by
        intro key counted
        rcases List.mem_cons.mp counted with rfl | old
        · exact ⟨fill.order, tracked.order fill (by simp)⟩
        · exact tracked.seen_opened key old
      covered := by
        intro key order stored
        rcases tracked.covered stored with counted | waits
        · exact .inl (List.mem_cons_of_mem _ counted)
        · rcases List.mem_map.mp waits with ⟨other, member, rfl⟩
          rcases List.mem_append.mp member with left | right
          · exact .inr (List.mem_map_of_mem (List.mem_append_left _ left))
          · rcases List.mem_cons.mp right with rfl | right
            · exact .inl List.mem_cons_self
            · exact .inr (List.mem_map_of_mem (List.mem_append_right _ right))
      ticket_ne := tracked.ticket_ne }

end FillsTracked

/-! ### Closes -/

/-- Every close event is about a filled position and is handled or waiting; no
position is closed twice. -/
structure ClosesTracked (opened : Dict PositionKey Order)
    (events waiting seen : List CloseMessage) : Prop where
  order : ∀ close ∈ events, ∃ order, opened.get? close.key = some order ∧
    order.symbol = close.position.symbol
  nodup : (events.map CloseMessage.key).Nodup
  known : ∀ close ∈ waiting, close ∈ events
  delivered : ∀ close ∈ events, close ∈ seen ∨ close ∈ waiting
  seen_known : ∀ close ∈ seen, close ∈ events
  seen_nodup : (seen.map CloseMessage.key).Nodup

namespace ClosesTracked

variable {opened : Dict PositionKey Order}
  {events waiting seen : List CloseMessage}

/-- Another position is filled. -/
theorem filled (tracked : ClosesTracked opened events waiting seen)
    {key : PositionKey} (order : Order) (fresh : opened.get? key = none) :
    ClosesTracked (opened.set key order) events waiting seen where
  order := by
    intro close member
    rcases tracked.order close member with ⟨found, stored, symbol⟩
    have apart : close.key ≠ key := by
      intro same
      rw [same, fresh] at stored
      cases stored
    exact ⟨found, (Dict.get?_set_of_ne _ _ apart).trans stored, symbol⟩
  nodup := tracked.nodup
  known := tracked.known
  delivered := tracked.delivered
  seen_known := tracked.seen_known
  seen_nodup := tracked.seen_nodup

/-- An open position is closed. -/
theorem closed (tracked : ClosesTracked opened events waiting seen)
    (close : CloseMessage) {order : Order}
    (stillOpen : close.key ∉ events.map CloseMessage.key)
    (stored : opened.get? close.key = some order)
    (symbol : order.symbol = close.position.symbol) :
    ClosesTracked opened (events ++ [close]) (waiting ++ [close]) seen where
  order := by
    intro other member
    rcases List.mem_append.mp member with old | new
    · exact tracked.order other old
    · cases List.mem_singleton.mp new
      exact ⟨order, stored, symbol⟩
  nodup := by
    rw [List.map_append, List.nodup_append]
    refine ⟨tracked.nodup, List.nodup_singleton _, ?_⟩
    intro key old other new same
    cases List.mem_singleton.mp new
    exact stillOpen (same ▸ old)
  known := by
    intro other member
    rcases List.mem_append.mp member with old | new
    · exact List.mem_append_left _ (tracked.known other old)
    · exact List.mem_append_right _ new
  delivered := by
    intro other member
    rcases List.mem_append.mp member with old | new
    · rcases tracked.delivered other old with counted | waits
      · exact .inl counted
      · exact .inr (List.mem_append_left _ waits)
    · exact .inr (List.mem_append_right _ new)
  seen_known := fun other member =>
    List.mem_append_left _ (tracked.seen_known other member)
  seen_nodup := tracked.seen_nodup

/-- A close event is published once more. -/
theorem redelivered (tracked : ClosesTracked opened events waiting seen)
    {close : CloseMessage} (published : close ∈ events) :
    ClosesTracked opened events (waiting ++ [close]) seen where
  order := tracked.order
  nodup := tracked.nodup
  known := by
    intro other member
    rcases List.mem_append.mp member with old | new
    · exact tracked.known other old
    · cases List.mem_singleton.mp new
      exact published
  delivered := by
    intro other member
    rcases tracked.delivered other member with counted | waits
    · exact .inl counted
    · exact .inr (List.mem_append_left _ waits)
  seen_known := tracked.seen_known
  seen_nodup := tracked.seen_nodup

/-- A close that waited is handled for the first time. -/
theorem handled {close : CloseMessage} {before after : List CloseMessage}
    (tracked : ClosesTracked opened events (before ++ close :: after) seen)
    (first : close.key ∉ seen.map CloseMessage.key) :
    ClosesTracked opened events (before ++ after) (close :: seen) where
  order := tracked.order
  nodup := tracked.nodup
  known := by
    intro other member
    have removed : (before ++ after).Sublist (before ++ close :: after) :=
      (List.Sublist.refl before).append (List.sublist_cons_self close after)
    exact tracked.known other (removed.subset member)
  delivered := by
    intro other member
    rcases tracked.delivered other member with counted | waits
    · exact .inl (List.mem_cons_of_mem _ counted)
    · rcases List.mem_append.mp waits with left | right
      · exact .inr (List.mem_append_left _ left)
      · rcases List.mem_cons.mp right with rfl | right
        · exact .inl List.mem_cons_self
        · exact .inr (List.mem_append_right _ right)
  seen_known := by
    intro other member
    rcases List.mem_cons.mp member with rfl | old
    · exact tracked.known _ (by simp)
    · exact tracked.seen_known other old
  seen_nodup := by
    rw [List.map_cons, List.nodup_cons]
    exact ⟨first, tracked.seen_nodup⟩

/-- With nothing waiting, what was handled is what happened. -/
theorem handled_perm (tracked : ClosesTracked opened events [] seen) :
    seen.Perm events := by
  have seenNodup : seen.Nodup := tracked.seen_nodup.of_map _
  have eventsNodup : events.Nodup := tracked.nodup.of_map _
  refine (List.perm_ext_iff_of_nodup seenNodup eventsNodup).mpr fun close => ?_
  constructor
  · exact tracked.seen_known close
  · intro member
    rcases tracked.delivered close member with counted | waits
    · exact counted
    · cases waits

end ClosesTracked

/-! ### The books stand for the positions counted -/

/-- A position whose fill was handled and whose close was not. -/
def counts (seenFills : List PositionKey) (seenCloses : List CloseMessage)
    (key : PositionKey) : Bool :=
  decide (key ∈ seenFills) && decide (key ∉ seenCloses.map CloseMessage.key)

def countedKeys (opened : Dict PositionKey Order) (seenFills : List PositionKey)
    (seenCloses : List CloseMessage) (scope : Scope) : Finset PositionKey :=
  opened.keysWhere fun key order =>
    counts seenFills seenCloses key && scope.order order

theorem mem_countedKeys {opened : Dict PositionKey Order}
    {seenFills : List PositionKey} {seenCloses : List CloseMessage}
    {scope : Scope} {key : PositionKey} :
    key ∈ countedKeys opened seenFills seenCloses scope ↔
      ∃ order, opened.get? key = some order ∧
        counts seenFills seenCloses key = true ∧ scope.order order = true := by
  simp [countedKeys, Dict.mem_keysWhere]

/-- The ticket map names the counted positions, and the counters count them. -/
structure BooksMatch (m : RiskMonitor) (opened : Dict PositionKey Order)
    (seenFills : List PositionKey) (seenCloses : List CloseMessage) : Prop where
  owner : ∀ {key order}, opened.get? key = some order →
    counts seenFills seenCloses key = true →
    m.ticketToStrategy.get? key = some order.strategyId
  counted : ∀ scope : Scope, scope.counter m =
    (countedKeys opened seenFills seenCloses scope).card
  closed_filled : ∀ close ∈ seenCloses, close.key ∈ seenFills

namespace BooksMatch

variable {m m' : RiskMonitor} {opened : Dict PositionKey Order}
  {seenFills : List PositionKey} {seenCloses : List CloseMessage}

theorem congr (matched : BooksMatch m opened seenFills seenCloses)
    (same : m'.books = m.books) : BooksMatch m' opened seenFills seenCloses where
  owner := by
    intro key order stored counting
    rw [RiskMonitor.ticketToStrategy_congr same]
    exact matched.owner stored counting
  counted := by
    intro scope
    rw [scope.counter_congr same]
    exact matched.counted scope
  closed_filled := matched.closed_filled

/-- A position whose fill was not handled does not count. -/
theorem counts_unseen {key : PositionKey} (unseen : key ∉ seenFills) :
    counts seenFills seenCloses key = false := by
  simp [counts, unseen]

/-- A new position is not counted yet. -/
theorem filled (matched : BooksMatch m opened seenFills seenCloses)
    {key : PositionKey} (order : Order) (unseen : key ∉ seenFills) :
    BooksMatch m (opened.set key order) seenFills seenCloses where
  owner := by
    intro other found stored counting
    rw [Dict.get?_set] at stored
    split at stored
    · rename_i same
      rw [same, counts_unseen unseen] at counting
      cases counting
    · exact matched.owner stored counting
  counted := by
    intro scope
    rw [matched.counted scope]
    congr 2
    ext other
    rw [mem_countedKeys, mem_countedKeys, Dict.get?_set]
    split
    · rename_i same
      rw [same, counts_unseen unseen]
      simp
    · exact Iff.rfl
  closed_filled := matched.closed_filled

/-- Handling a fill starts to count its position. -/
theorem fillHandled (matched : BooksMatch m opened seenFills seenCloses)
    {fill : FillMessage} (stored : opened.get? fill.key = some fill.order)
    (unseen : fill.key ∉ seenFills) (ticket : fill.key.2 ≠ 0) :
    BooksMatch (m.onFilled fill.order fill.accountId) opened
      (fill.key :: seenFills) seenCloses := by
  have notClosed : fill.key ∉ seenCloses.map CloseMessage.key := by
    intro member
    rcases List.mem_map.mp member with ⟨close, handled, same⟩
    exact unseen (same ▸ matched.closed_filled close handled)
  have starts : counts (fill.key :: seenFills) seenCloses fill.key = true := by
    simp only [counts, List.mem_cons_self, decide_true, notClosed,
      not_false_eq_true, Bool.and_self]
  have others : ∀ key, key ≠ fill.key →
      counts (fill.key :: seenFills) seenCloses key =
        counts seenFills seenCloses key := by
    intro key apart
    simp only [counts, List.mem_cons, apart, false_or]
  refine ⟨?_, ?_, ?_⟩
  · intro key order found counting
    have recorded : (m.onFilled fill.order fill.accountId).ticketToStrategy =
        m.ticketToStrategy.set fill.key fill.order.strategyId :=
      if_pos ticket
    rw [recorded, Dict.get?_set]
    split
    · rename_i same
      rw [same, stored] at found
      cases found
      rfl
    · rename_i apart
      rw [others key apart] at counting
      exact matched.owner found counting
  · intro scope
    rw [scope.counter_onFilled, matched.counted scope]
    cases inside : scope.order fill.order with
    | true =>
        have grown : countedKeys opened (fill.key :: seenFills) seenCloses scope =
            insert fill.key (countedKeys opened seenFills seenCloses scope) := by
          ext key
          rw [Finset.mem_insert, mem_countedKeys, mem_countedKeys]
          cases decEq key fill.key with
          | isTrue same =>
              rw [same, starts]
              simp [stored, inside]
          | isFalse apart =>
              rw [others key apart]
              simp [apart]
        have fresh : fill.key ∉ countedKeys opened seenFills seenCloses scope := by
          intro member
          rcases mem_countedKeys.mp member with ⟨order, -, counting, -⟩
          rw [counts_unseen unseen] at counting
          cases counting
        rw [grown, Finset.card_insert_of_notMem fresh]
        simp
    | false =>
        have same : countedKeys opened (fill.key :: seenFills) seenCloses scope =
            countedKeys opened seenFills seenCloses scope := by
          ext key
          rw [mem_countedKeys, mem_countedKeys]
          cases decEq key fill.key with
          | isTrue same =>
              rw [same]
              simp [stored, inside]
          | isFalse apart => rw [others key apart]
        rw [same]
        simp
  · intro close handled
    exact List.mem_cons_of_mem _ (matched.closed_filled close handled)

/-- Handling a close for the first time ends the count of its position. -/
theorem closeHandled (matched : BooksMatch m opened seenFills seenCloses)
    {close : CloseMessage} {order : Order}
    (stored : opened.get? close.key = some order)
    (symbol : order.symbol = close.position.symbol)
    (filled : close.key ∈ seenFills)
    (first : close.key ∉ seenCloses.map CloseMessage.key) :
    BooksMatch (m.release close.position close.accountId) opened seenFills
      (close :: seenCloses) := by
  have counting : counts seenFills seenCloses close.key = true := by
    simp only [counts, filled, decide_true, first, not_false_eq_true,
      Bool.and_self]
  have ends : counts seenFills (close :: seenCloses) close.key = false := by
    simp [counts]
  have others : ∀ key, key ≠ close.key →
      counts seenFills (close :: seenCloses) key =
        counts seenFills seenCloses key := by
    intro key apart
    simp only [counts, List.map_cons, List.mem_cons, apart, false_or]
  have member : ∀ scope : Scope, scope.order order = true →
      close.key ∈ countedKeys opened seenFills seenCloses scope :=
    fun scope inside => mem_countedKeys.mpr ⟨order, stored, counting, inside⟩
  have known := matched.owner stored counting
  have positive : ∀ scope : Scope, scope.order order = true →
      0 < scope.counter m := by
    intro scope inside
    rw [matched.counted scope]
    exact Int.natCast_pos.mpr (Finset.card_pos.mpr ⟨_, member scope inside⟩)
  have shrunk : ∀ scope : Scope,
      countedKeys opened seenFills (close :: seenCloses) scope =
        (countedKeys opened seenFills seenCloses scope).erase close.key := by
    intro scope
    ext key
    rw [Finset.mem_erase, mem_countedKeys, mem_countedKeys]
    cases decEq key close.key with
    | isTrue same =>
        rw [same, ends]
        simp
    | isFalse apart =>
        rw [others key apart]
        simp [apart]
  refine ⟨?_, ?_, ?_⟩
  · intro key found stored' counting'
    have apart : key ≠ close.key := by
      intro same
      rw [same, ends] at counting'
      cases counting'
    rw [others key apart] at counting'
    have kept : (m.release close.position close.accountId).ticketToStrategy.get?
        key = m.ticketToStrategy.get? key :=
      Dict.get?_erase_of_ne _ apart
    rw [kept]
    exact matched.owner stored' counting'
  · intro scope
    rw [Scope.counter_release known symbol positive, matched.counted scope,
      shrunk scope]
    cases inside : scope.order order with
    | true =>
        have card := Finset.card_erase_add_one (member scope inside)
        simp only [if_true]
        omega
    | false =>
        have outside : close.key ∉
            countedKeys opened seenFills seenCloses scope := by
          intro counted
          rcases mem_countedKeys.mp counted with ⟨found, stored', -, inside'⟩
          rw [stored] at stored'
          cases stored'
          rw [inside] at inside'
          cases inside'
        rw [Finset.erase_eq_of_notMem outside]
        simp
  · intro other handled
    rcases List.mem_cons.mp handled with rfl | old
    · exact filled
    · exact matched.closed_filled other old

end BooksMatch

/-- Books, fills and closes fit together. -/
structure Kept (s : Bookkeeping) : Prop where
  fills : FillsTracked s.opened s.fills.backlog s.seenFills
  closes : ClosesTracked s.opened s.closeEvents s.closes.backlog s.seenCloses
  books : BooksMatch s.monitor s.opened s.seenFills s.seenCloses

/-- Tickets are not zero, and every close is handled once, after its fill. -/
def ClosesInTurn (s : Bookkeeping) : BookLabel → Prop
  | .fill order _ => order.ticket ≠ 0
  | .handleClosed _ =>
      ∀ taken ∈ s.closes.pop?, taken.1.key ∈ s.seenFills ∧
        taken.1.key ∉ s.seenCloses.map CloseMessage.key
  | _ => True

instance (s : Bookkeeping) (label : BookLabel) :
    Decidable (s.ClosesInTurn label) := by
  cases label
  case fill => exact inferInstanceAs (Decidable (_ ≠ _))
  case handleClosed =>
    unfold ClosesInTurn
    infer_instance
  all_goals exact instDecidableTrue

/-- A report is about an open position of its symbol. -/
theorem holds_order {s : Bookkeeping} {accountId : AccountId}
    {position : Position} (held : s.holds accountId position = true) :
    ∃ order, s.opened.get? (accountId, position.ticket) = some order ∧
      order.symbol = position.symbol ∧
      (accountId, position.ticket) ∉ s.closeEvents.map CloseMessage.key := by
  unfold holds openOrder? at held
  split at held
  · cases held
  · rename_i order found
    split at found
    · cases found
    · rename_i stillOpen
      exact ⟨order, found, of_decide_eq_true held, stillOpen⟩

namespace Kept

variable {s s' : Bookkeeping}

theorem sameBooks (kept : Kept s) {m : RiskMonitor}
    (same : m.books = s.monitor.books) : Kept { s with monitor := m } where
  fills := kept.fills
  closes := kept.closes
  books := kept.books.congr same

/-- Everything fits together after a step that handles no close out of turn. -/
theorem step (kept : Kept s) {label : BookLabel}
    (inTurn : s.ClosesInTurn label) (taken : Step s label s') : Kept s' := by
  cases moved_of_step taken with
  | fill fresh =>
      rename_i order accountId
      have unseen : (accountId, order.ticket) ∉ s.seenFills := by
        intro counted
        rcases kept.fills.seen_opened _ counted with ⟨found, stored⟩
        rw [fresh] at stored
        cases stored
      refine ⟨?_, kept.closes.filled order fresh, kept.books.filled order unseen⟩
      rw [Mailbox.backlog_push]
      exact kept.fills.filled ⟨order, accountId⟩ fresh inTurn
  | partialClose held => exact ⟨kept.fills, kept.closes, kept.books⟩
  | close held =>
      rcases holds_order held with ⟨order, stored, symbol, stillOpen⟩
      refine ⟨kept.fills, ?_, kept.books⟩
      rw [Mailbox.backlog_push]
      exact kept.closes.closed ⟨_, _, _⟩ stillOpen stored symbol
  | redeliver published =>
      refine ⟨kept.fills, ?_, kept.books⟩
      rw [Mailbox.backlog_push]
      exact kept.closes.redelivered published
  | handleFilled popped =>
      rename_i fill rest
      rcases Mailbox.backlog_of_pop? popped with ⟨before, after, whole, remaining⟩
      have fills := kept.fills
      rw [whole] at fills
      have member : fill ∈ before ++ fill :: after := by simp
      have stored := fills.order fill member
      refine ⟨?_, kept.closes, kept.books.fillHandled stored
        (fills.unseen fill member) (fills.ticket_ne stored)⟩
      rw [remaining]
      exact fills.handled
  | handlePartialClosed popped =>
      exact ⟨kept.fills, kept.closes,
        kept.books.congr (s.monitor.bookPnl_books _ _ _)⟩
  | handleClosed popped =>
      rename_i now close rest
      rcases Mailbox.backlog_of_pop? popped with ⟨before, after, whole, remaining⟩
      rcases inTurn (close, rest) popped with ⟨filled, first⟩
      have closes := kept.closes
      rw [whole] at closes
      have published := closes.known close (by simp)
      rcases closes.order close published with ⟨order, stored, symbol⟩
      refine ⟨kept.fills, ?_, ?_⟩
      · rw [remaining]
        exact closes.handled first
      · exact (kept.books.closeHandled stored symbol filled first).congr
          (RiskMonitor.bookPnl_books _ _ _ _)
  | handleSnapshot snap => exact kept.sameBooks (s.monitor.onSnapshot_books snap)
  | checkSignal now signal =>
      exact kept.sameBooks (s.monitor.checkSignal_books now signal)

theorem boot (cfg : RiskConfig) : Kept (Bookkeeping.boot cfg) where
  fills :=
    { order := by intro fill member; cases member
      unseen := by intro fill member; cases member
      nodup := List.nodup_nil
      seen_opened := by intro key member; cases member
      covered := by intro key order stored; cases stored
      ticket_ne := by intro key order stored; cases stored }
  closes :=
    { order := by intro close member; cases member
      nodup := List.nodup_nil
      known := by intro close member; cases member
      delivered := by intro close member; cases member
      seen_known := by intro close member; cases member
      seen_nodup := List.nodup_nil }
  books :=
    { owner := by intro key order stored; cases stored
      counted := by
        intro scope
        cases scope <;> rfl
      closed_filled := by intro close member; cases member }

end Kept

/-! ### The day's profit -/

/-- The daily window is that of a given day. -/
def AnchoredTo (day : Int) (m : RiskMonitor) : Prop :=
  ∃ anchor, m.dailyAnchorDate = some anchor ∧ Time.date anchor = day

/-- Nothing booked belongs to another day. -/
def OnDay (day : Int) (m : RiskMonitor) : Prop :=
  AnchoredTo day m ∨ m.dailyRealizedPnl = 0

/-- Rolling on the day keeps what was booked on it. -/
theorem OnDay.roll {day : Int} {m : RiskMonitor} {now : Time}
    (onDay : OnDay day m) (today : Time.date now = day) :
    (m.maybeRollDaily now).dailyRealizedPnl = m.dailyRealizedPnl ∧
      AnchoredTo day (m.maybeRollDaily now) := by
  unfold RiskMonitor.maybeRollDaily
  split
  · rename_i stale
    refine ⟨?_, now, rfl, today⟩
    rcases onDay with ⟨anchor, anchored, date⟩ | nothing
    · rw [RiskMonitor.anchorStale, anchored] at stale
      have other : Time.date now ≠ Time.date anchor := of_decide_eq_true stale
      exact absurd (today.trans date.symm) other
    · exact nothing.symm
  · rename_i current
    refine ⟨rfl, ?_⟩
    unfold RiskMonitor.anchorStale at current
    split at current
    · exact absurd rfl current
    · rename_i anchor anchored
      refine ⟨anchor, anchored, ?_⟩
      simp only [ne_eq, decide_not, Bool.not_eq_true', decide_eq_false_iff_not,
        not_not] at current
      rw [← current]
      exact today

/-- Everything handled is in the day's profit. -/
structure Booked (day : Int) (s : Bookkeeping) : Prop where
  onDay : OnDay day s.monitor
  total : s.monitor.dailyRealizedPnl +
      (s.partials.backlog.map PartialMessage.realizedPnl).sum =
    (s.partialEvents.map PartialMessage.realizedPnl).sum +
      (s.seenCloses.map CloseMessage.realizedPnl).sum

namespace Booked

variable {day : Int} {s s' : Bookkeeping}

theorem boot (cfg : RiskConfig) : Booked day (Bookkeeping.boot cfg) where
  onDay := .inr rfl
  total := by simp [Bookkeeping.boot, RiskMonitor.create]

/-- Booking on the day adds to its profit. -/
theorem bookPnl {m : RiskMonitor} {now : Time} (onDay : OnDay day m)
    (today : Time.date now = day) (symbol : Symbol) (pnl : ℚ) :
    (m.bookPnl now symbol pnl).dailyRealizedPnl = m.dailyRealizedPnl + pnl ∧
      OnDay day (m.bookPnl now symbol pnl) := by
  rcases onDay.roll today with ⟨kept, anchor, anchored, date⟩
  refine ⟨?_, .inl ⟨anchor, anchored, date⟩⟩
  unfold RiskMonitor.bookPnl
  dsimp only
  rw [kept]

theorem step {label : BookLabel} (booked : Booked day s)
    (within : label.Within day) (taken : Step s label s') : Booked day s' := by
  cases moved_of_step taken with
  | fill fresh => exact ⟨booked.onDay, booked.total⟩
  | partialClose held =>
      refine ⟨booked.onDay, ?_⟩
      have total := booked.total
      simp only [Mailbox.backlog_push, List.map_append, List.sum_append,
        List.map_cons, List.map_nil, List.sum_cons, List.sum_nil]
      linarith
  | close held => exact ⟨booked.onDay, booked.total⟩
  | redeliver published => exact ⟨booked.onDay, booked.total⟩
  | handleFilled popped => exact ⟨booked.onDay, booked.total⟩
  | handlePartialClosed popped =>
      rename_i now chunk rest
      rcases Mailbox.backlog_of_pop? popped with ⟨before, after, whole, remaining⟩
      rcases bookPnl booked.onDay within chunk.position.symbol
        chunk.realizedPnl with ⟨added, onDay⟩
      refine ⟨onDay, ?_⟩
      have total := booked.total
      simp only [whole, List.map_append, List.sum_append, List.map_cons,
        List.sum_cons] at total
      simp only [remaining, List.map_append, List.sum_append,
        RiskMonitor.onPartialClosed, added]
      linarith
  | handleClosed popped =>
      rename_i now close rest
      have released : OnDay day
          (s.monitor.release close.position close.accountId) := booked.onDay
      rcases bookPnl released within close.position.symbol close.realizedPnl
        with ⟨added, onDay⟩
      have unchanged : (s.monitor.release close.position
          close.accountId).dailyRealizedPnl = s.monitor.dailyRealizedPnl := rfl
      refine ⟨onDay, ?_⟩
      have total := booked.total
      simp only [RiskMonitor.onClosed, added, unchanged, List.map_cons,
        List.sum_cons]
      linarith
  | handleSnapshot snap =>
      rcases s.monitor.onSnapshot_eq snap with ⟨_, _, _, _, _, _, _, same⟩
      constructor
      · rw [same]
        rcases booked.onDay with ⟨anchor, anchored, date⟩ | nothing
        · refine .inl ⟨anchor, ?_, date⟩
          simp [anchored]
        · exact .inr nothing
      · rw [same]
        exact booked.total
  | checkSignal now signal =>
      rcases s.monitor.checkSignal_state now signal with same | rolled
      · constructor
        · rw [same]
          exact booked.onDay
        · rw [same]
          exact booked.total
      · rcases booked.onDay.roll within with ⟨kept, anchored⟩
        constructor
        · rw [rolled]
          exact .inl anchored
        · rw [rolled, kept]
          exact booked.total

/-- A run on one day. -/
theorem run {labels : List BookLabel} (booked : Booked day s)
    (run : Run Step s labels s') (within : ∀ label ∈ labels, label.Within day) :
    Booked day s' := by
  induction run with
  | refl => exact booked
  | step head tail ih =>
      have first := booked.step (within _ List.mem_cons_self) head
      exact ih first fun label member =>
        within label (List.mem_cons_of_mem _ member)

end Booked

/-! ### Exactness -/

/-- The positions of a scope that are still open at the brokers. -/
def openKeys (s : Bookkeeping) (scope : Scope) : Finset PositionKey :=
  s.opened.keysWhere fun key order =>
    decide (key ∉ s.closeEvents.map CloseMessage.key) && scope.order order

theorem mem_openKeys {s : Bookkeeping} {scope : Scope} {key : PositionKey} :
    key ∈ s.openKeys scope ↔
      ∃ order, s.opened.get? key = some order ∧
        key ∉ s.closeEvents.map CloseMessage.key ∧
          scope.order order = true := by
  simp [openKeys, Dict.mem_keysWhere]

/-- Counters are never negative; once everything is handled they are the numbers
of open positions, and the profit of a run within one day is that of its close
events. -/
def ExactBooks (labels : List BookLabel) (s : Bookkeeping) : Prop :=
  (∀ scope : Scope, 0 ≤ scope.counter s.monitor) ∧
    (s.AllHandled →
      (∀ scope : Scope, scope.counter s.monitor = (s.openKeys scope).card) ∧
        ∀ day, (∀ label ∈ labels, label.Within day) →
          s.monitor.dailyRealizedPnl =
            (s.partialEvents.map PartialMessage.realizedPnl).sum +
              (s.closeEvents.map CloseMessage.realizedPnl).sum)

/-- With nothing waiting, the counted positions are the open ones. -/
theorem Kept.countedKeys_eq {s : Bookkeeping} (kept : Kept s)
    (handled : s.AllHandled) (scope : Scope) :
    countedKeys s.opened s.seenFills s.seenCloses scope = s.openKeys scope := by
  have fills := kept.fills
  have closes := kept.closes
  rw [handled.1] at fills
  rw [handled.2.1] at closes
  have closed : ∀ key, key ∈ s.seenCloses.map CloseMessage.key ↔
      key ∈ s.closeEvents.map CloseMessage.key := fun _ =>
    (closes.handled_perm.map CloseMessage.key).mem_iff
  ext key
  rw [mem_countedKeys, mem_openKeys]
  constructor
  · rintro ⟨order, stored, counting, inside⟩
    rcases Bool.and_eq_true_iff.mp counting with ⟨-, notClosed⟩
    refine ⟨order, stored, ?_, inside⟩
    rw [← closed key]
    exact of_decide_eq_true notClosed
  · rintro ⟨order, stored, stillOpen, inside⟩
    refine ⟨order, stored, ?_, inside⟩
    rcases fills.covered stored with counted | waits
    · rw [← closed key] at stillOpen
      simp only [counts, counted, decide_true, stillOpen, not_false_eq_true,
        Bool.and_self]
    · cases waits

/-- In every run whose closes are handled in turn, the books are exact. -/
theorem bookkeeping_exact {cfg : RiskConfig} {labels : List BookLabel}
    {s : Bookkeeping} (run : Run (Guarded ClosesInTurn Step) (boot cfg) labels s) :
    s.ExactBooks labels := by
  have kept : Kept s :=
    run.invariant (Kept.boot cfg) fun taken kept => kept.step taken.1 taken.2
  refine ⟨(counters_nonneg run.unguard).counter, ?_⟩
  intro handled
  constructor
  · intro scope
    rw [kept.books.counted scope, kept.countedKeys_eq handled]
  · intro day within
    have booked : Booked day s := (Booked.boot cfg).run run.unguard within
    have closes := kept.closes
    rw [handled.2.1] at closes
    have total := booked.total
    rw [handled.2.2, (closes.handled_perm.map CloseMessage.realizedPnl).sum_eq]
      at total
    simpa using total

/-! ### A close delivered twice -/

def filledOrder : Order where
  ticket := 7
  strategyId := "trend"
  symbol := "EURUSD"
  side := .buy
  type := .market
  volume := 1
  filledVolume := 1
  price := none
  fillPrice := some 1
  sl := none
  tp := none
  status := .filled
  comment := ""
  magic := 0
  clientOrderId := "a"
  requestedAt := none
  filledAt := none
  volume_pos := one_quote_pos

def filledPosition : Position where
  ticket := 7
  symbol := "EURUSD"
  side := .buy
  volume := 1
  openPrice := 1
  openTime := 0
  sl := none
  tp := none
  comment := ""
  magic := 0
  volume_pos := one_quote_pos
  openPrice_pos := one_quote_pos

/-- A position is filled and closed at a loss; all is handled. -/
def filledAndClosed : List BookLabel :=
  [.fill filledOrder "default", .handleFilled,
    .close filledPosition (-10) "default", .handleClosed 1]

/-- The close event arrives once more. -/
def closedTwice : List BookLabel :=
  filledAndClosed ++
    [.redeliver ⟨filledPosition, -10, "default"⟩, .handleClosed 2]

/-- A run whose books are exact. -/
theorem filled_and_closed_exact :
    ∃ s : Bookkeeping, s.monitor.dailyRealizedPnl = -10 ∧
      s.ExactBooks filledAndClosed := by
  have reached :
      (replay? ClosesInTurn step? (boot default) filledAndClosed).map
        (fun s => s.monitor.dailyRealizedPnl) = some (-10) := by
    decide +kernel
  rcases Option.map_eq_some_iff.mp reached with ⟨s, replayed, booked⟩
  exact ⟨s, booked, bookkeeping_exact (run_of_replay? replayed)⟩

/-- Without that proviso a loss can be booked twice: the monitor does not know
that it has handled the close before. -/
theorem redelivered_close_booked_twice :
    ¬ ∀ (cfg : RiskConfig) (labels : List BookLabel) (s : Bookkeeping),
        Run Step (boot cfg) labels s → s.ExactBooks labels := by
  intro claim
  have reached :
      (replay? (fun _ _ => True) step? (boot default) closedTwice).map
        (fun s => (s.monitor.dailyRealizedPnl,
          (s.fills.backlog.length, s.closes.backlog.length,
            s.partials.backlog.length),
          s.partialEvents.length,
          s.closeEvents.map CloseMessage.realizedPnl)) =
          some (-20, (0, 0, 0), 0, [-10]) := by
    decide +kernel
  rcases Option.map_eq_some_iff.mp reached with ⟨s, replayed, outcome⟩
  simp only [Prod.mk.injEq, List.length_eq_zero_iff] at outcome
  rcases outcome with ⟨pnl, waiting, noPartials, closes⟩
  have exact := claim default closedTwice s (run_of_replay? replayed).unguard
  have today : ∀ label ∈ closedTwice, label.Within 0 := by
    simp [closedTwice, filledAndClosed, BookLabel.Within, Time.date,
      Time.usPerDay, Time.usPerHour, Time.usPerSecond]
  have booked := (exact.2 waiting).2 0 today
  rw [pnl, noPartials, closes] at booked
  norm_num at booked

end Bookkeeping

end StingerFx
