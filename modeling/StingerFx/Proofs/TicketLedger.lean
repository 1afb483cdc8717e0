/-
Module: StingerFx.Proofs.TicketLedger
Layer: Proofs
Purpose: The broker's tables against what it has announced. A ledger collects, along
  a run, the fills the broker reported, the trades it booked per ticket and the
  closes it published; at every point the open positions are the fills not yet
  closed, and what was filled is what was closed plus what is still open.
Trusted boundary: none (fully proved)
Main exports: Ledger, ledgerStep, StoreKept, LedgerExact, Balanced,
  ticket_ledger_exact
-/
import StingerFx.Proofs.OwnershipIsolation

namespace StingerFx.SimBroker

open Lib

variable {σ : Type}

/-! ### The ledger -/

/-- What has been reported so far: filled volumes by ticket, booked trades by
ticket, tickets reported closed. -/
structure Ledger where
  fills : List (Ticket × ℚ)
  chunks : List (Ticket × TradeRecord)
  closed : List Ticket
deriving DecidableEq

namespace Ledger

def empty : Ledger := ⟨[], [], []⟩

def filled (l : Ledger) : List Ticket := l.fills.map Prod.fst

/-- Volume of a ticket that was closed, whole or in chunks. -/
def chunkVolume (l : Ledger) (ticket : Ticket) : ℚ :=
  ((l.chunks.filter fun chunk => decide (chunk.1 = ticket)).map
    fun chunk => chunk.2.volume).sum

/-- The ledger after further reports. -/
def after (l : Ledger) (fills : List (Ticket × ℚ))
    (chunks : List (Ticket × TradeRecord)) (closed : List Ticket) : Ledger :=
  ⟨l.fills ++ fills, l.chunks ++ chunks, l.closed ++ closed⟩

end Ledger

/-- Fills announced by an event. -/
def eventFills (events : List Event) : List (Ticket × ℚ) :=
  events.filterMap fun event =>
    match event with
    | .orderFilled order _ => some (order.ticket, order.filledVolume)
    | _ => none

/-- The fill a placement reports in its result. -/
def resultFills : Except BrokerError OrderResult → List (Ticket × ℚ)
  | .error _ => []
  | .ok result =>
      match result.status, result.order with
      | .filled, some order => [(order.ticket, order.filledVolume)]
      | _, _ => []

/-- Tickets reported closed. -/
def closedTickets (events : List Event) : List Ticket :=
  events.filterMap fun event =>
    match event with
    | .positionClosed position _ _ _ => some position.ticket
    | _ => none

/-- The result an operation hands back, where it hands one back. -/
def resultOf (cfg : SimConfig σ) (b : SimBroker σ) :
    BrokerOp → Option (Except BrokerError OrderResult)
  | .placeOrder req => some (b.placeOrder cfg req).outcome
  | .modifyOrder ticket changes => some (b.modifyOrder ticket changes).outcome
  | .closePosition ticket volume =>
      some (b.closePosition cfg ticket volume).outcome
  | .cancelOrder ticket => some (b.cancelOrder ticket).outcome
  | _ => none

/-- Fills an operation reports, by its result or by an event. -/
def fillsOf (cfg : SimConfig σ) (b : SimBroker σ) (op : BrokerOp) :
    List (Ticket × ℚ) :=
  match op with
  | .placeOrder req =>
      resultFills (b.placeOrder cfg req).outcome ++
        eventFills (perform cfg b op).2
  | _ => eventFills (perform cfg b op).2

/-- Trades an operation books, under the ticket it closes. -/
def chunksOf (cfg : SimConfig σ) (b : SimBroker σ) (op : BrokerOp) :
    List (Ticket × TradeRecord) :=
  match op with
  | .closePosition ticket _ =>
      ((perform cfg b op).1.trades.drop b.trades.length).map fun trade =>
        (ticket, trade)
  | _ => []

/-- One operation, with the ledger that goes with it. -/
def ledgerStep (cfg : SimConfig σ) (s : SimBroker σ × Ledger) (op : BrokerOp) :
    SimBroker σ × Ledger :=
  ((perform cfg s.1 op).1,
    s.2.after (fillsOf cfg s.1 op) (chunksOf cfg s.1 op)
      (closedTickets (perform cfg s.1 op).2))

/-- The volumes that callers may ask for: an order's is positive by its type, and
a close asks for a positive chunk. -/
def VolumePositive : BrokerOp → Prop
  | .closePosition _ (some chunk) => 0 < chunk
  | _ => True

/-! ### What holds at every point -/

/-- The tables agree with each other. -/
structure StoreKept (b : SimBroker σ) : Prop where
  disjoint : ∀ ticket ∈ b.positions.keys, ticket ∉ b.pending.keys
  position_ticket : ∀ ticket pos, b.positions.get? ticket = some pos →
    pos.ticket = ticket ∧ ticket < b.nextTicket ∧ 0 < pos.volume
  pending_ticket : ∀ ticket order, b.pending.get? ticket = some order →
    order.ticket = ticket ∧ ticket < b.nextTicket ∧ 0 < order.volume
  strategies : ∀ ticket,
    ticket ∈ b.strategyIdByTicket.keys ↔ ticket ∈ b.positions.keys

/-- The tables agree with what was reported. -/
structure LedgerExact (b : SimBroker σ) (l : Ledger) : Prop where
  trades : l.chunks.map Prod.snd = b.trades
  filled_once : l.filled.Nodup
  closed_once : l.closed.Nodup
  closed_filled : ∀ ticket ∈ l.closed, ticket ∈ l.filled
  opened : ∀ ticket,
    ticket ∈ b.positions.keys ↔ ticket ∈ l.filled ∧ ticket ∉ l.closed
  volumes : ∀ fill ∈ l.fills,
    fill.2 = l.chunkVolume fill.1 + b.positions.shareAt fill.1 Position.volume

/-- What carries the induction: the two above, and that nothing waiting or yet to
be issued was ever filled. -/
structure Balanced (b : SimBroker σ) (l : Ledger) : Prop where
  kept : BooksKept b
  strategies : ∀ ticket, (b.strategyIdByTicket.get? ticket).isSome →
    (b.positions.get? ticket).isSome
  issued : ∀ ticket ∈ l.filled, ticket < b.nextTicket
  waiting : ∀ ticket, (b.pending.get? ticket).isSome → ticket ∉ l.filled
  chunked : ∀ chunk ∈ l.chunks, chunk.1 ∈ l.filled
  exact : LedgerExact b l

/-! ### One report at a time -/

theorem Ledger.after_nil (l : Ledger) : l.after [] [] [] = l := by
  simp [Ledger.after]

theorem Ledger.after_after (l : Ledger) (fills fills' : List (Ticket × ℚ))
    (closed closed' : List Ticket) :
    (l.after fills [] closed).after fills' [] closed' =
      l.after (fills ++ fills') [] (closed ++ closed') := by
  simp [Ledger.after]

theorem Ledger.chunkVolume_of_unfilled {l : Ledger} {ticket : Ticket}
    (chunked : ∀ chunk ∈ l.chunks, chunk.1 ∈ l.filled)
    (fresh : ticket ∉ l.filled) : l.chunkVolume ticket = 0 := by
  have none : (l.chunks.filter fun chunk => decide (chunk.1 = ticket)) = [] := by
    rw [List.filter_eq_nil_iff]
    intro chunk member
    have apart : chunk.1 ≠ ticket := fun same =>
      fresh (same ▸ chunked chunk member)
    simpa using apart
  rw [Ledger.chunkVolume, none]
  rfl

theorem Ledger.chunkVolume_after (l : Ledger) (ticket other : Ticket)
    (trade : TradeRecord) (closed : List Ticket) :
    (l.after [] [(ticket, trade)] closed).chunkVolume other =
      l.chunkVolume other + if ticket = other then trade.volume else 0 := by
  unfold Ledger.chunkVolume Ledger.after
  rw [List.filter_append, List.map_append, List.sum_append]
  by_cases same : ticket = other <;> simp [same]

namespace Balanced

variable {cfg : SimConfig σ} {b b' : SimBroker σ} {l : Ledger}

/-- A change that opens and closes nothing and books no trade. -/
theorem congr (balanced : Balanced b l) (kept : BooksKept b')
    (tickets : b.nextTicket ≤ b'.nextTicket)
    (volumes : ∀ ticket, (b'.positions.get? ticket).map Position.volume =
      (b.positions.get? ticket).map Position.volume)
    (pending : ∀ ticket, (b'.pending.get? ticket).isSome →
      (b.pending.get? ticket).isSome ∨ b.nextTicket ≤ ticket)
    (names : b'.strategyIdByTicket = b.strategyIdByTicket)
    (trades : b'.trades = b.trades) : Balanced b' l := by
  have opened : ∀ ticket, (b'.positions.get? ticket).isSome =
      (b.positions.get? ticket).isSome := by
    intro ticket
    have same := congrArg Option.isSome (volumes ticket)
    simpa using same
  exact
    { kept := kept
      strategies := by
        intro ticket named
        rw [names] at named
        rw [opened]
        exact balanced.strategies ticket named
      issued := fun ticket member =>
        lt_of_lt_of_le (balanced.issued ticket member) tickets
      waiting := by
        intro ticket waits member
        rcases pending ticket waits with before | fresh
        · exact balanced.waiting ticket before member
        · exact absurd (balanced.issued ticket member) (not_lt.mpr fresh)
      chunked := balanced.chunked
      exact :=
        { trades := balanced.exact.trades.trans trades.symm
          filled_once := balanced.exact.filled_once
          closed_once := balanced.exact.closed_once
          closed_filled := balanced.exact.closed_filled
          opened := by
            intro ticket
            rw [← Dict.get?_isSome_iff, opened, Dict.get?_isSome_iff]
            exact balanced.exact.opened ticket
          volumes := by
            intro fill member
            rw [Dict.shareAt, volumes]
            exact balanced.exact.volumes fill member } }

/-- A fill: a position appears under a ticket that never filled before. -/
theorem fill (balanced : Balanced b l) (kept : BooksKept b') {ticket : Ticket}
    {pos : Position} {strategyId : StrategyId} (fresh : ticket ∉ l.filled)
    (issued : ticket < b'.nextTicket) (tickets : b.nextTicket ≤ b'.nextTicket)
    (positions : b'.positions = b.positions.set ticket pos)
    (names : b'.strategyIdByTicket = b.strategyIdByTicket.set ticket strategyId)
    (pending : ∀ other, (b'.pending.get? other).isSome →
      (b.pending.get? other).isSome)
    (trades : b'.trades = b.trades) :
    Balanced b' (l.after [(ticket, pos.volume)] [] []) := by
  have stored : b'.positions.get? ticket = some pos := by
    rw [positions, Dict.get?_set_self]
  have filled : (l.after [(ticket, pos.volume)] [] []).filled =
      l.filled ++ [ticket] := by
    simp [Ledger.after, Ledger.filled]
  have chunks : (l.after [(ticket, pos.volume)] [] []).chunks = l.chunks := by
    simp [Ledger.after]
  have closed : (l.after [(ticket, pos.volume)] [] []).closed = l.closed := by
    simp [Ledger.after]
  exact
    { kept := kept
      strategies := by
        intro other named
        rw [names, Dict.get?_set] at named
        rw [positions, Dict.get?_set]
        split at named
        · rename_i same
          rw [if_pos same]
          rfl
        · rename_i apart
          rw [if_neg apart]
          exact balanced.strategies other named
      issued := by
        intro other member
        rw [filled, List.mem_append, List.mem_singleton] at member
        rcases member with before | rfl
        · exact lt_of_lt_of_le (balanced.issued other before) tickets
        · exact issued
      waiting := by
        intro other waits member
        rw [filled, List.mem_append, List.mem_singleton] at member
        rcases member with before | rfl
        · exact balanced.waiting other (pending other waits) before
        · obtain ⟨order, found⟩ := Option.isSome_iff_exists.mp waits
          cases (kept.apart found).symm.trans stored
      chunked := by
        intro chunk member
        rw [filled, List.mem_append]
        exact .inl (balanced.chunked chunk (chunks ▸ member))
      exact :=
        { trades := by rw [chunks, trades]; exact balanced.exact.trades
          filled_once := by
            rw [filled, List.nodup_append]
            refine ⟨balanced.exact.filled_once, List.nodup_singleton _, ?_⟩
            rintro one member two single rfl
            exact fresh (List.mem_singleton.mp single ▸ member)
          closed_once := by rw [closed]; exact balanced.exact.closed_once
          closed_filled := by
            intro other member
            rw [closed] at member
            rw [filled, List.mem_append]
            exact .inl (balanced.exact.closed_filled other member)
          opened := by
            intro other
            rw [positions, Dict.mem_keys_set, filled, closed, List.mem_append,
              List.mem_singleton, balanced.exact.opened other]
            constructor
            · rintro (rfl | ⟨before, notClosed⟩)
              · exact ⟨.inr rfl, fun gone =>
                  fresh (balanced.exact.closed_filled _ gone)⟩
              · exact ⟨.inl before, notClosed⟩
            · rintro ⟨before | rfl, notClosed⟩
              · exact .inr ⟨before, notClosed⟩
              · exact .inl rfl
          volumes := by
            intro entry member
            have volumes : (l.after [(ticket, pos.volume)] [] []).chunkVolume
                entry.1 = l.chunkVolume entry.1 := by
              rw [Ledger.chunkVolume, chunks]
              rfl
            rw [volumes]
            simp only [Ledger.after, List.mem_append, List.mem_singleton]
              at member
            rcases member with before | rfl
            · have apart : entry.1 ≠ ticket := fun same =>
                fresh (same ▸ List.mem_map.mpr ⟨entry, before, rfl⟩)
              rw [Dict.shareAt, positions, Dict.get?_set_of_ne _ _ apart]
              exact balanced.exact.volumes entry before
            · rw [Ledger.chunkVolume_of_unfilled balanced.chunked fresh,
                Dict.shareAt_of_get? _ stored, zero_add] } }

/-- What a booked trade does to the volumes: the ticket's remaining volume falls
by what the trade closes. -/
theorem volumes_after (balanced : Balanced b l) {ticket : Ticket}
    {trade : TradeRecord} {closed : List Ticket}
    (moved : b'.positions.shareAt ticket Position.volume + trade.volume =
      b.positions.shareAt ticket Position.volume)
    (elsewhere : ∀ other, other ≠ ticket →
      b'.positions.get? other = b.positions.get? other) :
    ∀ fill ∈ (l.after [] [(ticket, trade)] closed).fills,
      fill.2 = (l.after [] [(ticket, trade)] closed).chunkVolume fill.1 +
        b'.positions.shareAt fill.1 Position.volume := by
  intro fill member
  have before : fill ∈ l.fills := by simpa [Ledger.after] using member
  rw [Ledger.chunkVolume_after, balanced.exact.volumes fill before]
  by_cases same : ticket = fill.1
  · subst same
    rw [if_pos rfl, ← moved]
    ring
  · have apart : fill.1 ≠ ticket := fun h => same h.symm
    rw [if_neg same, Dict.shareAt, Dict.shareAt, elsewhere _ apart, add_zero]

/-- A chunk of a position is closed. -/
theorem chunk (balanced : Balanced b l) (kept : BooksKept b') {ticket : Ticket}
    {pos remaining : Position} {trade : TradeRecord}
    (stored : b.positions.get? ticket = some pos)
    (positions : b'.positions = b.positions.set ticket remaining)
    (volume : remaining.volume + trade.volume = pos.volume)
    (tickets : b'.nextTicket = b.nextTicket) (pending : b'.pending = b.pending)
    (names : b'.strategyIdByTicket = b.strategyIdByTicket)
    (trades : b'.trades = b.trades ++ [trade]) :
    Balanced b' (l.after [] [(ticket, trade)] []) := by
  have filled : (l.after [] [(ticket, trade)] []).filled = l.filled := by
    simp [Ledger.after, Ledger.filled]
  have closed : (l.after [] [(ticket, trade)] []).closed = l.closed := by
    simp [Ledger.after]
  have here : ticket ∈ b.positions.keys := by
    rw [← Dict.get?_isSome_iff, stored]
    rfl
  have known := ((balanced.exact.opened ticket).mp here).1
  have elsewhere : ∀ other, other ≠ ticket →
      b'.positions.get? other = b.positions.get? other := by
    intro other apart
    rw [positions, Dict.get?_set_of_ne _ _ apart]
  exact
    { kept := kept
      strategies := by
        intro other named
        rw [names] at named
        rw [Dict.get?_isSome_iff, positions, Dict.mem_keys_set,
          ← Dict.get?_isSome_iff]
        exact .inr (balanced.strategies other named)
      issued := by rw [filled, tickets]; exact balanced.issued
      waiting := by rw [filled, pending]; exact balanced.waiting
      chunked := by
        intro chunk member
        rw [filled]
        simp only [Ledger.after, List.mem_append, List.mem_singleton] at member
        rcases member with before | rfl
        · exact balanced.chunked chunk before
        · exact known
      exact :=
        { trades := by
            rw [trades, ← balanced.exact.trades]
            simp [Ledger.after]
          filled_once := by rw [filled]; exact balanced.exact.filled_once
          closed_once := by rw [closed]; exact balanced.exact.closed_once
          closed_filled := by
            rw [closed, filled]
            exact balanced.exact.closed_filled
          opened := by
            intro other
            rw [positions, Dict.mem_keys_set, filled, closed,
              ← balanced.exact.opened other]
            exact or_iff_right_of_imp fun same => same ▸ here
          volumes := by
            apply balanced.volumes_after _ elsewhere
            rw [Dict.shareAt_of_get? _ stored, positions,
              Dict.shareAt_of_get? _ (Dict.get?_set_self _ _ _)]
            exact volume } }

/-- A position is closed and reported. -/
theorem close (balanced : Balanced b l) (kept : BooksKept b') {ticket : Ticket}
    {pos : Position} {trade : TradeRecord}
    (stored : b.positions.get? ticket = some pos)
    (positions : b'.positions = b.positions.erase ticket)
    (volume : trade.volume = pos.volume)
    (tickets : b'.nextTicket = b.nextTicket) (pending : b'.pending = b.pending)
    (names : b'.strategyIdByTicket = b.strategyIdByTicket.erase ticket)
    (trades : b'.trades = b.trades ++ [trade]) :
    Balanced b' (l.after [] [(ticket, trade)] [ticket]) := by
  have filled : (l.after [] [(ticket, trade)] [ticket]).filled = l.filled := by
    simp [Ledger.after, Ledger.filled]
  have here : ticket ∈ b.positions.keys := by
    rw [← Dict.get?_isSome_iff, stored]
    rfl
  rcases (balanced.exact.opened ticket).mp here with ⟨known, notClosed⟩
  have elsewhere : ∀ other, other ≠ ticket →
      b'.positions.get? other = b.positions.get? other := by
    intro other apart
    rw [positions, Dict.get?_erase_of_ne _ apart]
  exact
    { kept := kept
      strategies := by
        intro other named
        rw [names, Dict.get?_isSome_iff, Dict.mem_keys_erase,
          ← Dict.get?_isSome_iff] at named
        rw [Dict.get?_isSome_iff, positions, Dict.mem_keys_erase,
          ← Dict.get?_isSome_iff]
        exact ⟨named.1, balanced.strategies other named.2⟩
      issued := by rw [filled, tickets]; exact balanced.issued
      waiting := by rw [filled, pending]; exact balanced.waiting
      chunked := by
        intro chunk member
        rw [filled]
        simp only [Ledger.after, List.mem_append, List.mem_singleton] at member
        rcases member with before | rfl
        · exact balanced.chunked chunk before
        · exact known
      exact :=
        { trades := by
            rw [trades, ← balanced.exact.trades]
            simp [Ledger.after]
          filled_once := by rw [filled]; exact balanced.exact.filled_once
          closed_once := by
            rw [Ledger.after, List.nodup_append]
            refine ⟨balanced.exact.closed_once, List.nodup_singleton _, ?_⟩
            rintro one member two single rfl
            exact notClosed (List.mem_singleton.mp single ▸ member)
          closed_filled := by
            intro other member
            rw [filled]
            simp only [Ledger.after, List.mem_append, List.mem_singleton]
              at member
            rcases member with before | rfl
            · exact balanced.exact.closed_filled other before
            · exact known
          opened := by
            intro other
            rw [positions, Dict.mem_keys_erase, filled,
              balanced.exact.opened other]
            simp only [Ledger.after, List.mem_append, List.mem_singleton]
            tauto
          volumes := by
            apply balanced.volumes_after _ elsewhere
            rw [Dict.shareAt_of_get? _ stored, positions,
              Dict.shareAt_of_fresh _ (Dict.get?_erase_self _ _), zero_add]
            exact volume } }

end Balanced

/-! ### One operation at a time -/

section Operations

variable {cfg : SimConfig σ} {b : SimBroker σ} {l : Ledger}

theorem eventFills_append (one two : List Event) :
    eventFills (one ++ two) = eventFills one ++ eventFills two :=
  List.filterMap_append

theorem closedTickets_append (one two : List Event) :
    closedTickets (one ++ two) = closedTickets one ++ closedTickets two :=
  List.filterMap_append

/-- Nothing is reported. -/
theorem Balanced.quiet (balanced : Balanced b l)
    {fills : List (Ticket × ℚ)} {closed : List Ticket} (noFill : fills = [])
    (noClose : closed = []) : Balanced b (l.after fills [] closed) := by
  subst noFill noClose
  rw [l.after_nil]
  exact balanced

theorem Balanced.slip (balanced : Balanced b l) (slippage : σ) :
    Balanced { b with slippageState := slippage } l :=
  balanced.congr (balanced.kept.congr rfl rfl rfl rfl) le_rfl (fun _ => rfl)
    (fun _ waits => .inl waits) rfl rfl

/-- The ledger after a placement. -/
def Ledger.afterPlacement (l : Ledger) (call : Call σ OrderResult) : Ledger :=
  l.after (resultFills call.outcome ++ eventFills call.events) []
    (closedTickets call.events)

theorem fillMarket_balanced (balanced : Balanced b l) (req : OrderRequest)
    (bid ask : ℚ) (kept : BooksKept (b.fillMarket cfg req bid ask).broker) :
    Balanced (b.fillMarket cfg req bid ask).broker
      (l.afterPlacement (b.fillMarket cfg req bid ask)) := by
  have issued : b.nextTicket < b.nextTicket + 1 := Int.lt_succ _
  unfold fillMarket at kept ⊢
  dsimp only at kept ⊢
  cases built : buildPosition b.nextTicket req.symbol req.side req.volume
      (cfg.slippageFn b.slippageState req.side bid ask).1 b.simTime req.sl
      req.tp req.comment req.magic req.volume_pos with
  | none =>
      rw [built] at kept
      dsimp only at kept ⊢
      have raised := balanced.congr kept issued.le (fun _ => rfl)
        (fun _ waits => .inl waits) rfl rfl
      exact raised.quiet rfl rfl
  | some pos =>
      rw [built] at kept
      dsimp only at kept ⊢
      rcases buildPosition_ticket built with ⟨ticketed, -, -, volume, -⟩
      have fresh : b.nextTicket ∉ l.filled := fun member =>
        lt_irrefl _ (balanced.issued _ member)
      change Balanced _ (l.after [(b.nextTicket, req.volume)] [] [])
      rw [← volume]
      exact balanced.fill kept fresh issued issued.le
        (by rw [← ticketed]; rfl) (by rw [← ticketed]; rfl)
        (fun _ waits => waits) rfl

theorem placeOrder_balanced (balanced : Balanced b l) (req : OrderRequest) :
    Balanced (b.placeOrder cfg req).broker
      (l.afterPlacement (b.placeOrder cfg req)) := by
  have kept : BooksKept (b.placeOrder cfg req).broker :=
    balanced.kept.moves (perform_moves cfg b (.placeOrder req))
  unfold placeOrder at kept ⊢
  split
  · rename_i bid ask quotedBid quotedAsk
    rw [quotedBid, quotedAsk] at kept
    dsimp only at kept
    split
    · rename_i resting
      rw [if_pos resting] at kept
      split
      · exact balanced.quiet rfl rfl
      · rename_i price priced
        rw [priced] at kept
        have parked : Balanced (b.parkPending req).broker l := by
          refine balanced.congr kept (Int.lt_succ _).le (fun _ => rfl) ?_ rfl rfl
          intro ticket waits
          change ((b.pending.set b.nextTicket (b.pendingOrder req)).get?
            ticket).isSome at waits
          rw [Dict.get?_set] at waits
          split at waits
          · rename_i same
            exact .inr (le_of_eq same.symm)
          · exact .inl waits
        exact parked.quiet rfl rfl
    · rename_i market
      rw [if_neg market] at kept
      exact fillMarket_balanced balanced req bid ask kept
  · exact balanced.quiet rfl rfl

theorem promotePending_balanced (cfg : SimConfig σ) (balanced : Balanced b l) {ticket : Ticket}
    {pending : Order} (fillPrice : ℚ)
    (waiting : b.pending.get? ticket = some pending) :
    let call := b.promotePending cfg ticket pending fillPrice
    Balanced call.broker
      (l.after (eventFills call.events) [] (closedTickets call.events)) := by
  have kept : BooksKept
      (b.promotePending cfg ticket pending fillPrice).broker :=
    balanced.kept.moves (promotePending_moves cfg b fillPrice waiting)
  rcases balanced.kept.pending_ticket waiting with ⟨named, -, issued⟩
  unfold promotePending at kept ⊢
  cases built : buildPosition ticket pending.symbol pending.side pending.volume
      fillPrice b.simTime pending.sl pending.tp pending.comment pending.magic
      pending.volume_pos with
  | none =>
      exact balanced.quiet rfl rfl
  | some pos =>
      rw [built] at kept
      dsimp only at kept ⊢
      rcases buildPosition_ticket built with ⟨ticketed, -, -, volume, -⟩
      have fresh : ticket ∉ l.filled :=
        balanced.waiting ticket (by rw [waiting]; rfl)
      change Balanced _ (l.after [(pending.ticket, pending.volume)] [] [])
      rw [named, ← volume]
      subst ticketed
      refine balanced.fill kept fresh issued le_rfl rfl rfl ?_ rfl
      intro other waits
      rw [Dict.get?_isSome_iff] at waits ⊢
      exact (Dict.mem_keys_erase _).mp waits |>.2

/-- Induction on the listing, as in `promoteAll_moves`. -/
theorem promoteAll_balanced (fires : Order → Bool)
    (fillPrice : Order → σ → ℚ × σ) :
    ∀ (listing : List (Ticket × Order)) (b : SimBroker σ) (l : Ledger),
      Balanced b l → (listing.map Prod.fst).Nodup →
      (∀ entry ∈ listing, b.pending.get? entry.1 = some entry.2) →
      Balanced (promoteAll cfg fires fillPrice listing b).broker
        (l.after (eventFills (promoteAll cfg fires fillPrice listing b).events)
          [] (closedTickets
            (promoteAll cfg fires fillPrice listing b).events))
  | [], b, l, balanced, _, _ => by
      unfold promoteAll
      exact balanced.quiet rfl rfl
  | (ticket, pending) :: rest, b, l, balanced, unique, waiting => by
      rw [List.map_cons, List.nodup_cons] at unique
      have headWaits := waiting _ List.mem_cons_self
      have restWaits : ∀ entry ∈ rest, b.pending.get? entry.1 = some entry.2 :=
        fun entry member => waiting entry (List.mem_cons_of_mem _ member)
      unfold promoteAll
      cases fired : fires pending with
      | false =>
          simp only [Bool.false_eq_true, if_false]
          exact promoteAll_balanced fires fillPrice rest b l balanced unique.2
            restWaits
      | true =>
          simp only [if_true]
          have promoted := promotePending_balanced cfg
            (balanced.slip (fillPrice pending b.slippageState).2)
            (fillPrice pending b.slippageState).1 headWaits
          split
          · exact promoted
          · rw [eventFills_append, closedTickets_append, ← Ledger.after_after]
            refine promoteAll_balanced fires fillPrice rest _ _ promoted
              unique.2 ?_
            intro entry member
            have apart : entry.1 ≠ ticket := fun same =>
              unique.1 (same ▸ List.mem_map.mpr ⟨entry, member, rfl⟩)
            rw [promotePending_pending cfg _ ticket entry.1 pending _ apart]
            exact restWaits entry member

theorem modifyOrder_balanced (cfg : SimConfig σ) (balanced : Balanced b l)
    (ticket : Ticket) (changes : OrderChanges) :
    Balanced (b.modifyOrder ticket changes).broker l := by
  have kept : BooksKept (b.modifyOrder ticket changes).broker :=
    balanced.kept.moves (modifyOrder_moves cfg b ticket changes)
  unfold modifyOrder at kept ⊢
  cases waiting : b.pending.get? ticket with
  | some pending =>
      rw [waiting] at kept
      dsimp only at kept ⊢
      cases amended : changes.amendOrder pending with
      | none => exact balanced
      | some updated =>
          rw [amended] at kept
          refine balanced.congr kept le_rfl (fun _ => rfl) ?_ rfl rfl
          intro other waits
          left
          rw [Dict.get?_isSome_iff] at waits ⊢
          rcases (Dict.mem_keys_set _).mp waits with rfl | before
          · rw [← Dict.get?_isSome_iff, waiting]
            rfl
          · exact before
  | none =>
      rw [waiting] at kept
      dsimp only at kept ⊢
      cases stored : b.positions.get? ticket with
      | none => exact balanced
      | some pos =>
          rw [stored] at kept
          refine balanced.congr kept le_rfl ?_ (fun _ waits => .inl waits) rfl rfl
          intro other
          change ((b.positions.set ticket (changes.amendPosition pos)).get?
            other).map Position.volume = _
          rw [Dict.get?_set]
          split
          · rename_i same
            rw [same, stored]
            rfl
          · rfl

theorem cancelOrder_balanced (cfg : SimConfig σ) (balanced : Balanced b l)
    (ticket : Ticket) :
    Balanced (b.cancelOrder ticket).broker
      (l.after (eventFills (b.cancelOrder ticket).events) []
        (closedTickets (b.cancelOrder ticket).events)) := by
  have kept : BooksKept (b.cancelOrder ticket).broker :=
    balanced.kept.moves (cancelOrder_moves cfg b ticket)
  unfold cancelOrder at kept ⊢
  cases waiting : b.pending.get? ticket with
  | none => exact balanced.quiet rfl rfl
  | some pending =>
      rw [waiting] at kept
      have erased : Balanced { b with pending := b.pending.erase ticket } l := by
        refine balanced.congr kept le_rfl (fun _ => rfl) ?_ rfl rfl
        intro other waits
        left
        rw [Dict.get?_isSome_iff] at waits ⊢
        exact ((Dict.mem_keys_erase _).mp waits).2
      exact erased.quiet rfl rfl

/-- The ledger after a close of a ticket. -/
def Ledger.afterClose (l : Ledger) (b : SimBroker σ) (ticket : Ticket)
    (call : Call σ OrderResult) : Ledger :=
  l.after (eventFills call.events)
    ((call.broker.trades.drop b.trades.length).map fun trade => (ticket, trade))
    (closedTickets call.events)

theorem Ledger.afterClose_refused (l : Ledger) (b : SimBroker σ)
    (ticket : Ticket) (message : RejectMessage) :
    l.afterClose b ticket (b.returns (.refused message)) = l := by
  simp [Ledger.afterClose, returns, eventFills, closedTickets, l.after_nil]

theorem closeFully_balanced (balanced : Balanced b l) {ticket : Ticket}
    {pos : Position} (mid : ℚ)
    (stored : b.positions.get? ticket = some pos) :
    Balanced (b.closeFully cfg ticket pos mid).broker
      (l.afterClose b ticket (b.closeFully cfg ticket pos mid)) := by
  have kept : BooksKept (b.closeFully cfg ticket pos mid).broker :=
    balanced.kept.moves (closeFully_moves cfg b mid stored)
  have reported : l.afterClose b ticket (b.closeFully cfg ticket pos mid) =
      l.after [] [(ticket, (b.settle cfg pos pos.volume
        (b.closePriceFor cfg pos mid).1).1)] [ticket] := by
    simp [Ledger.afterClose, closeFully, removePosition, book, closeEvents,
      eventFills, closedTickets, (balanced.kept.position_ticket stored).1]
  rw [reported]
  exact balanced.close kept stored rfl rfl rfl rfl rfl rfl

theorem closePartly_balanced (balanced : Balanced b l) {ticket : Ticket}
    {pos : Position} (mid chunk : ℚ) (smaller : chunk < pos.volume)
    (stored : b.positions.get? ticket = some pos) (positive : 0 < chunk) :
    Balanced (b.closePartly cfg ticket pos mid chunk smaller).broker
      (l.afterClose b ticket
        (b.closePartly cfg ticket pos mid chunk smaller)) := by
  have kept : BooksKept (b.closePartly cfg ticket pos mid chunk smaller).broker :=
    balanced.kept.moves (closePartly_moves cfg b mid chunk smaller stored)
  unfold closePartly at kept ⊢
  dsimp only at kept ⊢
  rw [if_pos positive] at kept ⊢
  have reported : ∀ call : Call σ OrderResult,
      call.broker.trades = b.trades ++ [(b.settle cfg pos chunk
        (b.closePriceFor cfg pos mid).1).1] →
      eventFills call.events = [] → closedTickets call.events = [] →
      l.afterClose b ticket call = l.after [] [(ticket, (b.settle cfg pos chunk
        (b.closePriceFor cfg pos mid).1).1)] [] := by
    intro call trades fills closed
    simp [Ledger.afterClose, trades, fills, closed]
  rw [reported _ rfl rfl rfl]
  refine balanced.chunk kept stored rfl ?_ rfl rfl rfl rfl
  exact sub_add_cancel pos.volume chunk

theorem closePosition_balanced (balanced : Balanced b l) (ticket : Ticket)
    (volume : Option ℚ) (positive : VolumePositive (.closePosition ticket volume)) :
    Balanced (b.closePosition cfg ticket volume).broker
      (l.afterClose b ticket (b.closePosition cfg ticket volume)) := by
  unfold closePosition
  split
  · rw [Ledger.afterClose_refused]
    exact balanced
  · rename_i pos stored
    split
    · rw [Ledger.afterClose_refused]
      exact balanced
    · split
      · exact closeFully_balanced balanced _ stored
      · split
        · exact closePartly_balanced balanced _ _ _ stored positive
        · exact closeFully_balanced balanced _ stored

/-- The step lemma, one case per operation. -/
theorem ledgerStep_balanced {s : SimBroker σ × Ledger}
    (balanced : Balanced s.1 s.2) {op : BrokerOp} (positive : VolumePositive op) :
    Balanced (ledgerStep cfg s op).1 (ledgerStep cfg s op).2 := by
  have market : ∀ b' : SimBroker σ, b'.nextTicket = s.1.nextTicket →
      b'.positions = s.1.positions → b'.pending = s.1.pending →
      b'.strategyIdByTicket = s.1.strategyIdByTicket →
      b'.trades = s.1.trades → Balanced b' s.2 := by
    intro b' tickets positions pending names trades
    exact balanced.congr (balanced.kept.congr tickets positions pending names)
      tickets.ge (fun _ => by rw [positions])
      (fun _ waits => .inl (pending ▸ waits)) names trades
  cases op with
  | setMarket symbol price =>
      exact (market (s.1.setMarket symbol price) rfl rfl rfl rfl rfl).quiet
        rfl rfl
  | setMarketTick symbol bid ask =>
      exact (market (s.1.setMarketTick symbol bid ask) rfl rfl rfl rfl rfl).quiet
        rfl rfl
  | advanceClock t =>
      exact (market (s.1.advanceClock t) rfl rfl rfl rfl rfl).quiet rfl rfl
  | placeOrder req => exact placeOrder_balanced balanced req
  | checkPending symbol bid ask =>
      exact promoteAll_balanced _ _ _ s.1 s.2 balanced s.1.pending.nodup
        s.1.pending_items_wait
  | checkPendingBar symbol barHigh barLow =>
      exact promoteAll_balanced _ _ _ s.1 s.2 balanced s.1.pending.nodup
        s.1.pending_items_wait
  | modifyOrder ticket changes =>
      have modified := modifyOrder_balanced cfg balanced ticket changes
      have silent : (s.1.modifyOrder ticket changes).events = [] := by
        unfold modifyOrder
        split <;> split <;> rfl
      refine modified.quiet ?_ ?_
      · change eventFills (s.1.modifyOrder ticket changes).events = []
        rw [silent]
        rfl
      · change closedTickets (s.1.modifyOrder ticket changes).events = []
        rw [silent]
        rfl
  | closePosition ticket volume =>
      exact closePosition_balanced balanced ticket volume positive
  | cancelOrder ticket => exact cancelOrder_balanced cfg balanced ticket

end Operations

/-! ### Runs -/

theorem balanced_create (initialBalance : ℚ) (slippage : σ) (now : Time) :
    Balanced (create initialBalance slippage now) .empty where
  kept := booksKept_create initialBalance slippage now
  strategies := by intro ticket named; cases named
  issued := by intro ticket member; cases member
  waiting := by intro ticket waits; cases waits
  chunked := by intro chunk member; cases member
  exact :=
    { trades := rfl
      filled_once := List.nodup_nil
      closed_once := List.nodup_nil
      closed_filled := by intro ticket member; cases member
      opened := by
        intro ticket
        constructor
        · intro member
          cases member
        · rintro ⟨member, -⟩
          cases member
      volumes := by intro fill member; cases member }

theorem ledgerRun_balanced (cfg : SimConfig σ) {s : SimBroker σ × Ledger}
    (balanced : Balanced s.1 s.2) {ops : List BrokerOp}
    (positive : ∀ op ∈ ops, VolumePositive op) :
    Balanced (ops.foldl (ledgerStep cfg) s).1
      (ops.foldl (ledgerStep cfg) s).2 := by
  induction ops generalizing s with
  | nil => exact balanced
  | cons op ops ih =>
      exact ih (ledgerStep_balanced balanced (positive op List.mem_cons_self))
        fun later member => positive later (List.mem_cons_of_mem _ member)

theorem Balanced.storeKept {b : SimBroker σ} {l : Ledger}
    (balanced : Balanced b l) : StoreKept b where
  disjoint := by
    intro ticket opened waits
    rw [← Dict.get?_isSome_iff] at opened waits
    obtain ⟨order, found⟩ := Option.isSome_iff_exists.mp waits
    rw [balanced.kept.apart found] at opened
    cases opened
  position_ticket := by
    intro ticket pos stored
    rcases balanced.kept.position_ticket stored with ⟨named, -, below⟩
    exact ⟨named, below, pos.volume_pos⟩
  pending_ticket := by
    intro ticket order waits
    rcases balanced.kept.pending_ticket waits with ⟨named, -, below⟩
    exact ⟨named, below, order.volume_pos⟩
  strategies := by
    intro ticket
    rw [← Dict.get?_isSome_iff, ← Dict.get?_isSome_iff]
    constructor
    · exact balanced.strategies ticket
    · intro opened
      obtain ⟨pos, stored⟩ := Option.isSome_iff_exists.mp opened
      obtain ⟨strategyId, named⟩ := balanced.kept.named stored
      rw [named]
      rfl

/-! ### Refusals -/

theorem placeOrder_refused {cfg : SimConfig σ} {b : SimBroker σ}
    {req : OrderRequest} {result : OrderResult}
    (answered : (b.placeOrder cfg req).outcome = .ok result)
    (refused : result.ok = false) :
    ∃ message, b.placeOrder cfg req = b.returns (.refused message) := by
  have placed := placeOrder_placed cfg b req
  generalize b.placeOrder cfg req = call at placed answered ⊢
  cases placed with
  | refused message => exact ⟨message, rfl⟩
  | parked => cases answered; cases refused
  | raised slippage => cases answered
  | filled slippage pos mid fillPrice ticketed symbol =>
      cases answered
      cases refused

/-- A refused operation did nothing and published nothing. -/
theorem perform_refused {cfg : SimConfig σ} {b : SimBroker σ} {op : BrokerOp}
    {result : OrderResult} (positive : VolumePositive op)
    (answered : resultOf cfg b op = some (.ok result))
    (refused : result.ok = false) :
    perform cfg b op = (b, []) ∧ fillsOf cfg b op = [] := by
  have quiet : ∀ call : Call σ OrderResult,
      (∃ message, call = b.returns (.refused message)) →
      (call.broker, call.events) = (b, []) := by
    rintro call ⟨message, rfl⟩
    rfl
  have unfilled : perform cfg b op = (b, []) →
      eventFills (perform cfg b op).2 = [] := by
    intro same
    rw [same]
    rfl
  cases op with
  | placeOrder req =>
      have refusal := placeOrder_refused (Option.some.inj answered) refused
      have same : perform cfg b (.placeOrder req) = (b, []) := quiet _ refusal
      refine ⟨same, ?_⟩
      rcases refusal with ⟨message, refusal⟩
      simp only [fillsOf, unfilled same, refusal, List.append_nil]
      rfl
  | modifyOrder ticket changes =>
      have same : perform cfg b (.modifyOrder ticket changes) = (b, []) :=
        quiet _ ((modifyOrder_answered b ticket changes).of_refused
          (Option.some.inj answered) refused)
      exact ⟨same, unfilled same⟩
  | closePosition ticket volume =>
      have chunked : ∀ chunk, volume = some chunk → 0 < chunk := by
        rintro chunk rfl
        exact positive
      have same : perform cfg b (.closePosition ticket volume) = (b, []) :=
        quiet _ ((closePosition_answered cfg b ticket volume chunked).of_refused
          (Option.some.inj answered) refused)
      exact ⟨same, unfilled same⟩
  | cancelOrder ticket =>
      have same : perform cfg b (.cancelOrder ticket) = (b, []) :=
        quiet _ ((cancelOrder_answered b ticket).of_refused
          (Option.some.inj answered) refused)
      exact ⟨same, unfilled same⟩
  | setMarket symbol price => cases answered
  | setMarketTick symbol bid ask => cases answered
  | advanceClock t => cases answered
  | checkPending symbol bid ask => cases answered
  | checkPendingBar symbol barHigh barLow => cases answered

theorem ledgerStep_refused {cfg : SimConfig σ} {s : SimBroker σ × Ledger}
    {op : BrokerOp} {result : OrderResult} (positive : VolumePositive op)
    (answered : resultOf cfg s.1 op = some (.ok result))
    (refused : result.ok = false) : ledgerStep cfg s op = s := by
  rcases perform_refused positive answered refused with ⟨same, unfilled⟩
  have unbooked : chunksOf cfg s.1 op = [] := by
    unfold chunksOf
    split
    · rw [same, List.drop_length]
      rfl
    · rfl
  unfold ledgerStep
  rw [same, unfilled, unbooked]
  exact Prod.ext rfl s.2.after_nil

/-- Bought, and half of it sold again. -/
def halfSold : List BrokerOp :=
  [.setMarket "EURUSD" 1, .placeOrder trendBuys, .closePosition 1 (some (1 / 2))]

end StingerFx.SimBroker
