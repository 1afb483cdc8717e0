/-
Module: StingerFx.Proofs.OrderFlow
Layer: Proofs
Purpose: What the monitor's counters know about the broker while fills and closes
  are under way. Every open position is either in the ticket map or its fill is
  still to be handled; a close that waits concerns a position that is gone; so
  the counters, corrected by the fills under way, never fall below the number of
  open positions of a strategy or a symbol.
Trusted boundary: none (fully proved)
Main exports: Scope, openTickets, restingTickets, Tracked, SymbolCounted,
  TradingSystem.Sound, TradingSystem.Sound.step, TradingSystem.open_le_counter
-/
import StingerFx.Runtime.TradingSystem

namespace StingerFx

open Lib

variable {σ : Type}

/-! ### What a cap is about -/

/-- The positions of a strategy, or those on a symbol. -/
inductive Scope where
  | strategy (id : StrategyId)
  | symbol (name : Symbol)
deriving DecidableEq

namespace Scope

/-- The configured cap, zero for none. -/
def cap (cfg : RiskConfig) : Scope → Nat
  | .strategy _ => cfg.maxOpenPositionsPerStrategy
  | .symbol name =>
      match cfg.perSymbol.get? name with
      | none => 0
      | some symCfg => symCfg.maxOpenPositions

/-- The counter that the monitor compares with the cap. -/
def counter (m : RiskMonitor) : Scope → Int
  | .strategy id => m.openPositions.getD id 0
  | .symbol name => m.openPositionsBySymbol.getD name 0

def order (order : Order) : Scope → Bool
  | .strategy id => decide (order.strategyId = id)
  | .symbol name => decide (order.symbol = name)

def request (req : OrderRequest) : Scope → Bool
  | .strategy id => decide (req.strategyId = id)
  | .symbol name => decide (req.symbol = name)

def signal (signal : Signal) : Scope → Bool
  | .strategy id => decide (signal.strategyId = id)
  | .symbol name => decide (signal.symbol = name)

/-- An open position belongs to the strategy whose order opened it. -/
def position (b : SimBroker σ) (ticket : Ticket) (pos : Position) :
    Scope → Bool
  | .strategy id => decide (b.strategyIdByTicket.get? ticket = some id)
  | .symbol name => decide (pos.symbol = name)

/-- Tickets of the open positions. -/
def openTickets (scope : Scope) (b : SimBroker σ) : Finset Ticket :=
  b.positions.keysWhere fun ticket pos => scope.position b ticket pos

/-- Tickets of the accepted orders that wait for their trigger. -/
def restingTickets (scope : Scope) (b : SimBroker σ) : Finset Ticket :=
  b.pending.keysWhere fun _ order => scope.order order

/-- Tickets that are, or may become, open positions. -/
def heldTickets (scope : Scope) (b : SimBroker σ) : Finset Ticket :=
  scope.openTickets b ∪ scope.restingTickets b

theorem mem_openTickets {scope : Scope} {b : SimBroker σ} {ticket : Ticket} :
    ticket ∈ scope.openTickets b ↔
      ∃ pos, b.positions.get? ticket = some pos ∧
        scope.position b ticket pos = true :=
  Dict.mem_keysWhere

theorem mem_restingTickets {scope : Scope} {b : SimBroker σ} {ticket : Ticket} :
    ticket ∈ scope.restingTickets b ↔
      ∃ order, b.pending.get? ticket = some order ∧ scope.order order = true :=
  Dict.mem_keysWhere

/-- Open tickets depend on the positions and on the names behind them. -/
theorem openTickets_congr (scope : Scope) {b b' : SimBroker σ}
    (positions : b'.positions = b.positions)
    (names : b'.strategyIdByTicket = b.strategyIdByTicket) :
    scope.openTickets b' = scope.openTickets b := by
  ext ticket
  rw [mem_openTickets, mem_openTickets, positions]
  cases scope with
  | strategy id => simp only [position, names]
  | symbol name => simp only [position]

/-- A position opened for an order is in the order's scopes. -/
theorem position_opened (scope : Scope) (b : SimBroker σ) (pos : Position)
    (order : Order) (symbol : pos.symbol = order.symbol)
    (named : b.strategyIdByTicket.get? pos.ticket = some order.strategyId) :
    scope.position b pos.ticket pos = scope.order order := by
  cases scope with
  | strategy id => simp [position, Scope.order, named]
  | symbol name => simp [position, Scope.order, symbol]

/-- Opening a position adds at most its ticket. -/
theorem openTickets_openPosition (scope : Scope) (cfg : SimConfig σ)
    (b : SimBroker σ) (pos : Position) (strategyId : StrategyId) :
    scope.openTickets (b.openPosition cfg pos strategyId) ⊆
      insert pos.ticket (scope.openTickets b) := by
  intro ticket member
  rcases mem_openTickets.mp member with ⟨found, stored, inside⟩
  rw [Finset.mem_insert]
  by_cases same : ticket = pos.ticket
  · exact .inl same
  · right
    have before : b.positions.get? ticket = some found :=
      (Dict.get?_set_of_ne b.positions pos same).symm.trans stored
    refine mem_openTickets.mpr ⟨found, before, ?_⟩
    cases scope with
    | symbol name => exact inside
    | strategy id =>
        have name := Dict.get?_set_of_ne b.strategyIdByTicket strategyId same
        simp only [position, SimBroker.openPosition, name] at inside ⊢
        exact inside

/-- The new ticket itself counts only in the scopes of the order. -/
theorem openTickets_openPosition_outside {scope : Scope} {cfg : SimConfig σ}
    {b : SimBroker σ} {pos : Position} {order : Order}
    (symbol : pos.symbol = order.symbol) (outside : scope.order order = false) :
    scope.openTickets (b.openPosition cfg pos order.strategyId) ⊆
      scope.openTickets b := by
  intro ticket member
  rcases Finset.mem_insert.mp (openTickets_openPosition scope cfg b pos
    order.strategyId member) with rfl | before
  · rcases mem_openTickets.mp member with ⟨found, stored, inside⟩
    have same : found = pos :=
      Option.some.inj (stored.symm.trans (Dict.get?_set_self _ _ _))
    subst same
    rw [position_opened scope _ found order symbol (Dict.get?_set_self _ _ _),
      outside] at inside
    cases inside
  · exact before

/-- Rewriting a position in place moves no ticket. -/
theorem openTickets_reset {scope : Scope} {b b' : SimBroker σ}
    {ticket : Ticket} {pos pos' : Position}
    (stored : b.positions.get? ticket = some pos)
    (positions : b'.positions = b.positions.set ticket pos')
    (symbol : pos'.symbol = pos.symbol)
    (names : b'.strategyIdByTicket = b.strategyIdByTicket) :
    scope.openTickets b' ⊆ scope.openTickets b := by
  intro other member
  rcases mem_openTickets.mp member with ⟨found, foundStored, inside⟩
  rw [positions, Dict.get?_set] at foundStored
  split at foundStored
  · rename_i same
    subst same
    cases foundStored
    refine mem_openTickets.mpr ⟨pos, stored, ?_⟩
    cases scope with
    | strategy id => simpa [position, names] using inside
    | symbol name => simpa [position, symbol] using inside
  · refine mem_openTickets.mpr ⟨found, foundStored, ?_⟩
    cases scope with
    | strategy id => simpa [position, names] using inside
    | symbol name => simpa [position] using inside

/-- Removing a position drops its ticket. -/
theorem openTickets_removed {scope : Scope} {b b' : SimBroker σ}
    {ticket : Ticket} (positions : b'.positions = b.positions.erase ticket)
    (names : b'.strategyIdByTicket = b.strategyIdByTicket.erase ticket) :
    scope.openTickets b' ⊆ (scope.openTickets b).erase ticket := by
  intro other member
  rcases mem_openTickets.mp member with ⟨found, stored, inside⟩
  rw [positions, Dict.get?_erase] at stored
  split at stored
  · cases stored
  · rename_i apart
    refine Finset.mem_erase.mpr ⟨apart, mem_openTickets.mpr ⟨found, stored, ?_⟩⟩
    cases scope with
    | strategy id =>
        simpa [position, names, Dict.get?_erase_of_ne _ apart] using inside
    | symbol name => simpa [position] using inside

/-- Without a placement, nothing is held that was not held before. -/
theorem heldTickets_move {scope : Scope} {cfg : SimConfig σ}
    {b b' : SimBroker σ} {events : List Event}
    (moved : SimBroker.Move cfg false b events b') :
    scope.heldTickets b' ⊆ scope.heldTickets b := by
  cases moved with
  | quote => exact fun _ member => member
  | burnTicket issues => cases issues
  | park req issues => cases issues
  | openMarket pos strategyId ticketed issues => cases issues
  | promote ticket pending fillPrice pos waiting built =>
      rcases SimBroker.buildPosition_ticket built with ⟨ticketed, symbol, -⟩
      apply Finset.union_subset
      · intro other member
        cases inside : scope.order pending with
        | false =>
            have before : scope.openTickets
                (b.openPosition cfg pos pending.strategyId) ⊆
                  scope.openTickets b :=
              openTickets_openPosition_outside symbol inside
            exact Finset.mem_union_left _ (before member)
        | true =>
            have opened := openTickets_openPosition scope cfg b pos
              pending.strategyId member
            rcases Finset.mem_insert.mp opened with rfl | before
            · refine Finset.mem_union_right _
                (mem_restingTickets.mpr ⟨pending, ?_, inside⟩)
              rw [ticketed]
              exact waiting
            · exact Finset.mem_union_left _ before
      · intro other member
        rcases mem_restingTickets.mp member with ⟨order, rests, inside⟩
        rw [Dict.get?_erase] at rests
        split at rests
        · cases rests
        · exact Finset.mem_union_right _
            (mem_restingTickets.mpr ⟨order, rests, inside⟩)
  | amendPending ticket pending updated changes waiting amended =>
      rcases SimBroker.BooksKept.amendOrder_ticket amended with
        ⟨-, symbol, strategyId⟩
      apply Finset.union_subset_union (fun _ member => member)
      intro other member
      rcases mem_restingTickets.mp member with ⟨order, rests, inside⟩
      rw [Dict.get?_set] at rests
      split at rests
      · rename_i same
        cases rests
        refine mem_restingTickets.mpr ⟨pending, same ▸ waiting, ?_⟩
        cases scope with
        | strategy id => simpa [Scope.order, strategyId] using inside
        | symbol name => simpa [Scope.order, symbol] using inside
      · exact mem_restingTickets.mpr ⟨order, rests, inside⟩
  | amendPosition ticket pos changes stored =>
      exact Finset.union_subset_union (openTickets_reset stored rfl rfl rfl)
        (fun _ member => member)
  | shrink ticket pos chunk closePrice slippage smaller stored =>
      exact Finset.union_subset_union (openTickets_reset stored rfl rfl rfl)
        (fun _ member => member)
  | grow ticket pos chunk closePrice slippage smaller stored =>
      exact Finset.union_subset_union (openTickets_reset stored rfl rfl rfl)
        (fun _ member => member)
  | close ticket pos closePrice slippage stored =>
      have removed : scope.openTickets
          (b.removePosition (b.settle cfg pos pos.volume closePrice) slippage
            ticket) ⊆ (scope.openTickets b).erase ticket :=
        openTickets_removed rfl rfl
      exact Finset.union_subset_union
        (removed.trans (Finset.erase_subset _ _)) (fun _ member => member)
  | cancel ticket pending waiting =>
      apply Finset.union_subset_union (fun _ member => member)
      intro other member
      rcases mem_restingTickets.mp member with ⟨order, rests, inside⟩
      rw [Dict.get?_erase] at rests
      split at rests
      · cases rests
      · exact mem_restingTickets.mpr ⟨order, rests, inside⟩

theorem heldTickets_moves {scope : Scope} {cfg : SimConfig σ}
    {b b' : SimBroker σ} {events : List Event}
    (moved : SimBroker.Moves cfg false b events b') :
    scope.heldTickets b' ⊆ scope.heldTickets b :=
  moved.relates (R := fun s _ s' => scope.heldTickets s' ⊆ scope.heldTickets s)
    (fun _ => Finset.Subset.refl _) (fun one two => two.trans one)
    heldTickets_move

end Scope

/-! ### Messages under way -/

/-- The fills among some events, as the monitor's subscription sees them. -/
def fillsOf (events : List Event) : List FillMessage :=
  events.filterMap fun
    | .orderFilled order accountId => some ⟨order, accountId⟩
    | _ => none

def closesOf (events : List Event) : List CloseMessage :=
  events.filterMap fun
    | .positionClosed position realizedPnl accountId _ =>
        some ⟨position, realizedPnl, accountId⟩
    | _ => none

@[simp] theorem fillsOf_append (first second : List Event) :
    fillsOf (first ++ second) = fillsOf first ++ fillsOf second :=
  List.filterMap_append

@[simp] theorem closesOf_append (first second : List Event) :
    closesOf (first ++ second) = closesOf first ++ closesOf second :=
  List.filterMap_append

/-- Ticket-map entries of a strategy. -/
def mapped (m : RiskMonitor) (id : StrategyId) : Finset (AccountId × Ticket) :=
  m.ticketToStrategy.keysWhere fun _ owner => decide (owner = id)

theorem mem_mapped {m : RiskMonitor} {id : StrategyId}
    {key : AccountId × Ticket} :
    key ∈ mapped m id ↔ m.ticketToStrategy.get? key = some id := by
  simp [mapped, Dict.mem_keysWhere]

/-- Broker, monitor and the messages between them fit together: fills under way
name tickets that were issued and wait for nothing, closes that wait concern
positions that are gone, and every open position is known to the monitor or its
fill is under way. -/
structure Tracked (b : SimBroker σ) (m : RiskMonitor)
    (fills : List FillMessage) (closes : List CloseMessage) : Prop where
  fill_account : ∀ fill ∈ fills, fill.accountId = b.accountId
  fill_ticket : ∀ fill ∈ fills,
    0 < fill.order.ticket ∧ fill.order.ticket < b.nextTicket ∧
      b.pending.get? fill.order.ticket = none
  fill_named : ∀ fill ∈ fills, ∀ pos,
    b.positions.get? fill.order.ticket = some pos →
    b.strategyIdByTicket.get? fill.order.ticket = some fill.order.strategyId
  close_gone : ∀ close ∈ closes,
    close.position.ticket < b.nextTicket ∧
      b.positions.get? close.position.ticket = none ∧
      b.pending.get? close.position.ticket = none
  known : ∀ {ticket pos}, b.positions.get? ticket = some pos →
    ∀ id, b.strategyIdByTicket.get? ticket = some id →
    m.ticketToStrategy.get? (b.accountId, ticket) = some id ∨
      ∃ fill ∈ fills, fill.order.ticket = ticket
  mapped_le : ∀ id, ((mapped m id).card : Int) ≤ m.openPositions.getD id 0

/-- The symbol's counter, with the fills under way, covers its open positions and
the closes that wait. -/
def SymbolCounted (name : Symbol) (b : SimBroker σ) (m : RiskMonitor)
    (fills : List FillMessage) (closes : List CloseMessage) : Prop :=
  (((Scope.symbol name).openTickets b).card : Int) +
      closes.countP (fun close => decide (close.position.symbol = name)) ≤
    m.openPositionsBySymbol.getD name 0 +
      fills.countP (fun fill => (Scope.symbol name).order fill.order)

namespace Tracked

variable {b b' : SimBroker σ} {m m' : RiskMonitor}
  {fills : List FillMessage} {closes : List CloseMessage}

/-- The monitor matters only through its position books. -/
theorem sameBooks (held : Tracked b m fills closes)
    (same : m'.books = m.books) : Tracked b m' fills closes := by
  rcases Prod.mk.inj same with ⟨counters, rest⟩
  have tickets : m'.ticketToStrategy = m.ticketToStrategy :=
    (Prod.mk.inj rest).2
  exact
    { fill_account := held.fill_account
      fill_ticket := held.fill_ticket
      fill_named := held.fill_named
      close_gone := held.close_gone
      known := by rw [tickets]; exact held.known
      mapped_le := by
        intro id
        rw [mapped, tickets, counters]
        exact held.mapped_le id }

/-- Messages may be lost from the queue of closes. -/
theorem fewerCloses (held : Tracked b m fills closes)
    {fewer : List CloseMessage} (subset : fewer ⊆ closes) :
    Tracked b m fills fewer where
  fill_account := held.fill_account
  fill_ticket := held.fill_ticket
  fill_named := held.fill_named
  close_gone := fun close member => held.close_gone close (subset member)
  known := held.known
  mapped_le := held.mapped_le

/-- A change of the broker that opens nothing new: no ticket is taken back,
every position was there under the same strategy, and every pending ticket is
old or freshly issued. -/
theorem sameOpen (held : Tracked b m fills closes)
    (account : b'.accountId = b.accountId)
    (issued : b.nextTicket ≤ b'.nextTicket)
    (positions : ∀ {ticket pos}, b'.positions.get? ticket = some pos →
      ∃ before, b.positions.get? ticket = some before)
    (names : ∀ {ticket pos}, b'.positions.get? ticket = some pos →
      b'.strategyIdByTicket.get? ticket = b.strategyIdByTicket.get? ticket)
    (pending : ∀ {ticket}, ticket < b.nextTicket →
      b.pending.get? ticket = none → b'.pending.get? ticket = none) :
    Tracked b' m fills closes where
  fill_account := by rw [account]; exact held.fill_account
  fill_ticket := by
    intro fill member
    rcases held.fill_ticket fill member with ⟨positive, below, free⟩
    exact ⟨positive, below.trans_le issued, pending below free⟩
  fill_named := by
    intro fill member pos stored
    rcases positions stored with ⟨before, storedBefore⟩
    rw [names stored]
    exact held.fill_named fill member before storedBefore
  close_gone := by
    intro close member
    rcases held.close_gone close member with ⟨below, gone, free⟩
    refine ⟨below.trans_le issued, ?_, pending below free⟩
    cases stored : b'.positions.get? close.position.ticket with
    | none => rfl
    | some pos =>
        rcases positions stored with ⟨before, storedBefore⟩
        rw [gone] at storedBefore
        cases storedBefore
  known := by
    intro ticket pos stored id named
    rcases positions stored with ⟨before, storedBefore⟩
    rw [names stored] at named
    rw [account]
    exact held.known storedBefore id named
  mapped_le := held.mapped_le

/-- A position opens together with its fill. -/
theorem opened (held : Tracked b m fills closes) {cfg : SimConfig σ}
    {pos : Position} {order : Order}
    (ticketed : order.ticket = pos.ticket)
    (positive : 0 < pos.ticket) (below : pos.ticket < b.nextTicket)
    (free : b.pending.get? pos.ticket = none)
    (unused : ∀ fill ∈ fills, fill.order.ticket ≠ pos.ticket)
    (notClosed : ∀ close ∈ closes, close.position.ticket ≠ pos.ticket) :
    Tracked (b.openPosition cfg pos order.strategyId) m
      (fills ++ [⟨order, b.accountId⟩]) closes where
  fill_account := by
    intro fill member
    rcases List.mem_append.mp member with old | new
    · exact held.fill_account fill old
    · rw [List.mem_singleton.mp new]
      rfl
  fill_ticket := by
    intro fill member
    rcases List.mem_append.mp member with old | new
    · exact held.fill_ticket fill old
    · rw [List.mem_singleton.mp new]
      dsimp only
      rw [ticketed]
      exact ⟨positive, below, free⟩
  fill_named := by
    intro fill member found stored
    rcases List.mem_append.mp member with old | new
    · have apart := unused fill old
      have before : b.positions.get? fill.order.ticket = some found :=
        (Dict.get?_set_of_ne b.positions pos apart).symm.trans stored
      exact (Dict.get?_set_of_ne b.strategyIdByTicket _ apart).trans
        (held.fill_named fill old found before)
    · rw [List.mem_singleton.mp new]
      dsimp only
      rw [ticketed]
      exact Dict.get?_set_self _ _ _
  close_gone := by
    intro close member
    rcases held.close_gone close member with ⟨issued, gone, waits⟩
    exact ⟨issued,
      (Dict.get?_set_of_ne b.positions pos (notClosed close member)).trans gone,
      waits⟩
  known := by
    intro ticket found stored id named
    by_cases same : ticket = pos.ticket
    · exact .inr ⟨⟨order, b.accountId⟩, by simp, ticketed.trans same.symm⟩
    · have before : b.positions.get? ticket = some found :=
        (Dict.get?_set_of_ne b.positions pos same).symm.trans stored
      have namedBefore : b.strategyIdByTicket.get? ticket = some id :=
        (Dict.get?_set_of_ne b.strategyIdByTicket _ same).symm.trans named
      rcases held.known before id namedBefore with inMap | ⟨fill, old, under⟩
      · exact .inl inMap
      · exact .inr ⟨fill, List.mem_append_left _ old, under⟩
  mapped_le := held.mapped_le

/-- Nothing under way concerns a ticket under which an order waits. -/
theorem not_pending (held : Tracked b m fills closes) {ticket : Ticket}
    {order : Order} (waiting : b.pending.get? ticket = some order) :
    (∀ fill ∈ fills, fill.order.ticket ≠ ticket) ∧
      ∀ close ∈ closes, close.position.ticket ≠ ticket := by
  constructor
  · intro fill member same
    have free := (held.fill_ticket fill member).2.2
    rw [same, waiting] at free
    cases free
  · intro close member same
    have free := (held.close_gone close member).2.2
    rw [same, waiting] at free
    cases free

/-- Nothing under way concerns a ticket that was not issued. -/
theorem not_next (held : Tracked b m fills closes) :
    (∀ fill ∈ fills, fill.order.ticket ≠ b.nextTicket) ∧
      ∀ close ∈ closes, close.position.ticket ≠ b.nextTicket :=
  ⟨fun fill member => (held.fill_ticket fill member).2.1.ne,
    fun close member => (held.close_gone close member).1.ne⟩

/-- A close is published when its position is gone for good. -/
theorem closed (held : Tracked b m fills closes) (kept : SimBroker.BooksKept b)
    {ticket : Ticket} {pos : Position}
    (stored : b.positions.get? ticket = some pos)
    (settled : TradeRecord × ℚ) (slippage : σ) (realizedPnl : ℚ)
    (accountId : AccountId) :
    Tracked (b.removePosition settled slippage ticket) m fills
      (closes ++ [⟨pos, realizedPnl, accountId⟩]) := by
  rcases kept.position_ticket stored with ⟨ticketed, -, below⟩
  have free : b.pending.get? ticket = none := by
    cases waiting : b.pending.get? ticket with
    | none => rfl
    | some order =>
        rw [kept.apart waiting] at stored
        cases stored
  have base : Tracked (b.removePosition settled slippage ticket) m fills
      closes := by
    refine held.sameOpen rfl le_rfl ?_ ?_ ?_
    · intro other found after
      exact ⟨found, by
        rw [SimBroker.removePosition, Dict.get?_erase] at after
        split at after
        · cases after
        · exact after⟩
    · intro other found after
      rw [SimBroker.removePosition, Dict.get?_erase] at after
      split at after
      · cases after
      · rename_i apart
        exact Dict.get?_erase_of_ne _ apart
    · intro other _ unused
      exact unused
  refine { base with close_gone := ?_ }
  intro close member
  rcases List.mem_append.mp member with old | new
  · exact base.close_gone close old
  · rw [List.mem_singleton.mp new]
    dsimp only
    rw [ticketed]
    exact ⟨below, Dict.get?_erase_self _ _, free⟩

/-- A change that publishes neither a fill nor a close. -/
theorem silent {events : List Event} (noFill : fillsOf events = [])
    (noClose : closesOf events = []) (base : Tracked b m fills closes) :
    Tracked b m (fills ++ fillsOf events) (closes ++ closesOf events) := by
  rw [noFill, noClose, List.append_nil, List.append_nil]
  exact base

/-- Pending orders may leave, and those that stay may change. -/
theorem fewerPending (held : Tracked b m fills closes)
    {pending : Dict Ticket Order}
    (fewer : ∀ ticket, b.pending.get? ticket = none →
      pending.get? ticket = none) :
    Tracked { b with pending := pending } m fills closes :=
  held.sameOpen rfl le_rfl (fun stored => ⟨_, stored⟩) (fun _ => rfl)
    (fun _ free => fewer _ free)

/-- Positions may be rewritten in place. -/
theorem reset (held : Tracked b m fills closes)
    (account : b'.accountId = b.accountId)
    (tickets : b'.nextTicket = b.nextTicket)
    (pending : b'.pending = b.pending)
    (names : b'.strategyIdByTicket = b.strategyIdByTicket)
    {ticket : Ticket} {pos pos' : Position}
    (stored : b.positions.get? ticket = some pos)
    (positions : b'.positions = b.positions.set ticket pos') :
    Tracked b' m fills closes := by
  refine held.sameOpen account tickets.ge ?_ ?_ ?_
  · intro other found after
    rw [positions, Dict.get?_set] at after
    split at after
    · rename_i same
      exact ⟨pos, same ▸ stored⟩
    · exact ⟨found, after⟩
  · intro other found after
    rw [names]
  · intro other _ free
    rw [pending]
    exact free

theorem erase_fewer {pending : Dict Ticket Order} (ticket other : Ticket)
    (free : pending.get? other = none) :
    (pending.erase ticket).get? other = none := by
  rw [Dict.get?_erase]
  split
  · rfl
  · exact free

/-- One move of the broker, with the messages it publishes. -/
theorem move {cfg : SimConfig σ} {events : List Event}
    (held : Tracked b m fills closes) (kept : SimBroker.BooksKept b)
    (moved : SimBroker.Move cfg false b events b') :
    Tracked b' m (fills ++ fillsOf events) (closes ++ closesOf events) := by
  cases moved with
  | burnTicket issues => cases issues
  | park req issues => cases issues
  | openMarket pos strategyId ticketed issues => cases issues
  | quote =>
      exact silent rfl rfl (held.sameOpen rfl le_rfl (fun stored => ⟨_, stored⟩)
        (fun _ => rfl) (fun _ free => free))
  | promote ticket pending fillPrice pos waiting built =>
      rcases kept.pending_ticket waiting with ⟨named, positive, below⟩
      have ticketed := (SimBroker.buildPosition_ticket built).1
      have apart := held.not_pending waiting
      have freed := held.fewerPending (erase_fewer ticket)
      subst ticketed
      have reported : (b.filledOrder pending fillPrice).ticket = pos.ticket :=
        named
      have opened : Tracked
          { b.openPosition cfg pos pending.strategyId with
            pending := b.pending.erase pos.ticket } m
          (fills ++ [⟨b.filledOrder pending fillPrice, b.accountId⟩]) closes :=
        freed.opened reported positive below (Dict.get?_erase_self _ _) apart.1
          apart.2
      rw [← List.append_nil closes] at opened
      exact opened
  | amendPending ticket pending updated changes waiting amended =>
      refine silent rfl rfl (held.fewerPending ?_)
      intro other free
      rw [Dict.get?_set]
      split
      · rename_i same
        rw [same, waiting] at free
        cases free
      · exact free
  | amendPosition ticket pos changes stored =>
      exact silent rfl rfl (held.reset rfl rfl rfl rfl stored rfl)
  | shrink ticket pos chunk closePrice slippage smaller stored =>
      exact silent rfl rfl (held.reset rfl rfl rfl rfl stored rfl)
  | grow ticket pos chunk closePrice slippage smaller stored =>
      exact silent rfl rfl (held.reset rfl rfl rfl rfl stored rfl)
  | close ticket pos closePrice slippage stored =>
      have gone := held.closed kept stored
        (b.settle cfg pos pos.volume closePrice) slippage
        (b.settle cfg pos pos.volume closePrice).1.pnl b.accountId
      rw [← List.append_nil fills] at gone
      exact gone
  | cancel ticket pending waiting =>
      exact silent rfl rfl (held.fewerPending (erase_fewer ticket))

/-- A chain of moves without a placement. -/
theorem moves {cfg : SimConfig σ} {events : List Event}
    (held : Tracked b m fills closes) (kept : SimBroker.BooksKept b)
    (moved : SimBroker.Moves cfg false b events b') :
    Tracked b' m (fills ++ fillsOf events) (closes ++ closesOf events) := by
  rcases moved with ⟨labels, run, rfl⟩
  induction run generalizing fills closes with
  | refl s => exact silent rfl rfl held
  | step head tail ih =>
      have later := ih (held.move kept head) (kept.move head)
      rw [List.flatten_cons, fillsOf_append, closesOf_append,
        ← List.append_assoc, ← List.append_assoc]
      exact later

end Tracked

/-! ### The monitor's side -/

section Handling

variable {b b' : SimBroker σ} {m m' : RiskMonitor}
  {before after fills : List FillMessage} {closes : List CloseMessage}

/-- Handling a fill adds its ticket to the map of its strategy only. -/
theorem mapped_onFilled (m : RiskMonitor) (order : Order)
    (accountId : AccountId) (id : StrategyId) :
    mapped (m.onFilled order accountId) id ⊆
      if id = order.strategyId then
        insert (accountId, order.ticket) (mapped m id)
      else mapped m id := by
  intro key member
  have stored := mem_mapped.mp member
  simp only [RiskMonitor.onFilled] at stored
  have old : m.ticketToStrategy.get? key = some id ∨
      key = (accountId, order.ticket) ∧ id = order.strategyId := by
    split at stored
    · rw [Dict.get?_set] at stored
      split at stored
      · rename_i same
        exact .inr ⟨same, (Option.some.inj stored).symm⟩
      · exact .inl stored
    · exact .inl stored
  rcases old with old | ⟨same, owner⟩
  · split
    · exact Finset.mem_insert_of_mem (mem_mapped.mpr old)
    · exact mem_mapped.mpr old
  · rw [if_pos owner, same]
    exact Finset.mem_insert_self _ _

/-- The fill at some place of the flow is handled. -/
theorem Tracked.filled {fill : FillMessage}
    (held : Tracked b m (before ++ fill :: after) closes) :
    Tracked b (m.onFilled fill.order fill.accountId) (before ++ after)
      closes := by
  have here : fill ∈ before ++ fill :: after := by simp
  have others : ∀ other ∈ before ++ after,
      other ∈ before ++ fill :: after := by
    intro other member
    rcases List.mem_append.mp member with inBefore | inAfter
    · exact List.mem_append_left _ inBefore
    · exact List.mem_append_right _ (List.mem_cons_of_mem _ inAfter)
  have nonzero : fill.order.ticket ≠ 0 := (held.fill_ticket fill here).1.ne'
  refine
    { fill_account := fun other member =>
        held.fill_account other (others other member)
      fill_ticket := fun other member =>
        held.fill_ticket other (others other member)
      fill_named := fun other member =>
        held.fill_named other (others other member)
      close_gone := held.close_gone
      known := ?_
      mapped_le := ?_ }
  · intro ticket pos stored id named
    simp only [RiskMonitor.onFilled, if_pos nonzero]
    rw [held.fill_account fill here, Dict.get?_set]
    by_cases same : ticket = fill.order.ticket
    · -- the handled fill is the one of this position
      left
      subst same
      rw [if_pos rfl, ← held.fill_named fill here pos stored]
      exact named
    · rw [if_neg fun equal => same (Prod.mk.inj equal).2]
      rcases held.known stored id named with inMap | ⟨other, member, under⟩
      · exact .inl inMap
      · right
        refine ⟨other, ?_, under⟩
        rcases List.mem_append.mp member with inBefore | inRest
        · exact List.mem_append_left _ inBefore
        · rcases List.mem_cons.mp inRest with rfl | inAfter
          · exact absurd under.symm same
          · exact List.mem_append_right _ inAfter
  · intro id
    have bound := held.mapped_le id
    have inserted := Finset.card_le_card
      (mapped_onFilled m fill.order fill.accountId id)
    have counter : (m.onFilled fill.order fill.accountId).openPositions.getD id 0 =
        m.openPositions.getD id 0 + if id = fill.order.strategyId then 1 else 0 :=
      RiskMonitor.getD_increment _ _ _
    rw [counter]
    split at inserted
    · rename_i owner
      have grown := Finset.card_insert_le (fill.accountId, fill.order.ticket)
        (mapped m id)
      rw [if_pos owner]
      omega
    · rename_i other
      rw [if_neg other]
      omega

/-- Releasing a position takes its ticket out of the map and lowers the counter
of the strategy that owned it. -/
theorem mapped_release_le (position : Position) (accountId : AccountId)
    (bound : ∀ id, ((mapped m id).card : Int) ≤ m.openPositions.getD id 0)
    (id : StrategyId) :
    ((mapped (m.release position accountId) id).card : Int) ≤
      (m.release position accountId).openPositions.getD id 0 := by
  have erased : mapped (m.release position accountId) id ⊆
      (mapped m id).erase (accountId, position.ticket) := by
    intro key member
    have stored := mem_mapped.mp member
    simp only [RiskMonitor.release, Dict.get?_erase] at stored
    split at stored
    · cases stored
    · rename_i apart
      exact Finset.mem_erase.mpr ⟨apart, mem_mapped.mpr stored⟩
  have smaller := Finset.card_le_card erased
  have old := bound id
  cases owner : m.ticketToStrategy.get? (accountId, position.ticket) with
  | none =>
      have counter : (m.release position accountId).openPositions =
          m.openPositions := by simp only [RiskMonitor.release, owner]
      rw [counter]
      have shrinks := (mapped m id).card_erase_le
        (a := (accountId, position.ticket))
      omega
  | some sid =>
      have counter : (m.release position accountId).openPositions =
          RiskMonitor.decrement m.openPositions sid := by
        simp only [RiskMonitor.release, owner]
      rw [counter]
      by_cases same : id = sid
      · subst same
        have inside : (accountId, position.ticket) ∈ mapped m id :=
          mem_mapped.mpr owner
        have shrinks := Finset.card_erase_add_one inside
        rw [RiskMonitor.getD_decrement_self, if_pos (by omega)]
        omega
      · have shrinks := (mapped m id).card_erase_le
          (a := (accountId, position.ticket))
        rw [RiskMonitor.getD_decrement_of_ne _ _ _ same]
        omega

/-- The oldest close is handled. -/
theorem Tracked.closeHandled {close : CloseMessage}
    (held : Tracked b m fills (close :: closes)) (now : Time) :
    Tracked b
      (m.onClosed now close.position close.realizedPnl close.accountId) fills
      closes := by
  have released : Tracked b (m.release close.position close.accountId) fills
      closes := by
    refine
      { fill_account := held.fill_account
        fill_ticket := held.fill_ticket
        fill_named := held.fill_named
        close_gone := fun other member =>
          held.close_gone other (List.mem_cons_of_mem _ member)
        known := ?_
        mapped_le :=
          mapped_release_le close.position close.accountId held.mapped_le }
    intro ticket pos stored id named
    have gone := (held.close_gone close List.mem_cons_self).2.1
    have apart : ticket ≠ close.position.ticket := by
      intro same
      rw [← same, stored] at gone
      cases gone
    rcases held.known stored id named with inMap | underWay
    · left
      have other : (b.accountId, ticket) ≠
          (close.accountId, close.position.ticket) :=
        fun equal => apart (Prod.mk.inj equal).2
      exact (Dict.get?_erase_of_ne _ other).trans inMap
    · exact .inr underWay
  exact released.sameBooks (RiskMonitor.bookPnl_books _ _ _ _)

end Handling

/-! ### The symbol's counter -/

namespace SymbolCounted

variable {name : Symbol} {b b' : SimBroker σ} {m m' : RiskMonitor}
  {before after fills : List FillMessage} {closes : List CloseMessage}

theorem sameBooks (held : SymbolCounted name b m fills closes)
    (same : m'.books = m.books) : SymbolCounted name b m' fills closes := by
  have counters : m'.openPositionsBySymbol = m.openPositionsBySymbol :=
    (Prod.mk.inj (Prod.mk.inj same).2).1
  unfold SymbolCounted
  rw [counters]
  exact held

/-- No more open positions than before. -/
theorem fewerOpen (held : SymbolCounted name b m fills closes)
    (fewer : (Scope.symbol name).openTickets b' ⊆
      (Scope.symbol name).openTickets b) :
    SymbolCounted name b' m fills closes := by
  have smaller := Finset.card_le_card fewer
  unfold SymbolCounted at held ⊢
  omega

theorem fewerCloses (held : SymbolCounted name b m fills closes)
    {fewer : List CloseMessage} (sublist : fewer.Sublist closes) :
    SymbolCounted name b m fills fewer := by
  have smaller : fewer.countP (fun close => decide (close.position.symbol = name)) ≤
      closes.countP (fun close => decide (close.position.symbol = name)) :=
    sublist.countP_le
  unfold SymbolCounted at held ⊢
  omega

/-- A position opens together with its fill. -/
theorem opened (held : SymbolCounted name b m fills closes)
    {cfg : SimConfig σ} {pos : Position} {order : Order}
    (symbol : pos.symbol = order.symbol) (accountId : AccountId) :
    SymbolCounted name (b.openPosition cfg pos order.strategyId) m
      (fills ++ [⟨order, accountId⟩]) closes := by
  unfold SymbolCounted at held ⊢
  rw [List.countP_append]
  cases inside : (Scope.symbol name).order order with
  | true =>
      have grown := (Finset.card_le_card
        ((Scope.symbol name).openTickets_openPosition cfg b pos
          order.strategyId)).trans (Finset.card_insert_le _ _)
      simp only [List.countP_singleton, inside, if_true]
      omega
  | false =>
      have same : (Scope.symbol name).openTickets
          (b.openPosition cfg pos order.strategyId) ⊆
            (Scope.symbol name).openTickets b :=
        Scope.openTickets_openPosition_outside symbol inside
      have smaller := Finset.card_le_card same
      simp only [List.countP_singleton, inside, Bool.false_eq_true, if_false]
      omega

/-- A close is published for a position that was counted. -/
theorem closed (held : SymbolCounted name b m fills closes)
    {ticket : Ticket} {pos : Position}
    (stored : b.positions.get? ticket = some pos)
    (settled : TradeRecord × ℚ) (slippage : σ) (realizedPnl : ℚ)
    (accountId : AccountId) :
    SymbolCounted name (b.removePosition settled slippage ticket) m fills
      (closes ++ [⟨pos, realizedPnl, accountId⟩]) := by
  have removed : (Scope.symbol name).openTickets
      (b.removePosition settled slippage ticket) ⊆
        ((Scope.symbol name).openTickets b).erase ticket :=
    Scope.openTickets_removed rfl rfl
  have smaller := Finset.card_le_card removed
  unfold SymbolCounted at held ⊢
  rw [List.countP_append]
  by_cases inside : pos.symbol = name
  · have member : ticket ∈ (Scope.symbol name).openTickets b :=
      Scope.mem_openTickets.mpr ⟨pos, stored, by simp [Scope.position, inside]⟩
    have shrinks := Finset.card_erase_add_one member
    simp only [List.countP_singleton, inside, decide_true, if_true]
    omega
  · have shrinks := ((Scope.symbol name).openTickets b).card_erase_le
      (a := ticket)
    simp only [List.countP_singleton, inside, decide_false, Bool.false_eq_true,
      if_false]
    omega

theorem silent {events : List Event} (noFill : fillsOf events = [])
    (noClose : closesOf events = [])
    (base : SymbolCounted name b m fills closes) :
    SymbolCounted name b m (fills ++ fillsOf events)
      (closes ++ closesOf events) := by
  rw [noFill, noClose, List.append_nil, List.append_nil]
  exact base

theorem move {cfg : SimConfig σ} {events : List Event}
    (held : SymbolCounted name b m fills closes)
    (moved : SimBroker.Move cfg false b events b') :
    SymbolCounted name b' m (fills ++ fillsOf events)
      (closes ++ closesOf events) := by
  cases moved with
  | burnTicket issues => cases issues
  | park req issues => cases issues
  | openMarket pos strategyId ticketed issues => cases issues
  | quote => exact silent rfl rfl held
  | promote ticket pending fillPrice pos waiting built =>
      have symbol : pos.symbol = (b.filledOrder pending fillPrice).symbol :=
        (SimBroker.buildPosition_ticket built).2.1
      have opened : SymbolCounted name
          (b.openPosition cfg pos (b.filledOrder pending fillPrice).strategyId)
          m (fills ++ [⟨b.filledOrder pending fillPrice, b.accountId⟩])
          closes := held.opened symbol b.accountId
      rw [← List.append_nil closes] at opened
      exact opened
  | amendPending => exact silent rfl rfl held
  | amendPosition ticket pos changes stored =>
      exact silent rfl rfl
        (held.fewerOpen (Scope.openTickets_reset stored rfl rfl rfl))
  | shrink ticket pos chunk closePrice slippage smaller stored =>
      exact silent rfl rfl
        (held.fewerOpen (Scope.openTickets_reset stored rfl rfl rfl))
  | grow ticket pos chunk closePrice slippage smaller stored =>
      exact silent rfl rfl
        (held.fewerOpen (Scope.openTickets_reset stored rfl rfl rfl))
  | close ticket pos closePrice slippage stored =>
      have gone := held.closed stored
        (b.settle cfg pos pos.volume closePrice) slippage
        (b.settle cfg pos pos.volume closePrice).1.pnl b.accountId
      rw [← List.append_nil fills] at gone
      exact gone
  | cancel => exact silent rfl rfl held

theorem moves {cfg : SimConfig σ} {events : List Event}
    (held : SymbolCounted name b m fills closes)
    (moved : SimBroker.Moves cfg false b events b') :
    SymbolCounted name b' m (fills ++ fillsOf events)
      (closes ++ closesOf events) := by
  rcases moved with ⟨labels, run, rfl⟩
  induction run generalizing fills closes with
  | refl s => exact silent rfl rfl held
  | step head tail ih =>
      have later := ih (held.move head)
      rw [List.flatten_cons, fillsOf_append, closesOf_append,
        ← List.append_assoc, ← List.append_assoc]
      exact later

/-- The fill at some place of the flow is handled. -/
theorem filled {fill : FillMessage}
    (held : SymbolCounted name b m (before ++ fill :: after) closes) :
    SymbolCounted name b (m.onFilled fill.order fill.accountId)
      (before ++ after) closes := by
  have counter : (m.onFilled fill.order fill.accountId).openPositionsBySymbol.getD
      name 0 = m.openPositionsBySymbol.getD name 0 +
        if name = fill.order.symbol then 1 else 0 :=
    RiskMonitor.getD_increment _ _ _
  unfold SymbolCounted at held ⊢
  rw [counter]
  rw [List.countP_append, List.countP_cons] at held
  rw [List.countP_append]
  by_cases same : name = fill.order.symbol
  · rw [if_pos same]
    simp only [Scope.order, same, decide_true, if_true] at held ⊢
    omega
  · have outside : (Scope.symbol name).order fill.order = false :=
      decide_eq_false fun equal => same equal.symm
    rw [if_neg same]
    simp only [outside, Bool.false_eq_true, if_false] at held
    omega

/-- The oldest close is handled. -/
theorem closeHandled {close : CloseMessage}
    (held : SymbolCounted name b m fills (close :: closes)) (now : Time) :
    SymbolCounted name b
      (m.onClosed now close.position close.realizedPnl close.accountId) fills
      closes := by
  have released : SymbolCounted name b
      (m.release close.position close.accountId) fills closes := by
    unfold SymbolCounted at held ⊢
    rw [List.countP_cons] at held
    have counter : (m.release close.position
        close.accountId).openPositionsBySymbol =
          RiskMonitor.decrement m.openPositionsBySymbol close.position.symbol :=
      rfl
    rw [counter]
    by_cases same : name = close.position.symbol
    · subst same
      rw [RiskMonitor.getD_decrement_self]
      simp only [decide_true, if_true] at held
      split <;> omega
    · have outside : decide (close.position.symbol = name) = false :=
        decide_eq_false fun equal => same equal.symm
      rw [RiskMonitor.getD_decrement_of_ne _ _ _ same]
      simp only [outside, Bool.false_eq_true, if_false] at held
      omega
  exact released.sameBooks (RiskMonitor.bookPnl_books _ _ _ _)

end SymbolCounted

/-! ### Broker, monitor and messages together -/

/-- Everything that stays true between broker and monitor. -/
structure Flow (b : SimBroker σ) (m : RiskMonitor) (fills : List FillMessage)
    (closes : List CloseMessage) : Prop where
  kept : SimBroker.BooksKept b
  tracked : Tracked b m fills closes
  counted : ∀ name, SymbolCounted name b m fills closes

namespace Flow

variable {b b' : SimBroker σ} {m m' : RiskMonitor}
  {before after fills : List FillMessage} {closes : List CloseMessage}

theorem sameBooks (flow : Flow b m fills closes) (same : m'.books = m.books) :
    Flow b m' fills closes :=
  ⟨flow.kept, flow.tracked.sameBooks same,
    fun name => (flow.counted name).sameBooks same⟩

theorem fewerCloses (flow : Flow b m fills closes) {fewer : List CloseMessage}
    (sublist : fewer.Sublist closes) : Flow b m fills fewer :=
  ⟨flow.kept, flow.tracked.fewerCloses sublist.subset,
    fun name => (flow.counted name).fewerCloses sublist⟩

theorem moves {cfg : SimConfig σ} {events : List Event}
    (flow : Flow b m fills closes)
    (moved : SimBroker.Moves cfg false b events b') :
    Flow b' m (fills ++ fillsOf events) (closes ++ closesOf events) :=
  ⟨flow.kept.moves moved, flow.tracked.moves flow.kept moved,
    fun name => (flow.counted name).moves moved⟩

theorem filled {fill : FillMessage}
    (flow : Flow b m (before ++ fill :: after) closes) :
    Flow b (m.onFilled fill.order fill.accountId) (before ++ after) closes :=
  ⟨flow.kept, flow.tracked.filled, fun name => (flow.counted name).filled⟩

theorem closeHandled {close : CloseMessage}
    (flow : Flow b m fills (close :: closes)) (now : Time) :
    Flow b (m.onClosed now close.position close.realizedPnl close.accountId)
      fills closes :=
  ⟨flow.kept, flow.tracked.closeHandled now,
    fun name => (flow.counted name).closeHandled now⟩

/-- A ticket is issued, and nothing else happens to the books. -/
theorem burnt (flow : Flow b m fills closes) (slippage : σ) :
    Flow
      { b with slippageState := slippage, nextTicket := b.nextTicket + 1 } m
      fills closes where
  kept := flow.kept.burn.congr rfl rfl rfl rfl
  tracked := flow.tracked.sameOpen rfl (lt_add_one _).le
    (fun stored => ⟨_, stored⟩) (fun _ => rfl) (fun _ free => free)
  counted := fun name => flow.counted name

theorem parked (flow : Flow b m fills closes) (req : OrderRequest) :
    Flow (b.parkPending req).broker m fills closes where
  kept := flow.kept.burn.setPending rfl flow.kept.issued_pos (Int.lt_succ _)
    flow.kept.position_fresh
  tracked := by
    refine flow.tracked.sameOpen rfl (lt_add_one _).le
      (fun stored => ⟨_, stored⟩) (fun _ => rfl) ?_
    intro ticket below free
    exact (Dict.get?_set_of_ne b.pending _ below.ne).trans free
  counted := fun name => flow.counted name

/-- A market order is filled; the router has its report. -/
theorem opened (flow : Flow b m fills closes) {cfg : SimConfig σ}
    (slippage : σ) {pos : Position} {order : Order}
    (ticketed : pos.ticket = b.nextTicket) (reported : order.ticket = b.nextTicket)
    (symbol : pos.symbol = order.symbol) :
    Flow
      ({ b with
          slippageState := slippage
          nextTicket := b.nextTicket + 1 }.openPosition cfg pos
            order.strategyId) m
      (fills ++ [⟨order, b.accountId⟩]) closes := by
  have burnt := flow.burnt slippage
  have unused := flow.tracked.not_next
  have issued : pos.ticket < b.nextTicket + 1 := ticketed ▸ lt_add_one _
  refine ⟨?_, ?_, ?_⟩
  · have moved : SimBroker.Move cfg true b [] _ :=
      .openMarket b pos order.strategyId ticketed rfl
    exact (flow.kept.move moved).congr rfl rfl rfl rfl
  · apply burnt.tracked.opened (reported.trans ticketed.symm)
      (ticketed ▸ flow.kept.issued_pos) issued
      (ticketed ▸ flow.kept.pending_fresh)
    · rw [ticketed]
      exact unused.1
    · rw [ticketed]
      exact unused.2
  · exact fun name => (burnt.counted name).opened symbol b.accountId

/-- The order of the fills under way does not matter. -/
theorem perm (flow : Flow b m fills closes) {reordered : List FillMessage}
    (same : reordered.Perm fills) : Flow b m reordered closes where
  kept := flow.kept
  tracked :=
    { fill_account := fun fill member =>
        flow.tracked.fill_account fill (same.mem_iff.mp member)
      fill_ticket := fun fill member =>
        flow.tracked.fill_ticket fill (same.mem_iff.mp member)
      fill_named := fun fill member =>
        flow.tracked.fill_named fill (same.mem_iff.mp member)
      close_gone := flow.tracked.close_gone
      known := by
        intro ticket pos stored id named
        rcases flow.tracked.known stored id named with inMap | ⟨fill, member, under⟩
        · exact .inl inMap
        · exact .inr ⟨fill, same.mem_iff.mpr member, under⟩
      mapped_le := flow.tracked.mapped_le }
  counted := by
    intro name
    unfold SymbolCounted
    rw [same.countP_eq]
    exact flow.counted name

end Flow

namespace TradingSystem

/-- What the router still has to publish for the answer it has. -/
def pendingReport (s : TradingSystem σ) : List Event :=
  match s.task with
  | .answered req result => submissionEvents s.broker.accountId req result
  | _ => []

/-- Fills the monitor has not handled: not yet published, waiting, or evicted. -/
def underWay (s : TradingSystem σ) : List FillMessage :=
  s.fills.backlog ++ fillsOf s.pendingReport

def Sound (s : TradingSystem σ) : Prop :=
  Flow s.broker s.monitor s.underWay s.closes.items

/-! ### Publishing -/

/-- Publishing fills the three queues and leaves the rest alone. -/
theorem publish_eq (s : TradingSystem σ) (events : List Event) :
    ∃ partials, s.publish events =
      { s with
        fills := s.fills.pushAll (fillsOf events)
        closes := s.closes.pushAll (closesOf events)
        partials := partials } := by
  induction events generalizing s with
  | nil => exact ⟨s.partials, rfl⟩
  | cons event events ih =>
      rcases ih (s.deliver event) with ⟨partials, published⟩
      refine ⟨partials, ?_⟩
      change (s.deliver event).publish events = _
      rw [published]
      cases event <;> rfl

@[simp] theorem publish_broker (s : TradingSystem σ) (events : List Event) :
    (s.publish events).broker = s.broker := by
  rcases s.publish_eq events with ⟨partials, published⟩
  rw [published]

@[simp] theorem publish_monitor (s : TradingSystem σ) (events : List Event) :
    (s.publish events).monitor = s.monitor := by
  rcases s.publish_eq events with ⟨partials, published⟩
  rw [published]

@[simp] theorem publish_router (s : TradingSystem σ) (events : List Event) :
    (s.publish events).router = s.router := by
  rcases s.publish_eq events with ⟨partials, published⟩
  rw [published]

@[simp] theorem publish_task (s : TradingSystem σ) (events : List Event) :
    (s.publish events).task = s.task := by
  rcases s.publish_eq events with ⟨partials, published⟩
  rw [published]

/-! ### One step -/

namespace Sound

variable {s s' : TradingSystem σ}

/-- A step that changes neither the broker, the closes nor the fills under
way. -/
theorem sameFlow (sound : Sound s) (broker : s'.broker = s.broker)
    (books : s'.monitor.books = s.monitor.books)
    (fills : s'.underWay = s.underWay)
    (closes : s'.closes.items.Sublist s.closes.items) : Sound s' := by
  unfold Sound
  rw [broker, fills]
  exact (sound.sameBooks books).fewerCloses closes

/-- Publishing what a chain of broker moves announced. -/
theorem publishMoves {cfg : SimConfig σ} {b' : SimBroker σ}
    {events : List Event} (sound : Sound s)
    (moved : SimBroker.Moves cfg false s.broker events b') :
    Sound ({ s with broker := b' }.publish events) := by
  rcases publish_eq { s with broker := b' } events with ⟨partials, published⟩
  rw [published]
  have flow := Flow.moves sound moved
  have fills : TradingSystem.underWay
      { s with
        broker := b'
        fills := s.fills.pushAll (fillsOf events)
        closes := s.closes.pushAll (closesOf events)
        partials := partials } =
      s.fills.backlog ++ (fillsOf events ++ fillsOf s.pendingReport) := by
    simp [underWay, pendingReport, moved.accountId]
  have reordered : (s.fills.backlog ++
      (fillsOf events ++ fillsOf s.pendingReport)).Perm
        (s.underWay ++ fillsOf events) := by
    unfold underWay
    rw [List.append_assoc]
    exact List.perm_append_comm.append_left _
  unfold Sound
  rw [fills]
  exact (flow.perm reordered).fewerCloses (Mailbox.items_pushAll_sublist _ _)

/-- The router asks the broker to place an accepted order. -/
theorem placeOrder {cfg : SimConfig σ} {req : OrderRequest} (sound : Sound s)
    (task : s.task = .accepted req)
    (step : step? cfg s .placeOrder = some s') : Sound s' := by
  have quiet : s.underWay = s.fills.backlog := by
    simp [underWay, pendingReport, task, fillsOf]
  unfold Sound at sound
  rw [quiet] at sound
  simp only [step?, task] at step
  have placed := SimBroker.placeOrder_placed cfg s.broker req
  generalize s.broker.placeOrder cfg req = call at step placed
  cases placed with
  | refused message =>
      cases step
      change Flow s.broker s.monitor (s.fills.backlog ++ []) s.closes.items
      rw [List.append_nil]
      exact sound
  | parked =>
      cases step
      change Flow (s.broker.parkPending req).broker s.monitor
        (s.fills.backlog ++ []) s.closes.items
      rw [List.append_nil]
      exact sound.parked req
  | raised slippage =>
      cases step
      change Flow _ s.monitor (s.fills.backlog ++ []) s.closes.items
      rw [List.append_nil]
      exact sound.burnt slippage
  | filled slippage pos mid fillPrice ticketed symbol =>
      cases step
      have order : (s.broker.marketOrder req mid fillPrice).ticket =
          s.broker.nextTicket := rfl
      exact sound.opened slippage ticketed order symbol

/-- The router publishes the outcome it has. -/
theorem publishResult {cfg : SimConfig σ} (sound : Sound s)
    (step : step? cfg s .publishResult = some s') : Sound s' := by
  simp only [step?] at step
  split at step
  · rename_i req result task
    cases step
    rcases publish_eq { s with task := .idle }
      (submissionEvents s.broker.accountId req result) with
      ⟨partials, published⟩
    rw [published]
    have quiet : closesOf (submissionEvents s.broker.accountId req result) = [] := by
      unfold submissionEvents
      split
      · split <;> rfl
      · rfl
    have before : s.underWay = s.fills.backlog ++
        fillsOf (submissionEvents s.broker.accountId req result) := by
      simp [underWay, pendingReport, task]
    unfold Sound at sound ⊢
    rw [before] at sound
    have after : TradingSystem.underWay
        { s with
          task := .idle
          fills := s.fills.pushAll
            (fillsOf (submissionEvents s.broker.accountId req result))
          closes := s.closes.pushAll
            (closesOf (submissionEvents s.broker.accountId req result))
          partials := partials } = s.fills.backlog ++
            fillsOf (submissionEvents s.broker.accountId req result) := by
      simp [underWay, pendingReport, fillsOf]
    rw [after, quiet]
    exact sound
  · cases step

/-- The monitor handles the oldest fill that waits. -/
theorem handleFilled {cfg : SimConfig σ} (sound : Sound s)
    (step : step? cfg s .handleFilled = some s') : Sound s' := by
  simp only [step?] at step
  split at step
  · cases step
  · rename_i fill rest popped
    cases step
    rcases Mailbox.backlog_of_pop? popped with
      ⟨before, later, whole, remaining⟩
    unfold Sound underWay at sound ⊢
    rw [whole, List.append_assoc, List.cons_append] at sound
    change Flow s.broker _ (rest.backlog ++ fillsOf s.pendingReport)
      s.closes.items
    rw [remaining, List.append_assoc]
    exact sound.filled

/-- The monitor handles the oldest close that waits. -/
theorem handleClosed {cfg : SimConfig σ} {now : Time} (sound : Sound s)
    (step : step? cfg s (.handleClosed now) = some s') : Sound s' := by
  simp only [step?] at step
  split at step
  · cases step
  · rename_i close rest popped
    cases step
    unfold Sound at sound ⊢
    rw [Mailbox.items_of_pop? popped] at sound
    exact sound.closeHandled now

/-- Broker, monitor and messages fit together after every step. -/
theorem step {cfg : SimConfig σ} {label : SystemLabel} (sound : Sound s)
    (taken : Step cfg s label s') : Sound s' := by
  unfold Step stepOf? at taken
  cases label with
  | emitSignal signal =>
      cases taken
      exact sound
  | handleSignal now clientOrderId =>
      simp only [step?] at taken
      split at taken
      · rename_i signal rest task popped
        cases taken
        have broker := preTrade_broker (simPort_readOnly cfg) s.router
          (some s.monitor) now clientOrderId signal s.broker
        refine sound.sameFlow broker ?_ ?_ (List.Sublist.refl _)
        · rcases @preTrade_risk _ _ (simPort cfg) s.router s.monitor now
            clientOrderId signal s.broker with asked | asked
          · dsimp only
            rw [asked]
            rfl
          · dsimp only
            rw [asked]
            exact s.monitor.checkSignal_books now signal
        · unfold underWay pendingReport
          dsimp only
          rw [task]
          generalize (preTrade (simPort cfg) s.router (some s.monitor) now
            clientOrderId signal s.broker).gate = gate
          cases gate <;> rfl
      · cases taken
  | placeOrder =>
      cases task : s.task with
      | idle => simp [step?, task] at taken
      | accepted req => exact sound.placeOrder task taken
      | answered req result => simp [step?, task] at taken
  | publishResult => exact sound.publishResult taken
  | drive op =>
      simp only [step?] at taken
      split at taken
      · cases taken
      · rename_i notPlacing
        cases taken
        have moved := SimBroker.perform_moves cfg s.broker op
        rw [Bool.not_eq_true] at notPlacing
        rw [notPlacing] at moved
        exact sound.publishMoves moved
  | handleFilled => exact sound.handleFilled taken
  | handleClosed now => exact sound.handleClosed taken
  | handlePartialClosed now =>
      simp only [step?] at taken
      split at taken
      · cases taken
      · cases taken
        exact sound.sameFlow rfl (s.monitor.bookPnl_books _ _ _) rfl
          (List.Sublist.refl _)
  | handleSnapshot snap =>
      cases taken
      exact sound.sameFlow rfl (s.monitor.onSnapshot_books snap) rfl
        (List.Sublist.refl _)

theorem boot (cfg : RiskConfig) (router : RouterState) (initialBalance : ℚ)
    (slippage : σ) (now : Time) :
    Sound (TradingSystem.boot cfg router initialBalance slippage now) where
  kept := SimBroker.booksKept_create initialBalance slippage now
  tracked :=
    { fill_account := by intro fill member; cases member
      fill_ticket := by intro fill member; cases member
      fill_named := by intro fill member; cases member
      close_gone := by intro close member; cases member
      known := by intro ticket pos stored; cases stored
      mapped_le := by intro id; exact le_rfl }
  counted := by intro name; exact le_rfl

end Sound

/-! ### The counters never fall behind by more than what is under way -/

/-- Fills of a scope that the monitor has not handled. -/
def unseen (scope : Scope) (s : TradingSystem σ) : Nat :=
  s.underWay.countP fun fill => scope.order fill.order

/-- Whether a close that waits concerns a scope: its symbol, or the strategy that
the monitor has for its ticket or will have once the fill is handled. -/
def closeConcerns (s : TradingSystem σ) (close : CloseMessage) : Scope → Bool
  | .strategy id =>
      decide (s.monitor.ticketToStrategy.get?
        (s.broker.accountId, close.position.ticket) = some id) ||
      s.underWay.any fun fill =>
        decide (fill.order.ticket = close.position.ticket) &&
          (Scope.strategy id).order fill.order
  | .symbol name => decide (close.position.symbol = name)

/-- Tickets of a scope whose close the monitor has not handled. -/
def settledTickets (scope : Scope) (s : TradingSystem σ) : Finset Ticket :=
  ((s.closes.items.filter fun close => s.closeConcerns close scope).map
    fun close => close.position.ticket).toFinset

theorem mem_settledTickets {scope : Scope} {s : TradingSystem σ}
    {ticket : Ticket} :
    ticket ∈ s.settledTickets scope ↔
      ∃ close ∈ s.closes.items, s.closeConcerns close scope = true ∧
        close.position.ticket = ticket := by
  simp [settledTickets, and_assoc]

/-- A settled position is not open any more. -/
theorem open_settled_disjoint {s : TradingSystem σ} (sound : Sound s)
    (scope : Scope) :
    Disjoint (scope.openTickets s.broker) (s.settledTickets scope) := by
  rw [Finset.disjoint_left]
  intro ticket opened settled
  rcases mem_settledTickets.mp settled with ⟨close, waits, -, same⟩
  rcases Scope.mem_openTickets.mp opened with ⟨pos, stored, -⟩
  have gone := (sound.tracked.close_gone close waits).2.1
  rw [same, stored] at gone
  cases gone

/-- Tickets of a strategy that the monitor knows or will know. -/
def knownTickets (id : StrategyId) (s : TradingSystem σ) : Finset Ticket :=
  (mapped s.monitor id).image Prod.snd ∪
    ((s.underWay.filter fun fill => (Scope.strategy id).order fill.order).map
      fun fill => fill.order.ticket).toFinset

theorem fill_known {s : TradingSystem σ} {id : StrategyId} {fill : FillMessage}
    (under : fill ∈ s.underWay)
    (own : (Scope.strategy id).order fill.order = true) :
    fill.order.ticket ∈ s.knownTickets id := by
  apply Finset.mem_union_right
  exact List.mem_toFinset.mpr
    (List.mem_map.mpr ⟨fill, List.mem_filter.mpr ⟨under, own⟩, rfl⟩)

theorem mapped_known {s : TradingSystem σ} {id : StrategyId}
    {accountId : AccountId} {ticket : Ticket}
    (known : s.monitor.ticketToStrategy.get? (accountId, ticket) = some id) :
    ticket ∈ s.knownTickets id := by
  apply Finset.mem_union_left
  exact Finset.mem_image.mpr ⟨_, mem_mapped.mpr known, rfl⟩

/-- The strategy's counter and the fills under way account for every ticket the
monitor knows or will know. -/
theorem knownTickets_le {s : TradingSystem σ} (sound : Sound s)
    (id : StrategyId) :
    ((s.knownTickets id).card : Int) ≤
      s.monitor.openPositions.getD id 0 + s.unseen (.strategy id) := by
  have union := Finset.card_union_le ((mapped s.monitor id).image Prod.snd)
    ((s.underWay.filter fun fill => (Scope.strategy id).order fill.order).map
      fun fill => fill.order.ticket).toFinset
  have inMap : ((mapped s.monitor id).image Prod.snd).card ≤
      (mapped s.monitor id).card := Finset.card_image_le
  have waiting := List.toFinset_card_le
    ((s.underWay.filter fun fill => (Scope.strategy id).order fill.order).map
      fun fill => fill.order.ticket)
  rw [List.length_map, ← List.countP_eq_length_filter] at waiting
  have counted := sound.tracked.mapped_le id
  simp only [knownTickets, unseen]
  omega

theorem openTickets_known {s : TradingSystem σ} (sound : Sound s)
    (id : StrategyId) :
    (Scope.strategy id).openTickets s.broker ⊆ s.knownTickets id := by
  intro ticket member
  rcases Scope.mem_openTickets.mp member with ⟨pos, stored, inside⟩
  have named := of_decide_eq_true inside
  rcases sound.tracked.known stored id named with inMap | ⟨fill, under, same⟩
  · exact mapped_known inMap
  · subst same
    have owner := sound.tracked.fill_named fill under pos stored
    rw [named] at owner
    have own : (Scope.strategy id).order fill.order = true :=
      decide_eq_true (Option.some.inj owner).symm
    exact fill_known under own

theorem settledTickets_known (s : TradingSystem σ) (id : StrategyId) :
    s.settledTickets (.strategy id) ⊆ s.knownTickets id := by
  intro ticket member
  rcases mem_settledTickets.mp member with ⟨close, -, concerns, same⟩
  subst same
  rcases Bool.or_eq_true_iff.mp concerns with inMap | ahead
  · exact mapped_known (of_decide_eq_true inMap)
  · rcases List.any_eq_true.mp ahead with ⟨fill, under, matching⟩
    rcases Bool.and_eq_true_iff.mp matching with ⟨same, own⟩
    rw [← of_decide_eq_true same]
    exact fill_known under own

/-- The counter, corrected by the fills and closes that wait, covers the open
positions. -/
theorem open_le_counter {s : TradingSystem σ} (sound : Sound s)
    (scope : Scope) :
    ((scope.openTickets s.broker).card : Int) + (s.settledTickets scope).card ≤
      scope.counter s.monitor + s.unseen scope := by
  cases scope with
  | symbol name =>
      have counted := sound.counted name
      have distinct := List.toFinset_card_le
        ((s.closes.items.filter fun close =>
          s.closeConcerns close (.symbol name)).map
            fun close => close.position.ticket)
      rw [List.length_map, ← List.countP_eq_length_filter] at distinct
      unfold SymbolCounted at counted
      simp only [settledTickets, closeConcerns, Scope.counter, unseen] at distinct ⊢
      omega
  | strategy id =>
      have together := Finset.card_le_card (Finset.union_subset
        (openTickets_known sound id) (settledTickets_known s id))
      rw [Finset.card_union_of_disjoint
        (open_settled_disjoint sound (.strategy id))] at together
      have known := knownTickets_le sound id
      simp only [Scope.counter]
      omega

end TradingSystem

end StingerFx
