/-
Module: StingerFx.Backtest.BrokerMoves
Layer: Backtest
Purpose: What a broker call can do to the books, said once. Every operation is a
  chain of moves, each with the events it publishes: a quote, a burnt ticket, an
  order parked, opened, promoted or amended, a position amended, shrunk or
  closed, an order cancelled. Invariants of the broker are derived per move.
Trusted boundary: none (fully proved)
Main exports: Move, Moves, perform_moves, run_moves, Placed,
  placeOrder_placed, BooksKept
-/
import StingerFx.Backtest.SimBroker
import StingerFx.Lib.Runs

namespace StingerFx.SimBroker

open Lib

variable {σ : Type}

/-- One change of the books and the events that announce it. The flag says
whether tickets may be issued, which only a placement does. -/
inductive Move (cfg : SimConfig σ) (placing : Bool) :
    SimBroker σ → List Event → SimBroker σ → Prop where
  | quote (b : SimBroker σ) (lastPrice lastBid lastAsk : Dict Symbol ℚ)
      (simTime : Time) (slippageState : σ) :
      Move cfg placing b []
        { b with
          lastPrice := lastPrice
          lastBid := lastBid
          lastAsk := lastAsk
          simTime := simTime
          slippageState := slippageState }
  | burnTicket (b : SimBroker σ) (issues : placing = true) :
      Move cfg placing b [] { b with nextTicket := b.nextTicket + 1 }
  | park (b : SimBroker σ) (req : OrderRequest) (issues : placing = true) :
      Move cfg placing b [.orderSubmitted (b.pendingOrder req)]
        { b with
          nextTicket := b.nextTicket + 1
          pending := b.pending.set b.nextTicket (b.pendingOrder req) }
  | openMarket (b : SimBroker σ) (pos : Position) (strategyId : StrategyId)
      (ticketed : pos.ticket = b.nextTicket) (issues : placing = true) :
      Move cfg placing b []
        ({ b with nextTicket := b.nextTicket + 1 }.openPosition cfg pos
          strategyId)
  | promote (b : SimBroker σ) (ticket : Ticket) (pending : Order)
      (fillPrice : ℚ) (pos : Position)
      (waiting : b.pending.get? ticket = some pending)
      (built :
        buildPosition ticket pending.symbol pending.side pending.volume
          fillPrice b.simTime pending.sl pending.tp pending.comment
          pending.magic pending.volume_pos = some pos) :
      Move cfg placing b [.orderFilled (b.filledOrder pending fillPrice) b.accountId]
        { b.openPosition cfg pos pending.strategyId with
          pending := b.pending.erase ticket }
  | amendPending (b : SimBroker σ) (ticket : Ticket) (pending updated : Order)
      (changes : OrderChanges)
      (waiting : b.pending.get? ticket = some pending)
      (amended : changes.amendOrder pending = some updated) :
      Move cfg placing b [] { b with pending := b.pending.set ticket updated }
  | amendPosition (b : SimBroker σ) (ticket : Ticket) (pos : Position)
      (changes : OrderChanges)
      (stored : b.positions.get? ticket = some pos) :
      Move cfg placing b []
        { b with
          positions := b.positions.set ticket (changes.amendPosition pos) }
  | shrink (b : SimBroker σ) (ticket : Ticket) (pos : Position)
      (chunk closePrice : ℚ) (slippage : σ) (smaller : chunk < pos.volume)
      (stored : b.positions.get? ticket = some pos) (positive : 0 < chunk) :
      Move cfg placing b
        [.partialClosed (remainder pos chunk smaller) chunk
          (b.settle cfg pos chunk closePrice).1.pnl b.accountId closePrice]
        (b.shrinkPosition (b.settle cfg pos chunk closePrice) slippage ticket
          (remainder pos chunk smaller))
  | grow (b : SimBroker σ) (ticket : Ticket) (pos : Position)
      (chunk closePrice : ℚ) (slippage : σ) (smaller : chunk < pos.volume)
      (stored : b.positions.get? ticket = some pos) (refused : chunk ≤ 0) :
      Move cfg placing b []
        (b.shrinkPosition (b.settle cfg pos chunk closePrice) slippage ticket
          (remainder pos chunk smaller))
  | close (b : SimBroker σ) (ticket : Ticket) (pos : Position)
      (closePrice : ℚ) (slippage : σ)
      (stored : b.positions.get? ticket = some pos) :
      Move cfg placing b
        (b.closeEvents ticket pos
          (b.settle cfg pos pos.volume closePrice).1.pnl closePrice)
        (b.removePosition (b.settle cfg pos pos.volume closePrice) slippage
          ticket)
  | cancel (b : SimBroker σ) (ticket : Ticket) (pending : Order)
      (waiting : b.pending.get? ticket = some pending) :
      Move cfg placing b [.orderCancelled { pending with status := .cancelled }]
        { b with pending := b.pending.erase ticket }

/-- A chain of moves and everything it publishes. -/
def Moves (cfg : SimConfig σ) (placing : Bool) (b : SimBroker σ)
    (events : List Event) (b' : SimBroker σ) : Prop :=
  ∃ labels, Run (Move cfg placing) b labels b' ∧ labels.flatten = events

namespace Moves

variable {cfg : SimConfig σ} {placing : Bool}

theorem refl (b : SimBroker σ) : Moves cfg placing b [] b := ⟨[], .refl b, rfl⟩

theorem single {b b' : SimBroker σ} {events : List Event}
    (move : Move cfg placing b events b') : Moves cfg placing b events b' :=
  ⟨[events], .single move, by simp⟩

theorem trans {b middle b' : SimBroker σ} {first second : List Event}
    (one : Moves cfg placing b first middle) (two : Moves cfg placing middle second b') :
    Moves cfg placing b (first ++ second) b' := by
  rcases one with ⟨firstLabels, firstRun, rfl⟩
  rcases two with ⟨secondLabels, secondRun, rfl⟩
  exact ⟨firstLabels ++ secondLabels, firstRun.trans secondRun, by simp⟩

/-- A property that every move keeps is kept by every chain. -/
theorem invariant {P : SimBroker σ → Prop} {b b' : SimBroker σ}
    {events : List Event} (moves : Moves cfg placing b events b') (start : P b)
    (keeps : ∀ {s events s'}, Move cfg placing s events s' → P s → P s') : P b' := by
  rcases moves with ⟨labels, run, -⟩
  exact run.invariant start keeps

/-- A relation between the states and the events of a move that composes along
chains holds of every chain. -/
theorem relates {R : SimBroker σ → List Event → SimBroker σ → Prop}
    {b b' : SimBroker σ} {events : List Event}
    (moves : Moves cfg placing b events b') (refl : ∀ s, R s [] s)
    (trans : ∀ {s first t second u},
      R s first t → R t second u → R s (first ++ second) u)
    (covers : ∀ {s events s'}, Move cfg placing s events s' → R s events s') :
    R b events b' := by
  rcases moves with ⟨labels, run, rfl⟩
  induction run with
  | refl s => exact refl s
  | step head tail ih =>
      rw [List.flatten_cons]
      exact trans (covers head) ih

/-- Any chain is a chain that may issue tickets. -/
theorem widen {b b' : SimBroker σ} {events : List Event}
    (moves : Moves cfg placing b events b') : Moves cfg true b events b' := by
  rcases moves with ⟨labels, run, published⟩
  refine ⟨labels, run.mono ?_, published⟩
  intro s events s' move
  cases move with
  | quote => exact .quote s _ _ _ _ _
  | burnTicket => exact .burnTicket s rfl
  | park req => exact .park s req rfl
  | openMarket pos strategyId ticketed =>
      exact .openMarket s pos strategyId ticketed rfl
  | promote ticket pending fillPrice pos waiting built =>
      exact .promote s ticket pending fillPrice pos waiting built
  | amendPending ticket pending updated changes waiting amended =>
      exact .amendPending s ticket pending updated changes waiting amended
  | amendPosition ticket pos changes stored =>
      exact .amendPosition s ticket pos changes stored
  | shrink ticket pos chunk closePrice slippage smaller stored positive =>
      exact .shrink s ticket pos chunk closePrice slippage smaller stored positive
  | grow ticket pos chunk closePrice slippage smaller stored refused =>
      exact .grow s ticket pos chunk closePrice slippage smaller stored refused
  | close ticket pos closePrice slippage stored =>
      exact .close s ticket pos closePrice slippage stored
  | cancel ticket pending waiting => exact .cancel s ticket pending waiting

end Moves

/-! ### Every operation is a chain of moves -/

section Operations

variable (cfg : SimConfig σ)

theorem quote_moves (placing : Bool) (b : SimBroker σ) (slippage : σ) :
    Moves cfg placing b [] { b with slippageState := slippage } :=
  .single (.quote b b.lastPrice b.lastBid b.lastAsk b.simTime slippage)

theorem buildPosition_ticket {ticket : Ticket} {symbol : Symbol} {side : Side}
    {volume openPrice : ℚ} {openTime : Time} {sl tp : Option ℚ}
    {comment : String} {magic : Int} {volume_pos : 0 < volume} {pos : Position}
    (built :
      buildPosition ticket symbol side volume openPrice openTime sl tp comment
        magic volume_pos = some pos) :
    pos.ticket = ticket ∧ pos.symbol = symbol ∧ pos.side = side ∧
      pos.volume = volume ∧ pos.openPrice = openPrice ∧ pos.sl = sl ∧
      pos.tp = tp := by
  unfold buildPosition at built
  split at built
  · cases built
    exact ⟨rfl, rfl, rfl, rfl, rfl, rfl, rfl⟩
  · cases built

theorem fillMarket_moves (b : SimBroker σ) (req : OrderRequest) (bid ask : ℚ) :
    Moves cfg true b (b.fillMarket cfg req bid ask).events
      (b.fillMarket cfg req bid ask).broker := by
  unfold fillMarket
  have priced := quote_moves cfg true b
    (cfg.slippageFn b.slippageState req.side bid ask).2
  dsimp only
  split
  · exact priced.trans (.single (.burnTicket _ rfl))
  · rename_i pos built
    exact priced.trans
      (.single (.openMarket _ pos _ (buildPosition_ticket built).1 rfl))

theorem placeOrder_moves (b : SimBroker σ) (req : OrderRequest) :
    Moves cfg true b (b.placeOrder cfg req).events (b.placeOrder cfg req).broker := by
  unfold placeOrder
  split
  · split
    · split
      · exact .refl b
      · exact .single (.park b req rfl)
    · exact fillMarket_moves cfg b req _ _
  · exact .refl b

theorem promotePending_moves (b : SimBroker σ) {ticket : Ticket}
    {pending : Order} (fillPrice : ℚ)
    (waiting : b.pending.get? ticket = some pending) :
    Moves cfg false b (b.promotePending cfg ticket pending fillPrice).events
      (b.promotePending cfg ticket pending fillPrice).broker := by
  unfold promotePending
  split
  · exact .refl b
  · rename_i pos built
    exact .single (.promote b ticket pending fillPrice pos waiting built)

/-- Promoting one order leaves the other pending orders where they are. -/
theorem promotePending_pending (b : SimBroker σ) (ticket other : Ticket)
    (pending : Order) (fillPrice : ℚ) (apart : other ≠ ticket) :
    (b.promotePending cfg ticket pending fillPrice).broker.pending.get? other =
      b.pending.get? other := by
  unfold promotePending
  split
  · rfl
  · exact Dict.get?_erase_of_ne b.pending apart

/-- Induction on the listing: what is still to be visited still waits. -/
theorem promoteAll_moves (fires : Order → Bool)
    (fillPrice : Order → σ → ℚ × σ) :
    ∀ (listing : List (Ticket × Order)) (b : SimBroker σ),
      (listing.map Prod.fst).Nodup →
      (∀ entry ∈ listing, b.pending.get? entry.1 = some entry.2) →
      Moves cfg false b (promoteAll cfg fires fillPrice listing b).events
        (promoteAll cfg fires fillPrice listing b).broker
  | [], b, _, _ => .refl b
  | (ticket, pending) :: rest, b, unique, waiting => by
      rw [List.map_cons, List.nodup_cons] at unique
      have headWaits := waiting _ List.mem_cons_self
      have restWaits : ∀ entry ∈ rest, b.pending.get? entry.1 = some entry.2 :=
        fun entry member => waiting entry (List.mem_cons_of_mem _ member)
      unfold promoteAll
      split
      · have priced := quote_moves cfg false b (fillPrice pending b.slippageState).2
        have promoted := priced.trans
          (promotePending_moves cfg _ (fillPrice pending b.slippageState).1
            headWaits)
        dsimp only
        split
        · exact promoted
        · refine promoted.trans (promoteAll_moves fires fillPrice rest _ unique.2 ?_)
          intro entry member
          have apart : entry.1 ≠ ticket := fun same =>
            unique.1 (same ▸ List.mem_map.mpr ⟨entry, member, rfl⟩)
          rw [promotePending_pending cfg _ ticket entry.1 pending _ apart]
          exact restWaits entry member
      · exact promoteAll_moves fires fillPrice rest b unique.2 restWaits

theorem pending_items_wait (b : SimBroker σ) :
    ∀ entry ∈ b.pending.items, b.pending.get? entry.1 = some entry.2 :=
  fun _ member => (b.pending.get?_eq_some_iff).mpr member

theorem checkPending_moves (b : SimBroker σ) (symbol : Symbol) (bid ask : ℚ) :
    Moves cfg false b (b.checkPending cfg symbol bid ask).events
      (b.checkPending cfg symbol bid ask).broker :=
  promoteAll_moves cfg _ _ _ b b.pending.nodup b.pending_items_wait

theorem checkPendingBar_moves (b : SimBroker σ) (symbol : Symbol)
    (barHigh barLow : ℚ) :
    Moves cfg false b (b.checkPendingBar cfg symbol barHigh barLow).events
      (b.checkPendingBar cfg symbol barHigh barLow).broker :=
  promoteAll_moves cfg _ _ _ b b.pending.nodup b.pending_items_wait

theorem modifyOrder_moves (b : SimBroker σ) (ticket : Ticket)
    (changes : OrderChanges) :
    Moves cfg false b (b.modifyOrder ticket changes).events
      (b.modifyOrder ticket changes).broker := by
  unfold modifyOrder
  split
  · rename_i pending waiting
    split
    · exact .refl b
    · rename_i updated amended
      exact .single
        (.amendPending b ticket pending updated changes waiting amended)
  · split
    · exact .refl b
    · rename_i pos stored
      exact .single (.amendPosition b ticket pos changes stored)

theorem closeFully_moves (b : SimBroker σ) {ticket : Ticket} {pos : Position}
    (mid : ℚ) (stored : b.positions.get? ticket = some pos) :
    Moves cfg false b (b.closeFully cfg ticket pos mid).events
      (b.closeFully cfg ticket pos mid).broker :=
  .single (.close b ticket pos _ _ stored)

theorem closePartly_moves (b : SimBroker σ) {ticket : Ticket} {pos : Position}
    (mid chunk : ℚ) (smaller : chunk < pos.volume)
    (stored : b.positions.get? ticket = some pos) :
    Moves cfg false b (b.closePartly cfg ticket pos mid chunk smaller).events
      (b.closePartly cfg ticket pos mid chunk smaller).broker := by
  unfold closePartly
  dsimp only
  split
  · rename_i positive
    exact .single (.shrink b ticket pos chunk _ _ smaller stored positive)
  · rename_i refused
    exact .single
      (.grow b ticket pos chunk _ _ smaller stored (not_lt.mp refused))

theorem closePosition_moves (b : SimBroker σ) (ticket : Ticket)
    (volume : Option ℚ) :
    Moves cfg false b (b.closePosition cfg ticket volume).events
      (b.closePosition cfg ticket volume).broker := by
  unfold closePosition
  split
  · exact .refl b
  · rename_i pos stored
    split
    · exact .refl b
    · split
      · exact closeFully_moves cfg b _ stored
      · split
        · exact closePartly_moves cfg b _ _ _ stored
        · exact closeFully_moves cfg b _ stored

theorem cancelOrder_moves (b : SimBroker σ) (ticket : Ticket) :
    Moves cfg false b (b.cancelOrder ticket).events (b.cancelOrder ticket).broker := by
  unfold cancelOrder
  split
  · exact .refl b
  · rename_i pending waiting
    exact .single (.cancel b ticket pending waiting)

theorem perform_moves (b : SimBroker σ) (op : BrokerOp) :
    Moves cfg op.places b (perform cfg b op).2 (perform cfg b op).1 := by
  cases op with
  | setMarket symbol price => exact .single (.quote b _ _ _ _ _)
  | setMarketTick symbol bid ask => exact .single (.quote b _ _ _ _ _)
  | advanceClock t => exact .single (.quote b _ _ _ _ _)
  | placeOrder req => exact placeOrder_moves cfg b req
  | checkPending symbol bid ask => exact checkPending_moves cfg b symbol bid ask
  | checkPendingBar symbol barHigh barLow =>
      exact checkPendingBar_moves cfg b symbol barHigh barLow
  | modifyOrder ticket changes => exact modifyOrder_moves cfg b ticket changes
  | closePosition ticket volume =>
      exact closePosition_moves cfg b ticket volume
  | cancelOrder ticket => exact cancelOrder_moves cfg b ticket

/-- A run of operations is a chain of moves. -/
theorem run_moves (b : SimBroker σ) (ops : List BrokerOp) :
    ∃ events, Moves cfg true b events (run cfg b ops) := by
  induction ops generalizing b with
  | nil => exact ⟨[], .refl b⟩
  | cons op ops ih =>
      rcases ih (perform cfg b op).1 with ⟨events, moves⟩
      exact ⟨_, (perform_moves cfg b op).widen.trans moves⟩

end Operations

/-- No move renames the account. -/
theorem Moves.accountId {cfg : SimConfig σ} {placing : Bool}
    {b b' : SimBroker σ} {events : List Event}
    (moves : Moves cfg placing b events b') : b'.accountId = b.accountId :=
  moves.relates (R := fun s _ s' => s'.accountId = s.accountId)
    (fun _ => rfl) (fun one two => two.trans one)
    (fun move => by cases move <;> rfl)

/-! ### How a placement can end -/

/-- The four ends of a placement: refused, parked, raised after the ticket was
issued, or filled. -/
inductive Placed (cfg : SimConfig σ) (b : SimBroker σ) (req : OrderRequest) :
    Call σ OrderResult → Prop where
  | refused (message : RejectMessage) :
      Placed cfg b req (b.returns (.refused message))
  | parked : Placed cfg b req (b.parkPending req)
  | raised (slippage : σ) :
      Placed cfg b req
        ({ b with
            slippageState := slippage
            nextTicket := b.nextTicket + 1 }.raises .positionOpenPrice)
  | filled (slippage : σ) (pos : Position) (mid fillPrice : ℚ)
      (ticketed : pos.ticket = b.nextTicket) (symbol : pos.symbol = req.symbol) :
      Placed cfg b req
        (({ b with
            slippageState := slippage
            nextTicket := b.nextTicket + 1 }.openPosition cfg pos
              req.strategyId).returns
          ⟨true, some b.nextTicket, .filled, none,
            some (b.marketOrder req mid fillPrice)⟩)

theorem placeOrder_placed (cfg : SimConfig σ) (b : SimBroker σ)
    (req : OrderRequest) : Placed cfg b req (b.placeOrder cfg req) := by
  unfold placeOrder
  split
  · split
    · split
      · exact .refused _
      · exact .parked
    · unfold fillMarket
      dsimp only
      split
      · exact .raised _
      · rename_i pos built
        have fields := buildPosition_ticket built
        exact .filled _ pos _ _ fields.1 fields.2.1
  · exact .refused _

/-! ### The books stay well kept -/

/-- Tickets name what they were issued for, every ticket in use was issued, and
an order never waits under the ticket of an open position. -/
structure BooksKept (b : SimBroker σ) : Prop where
  issued_pos : 0 < b.nextTicket
  position_ticket : ∀ {ticket pos}, b.positions.get? ticket = some pos →
    pos.ticket = ticket ∧ 0 < ticket ∧ ticket < b.nextTicket
  pending_ticket : ∀ {ticket order}, b.pending.get? ticket = some order →
    order.ticket = ticket ∧ 0 < ticket ∧ ticket < b.nextTicket
  apart : ∀ {ticket order}, b.pending.get? ticket = some order →
    b.positions.get? ticket = none
  named : ∀ {ticket pos}, b.positions.get? ticket = some pos →
    ∃ strategyId, b.strategyIdByTicket.get? ticket = some strategyId

theorem booksKept_create (initialBalance : ℚ) (slippage : σ) (now : Time) :
    BooksKept (create initialBalance slippage now) where
  issued_pos := Int.one_pos
  position_ticket := by intro ticket pos stored; cases stored
  pending_ticket := by intro ticket order waiting; cases waiting
  apart := by intro ticket order waiting; cases waiting
  named := by intro ticket pos stored; cases stored

namespace BooksKept

variable {cfg : SimConfig σ} {placing : Bool} {b : SimBroker σ}

/-- Nothing is stored under the next ticket. -/
theorem position_fresh (kept : BooksKept b) :
    b.positions.get? b.nextTicket = none := by
  cases stored : b.positions.get? b.nextTicket with
  | none => rfl
  | some pos => exact absurd (kept.position_ticket stored).2.2 (lt_irrefl _)

theorem pending_fresh (kept : BooksKept b) :
    b.pending.get? b.nextTicket = none := by
  cases waiting : b.pending.get? b.nextTicket with
  | none => rfl
  | some order => exact absurd (kept.pending_ticket waiting).2.2 (lt_irrefl _)

/-- Issuing one more ticket. -/
theorem burn (kept : BooksKept b) :
    BooksKept { b with nextTicket := b.nextTicket + 1 } where
  issued_pos := lt_trans kept.issued_pos (lt_add_one _)
  position_ticket := by
    intro ticket pos stored
    rcases kept.position_ticket stored with ⟨named, pos, below⟩
    exact ⟨named, pos, lt_trans below (lt_add_one _)⟩
  pending_ticket := by
    intro ticket order waiting
    rcases kept.pending_ticket waiting with ⟨named, pos, below⟩
    exact ⟨named, pos, lt_trans below (lt_add_one _)⟩
  apart := kept.apart
  named := kept.named

/-- Rewriting a pending order in place, or parking one under an issued ticket
that nothing uses. -/
theorem setPending (kept : BooksKept b) {ticket : Ticket} {order : Order}
    (ticketed : order.ticket = ticket) (positive : 0 < ticket)
    (issued : ticket < b.nextTicket) (free : b.positions.get? ticket = none) :
    BooksKept { b with pending := b.pending.set ticket order } where
  issued_pos := kept.issued_pos
  position_ticket := kept.position_ticket
  pending_ticket := by
    intro other found waiting
    rw [Dict.get?_set] at waiting
    split at waiting
    · rename_i same
      cases waiting
      exact ⟨ticketed.trans same.symm, same ▸ positive, same ▸ issued⟩
    · exact kept.pending_ticket waiting
  apart := by
    intro other found waiting
    rw [Dict.get?_set] at waiting
    split at waiting
    · rename_i same
      exact same ▸ free
    · exact kept.apart waiting
  named := kept.named

theorem erasePending (kept : BooksKept b) (ticket : Ticket) :
    BooksKept { b with pending := b.pending.erase ticket } where
  issued_pos := kept.issued_pos
  position_ticket := kept.position_ticket
  pending_ticket := by
    intro other found waiting
    rw [Dict.get?_erase] at waiting
    split at waiting
    · cases waiting
    · exact kept.pending_ticket waiting
  apart := by
    intro other found waiting
    rw [Dict.get?_erase] at waiting
    split at waiting
    · cases waiting
    · exact kept.apart waiting
  named := kept.named

/-- Storing a position under an issued ticket under which no order waits. -/
theorem setPosition (kept : BooksKept b) {ticket : Ticket} {pos : Position}
    (ticketed : pos.ticket = ticket) (positive : 0 < ticket)
    (issued : ticket < b.nextTicket) (free : b.pending.get? ticket = none)
    (named : ∃ strategyId, b.strategyIdByTicket.get? ticket = some strategyId) :
    BooksKept { b with positions := b.positions.set ticket pos } where
  issued_pos := kept.issued_pos
  position_ticket := by
    intro other found stored
    rw [Dict.get?_set] at stored
    split at stored
    · rename_i same
      cases stored
      exact ⟨ticketed.trans same.symm, same ▸ positive, same ▸ issued⟩
    · exact kept.position_ticket stored
  pending_ticket := kept.pending_ticket
  apart := by
    intro other found waiting
    rw [Dict.get?_set]
    split
    · rename_i same
      rw [← same, waiting] at free
      cases free
    · exact kept.apart waiting
  named := by
    intro other found stored
    rw [Dict.get?_set] at stored
    split at stored
    · rename_i same
      exact same ▸ named
    · exact kept.named stored

/-- Rewriting an open position under its own ticket. -/
theorem resetPosition (kept : BooksKept b) {ticket : Ticket}
    {pos : Position} (pos' : Position)
    (stored : b.positions.get? ticket = some pos)
    (same : pos'.ticket = pos.ticket) :
    BooksKept { b with positions := b.positions.set ticket pos' } := by
  rcases kept.position_ticket stored with ⟨ticketed, positive, below⟩
  have free : b.pending.get? ticket = none := by
    cases waiting : b.pending.get? ticket with
    | none => rfl
    | some order =>
        rw [kept.apart waiting] at stored
        cases stored
  exact kept.setPosition (same.trans ticketed) positive below free
    (kept.named stored)

/-- Naming the strategy behind a ticket. -/
theorem setStrategy (kept : BooksKept b) (ticket : Ticket)
    (strategyId : StrategyId) :
    BooksKept
      { b with
        strategyIdByTicket := b.strategyIdByTicket.set ticket strategyId } where
  issued_pos := kept.issued_pos
  position_ticket := kept.position_ticket
  pending_ticket := kept.pending_ticket
  apart := kept.apart
  named := by
    intro other found stored
    rw [Dict.get?_set]
    split
    · exact ⟨strategyId, rfl⟩
    · exact kept.named stored

/-- Removing a position together with the name of its strategy. -/
theorem erasePosition (kept : BooksKept b) (ticket : Ticket) :
    BooksKept
      { b with
        strategyIdByTicket := b.strategyIdByTicket.erase ticket
        positions := b.positions.erase ticket } where
  issued_pos := kept.issued_pos
  position_ticket := by
    intro other found stored
    rw [Dict.get?_erase] at stored
    split at stored
    · cases stored
    · exact kept.position_ticket stored
  pending_ticket := kept.pending_ticket
  apart := by
    intro other found waiting
    rw [Dict.get?_erase]
    split
    · rfl
    · exact kept.apart waiting
  named := by
    intro other found stored
    rw [Dict.get?_erase] at stored ⊢
    split at stored
    · cases stored
    · rename_i apart
      rw [if_neg apart]
      exact kept.named stored

/-- Only the ticket counter and the four books matter. -/
theorem congr (kept : BooksKept b) {b' : SimBroker σ}
    (tickets : b'.nextTicket = b.nextTicket)
    (positions : b'.positions = b.positions) (pending : b'.pending = b.pending)
    (names : b'.strategyIdByTicket = b.strategyIdByTicket) : BooksKept b' where
  issued_pos := tickets ▸ kept.issued_pos
  position_ticket := by rw [positions, tickets]; exact kept.position_ticket
  pending_ticket := by rw [pending, tickets]; exact kept.pending_ticket
  apart := by rw [positions, pending]; exact kept.apart
  named := by rw [positions, names]; exact kept.named

theorem amendOrder_ticket {changes : OrderChanges} {pending updated : Order}
    (amended : changes.amendOrder pending = some updated) :
    updated.ticket = pending.ticket ∧ updated.symbol = pending.symbol ∧
      updated.strategyId = pending.strategyId := by
  unfold OrderChanges.amendOrder at amended
  split at amended
  · cases amended
    exact ⟨rfl, rfl, rfl⟩
  · split at amended
    · cases amended
      exact ⟨rfl, rfl, rfl⟩
    · cases amended

theorem move {b' : SimBroker σ} {events : List Event}
    (kept : BooksKept b) (moved : Move cfg placing b events b') : BooksKept b' := by
  cases moved with
  | quote => exact kept.congr rfl rfl rfl rfl
  | burnTicket => exact kept.burn
  | park req issues =>
      have below : b.nextTicket < b.nextTicket + 1 := Int.lt_succ _
      exact kept.burn.setPending rfl kept.issued_pos below kept.position_fresh
  | openMarket pos strategyId ticketed issues =>
      have below : pos.ticket < b.nextTicket + 1 := ticketed ▸ Int.lt_succ _
      have named := kept.burn.setStrategy pos.ticket strategyId
      refine (named.setPosition rfl (ticketed ▸ kept.issued_pos) below
        (ticketed ▸ kept.pending_fresh)
        ⟨strategyId, Dict.get?_set_self _ _ _⟩).congr rfl rfl rfl rfl
  | promote ticket pending fillPrice pos waiting built =>
      rcases kept.pending_ticket waiting with ⟨-, positive, below⟩
      have ticketed := (buildPosition_ticket built).1
      have named := (kept.erasePending ticket).setStrategy ticket
        pending.strategyId
      have opened := named.setPosition ticketed positive below
        (Dict.get?_erase_self _ _) ⟨_, Dict.get?_set_self _ _ _⟩
      subst ticketed
      exact opened.congr rfl rfl rfl rfl
  | amendPending ticket pending updated changes waiting amended =>
      rcases kept.pending_ticket waiting with ⟨ticketed, positive, below⟩
      exact kept.setPending ((amendOrder_ticket amended).1.trans ticketed) positive
        below (kept.apart waiting)
  | amendPosition ticket pos changes stored =>
      exact kept.resetPosition _ stored rfl
  | shrink ticket pos chunk closePrice slippage smaller stored positive =>
      exact (kept.resetPosition (remainder pos chunk smaller) stored
        rfl).congr rfl rfl rfl rfl
  | grow ticket pos chunk closePrice slippage smaller stored refused =>
      exact (kept.resetPosition (remainder pos chunk smaller) stored
        rfl).congr rfl rfl rfl rfl
  | close ticket pos closePrice slippage stored =>
      exact (kept.erasePosition ticket).congr rfl rfl rfl rfl
  | cancel ticket pending waiting => exact kept.erasePending ticket

theorem moves {b' : SimBroker σ} {events : List Event} (kept : BooksKept b)
    (moved : Moves cfg placing b events b') : BooksKept b' :=
  moved.invariant kept fun head held => held.move head

/-- The books are well kept after any run from a fresh broker. -/
theorem run (kept : BooksKept b) (ops : List BrokerOp) :
    BooksKept (SimBroker.run cfg b ops) := by
  rcases run_moves cfg b ops with ⟨events, moved⟩
  exact kept.moves moved

end BooksKept

/-! ### Market prices move only with the market -/

/-- The stored market prices. -/
def quotes (b : SimBroker σ) : Dict Symbol ℚ × Dict Symbol ℚ × Dict Symbol ℚ :=
  (b.lastPrice, b.lastBid, b.lastAsk)

theorem placeOrder_quotes (cfg : SimConfig σ) (b : SimBroker σ)
    (req : OrderRequest) : (b.placeOrder cfg req).broker.quotes = b.quotes := by
  unfold placeOrder
  split
  · split
    · split <;> rfl
    · unfold fillMarket
      dsimp only
      split <;> rfl
  · rfl

theorem modifyOrder_quotes (b : SimBroker σ) (ticket : Ticket)
    (changes : OrderChanges) :
    (b.modifyOrder ticket changes).broker.quotes = b.quotes := by
  unfold modifyOrder
  split
  · split <;> rfl
  · split <;> rfl

theorem closePosition_quotes (cfg : SimConfig σ) (b : SimBroker σ)
    (ticket : Ticket) (volume : Option ℚ) :
    (b.closePosition cfg ticket volume).broker.quotes = b.quotes := by
  unfold closePosition
  split
  · rfl
  · split
    · rfl
    · split
      · rfl
      · split
        · unfold closePartly
          dsimp only
          split <;> rfl
        · rfl

theorem cancelOrder_quotes (b : SimBroker σ) (ticket : Ticket) :
    (b.cancelOrder ticket).broker.quotes = b.quotes := by
  unfold cancelOrder
  split <;> rfl

theorem promoteAll_quotes (cfg : SimConfig σ) (fires : Order → Bool)
    (fillPrice : Order → σ → ℚ × σ) :
    ∀ (listing : List (Ticket × Order)) (b : SimBroker σ),
      (promoteAll cfg fires fillPrice listing b).broker.quotes = b.quotes
  | [], _ => rfl
  | (ticket, pending) :: rest, b => by
      unfold promoteAll
      split
      · dsimp only
        have promoted : ∀ priced : SimBroker σ, ∀ price : ℚ,
            (priced.promotePending cfg ticket pending price).broker.quotes =
              priced.quotes := by
          intro priced price
          unfold promotePending
          split <;> rfl
        split
        · exact promoted _ _
        · exact (promoteAll_quotes cfg fires fillPrice rest _).trans (promoted _ _)
      · exact promoteAll_quotes cfg fires fillPrice rest b

theorem checkPendingBar_quotes (cfg : SimConfig σ) (b : SimBroker σ)
    (symbol : Symbol) (barHigh barLow : ℚ) :
    (b.checkPendingBar cfg symbol barHigh barLow).broker.quotes = b.quotes :=
  promoteAll_quotes cfg _ _ _ b

end StingerFx.SimBroker
