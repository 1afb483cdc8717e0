/-
Module: StingerFx.Proofs.TesterLink
Layer: Proofs
Purpose: The protocol of the MT5 Strategy Tester. The advisor reads back from the
  text of a reply exactly the order that the driver wrote into it. Over every
  interleaving, the advisor executes the strategy's orders in the order of the
  signals, each at most once, and at most one order is ever taken from the queue and
  not executed. After one timeout nothing is executed any more.
Trusted boundary: none (fully proved)
Main exports: Mt5Tester.Readable, Mt5Tester.applyAction_dumps,
  TesterLink.orders_in_order, TesterLink.timeout_ends_trading
-/
import StingerFx.Backtest.Mt5Tester

namespace StingerFx

open Lib

/-! ### The text of a reply -/

theorem plain_nil : Plain [] := fun _ member => by cases member

theorem plain_cons {c : Char} {chars : List Char}
    (first : c ≠ quoteMark ∧ c ≠ ',' ∧ c ≠ ':' ∧ c ≠ closeBrace ∧ c ≠ ' ')
    (rest : Plain chars) : Plain (c :: chars) := by
  intro d member
  rcases List.mem_cons.mp member with rfl | later
  · exact first
  · exact rest d later

/-- The value that follows a key. -/
theorem jsonField_of_found {key : List Char} {value : FlatValue} {c : Char}
    {body after : List Char} (plainKey : Plain key) (plain : Plain value.chars)
    (stop : c = ',' ∨ c = closeBrace)
    (found : findText (quoted key) body =
      some (dumpsEntry (key, value) ++ c :: after)) :
    jsonField body key = value.chars := by
  have shape : dumpsEntry (key, value) ++ c :: after =
      quoted key ++ (':' :: ' ' :: (value.dumps ++ c :: after)) := by
    simp [dumpsEntry]
  have colon : (quoted key ++ (':' :: ' ' :: (value.dumps ++ c :: after))).dropWhile
      (fun c => decide (c ≠ ':')) = ':' :: ' ' :: (value.dumps ++ c :: after) := by
    apply dropWhile_append_of_stop
    · intro d member
      apply decide_eq_true
      rcases List.mem_append.mp member with inside | closing
      · rcases List.mem_cons.mp inside with rfl | inside
        · decide
        · exact (plainKey d inside).2.2.1
      · rw [List.mem_singleton.mp closing]
        decide
    · intro d first
      cases first
      decide
  have stopped : ∀ d, (c :: after).head? = some d →
      decide (d = ' ' ∨ d = quoteMark) = false := by
    intro d first
    cases first
    rcases stop with rfl | rfl <;> decide
  have ends : ∀ d, (c :: after).head? = some d →
      decide (d ≠ quoteMark ∧ d ≠ ',' ∧ d ≠ closeBrace) = false := by
    intro d first
    cases first
    rcases stop with rfl | rfl <;> decide
  have taken : ∀ d ∈ value.chars,
      decide (d ≠ quoteMark ∧ d ≠ ',' ∧ d ≠ closeBrace) = true := by
    intro d member
    have free := plain d member
    exact decide_eq_true ⟨free.1, free.2.1, free.2.2.2.1⟩
  -- a value that begins is not skipped with the blanks and quotes before it
  have begins : ∀ rest : List Char, (∀ d, rest.head? = some d →
      decide (d = ' ' ∨ d = quoteMark) = false) →
        (value.chars ++ rest).dropWhile
          (fun d => decide (d = ' ' ∨ d = quoteMark)) = value.chars ++ rest := by
    intro rest free
    apply @dropWhile_append_of_stop _ _ [] _ (fun _ member => by cases member)
    intro d first
    cases chars : value.chars with
    | nil =>
        rw [chars] at first
        exact free d first
    | cons e chars_ =>
        rw [chars] at first
        rw [← Option.some.inj first]
        have plainFirst := plain e (by rw [chars]; exact List.mem_cons_self)
        exact decide_eq_false (by
          rintro (blank | mark)
          · exact plainFirst.2.2.2.2 blank
          · exact plainFirst.1 mark)
  unfold jsonField
  rw [found, shape]
  dsimp only
  rw [colon]
  dsimp only
  have blank : decide ((' ' : Char) = ' ' ∨ (' ' : Char) = quoteMark) = true := by
    decide
  rw [List.dropWhile_cons, blank, if_pos rfl]
  cases value with
  | number chars =>
      have kept := begins (c :: after) stopped
      change List.takeWhile _ (List.dropWhile _ (chars ++ c :: after)) = chars
      rw [show List.dropWhile _ (chars ++ c :: after) = chars ++ c :: after from kept]
      exact takeWhile_append_of_stop taken ends
  | text chars =>
      have mark : decide (quoteMark = ' ' ∨ quoteMark = quoteMark) = true := by
        decide
      have shape : FlatValue.dumps (.text chars) ++ c :: after =
          quoteMark :: (chars ++ quoteMark :: c :: after) := by
        simp [FlatValue.dumps]
      rw [shape, List.dropWhile_cons, mark, if_pos rfl]
      cases chars with
      | nil =>
          -- the closing quote is skipped too
          rw [List.nil_append, List.dropWhile_cons, mark, if_pos rfl]
          have skipped : (c :: after).dropWhile
              (fun d => decide (d = ' ' ∨ d = quoteMark)) = c :: after :=
            @dropWhile_append_of_stop _ _ [] _ (fun _ member => by cases member)
              stopped
          rw [skipped]
          exact @takeWhile_append_of_stop _ _ [] _ (fun _ member => by cases member)
            ends
      | cons e chars =>
          have plainFirst := plain e List.mem_cons_self
          have kept : decide (e = ' ' ∨ e = quoteMark) = false :=
            decide_eq_false (by
              rintro (blank | mark)
              · exact plainFirst.2.2.2.2 blank
              · exact plainFirst.1 mark)
          rw [List.cons_append, List.dropWhile_cons, kept, if_neg (by simp)]
          apply @takeWhile_append_of_stop _ _ (e :: chars) _ taken
          intro d first
          cases first
          decide

/-- The advisor reads what the driver wrote: the value of a key, or nothing. -/
theorem jsonField_dumps {entries : List (List Char × FlatValue)} {key : List Char}
    (plainKey : Plain key) (filled : key ≠ [])
    (plain : ∀ entry ∈ entries, Plain entry.1 ∧ Plain entry.2.chars)
    (others : ∀ entry ∈ entries, entry.2 ≠ .text key) :
    jsonField (dumps entries) key =
      ((entries.lookup key).map FlatValue.chars).getD [] := by
  have found := findText_dumps entries plainKey filled plain others
  cases place : entries.lookup key with
  | none =>
      rw [place] at found
      unfold jsonField
      rw [found]
      rfl
  | some value =>
      rw [place] at found
      rcases found with ⟨c, after, stop, there⟩
      have member : Plain value.chars := by
        rcases List.lookup_eq_some_iff.mp place with ⟨front, back, whole, -⟩
        have inside : (key, value) ∈ entries := by
          rw [whole]
          exact List.mem_append_right _ List.mem_cons_self
        exact (plain _ inside).2
      exact jsonField_of_found plainKey member stop there

/-! ### The order in a reply -/

namespace Mt5Tester

variable {tester : Mt5Tester} {request : OrderRequest}

def figures (request : OrderRequest) : List ℚ :=
  request.volume :: (request.sl.toList ++ request.tp.toList)

/-- The numbers of an order become texts that are read back as the same numbers. -/
structure Readable (tester : Mt5Tester) (request : OrderRequest) : Prop where
  plain : ∀ figure ∈ figures request, Plain (tester.number figure)
  filled : ∀ figure ∈ figures request, tester.number figure ≠ []
  readsBack : ∀ figure ∈ figures request,
    tester.stringToDouble (tester.number figure) = figure

/-- The deal that an order asks for: a missing stop is zero. -/
def deal (request : OrderRequest) : ShimDeal :=
  .order request.side request.volume (request.sl.getD 0) (request.tp.getD 0)

theorem plain_texts : Plain actionKey ∧ Plain volumeKey ∧ Plain slKey ∧
    Plain tpKey ∧ Plain noneText ∧ Plain buyText ∧ Plain sellText := by
  decide

theorem plain_actionText (side : Side) : Plain (actionText side) := by
  cases side with
  | buy => exact plain_texts.2.2.2.2.2.1
  | sell => exact plain_texts.2.2.2.2.2.2

/-- No key is the text of an action. -/
theorem actionText_ne_key (side : Side) {key : List Char}
    (known : key ∈ [actionKey, volumeKey, slKey, tpKey]) : actionText side ≠ key := by
  cases side <;> revert key <;> decide

theorem entries_plain (readable : tester.Readable request) :
    ∀ entry ∈ tester.actionEntries (some request),
      Plain entry.1 ∧ Plain entry.2.chars := by
  obtain ⟨action, volume, sl, tp, -⟩ := plain_texts
  intro entry member
  unfold actionEntries at member
  rcases List.mem_append.mp member with front | last
  · rcases List.mem_append.mp front with head | middle
    · rcases List.mem_cons.mp head with rfl | second
      · exact ⟨action, plain_actionText _⟩
      · rw [List.mem_singleton.mp second]
        exact ⟨volume, readable.plain _ List.mem_cons_self⟩
    · rcases Option.map_eq_some_iff.mp (Option.mem_toList.mp middle) with
        ⟨stop, there, rfl⟩
      refine ⟨sl, readable.plain stop (List.mem_cons_of_mem _ ?_)⟩
      exact List.mem_append_left _ (Option.mem_toList.mpr there)
  · rcases Option.map_eq_some_iff.mp (Option.mem_toList.mp last) with
      ⟨target, there, rfl⟩
    refine ⟨tp, readable.plain target (List.mem_cons_of_mem _ ?_)⟩
    exact List.mem_append_right _ (Option.mem_toList.mpr there)

theorem entries_other {key : List Char}
    (known : key ∈ [actionKey, volumeKey, slKey, tpKey]) :
    ∀ entry ∈ tester.actionEntries (some request), entry.2 ≠ .text key := by
  intro entry member same
  unfold actionEntries at member
  rcases List.mem_append.mp member with front | last
  · rcases List.mem_append.mp front with head | middle
    · rcases List.mem_cons.mp head with rfl | second
      · exact actionText_ne_key request.side known (FlatValue.text.inj same)
      · rw [List.mem_singleton.mp second] at same
        cases same
    · rcases Option.map_eq_some_iff.mp (Option.mem_toList.mp middle) with
        ⟨stop, -, rfl⟩
      cases same
  · rcases Option.map_eq_some_iff.mp (Option.mem_toList.mp last) with
      ⟨target, -, rfl⟩
    cases same

theorem lookup_entries (tester : Mt5Tester) (request : OrderRequest) :
    (tester.actionEntries (some request)).lookup actionKey =
        some (.text (actionText request.side)) ∧
      (tester.actionEntries (some request)).lookup volumeKey =
        some (.number (tester.number request.volume)) ∧
      (tester.actionEntries (some request)).lookup slKey =
        request.sl.map (fun sl => .number (tester.number sl)) ∧
      (tester.actionEntries (some request)).lookup tpKey =
        request.tp.map (fun tp => .number (tester.number tp)) := by
  rcases request with ⟨_, _, side, _, volume, _, sl, tp, _, _, _, _⟩
  cases sl with
  | none => cases tp <;> exact ⟨rfl, rfl, rfl, rfl⟩
  | some sl => cases tp <;> exact ⟨rfl, rfl, rfl, rfl⟩

/-- The field of an optional figure. -/
theorem read_optional {stringToDouble : List Char → ℚ} {number : ℚ → List Char}
    {figure : Option ℚ}
    (filled : ∀ value, figure = some value → number value ≠ [])
    (readsBack : ∀ value, figure = some value →
      stringToDouble (number value) = value) :
    let text := ((figure.map fun value => FlatValue.number (number value)).map
      FlatValue.chars).getD []
    (if text = [] then 0 else stringToDouble text) = figure.getD 0 := by
  cases figure with
  | none => rfl
  | some value =>
      change (if number value = [] then 0 else stringToDouble (number value)) = value
      rw [if_neg (filled value rfl), readsBack value rfl]

/-- The advisor does what the order asks for. -/
theorem applyAction_dumps (readable : tester.Readable request) :
    applyAction tester.stringToDouble
      (dumps (tester.actionEntries (some request))) = some (deal request) := by
  obtain ⟨action, volume, sl, tp, -⟩ := plain_texts
  obtain ⟨hasAction, hasVolume, hasSl, hasTp⟩ := lookup_entries tester request
  have plain := entries_plain readable
  have readAction := jsonField_dumps action (by decide) plain
    (entries_other (by decide))
  have readVolume := jsonField_dumps volume (by decide) plain
    (entries_other (by decide))
  have readSl := jsonField_dumps sl (by decide) plain (entries_other (by decide))
  have readTp := jsonField_dumps tp (by decide) plain (entries_other (by decide))
  rw [hasAction] at readAction
  rw [hasVolume] at readVolume
  rw [hasSl] at readSl
  rw [hasTp] at readTp
  have lots : tester.stringToDouble (tester.number request.volume) =
      request.volume := readable.readsBack _ List.mem_cons_self
  have stop := @read_optional tester.stringToDouble tester.number request.sl
    (fun value there => readable.filled value (List.mem_cons_of_mem _
      (List.mem_append_left _ (Option.mem_toList.mpr there))))
    (fun value there => readable.readsBack value (List.mem_cons_of_mem _
      (List.mem_append_left _ (Option.mem_toList.mpr there))))
  have target := @read_optional tester.stringToDouble tester.number request.tp
    (fun value there => readable.filled value (List.mem_cons_of_mem _
      (List.mem_append_right _ (Option.mem_toList.mpr there))))
    (fun value there => readable.readsBack value (List.mem_cons_of_mem _
      (List.mem_append_right _ (Option.mem_toList.mpr there))))
  unfold applyAction
  rw [readAction, readVolume, readSl, readTp]
  simp only [Option.map_some, Option.getD_some, FlatValue.chars, lots, stop, target,
    if_neg (not_le.mpr request.volume_pos)]
  unfold deal
  cases request.side with
  | buy => rfl
  | sell => rfl

/-- A reply without an order changes nothing. -/
theorem applyAction_none (tester : Mt5Tester) :
    applyAction tester.stringToDouble (dumps (tester.actionEntries none)) = none := by
  rfl

end Mt5Tester

/-! ### Every interleaving -/

namespace TesterLink

variable {tester : Mt5Tester} {s s' : TesterLink} {label : TesterLabel}

/-- What the advisor does with the replies that carried some orders. -/
def outcomes (tester : Mt5Tester) (sent : List OrderRequest) : List ShimDeal :=
  sent.flatMap fun request =>
    (applyAction tester.stringToDouble
      (dumps (tester.actionEntries (some request)))).toList

/-- Some orders were executed, at most one has left the queue with a reply that was
not read, and the others still wait. At most one exchange is under way. -/
structure Exchange (tester : Mt5Tester) (done : List OrderRequest)
    (carried : Option OrderRequest) (s : TesterLink) : Prop where
  split : s.signalled = done ++ carried.toList ++ s.pendingOrders
  executed : s.executed = outcomes tester done
  wire : s.reply = some (dumps (tester.actionEntries carried)) ∨
    s.reply = none ∧ carried = none
  ready : s.shim = .ready → s.asked = none ∧ s.serving = false ∧ s.reply = none
  asked : s.asked.isSome = true → s.serving = false ∧ s.reply = none
  serving : s.serving = true → s.asked = none ∧ s.reply = none

theorem outcomes_concat (done : List OrderRequest) (request : OrderRequest) :
    outcomes tester (done ++ [request]) = outcomes tester done ++
      (applyAction tester.stringToDouble
        (dumps (tester.actionEntries (some request)))).toList := by
  simp [outcomes]

theorem exchange_start : start.Exchange tester [] none where
  split := rfl
  executed := rfl
  wire := .inr ⟨rfl, rfl⟩
  ready := fun _ => ⟨rfl, rfl, rfl⟩
  asked := fun other => by cases other
  serving := fun other => by cases other

/-- A reply without an order in it does nothing. -/
theorem outcome_of_carried (done : List OrderRequest)
    (carried : Option OrderRequest) :
    outcomes tester done ++ (applyAction tester.stringToDouble
        (dumps (tester.actionEntries carried))).toList =
      outcomes tester (done ++ carried.toList) := by
  cases carried with
  | none =>
      rw [tester.applyAction_none, Option.toList_none, Option.toList_none,
        List.append_nil, List.append_nil]
  | some request => exact (outcomes_concat done request).symm

theorem Exchange.step {done : List OrderRequest} {carried : Option OrderRequest}
    (exchange : s.Exchange tester done carried) (taken : Step tester s label s') :
    ∃ done' carried', s'.Exchange tester done' carried' ∧
      (s.shim = .wedged → done' = done) := by
  simp only [Step, stepOf?] at taken
  cases label with
  | onTick tick =>
      simp only [step?] at taken
      split at taken
      · rename_i free
        cases taken
        obtain ⟨-, idle, unread⟩ := exchange.ready free
        refine ⟨done, carried,
          { exchange with
            ready := fun other => by cases other
            asked := fun _ => ⟨idle, unread⟩
            serving := fun busy => by
              dsimp only at busy
              rw [idle] at busy
              cases busy }, fun _ => rfl⟩
      · cases taken
      · cases taken
        exact ⟨done, carried, exchange, fun _ => rfl⟩
  | recv =>
      simp only [step?] at taken
      split at taken
      · rename_i waits
        cases taken
        obtain ⟨-, unread⟩ := exchange.asked waits.1
        refine ⟨done, carried,
          { exchange with
            ready := fun free => ?_
            asked := fun other => by cases other
            serving := fun _ => ⟨rfl, unread⟩ }, fun _ => rfl⟩
        have none_ := (exchange.ready free).1
        rw [none_] at waits
        cases waits.1
      · cases taken
  | signal signal =>
      simp only [step?] at taken
      split at taken
      · cases taken
        exact ⟨done, carried, exchange, fun _ => rfl⟩
      · rename_i request queued
        cases taken
        refine ⟨done, carried, { exchange with split := ?_ }, fun _ => rfl⟩
        dsimp only
        rw [exchange.split, List.append_assoc]
  | send =>
      simp only [step?] at taken
      split at taken
      · rename_i busy
        cases taken
        obtain ⟨idle, unread⟩ := exchange.serving busy
        have nothing : carried = none := by
          rcases exchange.wire with read | ⟨-, none_⟩
          · rw [unread] at read
            cases read
          · exact none_
        subst nothing
        refine ⟨done, s.pendingOrders.head?,
          { split := ?_
            executed := exchange.executed
            wire := .inl rfl
            ready := fun free => ?_
            asked := fun some_ => ?_
            serving := fun other => by cases other }, fun _ => rfl⟩
        · dsimp only
          rw [exchange.split, Option.toList_none, List.append_nil,
            List.append_assoc]
          cases s.pendingOrders <;> rfl
        · have quiet := (exchange.ready free).2.1
          rw [busy] at quiet
          cases quiet
        · dsimp only at some_
          rw [idle] at some_
          cases some_
      · cases taken
  | raises =>
      simp only [step?] at taken
      split at taken
      · rename_i busy
        cases taken
        refine ⟨done, carried,
          { exchange with
            ready := fun free => ?_
            asked := fun some_ => ⟨rfl, (exchange.asked some_).2⟩
            serving := fun other => by cases other }, fun _ => rfl⟩
        have quiet := (exchange.ready free).2.1
        rw [busy] at quiet
        cases quiet
      · cases taken
  | applies =>
      simp only [step?] at taken
      split at taken
      · rename_i body awaits read
        cases taken
        have text : body = dumps (tester.actionEntries carried) := by
          rcases exchange.wire with wire | ⟨unread, -⟩
          · rw [read] at wire
            exact Option.some.inj wire
          · rw [read] at unread
            cases unread
        have idle : s.asked = none := by
          cases asks : s.asked with
          | none => rfl
          | some tick =>
              have unread := (exchange.asked (by rw [asks]; rfl)).2
              rw [read] at unread
              cases unread
        have quiet : s.serving = false := by
          cases busy : s.serving with
          | false => rfl
          | true =>
              have unread := (exchange.serving busy).2
              rw [read] at unread
              cases unread
        refine ⟨done ++ carried.toList, none,
          { split := ?_
            executed := ?_
            wire := .inr ⟨rfl, rfl⟩
            ready := fun _ => ⟨idle, quiet, rfl⟩
            asked := fun _ => ⟨quiet, rfl⟩
            serving := fun _ => ⟨idle, rfl⟩ }, fun wedged => ?_⟩
        · dsimp only
          rw [exchange.split, Option.toList_none, List.append_nil]
        · dsimp only
          rw [exchange.executed, text]
          exact outcome_of_carried done carried
        · rw [awaits] at wedged
          cases wedged
      · cases taken
  | timeout =>
      simp only [step?] at taken
      split at taken
      · cases taken
        exact ⟨done, carried, { exchange with ready := fun other => by cases other },
          fun _ => rfl⟩
      · cases taken

/-- Every reachable state is somewhere in an exchange. -/
theorem exchange_of_run {labels : List TesterLabel}
    (run : Run (Step tester) start labels s) :
    ∃ done carried, s.Exchange tester done carried :=
  run.invariant (P := fun s => ∃ done carried, s.Exchange tester done carried)
    ⟨[], none, exchange_start⟩ fun taken reached => by
      obtain ⟨done, carried, exchange⟩ := reached
      obtain ⟨done', carried', exchange', -⟩ := exchange.step taken
      exact ⟨done', carried', exchange'⟩

theorem outcomes_of_readable {sent : List OrderRequest}
    (readable : ∀ request ∈ sent, tester.Readable request) :
    outcomes tester sent = sent.map Mt5Tester.deal := by
  induction sent with
  | nil => rfl
  | cons request rest ih =>
      have first := Mt5Tester.applyAction_dumps
        (readable request List.mem_cons_self)
      have later := ih fun other member =>
        readable other (List.mem_cons_of_mem _ member)
      unfold outcomes at later ⊢
      rw [List.flatMap_cons, first, later]
      rfl

/-- However ticks, signals, replies and timeouts interleave: the advisor has executed
the oldest of the queued orders, in their order and each once, with the side, volume
and stops that the strategy asked for; one more may be on the wire, and all the
others still wait in the driver. -/
theorem orders_in_order {labels : List TesterLabel}
    (run : Run (Step tester) start labels s)
    (readable : ∀ request ∈ s.signalled, tester.Readable request) :
    ∃ (done : List OrderRequest) (carried : Option OrderRequest),
      s.signalled = done ++ carried.toList ++ s.pendingOrders ∧
        s.executed = done.map Mt5Tester.deal ∧
          (s.shim = .ready → carried = none) := by
  obtain ⟨done, carried, exchange⟩ := exchange_of_run run
  refine ⟨done, carried, exchange.split, ?_, ?_⟩
  · rw [exchange.executed]
    apply outcomes_of_readable
    intro request member
    apply readable
    rw [exchange.split, List.append_assoc]
    exact List.mem_append_left _ member
  · intro free
    rcases exchange.wire with wire | ⟨-, none_⟩
    · rw [(exchange.ready free).2.2] at wire
      cases wire
    · exact none_

/-! One order over the wire, and one that the timeout leaves there. -/

theorem centLot_pos : (0 : ℚ) < 1 / 100 := by norm_num

def centText : List Char := ['0', '.', '0', '1']

def stopText : List Char := ['1', '.', '0', '8']

/-- The driver of a strategy that only uses two numbers. -/
def centTester : Mt5Tester where
  strategyId := "s1"
  magic := 7
  number value := if value = 1 / 100 then centText else stopText
  stringToDouble text := if text = centText then 1 / 100 else 108 / 100

def centSignal : Signal where
  strategyId := "s1"
  time := 0
  symbol := "EURUSD"
  side := .buy
  suggestedVolume := none
  suggestedSl := some (108 / 100)
  suggestedTp := none
  orderType := .market
  suggestedPrice := none
  entryRefPrice := none
  comment := ""

def centRequest : OrderRequest where
  strategyId := "s1"
  symbol := "EURUSD"
  side := .buy
  type := .market
  volume := 1 / 100
  price := none
  sl := some (108 / 100)
  tp := none
  comment := ""
  magic := 7
  clientOrderId := ""
  volume_pos := centLot_pos

def centTick : Tick := ⟨"EURUSD", 0, 1, 1, one_quote_pos, one_quote_pos⟩

theorem centRequest_readable : centTester.Readable centRequest where
  plain := by decide +kernel
  filled := by decide +kernel
  readsBack := by decide +kernel

/-- The advisor executed the first order and waits for the reply to its second tick. -/
def asking : TesterLink where
  shim := .awaiting
  asked := some centTick
  serving := false
  reply := none
  pendingOrders := [centRequest]
  failed := false
  signalled := [centRequest, centRequest]
  executed := [.order .buy (1 / 100) (108 / 100) 0]

theorem asking_reached :
    Run (Step centTester) start
      [.onTick centTick, .signal centSignal, .recv, .send, .signal centSignal,
        .applies, .onTick centTick] asking := by
  have replayed : replay? (fun _ _ => True) (step? centTester) start
      [.onTick centTick, .signal centSignal, .recv, .send, .signal centSignal,
        .applies, .onTick centTick] = some asking := by
    decide +kernel
  exact (run_of_replay? replayed).unguard

theorem asking_in_order :
    ∃ (done : List OrderRequest) (carried : Option OrderRequest),
      asking.signalled = done ++ carried.toList ++ asking.pendingOrders ∧
        asking.executed = done.map Mt5Tester.deal ∧
          (asking.shim = .ready → carried = none) := by
  apply orders_in_order asking_reached
  intro request member
  have same : request = centRequest := by
    simpa [asking] using member
  rw [same]
  exact centRequest_readable

/-! ### After a timeout -/

theorem wedged_step (wedged : s.shim = .wedged) (taken : Step tester s label s') :
    s'.shim = .wedged ∧ s'.executed = s.executed := by
  simp only [Step, stepOf?] at taken
  cases label with
  | onTick tick =>
      simp only [step?, wedged] at taken
      cases taken
      exact ⟨wedged, rfl⟩
  | recv =>
      simp only [step?] at taken
      split at taken
      · cases taken
        exact ⟨wedged, rfl⟩
      · cases taken
  | signal signal =>
      simp only [step?] at taken
      split at taken
      · cases taken
        exact ⟨wedged, rfl⟩
      · cases taken
        exact ⟨wedged, rfl⟩
  | send =>
      simp only [step?] at taken
      split at taken
      · cases taken
        exact ⟨wedged, rfl⟩
      · cases taken
  | raises =>
      simp only [step?] at taken
      split at taken
      · cases taken
        exact ⟨wedged, rfl⟩
      · cases taken
  | applies => simp [step?, wedged] at taken
  | timeout => simp [step?, wedged] at taken

/-- Once the advisor has given up on one reply, it never executes anything again,
whatever the strategy signals; of the orders that it did not execute by then, at most
one has left the queue. -/
theorem timeout_ends_trading {stuck final : TesterLink}
    {before after : List TesterLabel} (first : Run (Step tester) start before s)
    (gives_up : Step tester s .timeout stuck)
    (later : Run (Step tester) stuck after final) :
    final.shim = .wedged ∧ final.executed = s.executed ∧
      ∃ (done : List OrderRequest) (lost : Option OrderRequest),
        s.executed = outcomes tester done ∧
          final.signalled = done ++ lost.toList ++ final.pendingOrders := by
  have ended : stuck.shim = .wedged ∧ stuck.executed = s.executed := by
    simp only [Step, stepOf?, step?] at gives_up
    split at gives_up
    · cases gives_up
      exact ⟨rfl, rfl⟩
    · cases gives_up
  obtain ⟨done, carried, exchange⟩ :=
    exchange_of_run (first.trans (Run.single gives_up))
  have kept := later.invariant
    (P := fun final => final.shim = .wedged ∧ final.executed = s.executed ∧
      ∃ lost, final.Exchange tester done lost)
    ⟨ended.1, ended.2, carried, exchange⟩ fun taken reached => by
      obtain ⟨wedged, same, lost, exchange⟩ := reached
      obtain ⟨still, unchanged⟩ := wedged_step wedged taken
      obtain ⟨done', lost', exchange', kept⟩ := exchange.step taken
      exact ⟨still, unchanged.trans same, lost', kept wedged ▸ exchange'⟩
  obtain ⟨wedged, same, lost, exchange'⟩ := kept
  exact ⟨wedged, same, done, lost, same.symm.trans exchange'.executed,
    exchange'.split⟩

theorem asking_gives_up :
    ∃ final : TesterLink, final.pendingOrders = [centRequest] ∧
      final.shim = .wedged ∧ final.executed = asking.executed ∧
      ∃ (done : List OrderRequest) (lost : Option OrderRequest),
        asking.executed = outcomes centTester done ∧
          final.signalled = done ++ lost.toList ++ final.pendingOrders := by
  have reached : (replay? (fun _ _ => True) (step? centTester)
      { asking with shim := .wedged }
      [.recv, .signal centSignal, .send, .onTick centTick]).map
        TesterLink.pendingOrders = some [centRequest] := by
    decide +kernel
  rcases Option.map_eq_some_iff.mp reached with ⟨final, replayed, orders⟩
  exact ⟨final, orders, timeout_ends_trading asking_reached rfl
    (run_of_replay? replayed).unguard⟩

end TesterLink

end StingerFx
