/-
Module: StingerFx.Proofs.OpeningRanges
Layer: Proofs
Purpose: The opening range is that of the bars. Whatever the feed delivers, the frozen
  range is computed from all the bars of the session's window, and from nothing else,
  once a bar behind the window was open to the strategy; the bounded view of the feed
  does not lose a bar of the window before then.
Trusted boundary: none (fully proved)
Main exports: length_le_of_spaced, IsRange, OpeningRangeBreakoutParams.rangeOf,
  OrbFeed.Fed, OrbFeed.range_exact
-/
import StingerFx.Proofs.SessionCaps
import StingerFx.Proofs.StreamingIndicators
import StingerFx.Strategies.BucketKeys
import StingerFx.Strategies.Examples.OpeningRangeBreakout

namespace StingerFx

open Lib Time

/-! ### Spaced instants -/

/-- Instants a step apart fit into a span only so often. -/
theorem length_le_of_spaced {step : Int} {times : List Int} {start : Int} {count : Nat}
    (spaced : times.Pairwise fun a b => a + step ≤ b)
    (inside : ∀ t ∈ times, start ≤ t ∧ t < start + count * step) :
    times.length ≤ count := by
  induction times generalizing start count with
  | nil => exact Nat.zero_le _
  | cons t rest ih =>
      obtain ⟨gaps, others⟩ := List.pairwise_cons.mp spaced
      have first := inside t List.mem_cons_self
      cases count with
      | zero =>
          simp only [Nat.cast_zero, zero_mul, add_zero] at first
          omega
      | succ count =>
          have fewer : rest.length ≤ count := by
            apply @ih (start + step) count others
            intro other member
            have later := gaps other member
            have bound := inside other (List.mem_cons_of_mem _ member)
            refine ⟨by omega, ?_⟩
            have same : start + step + count * step =
                start + (count + 1 : Nat) * step := by
              push_cast
              ring
            rw [same]
            exact bound.2
          exact Nat.succ_le_succ fewer

/-- Different whole minutes are a minute apart. -/
theorem minute_apart {a b : Int} (wholeA : a % usPerMinute = 0)
    (wholeB : b % usPerMinute = 0) (order : a < b) : a + usPerMinute ≤ b := by
  have size : usPerMinute = 60000000 := rfl
  rw [size] at wholeA wholeB ⊢
  omega

/-! ### The range of a window -/

/-- The highest high and the lowest low of some bars. -/
structure IsRange (range : OpeningRange) (window : List Bar) : Prop where
  high : IsGreatest {price | ∃ bar ∈ window, bar.high = price} range.high
  low : IsLeast {price | ∃ bar ∈ window, bar.low = price} range.low

theorem openingRange?_spec {window : List Bar} {builtAt : Time} {range : OpeningRange}
    (built : openingRange? window builtAt = some range) : IsRange range window := by
  cases window with
  | nil => cases built
  | cons first rest =>
      cases built
      refine ⟨⟨?_, ?_⟩, ⟨?_, ?_⟩⟩
      · rcases List.mem_cons.mp (foldl_max_mem first.high (rest.map Bar.high)) with
          base | later
        · exact ⟨first, List.mem_cons_self, base.symm⟩
        · rcases List.mem_map.mp later with ⟨bar, member, same⟩
          exact ⟨bar, List.mem_cons_of_mem _ member, same⟩
      · rintro price ⟨bar, member, rfl⟩
        rcases List.mem_cons.mp member with rfl | later
        · exact (foldl_max_ge _ _).1
        · exact (foldl_max_ge _ _).2 _ (List.mem_map_of_mem later)
      · rcases List.mem_cons.mp (foldl_min_mem first.low (rest.map Bar.low)) with
          base | later
        · exact ⟨first, List.mem_cons_self, base.symm⟩
        · rcases List.mem_map.mp later with ⟨bar, member, same⟩
          exact ⟨bar, List.mem_cons_of_mem _ member, same⟩
      · rintro price ⟨bar, member, rfl⟩
        rcases List.mem_cons.mp member with rfl | later
        · exact (foldl_min_le _ _).1
        · exact (foldl_min_le _ _).2 _ (List.mem_map_of_mem later)

namespace OpeningRangeBreakoutParams

variable (params : OpeningRangeBreakoutParams)

/-- The bars of the window of an instant's session. -/
def windowOf (now : Time) (bars : List Bar) : List Bar :=
  bars.filter fun bar =>
    decide (params.anchor now ≤ bar.time ∧ bar.time < params.orEnd now)

/-- A bar behind the window of an instant's session that was open to the strategy. -/
def Freezes (now : Time) (bar : Bar) : Prop :=
  params.anchor bar.time = params.anchor now ∧ params.orEnd now ≤ bar.time ∧
    params.isOpen bar.time = true

instance (now : Time) (bar : Bar) : Decidable (params.Freezes now bar) := by
  unfold Freezes
  infer_instance

/-- A bar behind the window of an instant's session. -/
def Frozen (now : Time) (bars : List Bar) : Prop :=
  ∃ bar ∈ bars, params.Freezes now bar

instance (now : Time) (bars : List Bar) : Decidable (params.Frozen now bars) :=
  inferInstanceAs (Decidable (∃ bar ∈ bars, params.Freezes now bar))

/-- The range that the bars have in the session of an instant. -/
def rangeAt (now : Time) (bars : List Bar) : Option OpeningRange :=
  if params.Frozen now bars then
    openingRange? (params.windowOf now bars) (params.orEnd now)
  else none

/-- The range that the bars have in the session of the last of them. -/
def rangeOf (bars : List Bar) : Option OpeningRange :=
  bars.getLast?.bind fun last => params.rangeAt last.time bars

end OpeningRangeBreakoutParams

/-! ### Sessions -/

section Sessions

variable {params : OpeningRangeBreakoutParams} {s t : Time}

theorem usPerMinute_eq : usPerMinute = 60000000 := rfl

/-- Sessions begin on different days or at the same instant. -/
theorem anchor_eq_of_date
    (same : date (params.anchor s) = date (params.anchor t)) :
    params.anchor s = params.anchor t := by
  unfold OpeningRangeBreakoutParams.anchor sessionStart at same ⊢
  generalize params.sessionStartHourUtc = start at same ⊢
  obtain ⟨h, below⟩ := start
  rw [anchoredDayStart_eq, anchoredDayStart_eq] at same ⊢
  simp only [date, usPerDay_eq, usPerHour_eq] at same ⊢
  dsimp only [Time] at *
  omega

/-- Before an instant that is in session, in the same session, it is the same day and
no later hour. -/
theorem hour_before (order : s ≤ t) (same : params.anchor s = params.anchor t)
    (begun : (params.sessionStartHourUtc.val : Int) ≤ hour t) :
    date s = date t ∧ (params.sessionStartHourUtc.val : Int) ≤ hour s ∧
      hour s ≤ hour t := by
  unfold OpeningRangeBreakoutParams.anchor sessionStart at same
  generalize params.sessionStartHourUtc = start at same begun ⊢
  obtain ⟨h, below⟩ := start
  rw [anchoredDayStart_eq, anchoredDayStart_eq] at same
  simp only [date, hour, usPerDay_eq, usPerHour_eq] at same begun ⊢
  dsimp only [Time] at *
  omega

/-- An instant is open if a later one of its session is. -/
theorem isOpen_before (order : s ≤ t) (same : params.anchor s = params.anchor t)
    (later : params.isOpen t = true) : params.isOpen s = true := by
  simp only [OpeningRangeBreakoutParams.isOpen, ScalperCadence.inSession,
    OpeningRangeBreakoutParams.isFridayLate, Bool.and_eq_true, decide_eq_true_eq,
    Bool.not_eq_true', Bool.and_eq_false_iff, decide_eq_false_iff_not, not_and,
    not_le] at later ⊢
  obtain ⟨⟨begun, notOver⟩, friday⟩ := later
  obtain ⟨day, start, hours⟩ := hour_before order same begun
  refine ⟨⟨start, hours.trans_lt notOver⟩, friday.imp_right fun early friday => ?_⟩
  rw [day] at friday
  exact hours.trans_lt (early friday)

/-- The anchors of two instants in order are in order, or the same. -/
theorem anchor_order (order : s ≤ t) :
    params.anchor s = params.anchor t ∨ params.anchor s < params.anchor t := by
  rcases anchoredDayStart_order params.sessionStartHourUtc order with same | earlier
  · exact .inl same
  · right
    have day : 0 < usPerDay := by decide
    exact lt_of_lt_of_le (lt_add_of_pos_right _ day) earlier

end Sessions

/-! ### The bounded view -/

section View

variable {params : OpeningRangeBreakoutParams} {taken : List Bar} {now : Time}

/-- Bars in order, each at a whole minute. -/
structure Minutely (taken : List Bar) : Prop where
  ordered : taken.Pairwise fun a b => a.time < b.time
  whole : ∀ bar ∈ taken, bar.time % usPerMinute = 0

theorem Minutely.sublist {some_ : List Bar} (minutely : Minutely taken)
    (part : some_.Sublist taken) : Minutely some_ :=
  ⟨minutely.ordered.sublist part, fun bar member =>
    minutely.whole bar (part.subset member)⟩

theorem Minutely.le_last (minutely : Minutely taken) {last other : Bar}
    (latest : taken.getLast? = some last) (member : other ∈ taken) :
    other.time ≤ last.time := by
  obtain ⟨front, split⟩ := List.getLast?_eq_some_iff.mp latest
  have ordered := minutely.ordered
  rw [split] at member ordered
  rcases List.mem_append.mp member with older | same
  · exact ((List.pairwise_append.mp ordered).2.2 other older last
      (List.mem_singleton.mpr rfl)).le
  · exact (congrArg Bar.time (List.mem_singleton.mp same)).le

/-- A window holds a bar for each of its minutes at most. -/
theorem window_short (minutely : Minutely taken)
    (inside : ∀ bar ∈ taken, params.anchor now ≤ bar.time ∧
      bar.time < params.orEnd now) : taken.length ≤ params.openingRangeMinutes := by
  rw [← List.length_map Bar.time]
  apply @length_le_of_spaced usPerMinute _ (params.anchor now)
  · rw [List.pairwise_map]
    exact minutely.ordered.imp_of_mem fun first second order =>
      minute_apart (minutely.whole _ first) (minutely.whole _ second) order
  · intro t member
    rcases List.mem_map.mp member with ⟨bar, there, rfl⟩
    exact inside bar there

/-- The first bar behind a window finds all the bars of the window in a view that keeps
more bars than a window has. -/
theorem windowOf_rtake {bar : Bar} {others : Nat}
    (minutely : Minutely (taken ++ [bar])) (room : params.openingRangeMinutes < others)
    (early : ∀ other ∈ taken, params.anchor now ≤ other.time →
      other.time < params.orEnd now) :
    params.windowOf now ((taken ++ [bar]).rtake (others + 1)) =
      params.windowOf now (taken ++ [bar]) := by
  have kept : (taken ++ [bar]).rtake (others + 1) = taken.rtake others ++ [bar] :=
    List.rtake_concat_succ ..
  have split : taken = taken.take (taken.length - others) ++ taken.rtake others :=
    (List.take_append_drop ..).symm
  have nothing : params.windowOf now (taken.take (taken.length - others)) = [] := by
    apply List.filter_eq_nil_iff.mpr
    intro lost member inWindow
    have from_ := (of_decide_eq_true inWindow).1
    have before := minutely.sublist (List.sublist_append_left taken [bar])
    have long : others < taken.length := by
      have some_ := List.length_pos_of_mem member
      rw [List.length_take] at some_
      omega
    have count : (taken.rtake others).length ≤ params.openingRangeMinutes := by
      apply @window_short _ _ now (before.sublist (List.drop_sublist _ _))
      intro other there
      have ordered := before.ordered
      rw [split] at ordered
      have later := (List.pairwise_append.mp ordered).2.2 lost member other there
      have begun : params.anchor now ≤ other.time := from_.trans later.le
      exact ⟨begun, early other (List.mem_of_mem_drop there) begun⟩
    rw [List.rtake, List.length_drop] at count
    omega
  rw [kept]
  conv_rhs => rw [split]
  unfold OpeningRangeBreakoutParams.windowOf at nothing ⊢
  rw [List.append_assoc, List.filter_append (taken.take _), nothing, List.nil_append]

end View

/-! ### A window that is over -/

section Frozen

variable {params : OpeningRangeBreakoutParams} {taken : List Bar} {bar : Bar}

theorem rangeAt_congr {s t : Time} (same : params.anchor s = params.anchor t) :
    params.rangeAt s taken = params.rangeAt t taken := by
  have ends : params.orEnd s = params.orEnd t := by
    unfold OpeningRangeBreakoutParams.orEnd
    rw [same]
  have window : params.windowOf s taken = params.windowOf t taken := by
    unfold OpeningRangeBreakoutParams.windowOf
    rw [same, ends]
  have frozen : params.Frozen s taken ↔ params.Frozen t taken := by
    unfold OpeningRangeBreakoutParams.Frozen OpeningRangeBreakoutParams.Freezes
    rw [same, ends]
  unfold OpeningRangeBreakoutParams.rangeAt
  rw [window, ends]
  exact if_congr frozen rfl rfl

theorem rangeOf_concat :
    params.rangeOf (taken ++ [bar]) = params.rangeAt bar.time (taken ++ [bar]) := by
  unfold OpeningRangeBreakoutParams.rangeOf
  rw [List.getLast?_concat]
  rfl

theorem Minutely.before (minutely : Minutely (taken ++ [bar])) {other : Bar}
    (member : other ∈ taken) : other.time < bar.time :=
  (List.pairwise_append.mp minutely.ordered).2.2 other member bar
    (List.mem_singleton.mpr rfl)

/-- The window of a session that is frozen is not extended. -/
theorem windowOf_frozen (minutely : Minutely (taken ++ [bar]))
    (frozen : params.Frozen bar.time taken) :
    params.windowOf bar.time (taken ++ [bar]) = params.windowOf bar.time taken := by
  obtain ⟨other, member, -, behind, -⟩ := frozen
  have later : ¬ bar.time < params.orEnd bar.time :=
    not_lt.mpr (behind.trans (minutely.before member).le)
  unfold OpeningRangeBreakoutParams.windowOf
  rw [List.filter_append]
  simp [later]

theorem frozen_concat :
    params.Frozen bar.time (taken ++ [bar]) ↔
      params.Frozen bar.time taken ∨
        params.orEnd bar.time ≤ bar.time ∧ params.isOpen bar.time = true := by
  simp [OpeningRangeBreakoutParams.Frozen, OpeningRangeBreakoutParams.Freezes,
    or_and_right, exists_or]

theorem rangeAt_frozen (minutely : Minutely (taken ++ [bar]))
    (frozen : params.Frozen bar.time taken) :
    params.rangeAt bar.time (taken ++ [bar]) = params.rangeAt bar.time taken := by
  unfold OpeningRangeBreakoutParams.rangeAt
  rw [if_pos frozen, if_pos (frozen_concat.mpr (.inl frozen)),
    windowOf_frozen minutely frozen]

/-- Until a session is frozen, its bars so far are those of its window, if the next
one is open. -/
theorem early_of_not_frozen (minutely : Minutely (taken ++ [bar]))
    (open_ : params.isOpen bar.time = true) (waiting : ¬ params.Frozen bar.time taken)
    {other : Bar} (member : other ∈ taken) (begun : params.anchor bar.time ≤ other.time) :
    other.time < params.orEnd bar.time := by
  by_contra behind
  apply waiting
  have before := (minutely.before member).le
  have same : params.anchor other.time = params.anchor bar.time :=
    anchoredDayStart_within begun
      (before.trans_lt (anchoredDayStart_spec _ _).2)
  exact ⟨other, member, same, not_lt.mp behind, isOpen_before before same open_⟩

end Frozen

/-! ### What a bar does to the range -/

section Turn

variable {params : OpeningRangeBreakoutParams} {strategy : OpeningRangeBreakout}
variable {scene : ScalperScene} {taken : List Bar} {bar : Bar} {others : Nat}

/-- The range after an entry bar. -/
theorem onBar_range (own : params.isEntry bar = true) :
    (strategy.onBar params scene bar).strategy.range =
      if params.isOpen bar.time = true then
        ((strategy.nextBar params bar.time).maybeBuildOr params
          (scene.history params.entryTimeframe) bar.time).range
      else (strategy.nextBar params bar.time).range := by
  unfold OpeningRangeBreakout.onBar
  rw [if_neg (by simp [own])]
  dsimp only
  cases open_ : params.isOpen bar.time with
  | false => rfl
  | true =>
      simp only [Bool.true_eq_false, if_false, if_true]
      split
      · rfl
      · split <;> rfl

/-- Building at a bar that is open. -/
theorem maybeBuildOr_range (minutely : Minutely (taken ++ [bar]))
    (room : params.openingRangeMinutes < others)
    (open_ : params.isOpen bar.time = true)
    (known : strategy.range = params.rangeAt bar.time taken) :
    (strategy.maybeBuildOr params (some ((taken ++ [bar]).rtake (others + 1)))
        bar.time).range = params.rangeAt bar.time (taken ++ [bar]) := by
  have built : ¬ bar.time < params.orEnd bar.time →
      params.windowOf bar.time ((taken ++ [bar]).rtake (others + 1)) =
        params.windowOf bar.time (taken ++ [bar]) →
      params.rangeAt bar.time (taken ++ [bar]) =
        openingRange? (params.windowOf bar.time
          ((taken ++ [bar]).rtake (others + 1))) (params.orEnd bar.time) := by
    intro behind same
    unfold OpeningRangeBreakoutParams.rangeAt
    rw [if_pos (frozen_concat.mpr (.inr ⟨not_lt.mp behind, open_⟩)), same]
  by_cases frozen : params.Frozen bar.time taken
  · have kept := rangeAt_frozen minutely frozen
    unfold OpeningRangeBreakout.maybeBuildOr
    cases set : strategy.range with
    | some range =>
        dsimp only
        rw [set, kept, ← known, set]
    | none =>
        dsimp only
        split
        · rw [kept, ← known]
        · rename_i behind
          -- the window is empty: building again finds none either
          have nothing : params.windowOf bar.time (taken ++ [bar]) = [] := by
            rw [windowOf_frozen minutely frozen]
            rw [set, OpeningRangeBreakoutParams.rangeAt, if_pos frozen] at known
            cases window : params.windowOf bar.time taken with
            | nil => rfl
            | cons first rest =>
                rw [window] at known
                cases known
          have shorter : params.windowOf bar.time
              ((taken ++ [bar]).rtake (others + 1)) = [] := by
            have part : (params.windowOf bar.time
                ((taken ++ [bar]).rtake (others + 1))).Sublist
                  (params.windowOf bar.time (taken ++ [bar])) :=
              (List.drop_sublist _ _).filter _
            rw [nothing] at part
            exact List.sublist_nil.mp part
          exact (built behind (shorter.trans nothing.symm)).symm
  · have unset : strategy.range = none := known.trans (if_neg frozen)
    unfold OpeningRangeBreakout.maybeBuildOr
    rw [unset]
    dsimp only
    split
    · rename_i early
      rw [unset]
      apply (if_neg _).symm
      intro now
      rcases frozen_concat.mp now with before | ⟨behind, -⟩
      · exact frozen before
      · exact absurd early (not_lt.mpr behind)
    · rename_i behind
      exact (built behind (windowOf_rtake minutely room fun other member =>
        early_of_not_frozen minutely open_ frozen member)).symm

end Turn

/-! ### The view of a feed -/

theorem getLast?_rtake {α : Type} {n : Nat} (items : List α) (some_ : 0 < n) :
    (items.rtake n).getLast? = items.getLast? := by
  rw [List.rtake, List.getLast?_drop]
  split
  · rename_i short
    have empty : items.length = 0 := by omega
    rw [List.length_eq_zero_iff.mp empty]
    rfl
  · rfl

/-- A view without indicators takes the next bar of its feed. -/
theorem appendBar_rtake {capacity : Nat} {taken : List Bar} {bar : Bar}
    (room : 0 < capacity) (next : ∀ last ∈ taken.getLast?, last.time < bar.time) :
    HistoryView.appendBar ⟨capacity, taken.rtake capacity, .empty⟩ true bar =
      .ok ⟨capacity, (taken ++ [bar]).rtake capacity, .empty⟩ := by
  have fresh : ((taken.rtake capacity).getLast?.any fun last =>
      decide (bar.time ≤ last.time)) = false := by
    rw [getLast?_rtake taken room]
    cases latest : taken.getLast? with
    | none => rfl
    | some last => simpa using next last latest
  have pushed := pushBounded_lastN capacity taken bar
  unfold HistoryView.appendBar
  rw [if_neg Bool.noConfusion, if_neg (by simp [fresh])]
  exact congrArg (fun bars => Except.ok (HistoryView.mk capacity bars .empty)) pushed

/-! ### Runs -/

namespace OrbFeed

variable {params : OpeningRangeBreakoutParams} {s s' : OrbFeed}

/-- The strategy is where its bars bring it. -/
structure Fed (params : OpeningRangeBreakoutParams) (s : OrbFeed) : Prop where
  minutely : Minutely s.taken
  view : s.view = ⟨historyCapacity, s.taken.rtake historyCapacity, .empty⟩
  session : s.strategy.book.sessionKey =
    s.taken.getLast?.map fun last => date (params.anchor last.time)
  range : s.strategy.range = params.rangeOf s.taken

theorem fed_boot : Fed params boot where
  minutely := ⟨List.Pairwise.nil, fun _ member => by cases member⟩
  view := rfl
  session := rfl
  range := rfl

theorem Fed.follows (fed : Fed params s) {bar : Bar} (next : Follows s.taken bar) :
    Minutely (s.taken ++ [bar]) where
  ordered := by
    apply List.pairwise_append.mpr
    refine ⟨fed.minutely.ordered, List.pairwise_singleton .., ?_⟩
    intro other member other' only
    rw [List.mem_singleton.mp only]
    cases latest : s.taken.getLast? with
    | none =>
        rw [List.getLast?_eq_none_iff.mp latest] at member
        cases member
    | some last =>
        exact (fed.minutely.le_last latest member).trans_lt (next.1 last latest)
  whole := by
    intro other member
    rcases List.mem_append.mp member with older | same
    · exact fed.minutely.whole other older
    · rw [List.mem_singleton.mp same]
      exact next.2

/-- The book counts the trades of the session of its last bar. -/
theorem nextBar_sessionKey (book : SessionBook) (cadence : ScalperCadence)
    (now : Time) : (book.nextBar cadence now).sessionKey =
      some (date (sessionStart now cadence.sessionStartHourUtc)) := by
  unfold SessionBook.nextBar SessionBook.rollSession
  dsimp only
  split
  · rename_i same
    exact same
  · rfl

/-- A new session forgets the range, and it is the one that no bar has frozen. -/
theorem Fed.nextBar_range (fed : Fed params s) {bar : Bar}
    (next : Follows s.taken bar) :
    (s.strategy.nextBar params bar.time).range = params.rangeAt bar.time s.taken := by
  have minutely := fed.follows next
  have key := nextBar_sessionKey s.strategy.book params.toScalperCadence bar.time
  unfold OpeningRangeBreakout.nextBar
  dsimp only
  rw [key, fed.session, fed.range]
  unfold OpeningRangeBreakoutParams.rangeOf
  cases latest : s.taken.getLast? with
  | none =>
      rw [List.getLast?_eq_none_iff.mp latest]
      rfl
  | some last =>
      have there := List.mem_of_getLast? latest
      have before := minutely.before there
      change (if some (date (params.anchor last.time)) =
        some (date (params.anchor bar.time)) then params.rangeAt last.time s.taken
          else none) = _
      by_cases same : params.anchor last.time = params.anchor bar.time
      · rw [if_pos (congrArg (fun start => some (date start)) same)]
        exact rangeAt_congr same
      · rw [if_neg fun equal => same (anchor_eq_of_date (Option.some.inj equal))]
        apply (if_neg _).symm
        rintro ⟨other, member, here, -⟩
        -- the last bar stands between the other one and the next
        apply same
        apply anchoredDayStart_within
        · change params.anchor bar.time ≤ last.time
          rw [← here]
          exact (anchoredDayStart_spec other.time _).1.trans
            (fed.minutely.le_last latest member)
        · exact before.trans (anchoredDayStart_spec bar.time _).2

/-- A bar leaves the range of all its bars. -/
theorem Fed.bar (fed : Fed params s) {scene : ScalperScene} {bar : Bar}
    (own : params.isEntry bar = true) (next : Follows s.taken bar) :
    let bars := (s.taken ++ [bar]).rtake historyCapacity
    Fed params
      { view := ⟨historyCapacity, bars, .empty⟩
        strategy := (s.strategy.onBar params
          (withEntryBars scene params.entryTimeframe bars) bar).strategy
        taken := s.taken ++ [bar] } := by
  intro bars
  have minutely := fed.follows next
  refine ⟨minutely, rfl, ?_, ?_⟩
  · dsimp only
    rw [(OpeningRangeBreakout.onBar_cases own).1, nextBar_sessionKey,
      List.getLast?_concat]
    rfl
  · have known := fed.nextBar_range next
    have seen : (withEntryBars scene params.entryTimeframe bars).history
        params.entryTimeframe = some bars := if_pos rfl
    have room : params.openingRangeMinutes < 1999 :=
      params.openingRange_bounds.2.trans_lt (by decide)
    dsimp only
    rw [onBar_range own, rangeOf_concat, seen]
    split
    · rename_i open_
      exact maybeBuildOr_range minutely room open_ known
    · rename_i shut
      rw [known]
      unfold OpeningRangeBreakoutParams.rangeAt
      by_cases frozen : params.Frozen bar.time s.taken
      · exact (rangeAt_frozen minutely frozen).symm
      · rw [if_neg frozen, if_neg]
        intro now
        rcases frozen_concat.mp now with before | ⟨-, open_⟩
        · exact frozen before
        · exact shut open_

theorem fed_step {label : OrbLabel} (fed : Fed params s)
    (took : Step params s label s') : Fed params s' := by
  cases label with
  | bar scene bar =>
      simp only [Step, stepOf?, step?] at took
      split at took
      · rename_i allowed
        obtain ⟨own, next⟩ := allowed
        have appended := @appendBar_rtake historyCapacity _ _ (by decide) next.1
        rw [← fed.view] at appended
        simp only [appended] at took
        rw [← Option.some.inj took]
        exact fed.bar own next
      · cases took
  | filled ctx order =>
      cases took
      refine { fed with session := ?_ }
      rw [← fed.session]
      dsimp only
      unfold SessionBook.onOrderFilled
      split <;> rfl
  | closed position =>
      cases took
      exact { fed with session := fed.session }

/-- Whatever the feed delivers, the strategy has the range of the bars so far: of all
the bars of the window of the last bar's session once a bar behind the window was
open, and none before. -/
theorem range_exact {labels : List OrbLabel} (run : Run (Step params) boot labels s) :
    s.strategy.range = params.rangeOf s.taken ∧
      ∀ range last, s.strategy.range = some range → s.taken.getLast? = some last →
        IsRange range (params.windowOf last.time s.taken) := by
  have fed : Fed params s :=
    run.invariant (P := fun s => Fed params s) fed_boot fun took fed =>
      fed_step fed took
  refine ⟨fed.range, ?_⟩
  intro range last frozen latest
  rw [fed.range, OpeningRangeBreakoutParams.rangeOf, latest] at frozen
  change params.rangeAt last.time s.taken = some range at frozen
  unfold OpeningRangeBreakoutParams.rangeAt at frozen
  split at frozen
  · exact openingRange?_spec frozen
  · cases frozen

/-! Two bars of a window, and the first one behind it. -/

def goldScene : ScalperScene where
  ctx := ⟨"s1", "XAUUSD", 0, none⟩
  positions := []
  positionsLater := []
  history := fun _ => none

def goldOpening : List OrbLabel :=
  [.bar goldScene (ScalperDesk.quietGold .m1 5),
    .bar goldScene (ScalperDesk.breakingGold .m1 14),
    .bar goldScene (ScalperDesk.quietGold .m1 15)]

theorem goldOpening_range :
    (replay? (fun _ _ => True) (step? .default) boot goldOpening).map (fun s =>
      (s.strategy.range.map fun range => (range.low, range.high),
        s.taken.getLast?.map Bar.time)) =
      some (some (2600, 2603),
        some (7 * Time.usPerHour + 15 * Time.usPerMinute)) := by
  decide +kernel

theorem goldOpening_exact :
    ∃ (s : OrbFeed) (range : OpeningRange) (last : Bar),
      s.strategy.range = some range ∧ range.low = 2600 ∧ range.high = 2603 ∧
      s.strategy.range = OpeningRangeBreakoutParams.default.rangeOf s.taken ∧
      IsRange range
        (OpeningRangeBreakoutParams.default.windowOf last.time s.taken) := by
  rcases Option.map_eq_some_iff.mp goldOpening_range with ⟨s, reached, seen⟩
  obtain ⟨frozen, latest⟩ := Prod.mk.inj seen
  obtain ⟨range, set, prices⟩ := Option.map_eq_some_iff.mp frozen
  obtain ⟨last, here, -⟩ := Option.map_eq_some_iff.mp latest
  obtain ⟨low, high⟩ := Prod.mk.inj prices
  have shown := range_exact (run_of_replay? reached).unguard
  exact ⟨s, range, last, set, low, high, shown.1, shown.2 range last set here⟩

end OrbFeed

end StingerFx
