/-
Module: StingerFx.Proofs.TickReappend
Layer: Proofs
Purpose: Appending stored ticks again. The store keeps the last copy of a repeated
  tick and sorts by time alone, so a second append moves its ticks behind the
  others of their time. Reading is unchanged exactly when, time by time, what is
  appended again already came last.
Trusted boundary: none (fully proved)
Main exports: storeTicks, lastCopies, reappend_unchanged_iff, endsTies_iff
-/
import StingerFx.Data.ParquetStore

namespace StingerFx

open Lib

namespace ParquetStore

/-- A tick history of a symbol, stored by any number of appends. -/
def storeTicks (batches : List (List (Stamped TickValues))) : Folder TickValues :=
  batches.foldl
    (fun folder batch => (appendTicks (fun _ => false) folder batch).folder) .empty

/-- The ticks of one time, each at its last place. -/
def lastCopies (ticks : List (Stamped TickValues)) (t : Int) :
    List (Row TickValues) :=
  keepLast tickSchema.key (groupOf Row.time (ticks.map tickSchema.row) t)

theorem holds_storeTicks (batches : List (List (Stamped TickValues))) :
    Holds tickSchema (storeTicks batches)
      (batches.flatten.map tickSchema.row) := by
  have general : ∀ (batches : List (List (Stamped TickValues)))
      (folder : Folder TickValues) (history : List (Row TickValues)),
      Holds tickSchema folder history →
      Holds tickSchema (batches.foldl (fun folder batch =>
        (appendTicks (fun _ => false) folder batch).folder) folder)
        (history ++ batches.flatten.map tickSchema.row) := by
    intro batches
    induction batches with
    | nil =>
        intro folder history holds
        simpa using holds
    | cons batch batches ih =>
        intro folder history holds
        have later := ih _ _ (holds.append batch)
        rw [List.flatten_cons, List.map_append, ← List.append_assoc]
        exact later
  exact general batches .empty [] (holds_empty tickSchema)

/-- A range read before and after the second append, time by time. -/
theorem groupOf_readTicks (batches : List (List (Stamped TickValues)))
    (part : List (Stamped TickValues)) (start stop : Time) (t : Int) :
    groupOf Row.time (readTicks
        (appendTicks (fun _ => false) (storeTicks batches) part).folder
        start stop) t =
      (if start * 1000 ≤ t ∧ t < stop * 1000 then
        keepLast tickSchema.key
          (groupOf Row.time (batches.flatten.map tickSchema.row) t ++
            groupOf Row.time (part.map tickSchema.row) t)
      else []) ∧
    groupOf Row.time (readTicks (storeTicks batches) start stop) t =
      if start * 1000 ≤ t ∧ t < stop * 1000 then lastCopies batches.flatten t
      else [] := by
  constructor
  · have after := groupOf_readRange ((holds_storeTicks batches).append part)
      (tickSchema.scalar start) (tickSchema.scalar stop) t
    rw [groupOf_append] at after
    exact after
  · exact groupOf_readRange (holds_storeTicks batches) (tickSchema.scalar start)
      (tickSchema.scalar stop) t

/-- Appending ticks again leaves every range read as it was exactly when, for each
time, the ticks appended again are the last ones stored for it, in that order. -/
theorem reappend_unchanged_iff (batches : List (List (Stamped TickValues)))
    (part : List (Stamped TickValues)) :
    (∀ start stop,
      readTicks (appendTicks (fun _ => false) (storeTicks batches) part).folder
        start stop = readTicks (storeTicks batches) start stop) ↔
      ∀ t, lastCopies part t <:+ lastCopies batches.flatten t := by
  constructor
  · intro unchanged t
    -- read the microsecond of the time
    have inside : t / 1000 * 1000 ≤ t ∧ t < (t / 1000 + 1) * 1000 := by omega
    obtain ⟨after, before⟩ :=
      groupOf_readTicks batches part (t / 1000) (t / 1000 + 1) t
    rw [if_pos inside] at after before
    rw [unchanged, before] at after
    exact keepLast_append_eq_iff.mp after.symm
  · intro ends start stop
    apply eq_of_groupOf (sorted_readRange _ _ _) (sorted_readRange _ _ _)
    intro t
    obtain ⟨after, before⟩ := groupOf_readTicks batches part start stop t
    apply after.trans
    apply Eq.trans _ before.symm
    split
    · exact keepLast_append_eq_iff.mpr (ends t)
    · rfl

/-! ### Parts of an ordered history -/

theorem row_time_injective {one two : Stamped TickValues}
    (same : tickSchema.row one = tickSchema.row two) : one = two := by
  obtain ⟨oneTime, oneValues⟩ := one
  obtain ⟨twoTime, twoValues⟩ := two
  have times : oneTime * 1000 = twoTime * 1000 := congrArg Row.time same
  have values : oneValues = twoValues := congrArg Row.values same
  have instants : oneTime = twoTime := by
    dsimp only [Time] at *
    omega
  rw [instants, values]

/-- The ticks of one time of a history without repeated ticks. -/
theorem lastCopies_of_nodup {ticks : List (Stamped TickValues)}
    (distinct : ticks.Nodup) (t : Int) :
    lastCopies ticks t = groupOf Row.time (ticks.map tickSchema.row) t := by
  apply keepLast_of_nodup
  have rows : (ticks.map tickSchema.row).Nodup :=
    distinct.map fun _ _ same => row_time_injective same
  have group : (groupOf Row.time (ticks.map tickSchema.row) t).Nodup :=
    rows.sublist List.filter_sublist
  exact group.map fun _ _ same => same

theorem le_last {ticks : List (Stamped TickValues)} {own last : Stamped TickValues}
    (ordered : ticks.Pairwise fun a b => a.time ≤ b.time) (inside : own ∈ ticks)
    (lastIs : last ∈ ticks.getLast?) : own.time ≤ last.time := by
  rw [← List.dropLast_append_getLast? last lastIs] at inside ordered
  rcases List.mem_append.mp inside with early | atEnd
  · exact (List.pairwise_append.mp ordered).2.2 _ early _ List.mem_cons_self
  · rw [List.mem_singleton.mp atEnd]

theorem head_le {ticks : List (Stamped TickValues)}
    {later : Stamped TickValues}
    (ordered : ticks.Pairwise fun a b => a.time ≤ b.time) (inside : later ∈ ticks) :
    ∃ next ∈ ticks.head?, next.time ≤ later.time := by
  cases ticks with
  | nil => cases inside
  | cons next rest =>
      refine ⟨next, rfl, ?_⟩
      rcases List.mem_cons.mp inside with rfl | inRest
      · exact le_rfl
      · exact (List.pairwise_cons.mp ordered).1 later inRest

/-- For a part of an ordered history without repeated ticks: the tick after the part
is of a later time than its last one. -/
theorem endsTies_iff {before part after : List (Stamped TickValues)}
    (distinct : (before ++ part ++ after).Nodup)
    (ordered : (before ++ part ++ after).Pairwise fun a b => a.time ≤ b.time) :
    (∀ t, lastCopies part t <:+ lastCopies (before ++ part ++ after) t) ↔
      ∀ last ∈ part.getLast?, ∀ next ∈ after.head?, last.time < next.time := by
  have partDistinct : part.Nodup :=
    (distinct.sublist (List.sublist_append_left _ _)).sublist
      (List.sublist_append_right _ _)
  have partOrdered : part.Pairwise fun a b => a.time ≤ b.time :=
    (ordered.sublist (List.sublist_append_left _ _)).sublist
      (List.sublist_append_right _ _)
  obtain ⟨_, afterOrdered, across⟩ := List.pairwise_append.mp ordered
  have whole : ∀ t, lastCopies (before ++ part ++ after) t =
      groupOf Row.time (before.map tickSchema.row) t ++
        lastCopies part t ++ groupOf Row.time (after.map tickSchema.row) t := by
    intro t
    rw [lastCopies_of_nodup distinct, lastCopies_of_nodup partDistinct,
      List.map_append, List.map_append, groupOf_append, groupOf_append]
  constructor
  · intro ends last lastIs next nextIs
    have lastMember : last ∈ part := List.mem_of_getLast? lastIs
    have nextMember : next ∈ after := List.mem_of_head? nextIs
    apply lt_of_le_of_ne
      (across last (List.mem_append_right _ lastMember) next nextMember)
    intro tie
    -- the group of this time ends with ticks of the part and with later ones
    obtain ⟨front, same⟩ := ends (last.time * 1000)
    rw [whole] at same
    have inPart : lastCopies part (last.time * 1000) ≠ [] := by
      rw [lastCopies_of_nodup partDistinct]
      exact List.ne_nil_of_mem
        (mem_groupOf.mpr ⟨List.mem_map_of_mem lastMember, rfl⟩)
    have inAfter :
        groupOf Row.time (after.map tickSchema.row) (last.time * 1000) ≠ [] :=
      List.ne_nil_of_mem
        (mem_groupOf.mpr ⟨List.mem_map_of_mem nextMember, by rw [tie]; rfl⟩)
    have lastOne := congrArg List.getLast? same
    rw [List.getLast?_append_of_ne_nil _ inPart,
      List.getLast?_append_of_ne_nil _ inAfter] at lastOne
    obtain ⟨row, rowIs⟩ := Option.isSome_iff_exists.mp
      (List.getLast?_isSome.mpr inAfter)
    rw [rowIs] at lastOne
    have fromAfter := (mem_groupOf.mp (List.mem_of_getLast? rowIs)).1
    have fromPart := List.mem_of_getLast? lastOne
    rw [lastCopies_of_nodup partDistinct] at fromPart
    obtain ⟨one, oneMember, oneRow⟩ := List.mem_map.mp (mem_groupOf.mp fromPart).1
    obtain ⟨two, twoMember, twoRow⟩ := List.mem_map.mp fromAfter
    exact (List.nodup_append.mp distinct).2.2 one
      (List.mem_append_right _ oneMember) two twoMember
      (row_time_injective (oneRow.trans twoRow.symm))
  · intro ends t
    rw [whole]
    by_cases empty : lastCopies part t = []
    · rw [empty]
      exact ⟨_, List.append_nil _⟩
    · have none : groupOf Row.time (after.map tickSchema.row) t = [] := by
        apply groupOf_eq_nil
        intro row member same
        obtain ⟨later, laterMember, rfl⟩ := List.mem_map.mp member
        obtain ⟨ownRow, ownInside⟩ := List.exists_mem_of_ne_nil _ empty
        rw [lastCopies_of_nodup partDistinct] at ownInside
        obtain ⟨ownListed, ownTime⟩ := mem_groupOf.mp ownInside
        obtain ⟨own, ownMember, rfl⟩ := List.mem_map.mp ownListed
        obtain ⟨last, lastIs⟩ := Option.isSome_iff_exists.mp
          (List.getLast?_isSome.mpr (List.ne_nil_of_mem ownMember))
        obtain ⟨next, nextIs, nextFirst⟩ := head_le afterOrdered laterMember
        have later_lt : own.time < later.time :=
          calc own.time ≤ last.time := le_last partOrdered ownMember lastIs
            _ < next.time := ends last lastIs next nextIs
            _ ≤ later.time := nextFirst
        have ownAt : own.time * 1000 = t := ownTime
        have laterAt : later.time * 1000 = t := same
        dsimp only [Time] at *
        omega
      rw [none, List.append_nil]
      exact ⟨_, rfl⟩

/-! ### A tie that is split -/

/-- Two quotes in the same second. -/
def firstQuote : Stamped TickValues := ⟨Time.usPerSecond, ⟨1, 2, 0, 0, 0⟩⟩

def secondQuote : Stamped TickValues := ⟨Time.usPerSecond, ⟨2, 3, 0, 0, 0⟩⟩

/-- Fetching the first of two ticks of one second again puts it after the other. -/
theorem reappend_swaps_a_tie :
    ∃ start stop,
      readTicks (appendTicks (fun _ => false)
        (storeTicks [[firstQuote, secondQuote]]) [firstQuote]).folder start stop ≠
      readTicks (storeTicks [[firstQuote, secondQuote]]) start stop :=
  ⟨0, 2 * Time.usPerSecond, by decide +kernel⟩

end ParquetStore

end StingerFx
