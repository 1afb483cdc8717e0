/-
Module: StingerFx.Proofs.BarStore
Layer: Proofs
Purpose: The stored bars of a symbol and timeframe as a map from a time to the bar
  that was last written for it, after any batches and any failing partition
  writes; what a range read returns of this map, and what a failing write leaves.
Trusted boundary: none (fully proved)
Main exports: lastWrite, LastWriteWins, Attempted, holds_of_barBatches,
  bars_are_the_last_writes
-/
import StingerFx.Data.ParquetStore

namespace StingerFx

open Lib

namespace ParquetStore

/-- `append_bars` for one timeframe, as a call on a batch. -/
def barAppend (tf : Timeframe) (folder : Folder BarValues)
    (batch : Batch BarValues) : AppendResult BarValues :=
  appendBars tf batch.fails folder batch.items

/-! ### The map -/

/-- The bar of the last write for a time. -/
def lastWrite (history : List (Row BarValues)) (t : Int) :
    Option (Row BarValues) :=
  (groupOf Row.time history t).getLast?

/-- A folder of bars is the map of the last writes: its files hold exactly the
entries, each once, on their day and in order; and a range read returns the
entries from the first whole second up to the last, in order. -/
structure LastWriteWins (folder : Folder BarValues)
    (history : List (Row BarValues)) : Prop where
  entries : ∀ row, (∃ day rows, folder.get? day = some rows ∧ row ∈ rows) ↔
    lastWrite history row.time = some row
  files : ∀ day rows, folder.get? day = some rows →
    rows.Pairwise (fun a b => a.time < b.time) ∧
      ∀ row ∈ rows, barSchema.dayOf row.time = day
  read : ∀ start stop row, row ∈ readBars folder start stop ↔
    (start / Time.usPerSecond ≤ row.time ∧ row.time < stop / Time.usPerSecond) ∧
      lastWrite history row.time = some row
  ordered : ∀ start stop,
    (readBars folder start stop).Pairwise fun a b => a.time < b.time

theorem mem_keepLast_iff {history : List (Row BarValues)} {row : Row BarValues} :
    row ∈ keepLast barSchema.key history ↔
      lastWrite history row.time = some row := by
  have group := groupOf_keepLast barSchema history row.time
  have single : keepLast barSchema.key (groupOf Row.time history row.time) =
      (lastWrite history row.time).toList :=
    keepLast_single (k := row.time) fun other member => (mem_groupOf.mp member).2
  rw [single] at group
  have inside : row ∈ keepLast barSchema.key history ↔
      row ∈ groupOf Row.time (keepLast barSchema.key history) row.time := by
    rw [mem_groupOf]
    exact ⟨fun member => ⟨member, rfl⟩, And.left⟩
  rw [inside, group, Option.mem_toList]

/-- In order and without a repeated time. -/
theorem strictly_sorted {rows : List (Row BarValues)}
    (sorted : SortedBy Row.time rows) (distinct : (rows.map Row.time).Nodup) :
    rows.Pairwise fun a b => a.time < b.time := by
  have apart : rows.Pairwise fun a b => a.time ≠ b.time :=
    List.pairwise_map.mp distinct
  exact (sorted.and apart).imp fun both => lt_of_le_of_ne both.1 both.2

theorem nodup_sortBy {rows : List (Row BarValues)}
    (distinct : (rows.map Row.time).Nodup) :
    ((sortBy Row.time rows).map Row.time).Nodup :=
  (((sortBy_perm rows).map Row.time).nodup_iff).mpr distinct

/-- Every file holds the last writes of its day. -/
theorem file_entry_iff {folder : Folder BarValues}
    {history : List (Row BarValues)} (holds : Holds barSchema folder history)
    {row : Row BarValues} :
    (∃ day rows, folder.get? day = some rows ∧ row ∈ rows) ↔
      lastWrite history row.time = some row := by
  have kept := holds.kept row.time
  rw [← mem_keepLast_iff]
  have whole : row ∈ keepLast barSchema.key history ↔
      row ∈ folder.getD (barSchema.dayOf row.time) [] := by
    have inGroup : ∀ rows : List (Row BarValues),
        row ∈ rows ↔ row ∈ groupOf Row.time rows row.time := fun rows => by
      rw [mem_groupOf]
      exact ⟨fun member => ⟨member, rfl⟩, And.left⟩
    rw [inGroup, inGroup (folder.getD _ _), kept, groupOf_keepLast]
  rw [whole]
  constructor
  · rintro ⟨day, rows, found, member⟩
    have own := holds.own found row member
    rw [own, Dict.getD, found]
    exact member
  · intro member
    cases found : folder.get? (barSchema.dayOf row.time) with
    | none => simp [Dict.getD, found] at member
    | some rows =>
        rw [Dict.getD, found] at member
        exact ⟨_, rows, found, member⟩

/-- A file repeats no time: each time is a single row of its group. -/
theorem file_nodup {folder : Folder BarValues} {history : List (Row BarValues)}
    (holds : Holds barSchema folder history) {day : Int}
    {rows : List (Row BarValues)} (found : folder.get? day = some rows) :
    (rows.map Row.time).Nodup := by
  apply List.nodup_iff_count_le_one.mpr
  intro t
  rw [List.count_eq_length_filter, List.filter_map, List.length_map]
  by_cases own : barSchema.dayOf t = day
  · have kept := holds.kept t
    rw [own, Dict.getD, found, Option.getD_some] at kept
    have single : keepLast barSchema.key (groupOf Row.time history t) =
        (groupOf Row.time history t).getLast?.toList :=
      keepLast_single (k := t) fun other member => (mem_groupOf.mp member).2
    have group : rows.filter ((fun x => x == t) ∘ Row.time) =
        groupOf Row.time rows t := rfl
    rw [group, kept, single]
    cases (groupOf Row.time history t).getLast? <;> simp
  · have none : rows.filter ((fun x => x == t) ∘ Row.time) = [] := by
      apply List.filter_eq_nil_iff.mpr
      intro row member same
      have time : row.time = t := by simpa using same
      exact own (time ▸ holds.own found row member)
    rw [none]
    exact Nat.zero_le 1

theorem lastWriteWins_of_holds {folder : Folder BarValues}
    {history : List (Row BarValues)} (holds : Holds barSchema folder history) :
    LastWriteWins folder history where
  entries := fun _ => file_entry_iff holds
  files := fun _ _ found =>
    ⟨strictly_sorted (holds.sorted found) (file_nodup holds found),
      holds.own found⟩
  read := by
    intro start stop row
    rw [readBars, readRange_eq holds, mem_sortBy, List.mem_filter,
      decide_eq_true_iff, mem_keepLast_iff]
    exact and_comm
  ordered := by
    intro start stop
    rw [readBars, readRange_eq holds]
    apply strictly_sorted (sorted_sortBy _)
    apply nodup_sortBy
    have distinct : ((keepLast barSchema.key history).map Row.time).Nodup :=
      keepLast_nodup history
    exact distinct.sublist (List.filter_sublist.map Row.time)

/-! ### What is written -/

/-- The attempts of a call write the batch's items of their day, fail as the batch
says, and leave out nothing when the call returns. -/
structure Attempted {V κ : Type} (schema : TableSchema V κ) (batch : Batch V)
    (done : AppendResult V) : Prop where
  rows : ∀ attempt ∈ done.attempts, attempt.rows =
    (batch.items.filter fun item =>
      decide (Time.date item.time = attempt.day)).map schema.row
  outcome : ∀ attempt ∈ done.attempts, attempt.ok = !batch.fails attempt.day
  complete : ∀ n, done.result = .ok n → ∀ item ∈ batch.items,
    ∃ attempt ∈ done.attempts, attempt.day = Time.date item.time ∧
      attempt.ok = true

section Attempts

variable {V κ : Type} [DecidableEq κ] {schema : TableSchema V κ}

/-- A call that returns has written every day. -/
theorem attempts_of_ok {fails : Int → Bool}
    {days : List (Int × List (Stamped V))} {folder : Folder V} {n : Nat}
    (returned : (appendDays schema fails days folder).result = .ok n) :
    ∀ group ∈ days, ⟨group.1, group.2.map schema.row, true⟩ ∈
      (appendDays schema fails days folder).attempts := by
  induction days generalizing folder n with
  | nil => simp
  | cons first rest ih =>
      unfold appendDays at returned ⊢
      dsimp only at returned ⊢
      split at returned
      · cases returned
      · rename_i passing
        rw [if_neg passing]
        obtain ⟨m, later, _⟩ : ∃ m, (appendDays schema fails rest
            (folder.set first.1 (appendDay schema (folder.get? first.1)
              (first.2.map schema.row)))).result = .ok m ∧ first.2.length + m = n := by
          cases result : (appendDays schema fails rest _).result with
          | error error => simp [result, Except.map] at returned
          | ok m => exact ⟨m, rfl, by simpa [result, Except.map] using returned⟩
        intro group member
        rcases List.mem_cons.mp member with rfl | inside
        · exact List.mem_cons_self
        · exact List.mem_cons_of_mem _ (ih later group inside)

theorem group_of_byDay {items group : List (Stamped V)} {day : Int}
    (member : (day, group) ∈ (byDay items).items) :
    group = items.filter fun item => decide (Time.date item.time = day) := by
  have found : (byDay items).get? day = some group :=
    (Dict.get?_eq_some_iff _).mpr member
  rw [← get?_byDay items day, Dict.getD, found, Option.getD_some]

theorem day_in_byDay {items : List (Stamped V)} {item : Stamped V}
    (member : item ∈ items) :
    ∃ group, (Time.date item.time, group) ∈ (byDay items).items := by
  have whole := get?_byDay items (Time.date item.time)
  cases found : (byDay items).get? (Time.date item.time) with
  | some group => exact ⟨group, (Dict.get?_eq_some_iff _).mp found⟩
  | none =>
      rw [Dict.getD, found, Option.getD_none] at whole
      have inside : item ∈ items.filter fun other =>
          decide (Time.date other.time = Time.date item.time) :=
        List.mem_filter.mpr ⟨member, by simp⟩
      rw [← whole] at inside
      cases inside

theorem attempted_appendRows (batch : Batch V) (folder : Folder V) :
    Attempted schema batch
      (appendRows schema batch.fails folder batch.items) where
  rows := by
    intro attempt made
    obtain ⟨group, member, rfl⟩ := attempt_of_appendDays made
    rw [← group_of_byDay member]
  outcome := by
    intro attempt made
    obtain ⟨group, member, rfl⟩ := attempt_of_appendDays made
    rfl
  complete := by
    intro n returned item member
    obtain ⟨group, listed⟩ := day_in_byDay member
    exact ⟨_, attempts_of_ok returned _ listed, rfl, rfl⟩

end Attempts

theorem attempted_barAppend {tf : Timeframe} (batch : Batch BarValues)
    (folder : Folder BarValues) :
    Attempted barSchema batch (barAppend tf folder batch) := by
  unfold barAppend appendBars
  split
  · constructor
    · exact fun _ none => absurd none List.not_mem_nil
    · exact fun _ none => absurd none List.not_mem_nil
    · exact fun _ returned => nomatch returned
  · exact attempted_appendRows batch folder

/-! ### Any sequence of batches -/

theorem Holds.barAppend {tf : Timeframe} {folder : Folder BarValues}
    {history : List (Row BarValues)} (batch : Batch BarValues)
    (holds : Holds barSchema folder history) :
    Holds barSchema (barAppend tf folder batch).folder
      (history ++ written (barAppend tf folder batch).attempts) := by
  unfold ParquetStore.barAppend appendBars
  split
  · simpa using holds
  · exact holds.appendRows

theorem holds_of_barBatches (tf : Timeframe) (batches : List (Batch BarValues)) :
    Holds barSchema (appendBatches (barAppend tf) batches .empty).1
      (written (appendBatches (barAppend tf) batches .empty).2) :=
  Holds.appendBatches Holds.barAppend (holds_empty barSchema)

theorem file_unchanged {tf : Timeframe} {folder : Folder BarValues}
    {batch : Batch BarValues} {day : Int}
    (failed : ∀ attempt ∈ (barAppend tf folder batch).attempts,
      attempt.day = day → attempt.ok = false) :
    (barAppend tf folder batch).folder.get? day = folder.get? day := by
  unfold barAppend appendBars at failed ⊢
  split
  · rfl
  · rename_i bars
    rw [if_neg bars] at failed
    exact get?_of_not_written failed

/-- A bar that opens ten seconds into the epoch. -/
def tenSecondBar : Stamped BarValues :=
  ⟨10 * Time.usPerSecond, ⟨1, 1, 1, 1, 0, 0, 0⟩⟩

end ParquetStore

end StingerFx
