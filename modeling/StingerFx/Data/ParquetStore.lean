/-
Module: StingerFx.Data.ParquetStore
Layer: Data
Purpose: The store of bars and ticks. Each folder holds one file a UTC day. An
  append groups its rows by day and rewrites the file of each: the old rows with
  the new ones, repeated keys dropped but for their last row, sorted by time. A
  range read filters all files by time and sorts what is left. Bars and ticks
  differ in the unit of the time column and in the key.
Trusted boundary: human-reviewed model of the source's parquet_store module; of
  pandas and pyarrow, that dropping keeps the last row, that the sorts are stable,
  that a rename is atomic, and that an instant is cut to the column's unit
Main exports: Row, Stamped, TableSchema, barSchema, tickSchema, Folder,
  sortAndDedupe, appendDay, byDay, appendRows, appendBars, appendTicks, readRange,
  readBars, readTicks, appendBatches
-/
import StingerFx.Domain
import StingerFx.Lib.Dict
import StingerFx.Lib.KeepLast
import StingerFx.Lib.StableSort

namespace StingerFx

open Lib

namespace ParquetStore

/-- A row of a table: the time column in its own unit, and the others. -/
structure Row (V : Type) where
  time : Int
  values : V
deriving Repr, DecidableEq

/-- What is appended, with the instant it carries. -/
structure Stamped (V : Type) where
  time : Time
  values : V
deriving Repr, DecidableEq

/-- The columns of a bar besides its time. -/
structure BarValues where
  openPrice : ℚ
  high : ℚ
  low : ℚ
  close : ℚ
  tickVolume : Int
  realVolume : Int
  spread : Int
deriving Repr, DecidableEq

/-- The columns of a tick besides its time. -/
structure TickValues where
  bid : ℚ
  ask : ℚ
  last : ℚ
  volume : Int
  flags : Int
deriving Repr, DecidableEq

/-- A table: how an instant is cut to the unit of the time column, and the key
that must not repeat. The day of a cut instant is that of the instant, and rows of
one key have one time. -/
structure TableSchema (V κ : Type) where
  scalar : Time → Int
  key : Row V → κ
  dayOf : Int → Int
  dayOf_scalar : ∀ t, dayOf (scalar t) = Time.date t
  time_of_key : ∀ {one two : Row V}, key one = key two → one.time = two.time

/-- `BAR_SCHEMA` and `BAR_DEDUPE_KEYS`: whole seconds, one row a time. -/
def barSchema : TableSchema BarValues Int where
  scalar := fun t => t / Time.usPerSecond
  key := Row.time
  dayOf := fun s => s / 86400
  dayOf_scalar := by
    intro t
    simp only [Time.date, Time.usPerDay, Time.usPerHour, Time.usPerSecond]
    omega
  time_of_key := id

/-- `TICK_SCHEMA` and `TICK_DEDUPE_KEYS`: nanoseconds, and all columns. -/
def tickSchema : TableSchema TickValues (Row TickValues) where
  scalar := fun t => t * 1000
  key := id
  dayOf := fun ns => ns / (Time.usPerDay * 1000)
  dayOf_scalar := by
    intro t
    simp only [Time.date, Time.usPerDay, Time.usPerHour, Time.usPerSecond]
    omega
  time_of_key := congrArg Row.time

/-- The files of one folder by their day. -/
abbrev Folder (V : Type) := Dict Int (List (Row V))

variable {V κ : Type} [DecidableEq κ]

/-- `_sort_and_dedupe`. -/
def sortAndDedupe (schema : TableSchema V κ) (rows : List (Row V)) :
    List (Row V) :=
  if rows.length ≤ 1 then rows
  else sortBy Row.time (keepLast schema.key rows)

/-- The rows that `_append_day` writes. -/
def appendDay (schema : TableSchema V κ) (existing : Option (List (Row V)))
    (new : List (Row V)) : List (Row V) :=
  sortAndDedupe schema
    (match existing with
      | some rows => rows ++ new
      | none => new)

/-- `by_day`: the rows of each day in their order, days in the order in which they
first occur. -/
def byDay (items : List (Stamped V)) : Dict Int (List (Stamped V)) :=
  items.foldl (fun days item =>
    days.set (Time.date item.time)
      (days.getD (Time.date item.time) [] ++ [item])) .empty

inductive StoreError where
  | useAppendTicks
  | writeFailed (day : Int)
deriving Repr, DecidableEq

def StoreError.text : StoreError → String
  | .useAppendTicks => "use append_ticks for tick data"
  | .writeFailed day => "partition " ++ toString day ++ " was not written"

/-- One partition write of a call and whether it went through. -/
structure WriteAttempt (V : Type) where
  day : Int
  rows : List (Row V)
  ok : Bool
deriving Repr, DecidableEq

/-- The outcome of an append; the attempts are history that nothing reads. -/
structure AppendResult (V : Type) where
  folder : Folder V
  attempts : List (WriteAttempt V)
  result : Except StoreError Nat

def TableSchema.row (schema : TableSchema V κ) (item : Stamped V) : Row V :=
  ⟨schema.scalar item.time, item.values⟩

/-- The loop over the days. A partition write that fails raises before the new
file replaces the old one, and the later days are not tried. -/
def appendDays (schema : TableSchema V κ) (fails : Int → Bool) :
    List (Int × List (Stamped V)) → Folder V → AppendResult V
  | [], folder => ⟨folder, [], .ok 0⟩
  | (day, items) :: rest, folder =>
      let rows := items.map schema.row
      if fails day = true then
        ⟨folder, [⟨day, rows, false⟩], .error (.writeFailed day)⟩
      else
        let later := appendDays schema fails rest
          (folder.set day (appendDay schema (folder.get? day) rows))
        ⟨later.folder, ⟨day, rows, true⟩ :: later.attempts,
          later.result.map (items.length + ·)⟩

def appendRows (schema : TableSchema V κ) (fails : Int → Bool)
    (folder : Folder V) (items : List (Stamped V)) : AppendResult V :=
  appendDays schema fails (byDay items).items folder

/-- `append_bars` on the folder of a symbol and timeframe. -/
def appendBars (tf : Timeframe) (fails : Int → Bool) (folder : Folder BarValues)
    (bars : List (Stamped BarValues)) : AppendResult BarValues :=
  if tf = .tick then ⟨folder, [], .error .useAppendTicks⟩
  else appendRows barSchema fails folder bars

/-- `append_ticks` on the folder of a symbol. -/
def appendTicks (fails : Int → Bool) (folder : Folder TickValues)
    (ticks : List (Stamped TickValues)) : AppendResult TickValues :=
  appendRows tickSchema fails folder ticks

/-- The rows of a folder: files in the order of their names, rows in the order of
the file. -/
def dataset (folder : Folder V) : List (Row V) :=
  (sortBy Prod.fst folder.items).flatMap Prod.snd

/-- The rows with `lo ≤ time < hi`, sorted by time. -/
def readRange (folder : Folder V) (lo hi : Int) : List (Row V) :=
  sortBy Row.time ((dataset folder).filter fun row =>
    decide (lo ≤ row.time ∧ row.time < hi))

/-- `read_bars`; the bounds are cut to the column's unit. -/
def readBars (folder : Folder BarValues) (start stop : Time) :
    List (Row BarValues) :=
  readRange folder (barSchema.scalar start) (barSchema.scalar stop)

/-- `read_ticks`. -/
def readTicks (folder : Folder TickValues) (start stop : Time) :
    List (Row TickValues) :=
  readRange folder (tickSchema.scalar start) (tickSchema.scalar stop)

/-- One call of an append, with the days whose write fails in it. -/
structure Batch (V : Type) where
  items : List (Stamped V)
  fails : Int → Bool

/-- Calls of an append one after the other, and all their attempts. -/
def appendBatches (append : Folder V → Batch V → AppendResult V) :
    List (Batch V) → Folder V → Folder V × List (WriteAttempt V)
  | [], folder => (folder, [])
  | batch :: batches, folder =>
      let done := append folder batch
      let later := appendBatches append batches done.folder
      (later.1, done.attempts ++ later.2)

/-- The rows that were written, in the order of the writes. -/
def written (attempts : List (WriteAttempt V)) : List (Row V) :=
  (attempts.filter fun attempt => attempt.ok).flatMap WriteAttempt.rows

@[simp] theorem written_nil : written ([] : List (WriteAttempt V)) = [] := rfl

theorem written_append (one two : List (WriteAttempt V)) :
    written (one ++ two) = written one ++ written two := by
  simp [written]

/-! ### What a file holds after a write -/

theorem sortAndDedupe_eq (schema : TableSchema V κ) (rows : List (Row V)) :
    sortAndDedupe schema rows = sortBy Row.time (keepLast schema.key rows) := by
  unfold sortAndDedupe
  split
  · rename_i short
    rcases rows with _ | ⟨row, _ | ⟨next, rest⟩⟩
    · rfl
    · simp [keepLast, sortBy]
    · simp at short
  · rfl

theorem appendDay_eq (schema : TableSchema V κ)
    (existing : Option (List (Row V))) (new : List (Row V)) :
    appendDay schema existing new =
      sortBy Row.time (keepLast schema.key (existing.getD [] ++ new)) := by
  cases existing with
  | none => exact sortAndDedupe_eq schema new
  | some rows => exact sortAndDedupe_eq schema (rows ++ new)

/-- Rows of one key have one time, so the groups of times can be deduplicated one
by one. -/
theorem groupOf_keepLast (schema : TableSchema V κ) (rows : List (Row V))
    (t : Int) :
    groupOf Row.time (keepLast schema.key rows) t =
      keepLast schema.key (groupOf Row.time rows t) := by
  apply keepLast_filter
  intro one two same
  rw [schema.time_of_key same]

/-! ### What a folder holds after any number of writes -/

/-- The folder holds what was written: every file is in the order of time and holds
rows of its own day, and of each time it holds the last rows of their keys. -/
structure Holds (schema : TableSchema V κ) (folder : Folder V)
    (history : List (Row V)) : Prop where
  sorted : ∀ {day rows}, folder.get? day = some rows → SortedBy Row.time rows
  own : ∀ {day rows}, folder.get? day = some rows →
    ∀ row ∈ rows, schema.dayOf row.time = day
  kept : ∀ t, groupOf Row.time (folder.getD (schema.dayOf t) []) t =
    keepLast schema.key (groupOf Row.time history t)

theorem holds_empty (schema : TableSchema V κ) :
    Holds schema (.empty : Folder V) [] where
  sorted := by simp
  own := by simp
  kept := fun _ => rfl

theorem mem_appendDay {schema : TableSchema V κ}
    {existing : Option (List (Row V))} {new : List (Row V)} {row : Row V}
    (member : row ∈ appendDay schema existing new) :
    row ∈ existing.getD [] ∨ row ∈ new := by
  rw [appendDay_eq, mem_sortBy] at member
  exact List.mem_append.mp ((keepLast_sublist _).subset member)

/-- One partition write. -/
theorem Holds.write {schema : TableSchema V κ} {folder : Folder V}
    {history rows : List (Row V)} {day : Int} (holds : Holds schema folder history)
    (ownDay : ∀ row ∈ rows, schema.dayOf row.time = day) :
    Holds schema (folder.set day (appendDay schema (folder.get? day) rows))
      (history ++ rows) where
  sorted := by
    intro other stored found
    rw [Dict.get?_set] at found
    split at found
    · cases found
      rw [appendDay_eq]
      exact sorted_sortBy _
    · exact holds.sorted found
  own := by
    intro other stored found row member
    rw [Dict.get?_set] at found
    split at found
    · rename_i same
      cases found
      rcases mem_appendDay member with old | new
      · cases before : folder.get? day with
        | none => simp [before] at old
        | some present =>
            rw [before] at old
            rw [same]
            exact holds.own before row old
      · rw [same]
        exact ownDay row new
    · exact holds.own found row member
  kept := by
    intro t
    rw [groupOf_append]
    by_cases here : schema.dayOf t = day
    · -- the file of this time is rewritten
      have before := holds.kept t
      rw [here, Dict.getD] at before
      rw [here, Dict.getD, Dict.get?_set_self, Option.getD_some, appendDay_eq,
        groupOf_sortBy, groupOf_keepLast, groupOf_append, before, keepLast_absorb]
    · have none : groupOf Row.time rows t = [] := by
        apply groupOf_eq_nil
        intro row member same
        exact here (same ▸ ownDay row member)
      rw [none, List.append_nil, Dict.getD, Dict.get?_set_of_ne folder _ here]
      exact holds.kept t

/-- The groups of `by_day`. -/
theorem get?_byDay (items : List (Stamped V)) (day : Int) :
    (byDay items).getD day [] =
      items.filter fun item => decide (Time.date item.time = day) := by
  have general : ∀ (rest : List (Stamped V)) (days : Dict Int (List (Stamped V))),
      (rest.foldl (fun days item =>
        days.set (Time.date item.time)
          (days.getD (Time.date item.time) [] ++ [item])) days).getD day [] =
        days.getD day [] ++
          rest.filter fun item => decide (Time.date item.time = day) := by
    intro rest
    induction rest with
    | nil => simp
    | cons item rest ih =>
        intro days
        rw [List.foldl_cons, ih, Dict.getD_set, List.filter_cons]
        by_cases here : Time.date item.time = day
        · simp [here]
        · simp [here, Ne.symm here]
  exact general items .empty

theorem date_of_mem_byDay {items group : List (Stamped V)} {day : Int}
    (member : (day, group) ∈ (byDay items).items) :
    ∀ item ∈ group, Time.date item.time = day := by
  have found : (byDay items).get? day = some group :=
    (Dict.get?_eq_some_iff _).mpr member
  have whole := get?_byDay items day
  rw [Dict.getD, found, Option.getD_some] at whole
  intro item inside
  rw [whole] at inside
  simpa using (List.mem_filter.mp inside).2

/-- The loop over the days. -/
theorem Holds.appendDays {schema : TableSchema V κ} {fails : Int → Bool}
    {days : List (Int × List (Stamped V))} {folder : Folder V}
    {history : List (Row V)} (holds : Holds schema folder history)
    (ownDay : ∀ group ∈ days, ∀ item ∈ group.2, Time.date item.time = group.1) :
    Holds schema (appendDays schema fails days folder).folder
      (history ++ written (appendDays schema fails days folder).attempts) := by
  induction days generalizing folder history with
  | nil => simpa [ParquetStore.appendDays] using holds
  | cons group rest ih =>
      obtain ⟨day, items⟩ := group
      unfold ParquetStore.appendDays
      dsimp only
      split
      · simpa [written] using holds
      · have rows : ∀ row ∈ items.map schema.row, schema.dayOf row.time = day := by
          intro row member
          obtain ⟨item, inside, rfl⟩ := List.mem_map.mp member
          rw [TableSchema.row, schema.dayOf_scalar]
          exact ownDay (day, items) List.mem_cons_self item inside
        have later := ih (holds.write rows) fun group member =>
          ownDay group (List.mem_cons_of_mem _ member)
        simpa [written, List.append_assoc] using later

theorem Holds.appendRows {schema : TableSchema V κ} {fails : Int → Bool}
    {items : List (Stamped V)} {folder : Folder V} {history : List (Row V)}
    (holds : Holds schema folder history) :
    Holds schema (appendRows schema fails folder items).folder
      (history ++ written (appendRows schema fails folder items).attempts) :=
  holds.appendDays fun _ member => date_of_mem_byDay member

/-- Any number of calls. -/
theorem Holds.appendBatches {schema : TableSchema V κ}
    {append : Folder V → Batch V → AppendResult V}
    (keeps : ∀ {folder history} (batch : Batch V), Holds schema folder history →
      Holds schema (append folder batch).folder
        (history ++ written (append folder batch).attempts))
    {batches : List (Batch V)} {folder : Folder V} {history : List (Row V)}
    (holds : Holds schema folder history) :
    Holds schema (appendBatches append batches folder).1
      (history ++ written (appendBatches append batches folder).2) := by
  induction batches generalizing folder history with
  | nil => simpa [ParquetStore.appendBatches] using holds
  | cons batch batches ih =>
      have later := ih (keeps batch holds)
      simpa [ParquetStore.appendBatches, written_append, List.append_assoc]
        using later

/-! ### What is attempted -/

/-- Each attempt is for one of the days. -/
theorem attempt_of_appendDays {schema : TableSchema V κ} {fails : Int → Bool}
    {days : List (Int × List (Stamped V))} {folder : Folder V}
    {attempt : WriteAttempt V}
    (made : attempt ∈ (appendDays schema fails days folder).attempts) :
    ∃ group ∈ days, attempt = ⟨group.1, group.2.map schema.row,
      !fails group.1⟩ := by
  induction days generalizing folder with
  | nil => cases made
  | cons group rest ih =>
      unfold appendDays at made
      dsimp only at made
      split at made
      · rename_i failing
        rw [List.mem_singleton.mp made]
        exact ⟨group, List.mem_cons_self, by rw [failing]; rfl⟩
      · rename_i passing
        rcases List.mem_cons.mp made with rfl | later
        · refine ⟨group, List.mem_cons_self, ?_⟩
          rw [Bool.not_eq_true] at passing
          rw [passing]
          rfl
        · obtain ⟨other, member, same⟩ := ih later
          exact ⟨other, List.mem_cons_of_mem _ member, same⟩

theorem mem_written {schema : TableSchema V κ} {fails : Int → Bool}
    {items : List (Stamped V)} {folder : Folder V} {row : Row V}
    (member : row ∈ written (appendRows schema fails folder items).attempts) :
    ∃ t, row.time = schema.scalar t := by
  obtain ⟨attempt, tried, inside⟩ := List.mem_flatMap.mp member
  obtain ⟨group, _, rfl⟩ := attempt_of_appendDays (List.mem_filter.mp tried).1
  obtain ⟨item, _, rfl⟩ := List.mem_map.mp inside
  exact ⟨item.time, rfl⟩

/-! ### Writes that fail -/

/-- A file changes only through a write that goes through. -/
theorem get?_of_not_written {schema : TableSchema V κ} {fails : Int → Bool}
    {days : List (Int × List (Stamped V))} {folder : Folder V} {day : Int}
    (failed : ∀ attempt ∈ (appendDays schema fails days folder).attempts,
      attempt.day = day → attempt.ok = false) :
    (appendDays schema fails days folder).folder.get? day = folder.get? day := by
  induction days generalizing folder with
  | nil => rfl
  | cons group rest ih =>
      obtain ⟨other, items⟩ := group
      unfold appendDays at failed ⊢
      dsimp only at failed ⊢
      split at failed <;> rename_i outcome
      · rw [if_pos outcome]
      · rw [if_neg outcome]
        have apart : day ≠ other := by
          intro same
          have tried := failed _ List.mem_cons_self same.symm
          cases tried
        have later := ih fun attempt member =>
          failed attempt (List.mem_cons_of_mem _ member)
        rw [later, Dict.get?_set_of_ne folder _ apart]

/-! ### Reading -/

/-- Of entries with different keys, those of one key. -/
theorem flatMap_of_key {β γ : Type} (select : β → List γ) (day : Int)
    {entries : List (Int × β)} (distinct : (entries.map Prod.fst).Nodup)
    (others : ∀ entry ∈ entries, entry.1 ≠ day → select entry.2 = []) :
    (entries.flatMap fun entry => select entry.2) =
      ((Dict.lookup day entries).map select).getD [] := by
  induction entries with
  | nil => rfl
  | cons entry rest ih =>
      rw [List.map_cons, List.nodup_cons] at distinct
      obtain ⟨new, distinct⟩ := distinct
      have othersRest : ∀ other ∈ rest, other.1 ≠ day → select other.2 = [] :=
        fun other member => others other (List.mem_cons_of_mem _ member)
      rw [List.flatMap_cons, Dict.lookup]
      by_cases here : entry.1 = day
      · have none : (rest.flatMap fun entry => select entry.2) = [] := by
          apply List.flatMap_eq_nil_iff.mpr
          intro other member
          apply othersRest other member
          intro again
          exact new (List.mem_map.mpr ⟨other, member, again.trans here.symm⟩)
        rw [none, List.append_nil, if_pos here]
        rfl
      · rw [others entry List.mem_cons_self here, List.nil_append, if_neg here,
          ih distinct othersRest]

/-- All rows of a time are in the file of its day. -/
theorem groupOf_dataset {schema : TableSchema V κ} {folder : Folder V}
    {history : List (Row V)} (holds : Holds schema folder history) (t : Int) :
    groupOf Row.time (dataset folder) t =
      keepLast schema.key (groupOf Row.time history t) := by
  have perm : (sortBy Prod.fst folder.items).Perm folder.items :=
    sortBy_perm folder.items
  have distinct : ((sortBy Prod.fst folder.items).map Prod.fst).Nodup :=
    ((perm.map Prod.fst).nodup_iff).mpr folder.nodup
  have sameFile : Dict.lookup (schema.dayOf t) (sortBy Prod.fst folder.items) =
      folder.get? (schema.dayOf t) := by
    apply Option.ext
    intro rows
    rw [Dict.lookup_eq_some_iff distinct, Dict.get?_eq_some_iff]
    exact perm.mem_iff
  rw [dataset, groupOf_flatMap, flatMap_of_key (fun rows => groupOf Row.time rows t)
    (schema.dayOf t) distinct, sameFile, ← holds.kept t]
  · rw [Dict.getD]
    cases folder.get? (schema.dayOf t) <;> rfl
  · intro entry member apart
    apply groupOf_eq_nil
    intro row inside same
    have found : folder.get? entry.1 = some entry.2 :=
      (Dict.get?_eq_some_iff folder).mpr (perm.mem_iff.mp member)
    exact apart (same ▸ (holds.own found row inside).symm)

theorem sortBy_dataset {schema : TableSchema V κ} {folder : Folder V}
    {history : List (Row V)} (holds : Holds schema folder history) :
    sortBy Row.time (dataset folder) =
      sortBy Row.time (keepLast schema.key history) := by
  apply sortBy_congr
  intro t
  rw [groupOf_dataset holds, groupOf_keepLast]

/-- A folder that holds a history is read as the history without repeated keys,
cut to the range and sorted by time. -/
theorem readRange_eq {schema : TableSchema V κ} {folder : Folder V}
    {history : List (Row V)} (holds : Holds schema folder history) (lo hi : Int) :
    readRange folder lo hi =
      sortBy Row.time ((keepLast schema.key history).filter fun row =>
        decide (lo ≤ row.time ∧ row.time < hi)) := by
  rw [readRange, ← filter_sortBy, ← filter_sortBy, sortBy_dataset holds]

/-- The rows of one time in a range read. -/
theorem groupOf_readRange {schema : TableSchema V κ} {folder : Folder V}
    {history : List (Row V)} (holds : Holds schema folder history)
    (lo hi t : Int) :
    groupOf Row.time (readRange folder lo hi) t =
      if lo ≤ t ∧ t < hi then keepLast schema.key (groupOf Row.time history t)
      else [] := by
  rw [readRange_eq holds, groupOf_sortBy, groupOf_filter, groupOf_keepLast]
  have times : ∀ row ∈ keepLast schema.key (groupOf Row.time history t),
      row.time = t := fun row member =>
    (mem_groupOf.mp ((keepLast_sublist _).subset member)).2
  split
  · rename_i inside
    apply List.filter_eq_self.mpr
    intro row member
    rw [times row member]
    exact decide_eq_true inside
  · rename_i outside
    apply List.filter_eq_nil_iff.mpr
    intro row member
    rw [times row member]
    simpa using outside

theorem sorted_readRange (folder : Folder V) (lo hi : Int) :
    SortedBy Row.time (readRange folder lo hi) :=
  sorted_sortBy _

/-! ### Appends without a failing write -/

/-- A call without a failing write holds all it was given. -/
theorem groupOf_written {schema : TableSchema V κ} {folder : Folder V}
    (items : List (Stamped V)) (t : Int) :
    groupOf Row.time
        (written (appendRows schema (fun _ => false) folder items).attempts) t =
      groupOf Row.time (items.map schema.row) t := by
  have rows : ∀ (days : List (Int × List (Stamped V))) (folder : Folder V),
      written (appendDays schema (fun _ => false) days folder).attempts =
        days.flatMap fun group => group.2.map schema.row := by
    intro days
    induction days with
    | nil => exact fun _ => rfl
    | cons group rest ih =>
        intro folder
        obtain ⟨day, group⟩ := group
        have tail := ih (folder.set day (appendDay schema (folder.get? day)
          (group.map schema.row)))
        simpa [appendDays, written] using tail
  -- the rows of a time are those of the group of its day
  have ofDay : ∀ group : List (Stamped V), ∀ row ∈ group.map schema.row,
      ∃ item ∈ group, schema.dayOf row.time = Time.date item.time := by
    intro group row member
    obtain ⟨item, inside, rfl⟩ := List.mem_map.mp member
    exact ⟨item, inside, schema.dayOf_scalar item.time⟩
  rw [appendRows, rows, groupOf_flatMap, flatMap_of_key
    (fun group : List (Stamped V) => groupOf Row.time (group.map schema.row) t)
    (schema.dayOf t) (byDay items).nodup]
  · have whole := get?_byDay items (schema.dayOf t)
    have selected : groupOf Row.time (((byDay items).getD (schema.dayOf t) []).map
        schema.row) t = groupOf Row.time (items.map schema.row) t := by
      rw [whole, groupOf, groupOf, List.filter_map, List.filter_map,
        List.filter_filter]
      congr 1
      apply List.filter_congr
      intro item _
      by_cases same : (schema.row item).time = t
      · have day : Time.date item.time = schema.dayOf t := by
          rw [← same, TableSchema.row, schema.dayOf_scalar]
        simp [same, day]
      · simp [same]
    rw [← selected, Dict.getD, Dict.get?]
    cases Dict.lookup (schema.dayOf t) (byDay items).items <;> rfl
  · intro entry member apart
    apply groupOf_eq_nil
    intro row inside same
    obtain ⟨item, listed, day⟩ := ofDay entry.2 row inside
    rw [same, date_of_mem_byDay member item listed] at day
    exact apart day.symm

/-- Only the groups of what was written matter. -/
theorem Holds.congr {schema : TableSchema V κ} {folder : Folder V}
    {one two : List (Row V)} (holds : Holds schema folder one)
    (same : ∀ t, groupOf Row.time one t = groupOf Row.time two t) :
    Holds schema folder two where
  sorted := holds.sorted
  own := holds.own
  kept := by
    intro t
    rw [holds.kept t, same t]

/-- A call without a failing write. -/
theorem Holds.append {schema : TableSchema V κ} {folder : Folder V}
    {history : List (Row V)} (holds : Holds schema folder history)
    (items : List (Stamped V)) :
    Holds schema
      (ParquetStore.appendRows schema (fun _ => false) folder items).folder
      (history ++ items.map schema.row) := by
  refine holds.appendRows.congr fun t => ?_
  rw [groupOf_append, groupOf_append, groupOf_written]

end ParquetStore

end StingerFx
