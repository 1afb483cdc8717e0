/-
Module: StingerFx.Strategies.BucketKeys
Layer: Strategies
Purpose: The keys of H4 and D1 buckets. For every anchor hour and every week of the
  currency market a later instant never has an earlier key, an instant is near its
  key, and the search for the open hours of a bucket finds all of them.
Trusted boundary: none (fully proved)
Main exports: anchoredDayStart_eq, weekOpenBefore_eq, d1BucketKey_eq,
  h4BucketKey_mono, d1BucketKey_mono, OpenSlot, mem_h4_slots, mem_d1_slots,
  BucketsOf, MultiTimeframeAggregator.create_buckets
-/
import StingerFx.Strategies.Aggregation

namespace StingerFx

open Time

variable {anchorHour : Fin 24} {calendar : ForexWeekCalendar} {s t : Time}

theorem usPerDay_eq : usPerDay = 86400000000 := rfl

theorem usPerHour_eq : usPerHour = 3600000000 := rfl

/-! ### Days and weeks -/

/-- The anchored days are the days after a shift by the anchor. -/
theorem anchoredDayStart_eq (t : Time) (anchorHour : Fin 24) :
    anchoredDayStart t anchorHour =
      (t - anchorHour.val * usPerHour) / usPerDay * usPerDay +
        anchorHour.val * usPerHour := by
  obtain ⟨a, below⟩ := anchorHour
  simp only [anchoredDayStart, atHour, date, usPerDay_eq, usPerHour_eq]
  dsimp only [Time] at *
  split_ifs
  · omega
  · omega

/-- Weeks begin on Sundays; the epoch was a Thursday. -/
theorem weekOpenBefore_eq (calendar : ForexWeekCalendar) (t : Time) :
    calendar.weekOpenBefore t =
      (t - (3 * usPerDay + calendar.weekOpenHour.val * usPerHour)) /
          (7 * usPerDay) * (7 * usPerDay) +
        (3 * usPerDay + calendar.weekOpenHour.val * usPerHour) := by
  obtain ⟨⟨w, below⟩, close, breaks⟩ := calendar
  simp only [ForexWeekCalendar.weekOpenBefore, atHour, date, weekday,
    ForexWeekCalendar.sunday, usPerDay_eq, usPerHour_eq]
  dsimp only [Time] at *
  split_ifs
  · omega
  · omega

theorem anchoredDayStart_spec (t : Time) (anchorHour : Fin 24) :
    anchoredDayStart t anchorHour ≤ t ∧
      t < anchoredDayStart t anchorHour + usPerDay := by
  rw [anchoredDayStart_eq, usPerDay_eq]
  dsimp only [Time] at *
  omega

theorem weekOpenBefore_le (calendar : ForexWeekCalendar) (t : Time) :
    calendar.weekOpenBefore t ≤ t := by
  rw [weekOpenBefore_eq, usPerDay_eq]
  dsimp only [Time] at *
  omega

/-- Two anchored days are the same, or a whole day apart. -/
theorem anchoredDayStart_order (anchorHour : Fin 24) (order : s ≤ t) :
    anchoredDayStart s anchorHour = anchoredDayStart t anchorHour ∨
      anchoredDayStart s anchorHour + usPerDay ≤
        anchoredDayStart t anchorHour := by
  rw [anchoredDayStart_eq, anchoredDayStart_eq, usPerDay_eq]
  dsimp only [Time] at *
  omega

theorem weekOpenBefore_mono (calendar : ForexWeekCalendar) (order : s ≤ t) :
    calendar.weekOpenBefore s ≤ calendar.weekOpenBefore t := by
  rw [weekOpenBefore_eq, weekOpenBefore_eq, usPerDay_eq]
  dsimp only [Time] at *
  omega

theorem anchoredDayStart_whole (t : Time) (anchorHour : Fin 24) :
    anchoredDayStart t anchorHour % usPerHour = 0 := by
  rw [anchoredDayStart_eq, usPerDay_eq, usPerHour_eq]
  dsimp only [Time] at *
  omega

/-- Instants of one anchored day have the same start. -/
theorem anchoredDayStart_within
    (after : anchoredDayStart t anchorHour ≤ s)
    (before : s < anchoredDayStart t anchorHour + usPerDay) :
    anchoredDayStart s anchorHour = anchoredDayStart t anchorHour := by
  rw [anchoredDayStart_eq, usPerDay_eq] at before
  rw [anchoredDayStart_eq] at after
  rw [anchoredDayStart_eq, anchoredDayStart_eq, usPerDay_eq] at *
  dsimp only [Time] at *
  omega

/-! ### Keys -/

/-- The trading day: the anchored day, or the next one while the week has opened
within it. -/
theorem d1BucketKey_eq (t : Time) (anchorHour : Fin 24)
    (calendar : ForexWeekCalendar) :
    d1BucketKey t anchorHour calendar.session =
      if anchoredDayStart t anchorHour < calendar.weekOpenBefore t then
        anchoredDayStart t anchorHour + usPerDay
      else anchoredDayStart t anchorHour := by
  have opening : calendar.session.weekOpenBefore t =
      calendar.weekOpenBefore t := rfl
  simp only [d1BucketKey, opening]
  split
  · rename_i early
    have past := weekOpenBefore_le calendar t
    have day := anchoredDayStart_spec t anchorHour
    have same : anchoredDayStart (calendar.weekOpenBefore t) anchorHour =
        anchoredDayStart t anchorHour :=
      anchoredDayStart_within early.le (lt_of_le_of_lt past day.2)
    rw [same, if_pos early]
  · rfl

theorem d1BucketKey_near (t : Time) (anchorHour : Fin 24)
    (calendar : ForexWeekCalendar) :
    d1BucketKey t anchorHour calendar.session - usPerDay ≤ t ∧
      t < d1BucketKey t anchorHour calendar.session + usPerDay := by
  have day := anchoredDayStart_spec t anchorHour
  rw [d1BucketKey_eq]
  rw [usPerDay_eq] at *
  dsimp only [Time] at *
  split_ifs
  · omega
  · omega

theorem d1BucketKey_whole (t : Time) (anchorHour : Fin 24)
    (calendar : ForexWeekCalendar) :
    d1BucketKey t anchorHour calendar.session % usPerHour = 0 := by
  have whole := anchoredDayStart_whole t anchorHour
  rw [d1BucketKey_eq]
  rw [usPerHour_eq] at *
  split
  · rw [usPerDay_eq]
    dsimp only [Time] at *
    omega
  · exact whole

/-- A later instant does not belong to an earlier trading day. -/
theorem d1BucketKey_mono (order : s ≤ t) :
    d1BucketKey s anchorHour calendar.session ≤
      d1BucketKey t anchorHour calendar.session := by
  have weeks := weekOpenBefore_mono calendar order
  have days := anchoredDayStart_order anchorHour order
  rw [d1BucketKey_eq, d1BucketKey_eq]
  generalize anchoredDayStart s anchorHour = a at *
  generalize anchoredDayStart t anchorHour = b at *
  rw [usPerDay_eq] at *
  dsimp only [Time] at *
  -- either both are of one day, or the later one is of a later day
  rcases days with same | later
  · split_ifs <;> omega
  · split_ifs <;> omega

theorem h4BucketKey_near (t : Time) (anchorHour : Fin 24) :
    h4BucketKey t anchorHour ≤ t ∧
      t < h4BucketKey t anchorHour + 4 * usPerHour := by
  have day := anchoredDayStart_spec t anchorHour
  simp only [h4BucketKey]
  generalize anchoredDayStart t anchorHour = a at *
  rw [usPerHour_eq]
  dsimp only [Time] at *
  omega

theorem h4BucketKey_whole (t : Time) (anchorHour : Fin 24) :
    h4BucketKey t anchorHour % usPerHour = 0 := by
  have whole := anchoredDayStart_whole t anchorHour
  simp only [h4BucketKey]
  generalize anchoredDayStart t anchorHour = a at *
  rw [usPerHour_eq] at *
  dsimp only [Time] at *
  omega

/-- A later instant does not belong to an earlier H4 bucket. -/
theorem h4BucketKey_mono (order : s ≤ t) :
    h4BucketKey s anchorHour ≤ h4BucketKey t anchorHour := by
  have first := anchoredDayStart_spec s anchorHour
  have second := anchoredDayStart_spec t anchorHour
  have days := anchoredDayStart_order anchorHour order
  simp only [h4BucketKey]
  generalize anchoredDayStart s anchorHour = a at *
  generalize anchoredDayStart t anchorHour = b at *
  rw [usPerDay_eq] at *
  rw [usPerHour_eq]
  dsimp only [Time] at *
  rcases days with same | later
  · omega
  · omega

/-! ### The open hours of a bucket -/

/-- A whole hour of a bucket that the calendar marks open. -/
def OpenSlot (keyFn : Time → Time) (calendar : SessionCalendar) (key slot : Time) :
    Prop :=
  slot % usPerHour = 0 ∧ calendar.isOpen slot = true ∧ keyFn slot = key

theorem mem_expectedOpenSlots {key slot : Time} {before after : Nat}
    {keyFn : Time → Time} {session : SessionCalendar}
    (whole : keyFn slot % usPerHour = 0)
    (near : keyFn slot = key →
      key - before * usPerHour ≤ slot ∧ slot < key + after * usPerHour) :
    slot ∈ expectedOpenSlots key before after keyFn session ↔
      OpenSlot keyFn session key slot := by
  rw [usPerHour_eq] at *
  unfold expectedOpenSlots OpenSlot
  rw [List.mem_filter, List.mem_map, Bool.and_eq_true, decide_eq_true_iff,
    usPerHour_eq]
  constructor
  · rintro ⟨⟨i, -, slots⟩, open_, same⟩
    refine ⟨?_, open_, same⟩
    rw [same] at whole
    rw [← slots]
    dsimp only [Time] at *
    omega
  · rintro ⟨onHour, open_, same⟩
    rcases near same with ⟨above, below⟩
    refine ⟨?_, open_, same⟩
    rw [same] at whole
    dsimp only [Time] at *
    refine ⟨((slot - (key - before * 3600000000)) / 3600000000).toNat, ?_, ?_⟩
    · rw [List.mem_range]
      omega
    · omega

theorem expectedOpenSlots_ascending (key : Time) (before after : Nat)
    (keyFn : Time → Time) (session : SessionCalendar) :
    (expectedOpenSlots key before after keyFn session).Pairwise (· < ·) := by
  unfold expectedOpenSlots
  refine List.Pairwise.filter _ (List.pairwise_map.mpr ?_)
  refine List.pairwise_lt_range.imp ?_
  intro one two order
  rw [usPerHour_eq]
  dsimp only [Time]
  omega

theorem h4_slot_near (slot : Time) (anchorHour : Fin 24) {key : Time}
    (same : h4BucketKey slot anchorHour = key) :
    key - (0 : Nat) * usPerHour ≤ slot ∧ slot < key + (4 : Nat) * usPerHour := by
  have near := h4BucketKey_near slot anchorHour
  rw [same] at near
  rw [usPerHour_eq] at *
  dsimp only [Time] at *
  omega

theorem d1_slot_near (slot : Time) (anchorHour : Fin 24)
    (calendar : ForexWeekCalendar) {key : Time}
    (same : d1BucketKey slot anchorHour calendar.session = key) :
    key - (26 : Nat) * usPerHour ≤ slot ∧ slot < key + (26 : Nat) * usPerHour := by
  have near := d1BucketKey_near slot anchorHour calendar
  rw [same, usPerDay_eq] at near
  rw [usPerHour_eq]
  dsimp only [Time] at *
  omega

theorem mem_h4_slots (key slot : Time) (anchorHour : Fin 24)
    (session : SessionCalendar) :
    slot ∈ expectedOpenSlots key 0 4 (fun t => h4BucketKey t anchorHour) session ↔
      OpenSlot (fun t => h4BucketKey t anchorHour) session key slot :=
  mem_expectedOpenSlots (h4BucketKey_whole slot anchorHour)
    (h4_slot_near slot anchorHour)

theorem mem_d1_slots (key slot : Time) (anchorHour : Fin 24)
    (calendar : ForexWeekCalendar) :
    slot ∈ expectedOpenSlots key 26 26
        (fun t => d1BucketKey t anchorHour calendar.session) calendar.session ↔
      OpenSlot (fun t => d1BucketKey t anchorHour calendar.session)
        calendar.session key slot :=
  mem_expectedOpenSlots (d1BucketKey_whole slot anchorHour calendar)
    (d1_slot_near slot anchorHour calendar)

/-! ### The buckets of the aggregator -/

/-- A timeframe whose buckets come in the order of time, lie near their keys and
have the open hours that the search lists, each once. -/
structure BucketsOf (keyFn : Time → Time) (before after : Nat)
    (session : SessionCalendar) (expectedFn : Time → List Time) : Prop where
  mono : ∀ s t, s ≤ t → keyFn s ≤ keyFn t
  window : ∀ key slot, OpenSlot keyFn session key slot →
    key - before * usPerHour ≤ slot ∧ slot < key + after * usPerHour
  exact_ : ∀ key slot, slot ∈ expectedFn key ↔ OpenSlot keyFn session key slot
  ascending : ∀ key, (expectedFn key).Pairwise (· < ·)

/-- Both timeframes, for every anchor and every week of the currency market; also at
keys that no instant has. -/
theorem MultiTimeframeAggregator.create_buckets (symbol : Symbol) (anchorHour : Fin 24)
    (calendar : ForexWeekCalendar) :
    BucketsOf (fun t => h4BucketKey t anchorHour) 0 4 calendar.session
        (create symbol anchorHour calendar.session).h4.expectedFn ∧
      BucketsOf (fun t => d1BucketKey t anchorHour calendar.session) 26 26
        calendar.session (create symbol anchorHour calendar.session).d1.expectedFn := by
  constructor
  · exact
      { mono := fun _ _ order => h4BucketKey_mono order
        window := fun _ slot open_ => h4_slot_near slot anchorHour open_.2.2
        exact_ := fun key slot => mem_h4_slots key slot anchorHour _
        ascending := fun _ => expectedOpenSlots_ascending _ _ _ _ _ }
  · exact
      { mono := fun _ _ order => d1BucketKey_mono order
        window := fun _ slot open_ => d1_slot_near slot anchorHour calendar open_.2.2
        exact_ := fun key slot => mem_d1_slots key slot anchorHour calendar
        ascending := fun _ => expectedOpenSlots_ascending _ _ _ _ _ }

end StingerFx
