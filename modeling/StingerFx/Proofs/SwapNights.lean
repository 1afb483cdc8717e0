/-
Module: StingerFx.Proofs.SwapNights
Layer: Proofs
Purpose: Swap nights. The closed form of the count is the number of rollovers after the
  opening and up to the close, so nights add up over the parts of a holding time.
Trusted boundary: none (fully proved)
Main exports: IsRollover, rolloverCount_eq_div, rolloverCount_nights
-/
import StingerFx.Backtest.SimBroker
import StingerFx.Lib.Recurrence

namespace StingerFx

open Lib

/-- `hour:00` of some day. -/
abbrev IsRollover (hour : Nat) (t : Time) : Prop :=
  Recurs Time.usPerDay (hour * Time.usPerHour) t

/-- The rollovers after the opening and up to the close. -/
noncomputable def nights (openTime closeTime : Time) (hour : Nat) : Finset Time :=
  (Finset.Ioc openTime closeTime).filter (IsRollover hour)

/-- The first rollover after the opening is found by one shift of the one on its day. -/
theorem rolloverCount_eq_div (openTime closeTime : Time) (hour : Fin 24) :
    rolloverCount openTime closeTime hour =
      max ((closeTime - hour.val * Time.usPerHour) / Time.usPerDay -
        (openTime - hour.val * Time.usPerHour) / Time.usPerDay) 0 := by
  obtain ⟨h, below⟩ := hour
  have perHour : Time.usPerHour = 3600000000 := rfl
  have perDay : Time.usPerDay = 86400000000 := rfl
  simp only [rolloverCount, Time.atHour, Time.date, perHour, perDay]
  dsimp only [Time] at *
  split_ifs
  · omega
  · omega
  · omega
  · omega
  · omega

theorem rolloverCount_eq_card (openTime closeTime : Time) (hour : Fin 24) :
    rolloverCount openTime closeTime hour = (nights openTime closeTime hour).card := by
  have pos : 0 < Time.usPerDay := by decide
  rw [rolloverCount_eq_div, nights, Recurs.card_Ioc pos]

/-- The nights are counted one by one; there are none without holding time, and those of
two parts of a holding time are those of all of it. -/
theorem rolloverCount_nights (hour : Fin 24) :
    (∀ openTime closeTime : Time,
      rolloverCount openTime closeTime hour = (nights openTime closeTime hour).card) ∧
    (∀ openTime closeTime : Time, closeTime ≤ openTime →
      rolloverCount openTime closeTime hour = 0) ∧
    (∀ openTime mid closeTime : Time, openTime ≤ mid → mid ≤ closeTime →
      rolloverCount openTime mid hour + rolloverCount mid closeTime hour =
        rolloverCount openTime closeTime hour) := by
  refine ⟨fun openTime closeTime => rolloverCount_eq_card openTime closeTime hour, ?_, ?_⟩
  · intro openTime closeTime empty
    exact if_pos empty
  · intro openTime mid closeTime first second
    rw [rolloverCount_eq_card, rolloverCount_eq_card, rolloverCount_eq_card]
    exact_mod_cast Recurs.card_Ioc_add first second

/-- Opened Monday at 10:00 and closed Wednesday at 02:00: two nights. -/
example : rolloverCount (4 * Time.usPerDay + 10 * Time.usPerHour)
    (6 * Time.usPerDay + 2 * Time.usPerHour) (21 : Fin 24) = 2 := by
  decide

end StingerFx
