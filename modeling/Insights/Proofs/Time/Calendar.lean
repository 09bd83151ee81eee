import Mathlib.Algebra.Ring.Nat
import Insights.Time.Timestamp

/-!
The days of the calendar by number. Every number of a day below the end of the year 9999 is the number of
a day of the calendar, so a moment with an offset has a literal exactly when its universal time lies between
the beginning of the year 1 and the end of the year 9999.
-/

namespace Insights

/-! ### Years -/

/-- A division by a constant goes up by one at each multiple of it. -/
theorem succ_div_eq (n divisor : Nat) :
    (n + 1) / divisor = n / divisor + if (n + 1) % divisor = 0 then 1 else 0 := by
  rw [Nat.succ_div]
  simp only [Nat.dvd_iff_mod_eq_zero]

theorem daysBeforeYear_succ {year : Nat} (h : 1 ≤ year) :
    daysBeforeYear (year + 1) = daysBeforeYear year + yearLength year := by
  obtain ⟨n, rfl⟩ : ∃ n, year = n + 1 := ⟨year - 1, by omega⟩
  have hcenturies : (n + 1) % 100 = 0 → (n + 1) % 4 = 0 := by omega
  have hcycles : (n + 1) % 400 = 0 → (n + 1) % 100 = 0 := by omega
  have hle : n / 100 ≤ n / 4 := by omega
  simp only [daysBeforeYear, Nat.add_sub_cancel, yearLength, isLeapYear, Bool.and_eq_true, Bool.or_eq_true,
    beq_iff_eq, bne_iff_ne, ne_eq, succ_div_eq]
  generalize n / 4 = leaps at hle ⊢
  generalize n / 100 = centuries at hle ⊢
  -- only four of the eight cases are there, since the multiples of 400 are among those of 100, and so on
  by_cases hfour : (n + 1) % 4 = 0
  · by_cases hhundred : (n + 1) % 100 = 0
    · by_cases hcycle : (n + 1) % 400 = 0
      · simp only [hfour, hhundred, hcycle, if_true, not_true_eq_false, or_true, and_self]
        omega
      · simp only [hfour, hhundred, hcycle, if_true, if_false, not_true_eq_false, or_false, and_false]
        omega
    · have hcycle : ¬ (n + 1) % 400 = 0 := mt hcycles hhundred
      simp only [hfour, hhundred, hcycle, if_true, if_false, not_false_eq_true, or_false, and_self]
      omega
  · have hhundred : ¬ (n + 1) % 100 = 0 := mt hcenturies hfour
    have hcycle : ¬ (n + 1) % 400 = 0 := mt hcycles hhundred
    simp only [hfour, hhundred, hcycle, if_false, false_and]
    omega

theorem daysBeforeYear_mono {year later : Nat} (h : 1 ≤ year) (hle : year ≤ later) :
    daysBeforeYear year ≤ daysBeforeYear later := by
  induction hle with
  | refl => exact Nat.le_refl _
  | step hle ih =>
    rw [daysBeforeYear_succ (Nat.le_trans h hle)]
    omega

theorem calendarDays_eq : calendarDays = daysBeforeYear 10000 := by
  decide

/-- Cutting years off keeps the day that is meant. -/
theorem cutYears_number {year : Nat} (h : 1 ≤ year) (days : Nat) :
    1 ≤ (cutYears year days).1 ∧
      daysBeforeYear (cutYears year days).1 + (cutYears year days).2 = daysBeforeYear year + days := by
  fun_induction cutYears year days with
  | case1 year days hlt => exact ⟨h, rfl⟩
  | case2 year days hle ih =>
    obtain ⟨hpos, hsame⟩ := ih (by omega)
    refine ⟨hpos, ?_⟩
    rw [hsame, daysBeforeYear_succ h]
    omega

/-! ### Months -/

/-- Cutting months off stops at the month in which the day is. -/
theorem cutMonths_eq {lengths : List Nat} {days : Nat} (month : Nat) (h : days < lengths.sum) :
    ∃ position rest, ∃ hlt : position < lengths.length,
      cutMonths month days lengths = (month + position, rest) ∧ rest < lengths[position] ∧
        (lengths.take position).sum + rest = days := by
  induction lengths generalizing month days with
  | nil => simp at h
  | cons length others ih =>
    rw [List.sum_cons] at h
    by_cases hfirst : days < length
    · exact ⟨0, days, by simp, by simp [cutMonths, hfirst], hfirst, by simp⟩
    · have hlater : days - length < others.sum := by omega
      obtain ⟨position, rest, hlt, hcut, hrest, hsum⟩ := ih (month + 1) hlater
      refine ⟨position + 1, rest, by simpa using hlt, ?_, hrest, ?_⟩
      · rw [cutMonths, if_neg hfirst, hcut]
        congr 1
        omega
      · rw [List.take_succ_cons, List.sum_cons]
        omega

theorem sum_monthLengths (year : Nat) : (monthLengths year).sum = yearLength year := by
  unfold monthLengths yearLength
  split <;> rfl

/-! ### Days -/

/-- Every number below the end of the calendar is that of a day. -/
theorem Date.ofNumber?_eq_some {number : Nat} (h : number < calendarDays) :
    ∃ date, ofNumber? number = some date ∧ date.number = number := by
  obtain ⟨hyear, hnumber⟩ := cutYears_number (Nat.le_refl 1) number
  have hwithin := cutYears_snd_lt 1 number
  rcases hcut : cutYears 1 number with ⟨year, dayOfYear⟩
  rw [hcut] at hyear hnumber hwithin
  dsimp only at hyear hnumber hwithin
  rw [← sum_monthLengths] at hwithin
  obtain ⟨position, rest, hlt, hmonth, hrest, hsum⟩ := cutMonths_eq 1 hwithin
  have hlast : year ≤ 9999 := by
    refine Nat.le_of_lt_succ (Nat.lt_of_not_le fun hlate => ?_)
    have hmono : daysBeforeYear 10000 ≤ daysBeforeYear year := daysBeforeYear_mono (by decide) hlate
    have hfirst : daysBeforeYear 1 = 0 := rfl
    rw [calendarDays_eq] at h
    omega
  have hmonths : (monthLengths year).length = 12 := rfl
  have hlength : monthLength year (1 + position) = (monthLengths year)[position] := by
    simp [monthLength, hlt]
  have hvalid : (1 ≤ year ∧ year ≤ 9999) ∧ (1 ≤ 1 + position ∧ 1 + position ≤ 12) ∧
      1 ≤ rest + 1 ∧ rest + 1 ≤ monthLength year (1 + position) := by
    omega
  refine ⟨⟨year, 1 + position, rest + 1, hvalid.1, hvalid.2.1, hvalid.2.2⟩, ?_, ?_⟩
  · simp only [ofNumber?, if_pos h, hcut, hmonth, ofParts?, dif_pos hvalid]
  · have hmonthsBefore : daysBeforeMonth year (1 + position) = ((monthLengths year).take position).sum := by
      rw [daysBeforeMonth, Nat.add_sub_cancel_left, List.sum_eq_foldl]
    have hfirst : daysBeforeYear 1 = 0 := rfl
    simp only [Date.number, hmonthsBefore]
    omega

theorem Date.isSome_ofNumber?_iff (number : Nat) : (ofNumber? number).isSome = true ↔ number < calendarDays := by
  by_cases h : number < calendarDays
  · obtain ⟨date, hdate, -⟩ := ofNumber?_eq_some h
    simp [hdate, h]
  · simp [ofNumber?, h]

theorem Date.number_of_ofNumber? {number : Nat} {date : Date} (h : ofNumber? number = some date) :
    date.number = number := by
  have hsome : (ofNumber? number).isSome = true := Option.isSome_of_eq_some h
  obtain ⟨found, hfound, hnumber⟩ := ofNumber?_eq_some ((isSome_ofNumber?_iff number).mp hsome)
  rw [h, Option.some.injEq] at hfound
  rw [hfound, hnumber]

/-! ### Moments -/

namespace Timestamp

/-- The distance of a moment from the beginning of the year 1 in universal time, in microseconds. -/
def universal (t : Timestamp) : Int :=
  t.wall - t.offset.getD 0 * microsPerSecond

/-- The moment has an offset, and its universal time is before the year 1 or after the year 9999. -/
def LeavesCalendar (t : Timestamp) : Prop :=
  t.offset.isSome = true ∧ (t.universal < 0 ∨ ((daysBeforeYear 10000 * microsPerDay : Nat) : Int) ≤ t.universal)

instance (t : Timestamp) : Decidable t.LeavesCalendar :=
  inferInstanceAs (Decidable (_ ∧ _))

theorem isSome_ofWall?_iff (wall : Int) :
    (ofWall? wall).isSome = true ↔ 0 ≤ wall ∧ wall < (daysBeforeYear 10000 * microsPerDay : Nat) := by
  have hday : 0 < microsPerDay := by decide
  have hdate := Date.isSome_ofNumber?_iff (wall.toNat / microsPerDay)
  rw [calendarDays_eq, Nat.div_lt_iff_lt_mul hday] at hdate
  have hmicros := Nat.mod_lt wall.toNat hday
  unfold ofWall?
  split
  · next hneg => simp; omega
  · next hpos =>
    have hsome : (do
        let date ← Date.ofNumber? (wall.toNat / microsPerDay)
        ofParts? date (wall.toNat % microsPerDay) none : Option Timestamp).isSome =
          (Date.ofNumber? (wall.toNat / microsPerDay)).isSome := by
      cases Date.ofNumber? (wall.toNat / microsPerDay) with
      | none => rfl
      | some date => simp [ofParts?, hmicros]
    rw [hsome, hdate]
    omega

/-- A moment has a literal unless its universal time leaves the calendar. -/
theorem literal?_eq_none_iff (t : Timestamp) : t.literal? = none ↔ t.LeavesCalendar := by
  cases hoffset : t.offset with
  | none => simp [literal?, LeavesCalendar, hoffset]
  | some seconds =>
    have hwall := isSome_ofWall?_iff (t.wall - seconds * microsPerSecond)
    have hliteral : t.literal?.isSome = (ofWall? (t.wall - seconds * microsPerSecond)).isSome := by
      simp [literal?, utc?, hoffset]
    have huniversal : t.universal = t.wall - seconds * microsPerSecond := by
      simp [universal, hoffset]
    rw [← Option.not_isSome_iff_eq_none, hliteral, hwall, LeavesCalendar, hoffset, huniversal]
    simp only [Option.isSome_some, true_and]
    omega

end Timestamp

end Insights
