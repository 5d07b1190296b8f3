import Briefing.Calendar.Instant
import Mathlib.Tactic.IntervalCases

namespace Briefing

namespace Date

structure OnCalendar (d : Date) : Prop where
  month_pos : 1 ≤ d.month
  month_le : d.month ≤ 12
  day_pos : 1 ≤ d.day
  day_le : d.day ≤ monthLength d.year d.month

def next (d : Date) : Date :=
  if d.day < monthLength d.year d.month then { d with day := d.day + 1 }
  else if d.month < 12 then ⟨d.year, d.month + 1, 1⟩
  else ⟨d.year + 1, 1, 1⟩

theorem leapYear_iff {year : Int} :
    leapYear year = true ↔ year % 4 = 0 ∧ (year % 100 ≠ 0 ∨ year % 400 = 0) := by
  simp [leapYear]

theorem monthLength_eq (year : Int) (month : Nat) :
    monthLength year month =
      if month = 2 then if year % 4 = 0 ∧ (year % 100 ≠ 0 ∨ year % 400 = 0) then 29 else 28
      else if month = 4 ∨ month = 6 ∨ month = 9 ∨ month = 11 then 30 else 31 := by
  unfold monthLength
  split <;> simp_all [leapYear_iff]

theorem onCalendar_of_ofParts? {year : Int} {month day : Nat} {d : Date}
    (h : ofParts? year month day = some d) : d.OnCalendar := by
  simp only [ofParts?, Option.ite_none_right_eq_some, Option.some.injEq] at h
  obtain ⟨⟨-, -, month_pos, month_le, day_pos, day_le⟩, rfl⟩ := h
  exact ⟨month_pos, month_le, day_pos, day_le⟩

theorem onCalendar_of_read? {s : List Char} {d : Date} (h : read? s = some d) : d.OnCalendar := by
  simp only [read?, Option.bind_eq_bind, Option.bind_eq_some_iff] at h
  obtain ⟨⟨year, _⟩, -, _, -, ⟨month, _⟩, -, _, -, ⟨day, _⟩, -, parts⟩ := h
  split at parts
  · exact onCalendar_of_ofParts? parts
  · cases parts

theorem OnCalendar.next {d : Date} (h : d.OnCalendar) : d.next.OnCalendar := by
  obtain ⟨month_pos, month_le, day_pos, day_le⟩ := h
  have long (year : Int) (month : Nat) : 1 ≤ monthLength year month := by
    rw [monthLength_eq]
    split <;> split <;> decide
  unfold Date.next
  split
  · rename_i within
    exact ⟨month_pos, month_le, Nat.succ_pos _, within⟩
  · split
    · rename_i early
      exact ⟨Nat.succ_pos _, early, Nat.le_refl 1, long _ _⟩
    · exact ⟨Nat.le_refl 1, Nat.le_add_left 1 11, Nat.le_refl 1, long _ _⟩

def daysBefore (year : Int) : Int := 365 * year + year / 4 - year / 100 + year / 400

theorem daysBefore_next (year : Int) :
    daysBefore year = daysBefore (year - 1) + if leapYear year then 366 else 365 := by
  unfold daysBefore
  split
  · rename_i leap
    rw [leapYear_iff] at leap
    omega
  · rename_i common
    rw [leapYear_iff] at common
    omega

theorem dayNumber_early {d : Date} (early : d.month ≤ 2) :
    d.dayNumber = daysBefore (d.year - 1) + 31 * d.month + d.day - 719194 := by
  simp only [dayNumber, if_pos early, daysBefore]
  omega

theorem dayNumber_late {d : Date} (late : 2 < d.month) (month_le : d.month ≤ 12) :
    d.dayNumber = daysBefore d.year + (153 * (d.month - 3) + 2) / 5 + d.day - 719469 := by
  simp only [dayNumber, if_neg (Nat.not_le.mpr late), daysBefore]
  omega

theorem monthLength_late (year : Int) {month : Nat} (late : 2 < month) (before : month < 12) :
    (monthLength year month : Int) =
      (153 * ((month + 1 : Nat) - 3) + 2) / 5 - (153 * (month - 3) + 2) / 5 := by
  interval_cases month <;> rfl

theorem dayNumber_next {d : Date} (h : d.OnCalendar) : d.next.dayNumber = d.dayNumber + 1 := by
  obtain ⟨month_pos, month_le, day_pos, day_le⟩ := h
  unfold next
  split
  · simp only [dayNumber]
    omega
  · rename_i ended
    have last : d.day = monthLength d.year d.month := Nat.le_antisymm day_le (Nat.le_of_not_lt ended)
    split
    · rename_i before
      rcases Nat.lt_trichotomy d.month 2 with early | february | late
      · have january : d.month = 1 := by omega
        rw [dayNumber_early (Nat.succ_le_of_lt early), dayNumber_early (Nat.le_of_lt early)]
        rw [january] at last ⊢
        simp only [last, monthLength]
        omega
      · have march := dayNumber_late (d := ⟨d.year, d.month + 1, 1⟩)
          (Nat.lt_succ_of_le (Nat.le_of_eq february.symm)) before
        rw [march, dayNumber_early (Nat.le_of_eq february), daysBefore_next d.year]
        rw [february] at last ⊢
        simp only [last, monthLength]
        split <;> omega
      · have following :=
          dayNumber_late (d := ⟨d.year, d.month + 1, 1⟩) (Nat.lt_succ_of_lt late) before
        rw [following, dayNumber_late late month_le, last, monthLength_late d.year late before]
        simp only
        omega
    · have december : d.month = 12 := by omega
      have january := dayNumber_early (d := ⟨d.year + 1, 1, 1⟩) (Nat.le_succ 1)
      rw [january, dayNumber_late (by omega) month_le, last, december]
      simp only [monthLength, Int.add_sub_cancel]
      omega

/-- A day of an era of 400 years: its century, the four years in that, the year in those, and the day
in the year, which ends with February. -/
structure EraDay (number century cycle year day : Int) : Prop where
  century_range : 0 ≤ century ∧ century ≤ 3
  cycle_range : 0 ≤ cycle ∧ cycle ≤ 24
  year_range : 0 ≤ year ∧ year ≤ 3
  day_nonneg : 0 ≤ day
  day_range : day ≤ 364 ∨ day = 365 ∧ year = 3 ∧ (cycle ≠ 24 ∨ century = 3)
  sum : number = 36524 * century + 1461 * cycle + 365 * year + day

theorem exists_eraDay {number : Int} (low : 0 ≤ number) (high : number < 146097) :
    ∃ century cycle year day, EraDay number century cycle year day := by
  obtain ⟨century, hcentury⟩ : ∃ c, c = min (number / 36524) 3 := ⟨_, rfl⟩
  obtain ⟨cycle, hcycle⟩ : ∃ c, c = (number - 36524 * century) / 1461 := ⟨_, rfl⟩
  obtain ⟨year, hyear⟩ : ∃ y, y = min ((number - 36524 * century - 1461 * cycle) / 365) 3 :=
    ⟨_, rfl⟩
  refine ⟨century, cycle, year, number - 36524 * century - 1461 * cycle - 365 * year,
    ?_, ?_, ?_, ?_, ?_, ?_⟩ <;> omega

section

variable {number century cycle year day : Int} (h : EraDay number century cycle year day)
include h

theorem EraDay.century_eq : number / 36524 - number / 146096 = century := by
  obtain ⟨centuries, cycles, years, nonneg, range, sum⟩ := h
  obtain ⟨rest, hrest⟩ : ∃ r, r = 1461 * cycle + 365 * year + day := ⟨_, rfl⟩
  -- Only the last day of an era is one more than its century has room for.
  have last : 0 ≤ rest ∧ (rest ≤ 36523 ∨ rest = 36524 ∧ century = 3) := by omega
  have parts : number = 36524 * century + rest := by omega
  clear sum range hrest
  omega

theorem EraDay.yearOfEra :
    (number - number / 1460 + number / 36524 - number / 146096) / 365 =
      100 * century + 4 * cycle + year := by
  -- `late` is a leap day counted before it is there, at the end of the last of four years.
  obtain ⟨late, hlate⟩ : ∃ l, l = (24 * century + cycle + 365 * year + day) / 1460 := ⟨_, rfl⟩
  have leaps : number / 1460 = 25 * century + cycle + late := by
    have sum := h.sum
    omega
  have bounds : late ≤ day ∧ 0 ≤ late ∧ day - late ≤ 364 := by
    obtain ⟨centuries, cycles, years, nonneg, range, -⟩ := h
    omega
  have centuries := h.century_eq
  have sum := h.sum
  have common : number - number / 1460 + number / 36524 - number / 146096 =
      365 * (100 * century + 4 * cycle + year) + (day - late) := by omega
  rw [common]
  omega

theorem EraDay.dayOfYear {yearOfEra : Int} (same : yearOfEra = 100 * century + 4 * cycle + year) :
    number - (365 * yearOfEra + yearOfEra / 4 - yearOfEra / 100) = day := by
  obtain ⟨centuries, cycles, years, -, -, sum⟩ := h
  have fours : yearOfEra / 4 = 25 * century + cycle := by omega
  have hundreds : yearOfEra / 100 = century := by omega
  omega

end

def ofMarch (year day : Int) : Date :=
  let month := (5 * day + 2) / 153
  let first := (153 * month + 2) / 5
  if month < 10 then ⟨year, (month + 3).toNat, (day - first + 1).toNat⟩
  else ⟨year + 1, (month - 9).toNat, (day - first + 1).toNat⟩

theorem dayNumber_ofMarch (year : Int) {day : Int} (low : 0 ≤ day) (high : day ≤ 365) :
    (ofMarch year day).dayNumber = daysBefore year + day - 719468 := by
  unfold ofMarch
  simp only
  split
  · rw [dayNumber_late (by simp only; omega) (by simp only; omega)]
    simp only
    omega
  · rw [dayNumber_early (by simp only; omega)]
    simp only [Int.add_sub_cancel]
    omega

theorem onCalendar_ofMarch {year day : Int} (low : 0 ≤ day)
    (high : day ≤ 364 ∨ day = 365 ∧ leapYear (year + 1) = true) : (ofMarch year day).OnCalendar := by
  unfold ofMarch
  simp only
  rw [leapYear_iff] at high
  split
  · refine ⟨by simp only; omega, by simp only; omega, by simp only; omega, ?_⟩
    simp only [monthLength_eq]
    rw [if_neg (by omega)]
    split <;> omega
  · refine ⟨by simp only; omega, by simp only; omega, by simp only; omega, ?_⟩
    simp only [monthLength_eq]
    split <;> split <;> omega

theorem ofDayNumber_eq (n : Int) : ∃ year day, 0 ≤ day ∧
    (day ≤ 364 ∨ day = 365 ∧ leapYear (year + 1) = true) ∧
    n = daysBefore year + day - 719468 ∧ ofDayNumber n = ofMarch year day := by
  obtain ⟨century, cycle, year, day, h⟩ := exists_eraDay
    (Int.emod_nonneg (n + 719468) (by decide : (146097 : Int) ≠ 0))
    (Int.emod_lt_of_pos (n + 719468) (by decide))
  have yearOfEra := h.yearOfEra
  have dayOfYear := h.dayOfYear rfl
  refine ⟨(100 * century + 4 * cycle + year) + 400 * ((n + 719468) / 146097), day, h.day_nonneg,
    ?_, ?_, ?_⟩
  · rw [leapYear_iff]
    obtain ⟨centuries, cycles, years, -, range, -⟩ := h
    omega
  · obtain ⟨centuries, cycles, years, -, -, sum⟩ := h
    unfold daysBefore
    clear yearOfEra dayOfYear
    omega
  · simp only [ofDayNumber, ofMarch, yearOfEra, dayOfYear]

theorem dayNumber_ofDayNumber (n : Int) : (ofDayNumber n).dayNumber = n := by
  obtain ⟨year, day, low, high, number, date⟩ := ofDayNumber_eq n
  rw [date, dayNumber_ofMarch year low (by omega), number]

theorem onCalendar_ofDayNumber (n : Int) : (ofDayNumber n).OnCalendar := by
  obtain ⟨year, day, low, high, -, date⟩ := ofDayNumber_eq n
  rw [date]
  exact onCalendar_ofMarch low high

end Date

namespace Instant

def date (t : Instant) : Date := Date.ofDayNumber t.dayNumber

theorem dayNumber_date (t : Instant) : t.date.dayNumber = t.dayNumber :=
  Date.dayNumber_ofDayNumber t.dayNumber

end Instant

/-- Days are numbered in the order of the calendar, and a day has its 86400 seconds, also before
1970. -/
structure NumberedDays : Prop where
  epoch : (⟨1970, 1, 1⟩ : Date).dayNumber = 0
  next : ∀ d : Date, d.OnCalendar → d.next.OnCalendar ∧ d.next.dayNumber = d.dayNumber + 1
  instant : ∀ t : Instant, t.date.OnCalendar ∧ 86400 * t.date.dayNumber ≤ t.seconds ∧
    t.seconds < 86400 * (t.date.dayNumber + 1)
  read : ∀ s d, Date.read? s = some d → d.OnCalendar

theorem numberedDays : NumberedDays where
  epoch := rfl
  next _ h := ⟨h.next, Date.dayNumber_next h⟩
  instant t := by
    refine ⟨Date.onCalendar_ofDayNumber _, ?_⟩
    rw [Instant.dayNumber_date, Instant.dayNumber]
    omega
  read _ _ h := Date.onCalendar_of_read? h

end Briefing
