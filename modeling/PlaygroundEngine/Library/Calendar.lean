import Mathlib.Data.Int.Basic
import Mathlib.Data.Nat.Find

/-!
# The Gregorian calendar

Dates of the calendar extended to all years, counted by days. The date of a day is a valid one,
and later days have later dates.
-/

namespace Library

set_option autoImplicit false

def IsLeap (year : Int) : Prop := year % 4 = 0 ∧ (year % 100 ≠ 0 ∨ year % 400 = 0)

instance decidableIsLeap (year : Int) : Decidable (IsLeap year) :=
  inferInstanceAs (Decidable (_ ∧ _))

def yearLength (year : Int) : Nat := if IsLeap year then 366 else 365

def daysInMonth (leap : Bool) : Nat → Nat
  | 1 | 3 | 5 | 7 | 8 | 10 | 12 => 31
  | 4 | 6 | 9 | 11 => 30
  | 2 => if leap then 29 else 28
  | _ => 0

def daysBeforeMonth (leap : Bool) : Nat → Nat
  | 0 => 0
  | month + 1 => daysBeforeMonth leap month + daysInMonth leap month

def daysBeforeYear (year : Int) : Int :=
  365 * (year - 1) + (year - 1) / 4 - (year - 1) / 100 + (year - 1) / 400

@[ext]
structure Date where
  year : Int
  month : Nat
  day : Nat
  month_range : 1 ≤ month ∧ month ≤ 12
  day_range : 1 ≤ day ∧ day ≤ daysInMonth (IsLeap year) month

namespace Date

/-- Day 0 is the first of January of year 1. -/
def dayNumber (date : Date) : Int :=
  daysBeforeYear date.year + daysBeforeMonth (IsLeap date.year) date.month + date.day - 1

def Before (date later : Date) : Prop :=
  date.year < later.year ∨ date.year = later.year ∧
    (date.month < later.month ∨ date.month = later.month ∧ date.day < later.day)

end Date

theorem daysBeforeYear_succ (year : Int) :
    daysBeforeYear (year + 1) = daysBeforeYear year + yearLength year := by
  unfold daysBeforeYear yearLength
  by_cases hleap : IsLeap year
  · rw [if_pos hleap]
    unfold IsLeap at hleap
    omega
  · rw [if_neg hleap]
    unfold IsLeap at hleap
    omega

theorem daysBeforeYear_le {year later : Int} (h : year < later) :
    daysBeforeYear year + yearLength year ≤ daysBeforeYear later := by
  rw [← daysBeforeYear_succ]
  unfold daysBeforeYear
  omega

theorem daysBeforeMonth_le (leap : Bool) {month later : Nat} (h : month < later) :
    daysBeforeMonth leap month + daysInMonth leap month ≤ daysBeforeMonth leap later := by
  induction h with
  | refl => exact Nat.le_refl _
  | step _ ih => exact Nat.le_add_right_of_le ih

theorem daysInMonth_le (leap : Bool) (month : Nat) : daysInMonth leap month ≤ 31 := by
  unfold daysInMonth
  split
  all_goals cases leap <;> decide

theorem daysBeforeMonth_end (year : Int) :
    daysBeforeMonth (IsLeap year) 13 = yearLength year := by
  unfold yearLength
  by_cases hleap : IsLeap year
  · simp [hleap, daysBeforeMonth, daysInMonth]
  · simp [hleap, daysBeforeMonth, daysInMonth]

/-- The year that a day lies in; 146097 days make 400 years. -/
def yearOf (day : Int) : Int :=
  let year := 400 * day / 146097 + 1
  if daysBeforeYear (year + 1) ≤ day then year + 1 else year

theorem yearOf_spec (day : Int) :
    daysBeforeYear (yearOf day) ≤ day ∧
      day < daysBeforeYear (yearOf day) + yearLength (yearOf day) := by
  rw [← daysBeforeYear_succ]
  unfold yearOf
  dsimp only
  split
  · rename_i hnext
    refine ⟨hnext, ?_⟩
    unfold daysBeforeYear
    omega
  · rename_i hnext
    refine ⟨?_, Int.not_le.mp hnext⟩
    unfold daysBeforeYear
    omega

/-- The last month that begins by a day of the year, counted from 0. -/
def monthOf (leap : Bool) (dayOfYear : Nat) : Nat :=
  Nat.findGreatest (fun month => daysBeforeMonth leap month ≤ dayOfYear) 12

theorem monthOf_spec {year : Int} {dayOfYear : Nat} (h : dayOfYear < yearLength year) :
    let month := monthOf (IsLeap year) dayOfYear
    (1 ≤ month ∧ month ≤ 12) ∧ daysBeforeMonth (IsLeap year) month ≤ dayOfYear ∧
      dayOfYear < daysBeforeMonth (IsLeap year) month + daysInMonth (IsLeap year) month := by
  intro month
  let begins month := daysBeforeMonth (IsLeap year) month ≤ dayOfYear
  have hfirst : begins 1 := Nat.zero_le _
  have hlast : month ≤ 12 := Nat.findGreatest_le 12
  refine ⟨⟨Nat.le_findGreatest (by decide) hfirst, hlast⟩, ?_, ?_⟩
  · exact Nat.findGreatest_spec (P := begins) (by decide) hfirst
  · apply Nat.lt_of_not_le
    change ¬ begins (month + 1)
    rcases Nat.lt_or_eq_of_le hlast with hmore | hdecember
    · exact Nat.findGreatest_is_greatest (P := begins) (Nat.lt_succ_self month) hmore
    · rw [hdecember]
      change ¬ daysBeforeMonth (IsLeap year) 13 ≤ dayOfYear
      rw [daysBeforeMonth_end]
      exact Nat.not_le_of_lt h

namespace Date

def ofDayNumber (day : Int) : Date :=
  let dayOfYear := (day - daysBeforeYear (yearOf day)).toNat
  let month := monthOf (IsLeap (yearOf day)) dayOfYear
  have hyear : dayOfYear < yearLength (yearOf day) := by
    have hspec := yearOf_spec day
    omega
  have hmonth := monthOf_spec hyear
  { year := yearOf day
    month := month
    day := dayOfYear - daysBeforeMonth (IsLeap (yearOf day)) month + 1
    month_range := hmonth.1
    day_range := ⟨Nat.le_add_left 1 _, Nat.sub_lt_left_of_lt_add hmonth.2.1 hmonth.2.2⟩ }

theorem dayNumber_ofDayNumber (day : Int) : (ofDayNumber day).dayNumber = day := by
  have hyear := yearOf_spec day
  have hday : (day - daysBeforeYear (yearOf day)).toNat < yearLength (yearOf day) := by omega
  have hmonth := (monthOf_spec hday).2.1
  unfold dayNumber ofDayNumber
  dsimp only
  omega

theorem day_le (date : Date) : date.day ≤ 31 :=
  Nat.le_trans date.day_range.2 (daysInMonth_le _ _)

theorem dayOfYear_le (date : Date) : daysBeforeMonth (IsLeap date.year) date.month + date.day ≤
    yearLength date.year := by
  have hyear := daysBeforeMonth_le (IsLeap date.year) (Nat.lt_succ_of_le date.month_range.2)
  rw [daysBeforeMonth_end] at hyear
  have hday := date.day_range.2
  omega

theorem Before.dayNumber_lt {date later : Date} (h : date.Before later) :
    date.dayNumber < later.dayNumber := by
  have hlater := later.day_range.1
  unfold dayNumber
  rcases h with hyear | ⟨hyear, hmonth | ⟨hmonth, hday⟩⟩
  · have hyears := daysBeforeYear_le hyear
    have hdate := date.dayOfYear_le
    omega
  · have hmonths := daysBeforeMonth_le (IsLeap date.year) hmonth
    have hdate := date.day_range.2
    rw [← hyear]
    omega
  · rw [← hyear, ← hmonth]
    omega

theorem before_trichotomy (date later : Date) :
    date.Before later ∨ date = later ∨ later.Before date := by
  obtain ⟨year, month, day, _, _⟩ := date
  obtain ⟨year', month', day', _, _⟩ := later
  simp only [Before, Date.mk.injEq]
  omega

theorem ofDayNumber_inj {day later : Int} :
    ofDayNumber day = ofDayNumber later ↔ day = later :=
  (Function.LeftInverse.injective dayNumber_ofDayNumber).eq_iff

theorem before_ofDayNumber_iff {day later : Int} :
    (ofDayNumber day).Before (ofDayNumber later) ↔ day < later := by
  constructor
  · intro h
    have hlt := h.dayNumber_lt
    rw [dayNumber_ofDayNumber, dayNumber_ofDayNumber] at hlt
    exact hlt
  · intro h
    rcases before_trichotomy (ofDayNumber day) (ofDayNumber later) with hbefore | heq | hafter
    · exact hbefore
    · exact absurd (ofDayNumber_inj.mp heq) (Int.ne_of_lt h)
    · have hlt := hafter.dayNumber_lt
      rw [dayNumber_ofDayNumber, dayNumber_ofDayNumber] at hlt
      omega

end Date

end Library
