import Postbag.Date.Calendar
/-!
# Calendar — days follow each other, and so do weekdays

A day is followed by the next one of its month, the last one of a month by the first of the next month, and the last one
of a year by the first of the next year.  That and one known day fix the weekday of every day, before and after it.  The
weekday that is counted from the beginning of year 0 is that one.
-/
namespace Postbag
namespace Calendar

/-- **One day and the next.** -/
inductive Follows : (year month day : Nat) → (year' month' day' : Nat) → Prop
  | inMonth {year month day} : dayExists year month day → dayExists year month (day + 1) →
      Follows year month day year month (day + 1)
  | inYear {year month day} : dayExists year month day → ¬ dayExists year month (day + 1) → month < 12 →
      Follows year month day year (month + 1) 1
  | newYear {year} : Follows year 12 31 (year + 1) 1 1

/-- **The weekday of a day**, counted from Monday as 0: the first of January 1970 was a Thursday, and weekdays follow
each other as days do. -/
inductive FallsOn : (year month day : Nat) → (weekday : Nat) → Prop
  | epoch : FallsOn 1970 1 1 3
  | next {year month day year' month' day' weekday} : FallsOn year month day weekday →
      Follows year month day year' month' day' → FallsOn year' month' day' ((weekday + 1) % 7)
  | previous {year month day year' month' day' weekday} : FallsOn year' month' day' weekday →
      Follows year month day year' month' day' → FallsOn year month day ((weekday + 6) % 7)

variable {year month day year' month' day' : Nat}

theorem dayExists_iff : dayExists year month day ↔ 1 ≤ day ∧ day ≤ monthLength year month := by
  simp [dayExists]

theorem month_of_dayExists (h : dayExists year month day) : 1 ≤ month ∧ month ≤ 12 := by
  obtain ⟨hfirst, hle⟩ := dayExists_iff.1 h
  unfold monthLength at hle
  split at hle <;> omega

theorem monthLength_pos (h1 : 1 ≤ month) (h12 : month ≤ 12) (year : Nat) : 1 ≤ monthLength year month := by
  have hfebruary : ∀ year, 1 ≤ if isLeap year then 29 else 28 := fun year => by split <;> decide
  unfold monthLength
  split
  case h_12 => exact hfebruary _
  case h_13 =>
    simp only [imp_false] at *
    omega
  all_goals decide

theorem monthLength_le (year month : Nat) : monthLength year month ≤ 31 := by
  have hfebruary : (if isLeap year then 29 else 28) ≤ 31 := by split <;> decide
  unfold monthLength
  split
  case h_12 => exact hfebruary
  all_goals decide

theorem daysBeforeMonth_thirteen (year : Nat) :
    daysBeforeMonth year 13 = if isLeap year then 366 else 365 := by
  have hfebruary : daysBeforeMonth year 13 = 337 + if isLeap year then 29 else 28 := by
    simp only [daysBeforeMonth, monthLength]
    omega
  rw [hfebruary]
  cases isLeap year <;> rfl

/-- A year has one day more if it is a multiple of 4, one less if it is one of 100, and one more if it is one of
400. -/
theorem leapDays (year : Nat) :
    (if isLeap year then 366 else 365) + (if 100 ∣ year then 1 else 0) =
      365 + (if 4 ∣ year then 1 else 0) + if 400 ∣ year then 1 else 0 := by
  have hleap : isLeap year = true ↔ (4 ∣ year ∧ ¬ 100 ∣ year) ∨ 400 ∣ year := by
    simp [isLeap, Nat.dvd_iff_mod_eq_zero]
  have h100 : 400 ∣ year → 100 ∣ year := Nat.dvd_trans (by decide)
  have h4 : 100 ∣ year → 4 ∣ year := Nat.dvd_trans (by decide)
  by_cases hfour : 4 ∣ year <;> by_cases hhundred : 100 ∣ year <;> by_cases hmore : 400 ∣ year <;>
    simp_all

theorem daysBeforeYear_add_one (year : Nat) :
    daysBeforeYear (year + 1) = (year + 1) * 365 + year / 4 + 1 - year / 100 + year / 400 := rfl

theorem daysBeforeYear_succ (year : Nat) :
    daysBeforeYear (year + 1) = daysBeforeYear year + daysBeforeMonth year 13 := by
  rw [daysBeforeMonth_thirteen]
  cases year with
  | zero => decide
  | succ year =>
    have hdays := leapDays (year + 1)
    have hle : year / 100 ≤ year / 4 := Nat.div_le_div_left (by decide) (by decide)
    have hone : (if 100 ∣ year + 1 then 1 else 0) ≤ 1 := by split <;> decide
    rw [daysBeforeYear_add_one, daysBeforeYear_add_one, Nat.succ_div (a := year), Nat.succ_div (a := year),
      Nat.succ_div (a := year)]
    -- what is left is linear in the three quotients and the three steps that they make
    generalize year / 4 = a, year / 100 = b, year / 400 = c at hle ⊢
    omega

theorem dayNumber_of_follows (h : Follows year month day year' month' day') :
    dayNumber year' month' day' = dayNumber year month day + 1 := by
  cases h with
  | inMonth hday _ =>
    have hfirst := (dayExists_iff.1 hday).1
    unfold dayNumber
    omega
  | inYear hday hlast _ =>
    obtain ⟨hfirst, hle⟩ := dayExists_iff.1 hday
    have hlength : day = monthLength year month := by
      rw [dayExists_iff] at hlast
      omega
    have hmonth : daysBeforeMonth year (month + 1) = daysBeforeMonth year month + monthLength year month := rfl
    unfold dayNumber
    omega
  | newYear =>
    have hdecember : daysBeforeMonth year 13 = daysBeforeMonth year 12 + 31 := rfl
    have hjanuary : daysBeforeMonth (year + 1) 1 = 0 := rfl
    have hyear := daysBeforeYear_succ year
    unfold dayNumber
    omega

theorem weekday_of_follows (h : Follows year month day year' month' day') :
    weekday year' month' day' = (weekday year month day + 1) % 7 := by
  unfold weekday
  rw [dayNumber_of_follows h]
  omega

theorem weekday_of_fallsOn {w : Nat} (h : FallsOn year month day w) : w = weekday year month day := by
  induction h with
  | epoch => decide +kernel
  | next _ hfollows ih => rw [ih, weekday_of_follows hfollows]
  | previous _ hfollows ih =>
    rw [ih, weekday_of_follows hfollows]
    unfold weekday
    omega

/-- **What passes from one day to the next and back is the same for all days.** -/
theorem iff_of_follows {P : Nat → Nat → Nat → Prop}
    (hP : ∀ {year month day year' month' day'}, Follows year month day year' month' day' →
      (P year month day ↔ P year' month' day')) (h : dayExists year month day) :
    P year month day ↔ P 0 1 1 := by
  -- within a month
  have hmonth : ∀ year month day, dayExists year month (day + 1) → (P year month (day + 1) ↔ P year month 1) := by
    intro year month day
    induction day with
    | zero => exact fun _ => Iff.rfl
    | succ day ih =>
      intro hday
      obtain ⟨-, hle⟩ := dayExists_iff.1 hday
      have hbefore : dayExists year month (day + 1) := dayExists_iff.2 ⟨by omega, by omega⟩
      exact (hP (.inMonth hbefore hday)).symm.trans (ih hbefore)
  have hlast : ∀ {year month}, 1 ≤ month → month ≤ 12 →
      (P year month (monthLength year month) ↔ P year month 1) := by
    intro year month h1 h12
    have hpos := monthLength_pos h1 h12 year
    have hday := hmonth year month (monthLength year month - 1)
    rw [Nat.sub_add_cancel hpos] at hday
    exact hday (dayExists_iff.2 ⟨hpos, Nat.le_refl _⟩)
  -- within a year
  have hyear : ∀ year month, month + 1 ≤ 12 → (P year (month + 1) 1 ↔ P year 1 1) := by
    intro year month
    induction month with
    | zero => exact fun _ => Iff.rfl
    | succ month ih =>
      intro h12
      have hpos := monthLength_pos (Nat.le_add_left 1 month) (Nat.le_of_succ_le h12) year
      have hend : dayExists year (month + 1) (monthLength year (month + 1)) := dayExists_iff.2 ⟨hpos, Nat.le_refl _⟩
      have hover : ¬ dayExists year (month + 1) (monthLength year (month + 1) + 1) := fun hover =>
        Nat.not_succ_le_self _ (dayExists_iff.1 hover).2
      rw [← hP (.inYear hend hover (by omega)), hlast (Nat.le_add_left 1 month) (by omega)]
      exact ih (by omega)
  -- from year to year
  have hzero : ∀ year, P year 1 1 ↔ P 0 1 1 := by
    intro year
    induction year with
    | zero => exact Iff.rfl
    | succ year ih =>
      have hdecember : P year 12 31 ↔ P year 12 1 := hlast (by decide) (by decide)
      rw [← hP .newYear, hdecember, hyear year 11 (by decide), ih]
  obtain ⟨hfirst, hle⟩ := dayExists_iff.1 h
  obtain ⟨h1, h12⟩ := month_of_dayExists h
  have hday := hmonth year month (day - 1)
  have hmon := hyear year (month - 1)
  rw [Nat.sub_add_cancel hfirst] at hday
  rw [Nat.sub_add_cancel h1] at hmon
  exact (hday h).trans ((hmon h12).trans (hzero year))

/-- **The weekday that is counted is the right one**, for every day that exists. -/
theorem fallsOn_iff (h : dayExists year month day) {w : Nat} :
    FallsOn year month day w ↔ w = weekday year month day := by
  refine ⟨weekday_of_fallsOn, ?_⟩
  rintro rfl
  have hstep : ∀ {year month day year' month' day'}, Follows year month day year' month' day' →
      (FallsOn year month day (weekday year month day) ↔ FallsOn year' month' day' (weekday year' month' day')) := by
    intro year month day year' month' day' hfollows
    have hnext := weekday_of_follows hfollows
    constructor
    · intro hw
      rw [hnext]
      exact .next hw hfollows
    · intro hw
      have hback : weekday year month day = (weekday year' month' day' + 6) % 7 := by
        rw [hnext]
        unfold weekday
        omega
      rw [hback]
      exact .previous hw hfollows
  have hall : ∀ {year month day}, dayExists year month day →
      (FallsOn year month day (weekday year month day) ↔ FallsOn 0 1 1 (weekday 0 1 1)) := fun h =>
    iff_of_follows (P := fun year month day => FallsOn year month day (weekday year month day)) hstep h
  have hepoch : weekday 1970 1 1 = 3 := by decide +kernel
  have hknown : FallsOn 1970 1 1 (weekday 1970 1 1) := hepoch.symm ▸ .epoch
  exact (hall h).2 ((hall (by decide)).1 hknown)

end Calendar
end Postbag
