import KeyedImages.Calendar
import Mathlib.Algebra.BigOperators.Group.List.Basic
import Mathlib.Data.List.GetD
import Mathlib.Tactic.IntervalCases

/-! Dates and day numbers: each day has one date, and the date after a date has the next number. -/
namespace KeyedImages.Date

variable {d : Date} {y n : Int} {leap : Bool}

/-- The length of a year. -/
def yearLength (leap : Bool) : Nat := if leap then 366 else 365

/-- The date of the day after. -/
def next (d : Date) : Date :=
  if d.day < monthLength (isLeapYear d.year) d.month then ⟨d.year, d.month, d.day + 1⟩
  else if d.month < 12 then ⟨d.year, d.month + 1, 1⟩
  else ⟨d.year + 1, 1, 1⟩

theorem isLeapYear_iff : isLeapYear y = true ↔ y % 4 = 0 ∧ (y % 100 ≠ 0 ∨ y % 400 = 0) := by
  simp [isLeapYear]

theorem daysBeforeYear_succ (y : Int) :
    daysBeforeYear (y + 1) = daysBeforeYear y + yearLength (isLeapYear y) := by
  have hleap := isLeapYear_iff (y := y)
  unfold daysBeforeYear yearLength
  split <;> rename_i h
  · have := hleap.1 h
    omega
  · have := mt hleap.2 h
    omega

theorem daysBeforeYear_mono {a b : Int} (h : a ≤ b) : daysBeforeYear a ≤ daysBeforeYear b := by
  unfold daysBeforeYear
  omega

/-- A day lies in its year. -/
theorem yearOf_spec (day : Int) :
    daysBeforeYear (yearOf day) ≤ day ∧ day < daysBeforeYear (yearOf day + 1) := by
  unfold yearOf
  dsimp only
  split
  · unfold daysBeforeYear at *
    omega
  · split
    · rw [Int.sub_add_cancel]
      unfold daysBeforeYear at *
      omega
    · omega

/-- A day is a year's if it lies between the first days of this year and the next. -/
theorem yearOf_eq {day : Int} (h : daysBeforeYear y ≤ day) (h' : day < daysBeforeYear (y + 1)) :
    yearOf day = y := by
  obtain ⟨hlow, hhigh⟩ := yearOf_spec day
  rcases Int.lt_trichotomy (yearOf day) y with hlt | heq | hgt
  · have := daysBeforeYear_mono (a := yearOf day + 1) (b := y) (by omega)
    omega
  · exact heq
  · have := daysBeforeYear_mono (a := y + 1) (b := yearOf day) (by omega)
    omega

theorem length_monthLengths (leap : Bool) : (monthLengths leap).length = 12 := rfl

theorem sum_monthLengths (leap : Bool) : (monthLengths leap).sum = yearLength leap := by
  cases leap <;> rfl

theorem daysBeforeMonth_eq (leap : Bool) (m : Nat) :
    daysBeforeMonth leap (m + 1) = ((monthLengths leap).take m).sum := by
  rw [daysBeforeMonth, Nat.add_sub_cancel, List.sum_eq_foldl]

theorem monthLength_succ {i : Nat} (hi : i < (monthLengths leap).length) :
    monthLength leap (i + 1) = (monthLengths leap)[i] :=
  List.getD_eq_getElem _ _ hi

theorem daysBeforeMonth_succ {m : Nat} (h : 1 ≤ m) (h' : m ≤ 12) :
    daysBeforeMonth leap (m + 1) = daysBeforeMonth leap m + monthLength leap m := by
  obtain ⟨i, rfl⟩ : ∃ i, m = i + 1 := ⟨m - 1, by omega⟩
  have hi : i < (monthLengths leap).length := h'
  rw [daysBeforeMonth_eq, daysBeforeMonth_eq, monthLength_succ hi, List.sum_take_succ _ _ hi]

theorem daysBeforeMonth_end (leap : Bool) : daysBeforeMonth leap 13 = yearLength leap := by
  cases leap <;> rfl

/-- Months are found by the days before them. -/
theorem monthAndDay_sum {lengths : List Nat} {i k : Nat} (hi : i < lengths.length)
    (hk : k < lengths[i]) (month : Nat) :
    monthAndDay lengths month ((lengths.take i).sum + k) = (month + i, k + 1) := by
  induction lengths generalizing i month with
  | nil => simp at hi
  | cons n lengths ih =>
    cases i with
    | zero =>
      have hk : k < n := hk
      simp [monthAndDay, hk]
    | succ i =>
      have h := ih (i := i) (by simpa using hi) hk (month + 1)
      have hlt : ¬ n + (lengths.take i).sum + k < n := by omega
      have hsub : n + (lengths.take i).sum + k - n = (lengths.take i).sum + k := by omega
      rw [List.take_succ_cons, List.sum_cons, monthAndDay, if_neg hlt, hsub, h,
        Nat.add_assoc, Nat.add_comm 1 i]

/-- Each day of a year lies in one of its months. -/
theorem exists_month {lengths : List Nat} {k : Nat} (h : k < lengths.sum) :
    ∃ i, ∃ hi : i < lengths.length, ∃ j, j < lengths[i] ∧ k = (lengths.take i).sum + j := by
  induction lengths generalizing k with
  | nil => simp at h
  | cons n lengths ih =>
    by_cases hk : k < n
    · exact ⟨0, by simp, k, hk, by simp⟩
    · rw [List.sum_cons] at h
      obtain ⟨i, hi, j, hj, hsum⟩ := ih (k := k - n) (by omega)
      refine ⟨i + 1, by simpa using hi, j, hj, ?_⟩
      rw [List.take_succ_cons, List.sum_cons]
      omega

/-- A date that is written with a month and a day of its year, in whatever year. -/
def IsDay (d : Date) : Prop :=
  1 ≤ d.month ∧ d.month ≤ 12 ∧ 1 ≤ d.day ∧ d.day ≤ monthLength (isLeapYear d.year) d.month

theorem isValid_iff : d.isValid = true ↔ firstYear ≤ d.year ∧ d.year ≤ lastYear ∧ d.IsDay := by
  have hmonth : 1 ≤ d.day → d.day ≤ monthLength (isLeapYear d.year) d.month →
      1 ≤ d.month ∧ d.month ≤ 12 := by
    intro h h'
    cases hm : d.month with
    | zero =>
      rw [hm, monthLength] at h'
      omega
    | succ m =>
      refine ⟨by omega, ?_⟩
      by_contra hlt
      have hout : (monthLengths (isLeapYear d.year)).length ≤ m := by
        rw [length_monthLengths]
        omega
      rw [hm, monthLength, List.getD_eq_default _ _ hout] at h'
      omega
  unfold isValid IsDay
  simp only [Bool.and_eq_true, decide_eq_true_eq]
  constructor
  · rintro ⟨⟨⟨hfirst, hlast⟩, hday⟩, hlength⟩
    obtain ⟨hm, hm'⟩ := hmonth hday hlength
    exact ⟨hfirst, hlast, hm, hm', hday, hlength⟩
  · rintro ⟨hfirst, hlast, -, -, hday, hlength⟩
    exact ⟨⟨⟨hfirst, hlast⟩, hday⟩, hlength⟩

/-- The days from the first day of its year to a date. -/
theorem IsDay.offset (h : d.IsDay) : ∃ i, ∃ hi : i < (monthLengths (isLeapYear d.year)).length,
    ∃ j, j < (monthLengths (isLeapYear d.year))[i] ∧ d.month = 1 + i ∧ d.day = j + 1 ∧
      d.dayNumber = daysBeforeYear d.year +
        (((monthLengths (isLeapYear d.year)).take i).sum + j : Nat) - epochDay := by
  obtain ⟨hm, hm', hday, hlength⟩ := h
  obtain ⟨i, hi⟩ : ∃ i, d.month = i + 1 := ⟨d.month - 1, by omega⟩
  have hlt : i < (monthLengths (isLeapYear d.year)).length := by
    rw [length_monthLengths]
    omega
  rw [hi, monthLength_succ hlt] at hlength
  refine ⟨i, hlt, d.day - 1, by omega, by omega, by omega, ?_⟩
  rw [dayNumber, hi, daysBeforeMonth_eq]
  omega

theorem sum_take_add_lt {lengths : List Nat} {i j : Nat} (hi : i < lengths.length)
    (hj : j < lengths[i]) : (lengths.take i).sum + j < lengths.sum := by
  have hsplit := congrArg List.sum (List.take_append_drop (i + 1) lengths)
  rw [List.sum_append, List.sum_take_succ _ _ hi] at hsplit
  omega

/-- The number of a date lies between the numbers of the first days of its year and the next. -/
theorem IsDay.bounds (h : d.IsDay) : daysBeforeYear d.year ≤ d.dayNumber + epochDay ∧
    d.dayNumber + epochDay < daysBeforeYear (d.year + 1) := by
  obtain ⟨i, hi, j, hj, -, -, hnumber⟩ := h.offset
  have hlt := sum_take_add_lt hi hj
  rw [sum_monthLengths] at hlt
  rw [daysBeforeYear_succ]
  omega

/-- The date of a date's number is the date itself. -/
theorem ofDayNumber_dayNumber (h : d.IsDay) : ofDayNumber d.dayNumber = d := by
  obtain ⟨hlow, hhigh⟩ := h.bounds
  obtain ⟨i, hi, j, hj, hmonth, hday, hnumber⟩ := h.offset
  have hyear : yearOf (d.dayNumber + epochDay) = d.year := yearOf_eq hlow hhigh
  have hday' : (d.dayNumber + epochDay - daysBeforeYear d.year).toNat =
      ((monthLengths (isLeapYear d.year)).take i).sum + j := by omega
  rw [ofDayNumber]
  simp only [hyear, hday', monthAndDay_sum hi hj, ← hmonth, ← hday]

/-- Each number is that of its date. -/
theorem ofDayNumber_spec (n : Int) : (ofDayNumber n).IsDay ∧ (ofDayNumber n).dayNumber = n ∧
    (ofDayNumber n).year = yearOf (n + epochDay) := by
  obtain ⟨hlow, hhigh⟩ := yearOf_spec (n + epochDay)
  generalize hy : yearOf (n + epochDay) = y at hlow hhigh
  rw [daysBeforeYear_succ, ← sum_monthLengths] at hhigh
  have hlt : (n + epochDay - daysBeforeYear y).toNat < (monthLengths (isLeapYear y)).sum := by omega
  obtain ⟨i, hi, j, hj, hoffset⟩ := exists_month hlt
  have hdate : ofDayNumber n = ⟨y, 1 + i, j + 1⟩ := by
    rw [ofDayNumber]
    simp only [hy, hoffset, monthAndDay_sum hi hj]
  have hlength : monthLength (isLeapYear y) (1 + i) = (monthLengths (isLeapYear y))[i] := by
    rw [Nat.add_comm, monthLength_succ hi]
  have hle : i < 12 := hi
  have hvalid : IsDay ⟨y, 1 + i, j + 1⟩ := by
    refine ⟨Nat.le_add_right 1 i, ?_, Nat.le_add_left 1 j, ?_⟩
    · dsimp only
      omega
    · dsimp only
      rw [hlength]
      exact hj
  rw [hdate]
  refine ⟨hvalid, ?_, rfl⟩
  rw [dayNumber, Nat.add_comm 1 i, daysBeforeMonth_eq]
  dsimp only
  omega

/-- The numbers of the days count the calendar's days. -/
theorem dayNumber_next (h : d.IsDay) : d.next.IsDay ∧ d.next.dayNumber = d.dayNumber + 1 := by
  obtain ⟨hm, hm', hday, hlength⟩ := h
  have hfirst : ∀ y m, 1 ≤ m → m ≤ 12 → 1 ≤ monthLength (isLeapYear y) m := by
    intro y m h h'
    cases isLeapYear y <;> interval_cases m <;> decide
  unfold next
  split
  · refine ⟨⟨hm, hm', by simp, ?_⟩, ?_⟩
    · simp only; omega
    · simp only [dayNumber]; omega
  · have hlast : d.day = monthLength (isLeapYear d.year) d.month := by omega
    split
    · have hnext := hfirst d.year (d.month + 1) (by omega) (by omega)
      refine ⟨⟨by simp, by simp only; omega, le_refl 1, hnext⟩, ?_⟩
      simp only [dayNumber, daysBeforeMonth_succ hm hm', ← hlast]
      omega
    · refine ⟨⟨le_refl 1, by simp, le_refl 1, hfirst _ _ (by simp) (by simp)⟩, ?_⟩
      have hmonth : d.month = 12 := by omega
      have hend : daysBeforeMonth (isLeapYear d.year) (d.month + 1) =
          daysBeforeMonth (isLeapYear d.year) d.month + monthLength (isLeapYear d.year) d.month :=
        daysBeforeMonth_succ hm hm'
      rw [← hlast, hmonth, daysBeforeMonth_end] at hend
      have hstart : daysBeforeMonth (isLeapYear (d.year + 1)) 1 = 0 := rfl
      simp only [dayNumber, daysBeforeYear_succ, hmonth, hstart]
      omega

end KeyedImages.Date
