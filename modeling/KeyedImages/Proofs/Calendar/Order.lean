import KeyedImages.Proofs.Calendar.Instants

/-! The order of timestamps is the order of time: it compares date-times from the year down. -/
namespace KeyedImages

namespace Date

variable {d e : Date} {leap : Bool}

/-- The fields of a date, the most significant first. -/
def parts (d : Date) : List Int := [d.year, d.month, d.day]

theorem parts_lt_iff : d.parts < e.parts ↔ d.year < e.year ∨ d.year = e.year ∧
    (d.month < e.month ∨ d.month = e.month ∧ d.day < e.day) := by
  simp [parts, List.cons_lt_cons_iff]

theorem parts_inj : d.parts = e.parts ↔ d = e := by
  cases d
  cases e
  simp [parts]

theorem daysBeforeMonth_mono {m n : Nat} (hm : 1 ≤ m) (h : m ≤ n) (hn : n ≤ 13) :
    daysBeforeMonth leap m ≤ daysBeforeMonth leap n := by
  induction n, h using Nat.le_induction with
  | base => exact le_rfl
  | succ n h ih =>
    rw [daysBeforeMonth_succ (by omega) (by omega)]
    exact (ih (by omega)).trans (Nat.le_add_right _ _)

/-- A later date has a greater number. -/
theorem dayNumber_lt (hd : d.IsDay) (he : e.IsDay) (h : d.parts < e.parts) :
    d.dayNumber < e.dayNumber := by
  rcases parts_lt_iff.1 h with hyear | ⟨hyear, hmonth | ⟨hmonth, hday⟩⟩
  · obtain ⟨-, hhigh⟩ := hd.bounds
    obtain ⟨hlow, -⟩ := he.bounds
    have hyears := daysBeforeYear_mono (a := d.year + 1) (b := e.year) (by omega)
    omega
  · obtain ⟨hm, hm', -, hlength⟩ := hd
    obtain ⟨-, he', heday, -⟩ := he
    have hend : daysBeforeMonth (isLeapYear d.year) (d.month + 1) =
        daysBeforeMonth (isLeapYear d.year) d.month + monthLength (isLeapYear d.year) d.month :=
      daysBeforeMonth_succ hm hm'
    have hstart : daysBeforeMonth (isLeapYear d.year) (d.month + 1) ≤
        daysBeforeMonth (isLeapYear d.year) e.month :=
      daysBeforeMonth_mono (by omega) hmonth (by omega)
    simp only [dayNumber, ← hyear]
    omega
  · simp only [dayNumber, ← hyear, ← hmonth]
    omega

theorem dayNumber_inj (hd : d.IsDay) (he : e.IsDay) : d.dayNumber = e.dayNumber ↔ d = e := by
  constructor
  · intro h
    rw [← ofDayNumber_dayNumber hd, h, ofDayNumber_dayNumber he]
  · rintro rfl
    rfl

/-- Dates are ordered as their numbers are. -/
theorem dayNumber_lt_iff (hd : d.IsDay) (he : e.IsDay) :
    d.dayNumber < e.dayNumber ↔ d.parts < e.parts := by
  refine ⟨fun h => ?_, dayNumber_lt hd he⟩
  by_contra hlt
  have hne : d ≠ e := by
    rintro rfl
    exact lt_irrefl _ h
  have hgt : e.parts < d.parts := by
    rw [Ne, ← parts_inj] at hne
    simp only [parts, List.cons.injEq, and_true] at hne
    rw [parts_lt_iff] at hlt ⊢
    omega
  exact absurd (dayNumber_lt he hd hgt) (not_lt_of_gt h)

end Date

namespace DateTime

variable {d e : DateTime}

/-- The fields of a date-time, the most significant first. A leap second shows in the last. -/
def parts (d : DateTime) : List Int :=
  d.date.parts ++ [(d.hour : Int), (d.minute : Int), (d.second : Int), (d.nano : Int)]

theorem parts_lt_iff : d.parts < e.parts ↔ d.date.parts < e.date.parts ∨ d.date = e.date ∧
    (d.hour < e.hour ∨ d.hour = e.hour ∧ (d.minute < e.minute ∨ d.minute = e.minute ∧
      (d.second < e.second ∨ d.second = e.second ∧ d.nano < e.nano))) := by
  rw [← Date.parts_inj]
  simp [parts, Date.parts, List.cons_lt_cons_iff]
  omega

theorem parts_inj : d.parts = e.parts ↔ d = e := by
  obtain ⟨date, _, _, _, _⟩ := d
  obtain ⟨date', _, _, _, _⟩ := e
  simp [parts, ← Date.parts_inj, Date.parts, and_assoc]

/-- Valid date-times are ordered by their seconds, and within a second by their nanoseconds. -/
theorem parts_lt_iff_epochSeconds (hd : d.isValid = true) (he : e.isValid = true) :
    d.parts < e.parts ↔ d.epochSeconds < e.epochSeconds ∨
      d.epochSeconds = e.epochSeconds ∧ d.nano < e.nano := by
  obtain ⟨hdate, hhour, hminute, hsecond, -⟩ := isValid_iff.1 hd
  obtain ⟨hdate', hhour', hminute', hsecond', -⟩ := isValid_iff.1 he
  have hday := (Date.isValid_iff.1 hdate).2.2
  have hday' := (Date.isValid_iff.1 hdate').2.2
  rw [parts_lt_iff, ← Date.dayNumber_lt_iff hday hday', ← Date.dayNumber_inj hday hday']
  unfold epochSeconds
  omega

end DateTime

namespace Timestamp

variable {a b : Timestamp}

theorem compare_eq_lt_iff : a.compare b = .lt ↔ a.seconds.toInt < b.seconds.toInt ∨
    a.seconds.toInt = b.seconds.toInt ∧ a.nanos.toNat < b.nanos.toNat := by
  rw [compare, Ordering.then_eq_lt, Std.compare_eq_lt, Std.compare_eq_iff_eq, Std.compare_eq_lt,
    Int64.lt_iff_toInt_lt, UInt32.lt_iff_toNat_lt, Int64.toInt_inj]

/-- Timestamps compare as their date-times do: field by field from the year on, where a leap second
counts as more nanoseconds of its second. -/
theorem order_chronological :
    (∀ (a b : Timestamp) (d e : DateTime), a.dateTime? = some d → b.dateTime? = some e →
      (a.compare b = .lt ↔ d.parts < e.parts) ∧ (a = b ↔ d.parts = e.parts)) ∧
    ∀ d e : DateTime, d.isValid = true → e.isValid = true →
      (d.timestamp.compare e.timestamp = .lt ↔ d.parts < e.parts) ∧
        (d.timestamp = e.timestamp ↔ d.parts = e.parts) := by
  have hvalid : ∀ d e : DateTime, d.isValid = true → e.isValid = true →
      (d.timestamp.compare e.timestamp = .lt ↔ d.parts < e.parts) ∧
        (d.timestamp = e.timestamp ↔ d.parts = e.parts) := by
    intro d e hd he
    constructor
    · rw [compare_eq_lt_iff, DateTime.toInt_seconds_timestamp hd,
        DateTime.toInt_seconds_timestamp he, DateTime.toNat_nanos_timestamp hd,
        DateTime.toNat_nanos_timestamp he, DateTime.parts_lt_iff_epochSeconds hd he]
    · rw [DateTime.parts_inj]
      constructor
      · intro h
        rw [← fields_timestamp hd, h, fields_timestamp he]
      · rintro rfl
        rfl
  refine ⟨fun a b d e ha hb => ?_, hvalid⟩
  obtain ⟨hd, rfl⟩ := dateTime?_eq_some_iff.1 ha
  obtain ⟨he, rfl⟩ := dateTime?_eq_some_iff.1 hb
  have h := hvalid a.fields b.fields hd he
  rwa [timestamp_fields, timestamp_fields] at h

/-- The end of a leap second comes before the start of the next year. -/
theorem order_chronological_leap_second :
    let d : DateTime := ⟨⟨1969, 12, 31⟩, 23, 59, 59, 1999999999⟩
    let e : DateTime := ⟨⟨1970, 1, 1⟩, 0, 0, 0, 0⟩
    (mk (-1) 1999999999).dateTime? = some d ∧ (mk 0 0).dateTime? = some e ∧
      d.isValid = true ∧ e.isValid = true ∧
      (mk (-1) 1999999999).compare (mk 0 0) = .lt ∧ d.timestamp ≠ e.timestamp := by
  intro d e
  have ha : (mk (-1) 1999999999).dateTime? = some d := by decide +kernel
  have hb : (mk 0 0).dateTime? = some e := by decide +kernel
  have hd : d.isValid = true := by decide
  have he : e.isValid = true := by decide
  have hparts : d.parts < e.parts := by decide
  obtain ⟨hconvertible, hvalid⟩ := order_chronological
  refine ⟨ha, hb, hd, he, (hconvertible _ _ d e ha hb).1.2 hparts, ?_⟩
  rw [Ne, (hvalid d e hd he).2]
  decide

end Timestamp

end KeyedImages
