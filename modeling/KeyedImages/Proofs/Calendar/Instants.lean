import KeyedImages.Proofs.Calendar.Days

/-! Timestamps and date-times: each of those that have the other has just one. -/
namespace KeyedImages

namespace Date

variable {n : Int}

theorem le_yearOf_iff (first day : Int) :
    first ≤ yearOf day ↔ daysBeforeYear first ≤ day := by
  obtain ⟨hlow, hhigh⟩ := yearOf_spec day
  constructor
  · intro h
    exact (daysBeforeYear_mono h).trans hlow
  · intro h
    by_contra hlt
    have := daysBeforeYear_mono (a := yearOf day + 1) (b := first) (by omega)
    omega

theorem isValid_ofDayNumber :
    (ofDayNumber n).isValid = true ↔ -96465292 ≤ n ∧ n < 95026237 := by
  obtain ⟨hday, -, hyear⟩ := ofDayNumber_spec n
  have hfirst : daysBeforeYear firstYear = -96465292 + epochDay := by decide
  have hlast : daysBeforeYear (lastYear + 1) = 95026237 + epochDay := by decide
  have hlow := le_yearOf_iff firstYear (n + epochDay)
  have hhigh := le_yearOf_iff (lastYear + 1) (n + epochDay)
  rw [isValid_iff, hyear]
  constructor
  · rintro ⟨h, h', -⟩
    omega
  · rintro ⟨h, h'⟩
    exact ⟨by omega, by omega, hday⟩

end Date

namespace DateTime

variable {d : DateTime}

/-- A time of day, where a second may have a billion nanoseconds more at the end of a minute. -/
def IsTime (d : DateTime) : Prop :=
  d.hour < 24 ∧ d.minute < 60 ∧ d.second < 60 ∧
    (d.nano < 1000000000 ∨ d.second = 59 ∧ d.nano < 2000000000)

theorem isValid_iff : d.isValid = true ↔ d.date.isValid = true ∧ d.IsTime := by
  simp only [isValid, IsTime, Bool.and_eq_true, Bool.or_eq_true, decide_eq_true_eq, beq_iff_eq,
    and_assoc]

/-- The seconds of a date-time lie within 64 bits. -/
theorem toInt_seconds_timestamp (h : d.isValid = true) :
    d.timestamp.seconds.toInt = d.epochSeconds := by
  obtain ⟨hdate, hhour, hminute, hsecond, -⟩ := isValid_iff.1 h
  have hback := Date.ofDayNumber_dayNumber (Date.isValid_iff.1 hdate).2.2
  rw [← hback, Date.isValid_ofDayNumber] at hdate
  apply Int64.toInt_ofInt_of_le <;> unfold epochSeconds <;> omega

theorem toNat_nanos_timestamp (h : d.isValid = true) : d.timestamp.nanos.toNat = d.nano := by
  obtain ⟨-, -, -, -, hnano⟩ := isValid_iff.1 h
  apply UInt32.toNat_ofNat_of_lt'
  unfold UInt32.size
  omega

end DateTime

namespace Timestamp

variable {t : Timestamp} {d : DateTime}

/-- The fields of a timestamp's date-time, whether the calendar goes as far or not. -/
def fields (t : Timestamp) : DateTime :=
  let ofDay := (t.seconds.toInt % 86400).toNat
  ⟨Date.ofDayNumber (t.seconds.toInt / 86400), ofDay / 3600, ofDay / 60 % 60, ofDay % 60,
    t.nanos.toNat⟩

theorem dateTime?_eq_some_iff : t.dateTime? = some d ↔ t.fields.isValid = true ∧ t.fields = d := by
  change (if t.fields.isValid = true then some t.fields else none) = some d ↔ _
  split
  · next h => simp [h]
  · next h => simp [h]

theorem isTime_fields : t.fields.IsTime ↔ t.nanos.toNat < 1000000000 ∨
    t.nanos.toNat < 2000000000 ∧ t.seconds.toInt % 60 = 59 := by
  unfold DateTime.IsTime fields
  dsimp only
  omega

theorem isValid_fields : t.fields.isValid = true ↔
    (-8334601228800 ≤ t.seconds.toInt ∧ t.seconds.toInt ≤ 8210266876799) ∧
      (t.nanos.toNat < 1000000000 ∨
        t.nanos.toNat < 2000000000 ∧ t.seconds.toInt % 60 = 59) := by
  rw [DateTime.isValid_iff, isTime_fields]
  apply and_congr_left'
  rw [fields, Date.isValid_ofDayNumber]
  omega

/-- The fields of a timestamp stand for it. -/
theorem epochSeconds_fields (t : Timestamp) : t.fields.epochSeconds = t.seconds.toInt := by
  have h := (Date.ofDayNumber_spec (t.seconds.toInt / 86400)).2.1
  unfold DateTime.epochSeconds fields
  dsimp only
  rw [h]
  omega

theorem timestamp_fields (t : Timestamp) : t.fields.timestamp = t := by
  rw [DateTime.timestamp, epochSeconds_fields]
  have hnanos : UInt32.ofNat t.fields.nano = t.nanos := UInt32.ofNat_toNat
  rw [hnanos, Int64.ofInt_toInt]

/-- A date-time is made of the fields of its timestamp. -/
theorem fields_timestamp (h : d.isValid = true) : d.timestamp.fields = d := by
  obtain ⟨hdate, hhour, hminute, hsecond, -⟩ := DateTime.isValid_iff.1 h
  have hback := Date.ofDayNumber_dayNumber (Date.isValid_iff.1 hdate).2.2
  have hday : d.epochSeconds / 86400 = d.date.dayNumber := by
    unfold DateTime.epochSeconds
    omega
  have hofDay : (d.epochSeconds % 86400).toNat = d.hour * 3600 + d.minute * 60 + d.second := by
    unfold DateTime.epochSeconds
    omega
  have hh : (d.hour * 3600 + d.minute * 60 + d.second) / 3600 = d.hour := by omega
  have hm : (d.hour * 3600 + d.minute * 60 + d.second) / 60 % 60 = d.minute := by omega
  have hs : (d.hour * 3600 + d.minute * 60 + d.second) % 60 = d.second := by omega
  unfold fields
  rw [DateTime.toInt_seconds_timestamp h, DateTime.toNat_nanos_timestamp h, hday, hofDay, hback]
  dsimp only
  rw [hh, hm, hs]

/-- Timestamps and the date-times of the calendar are in bijection. A timestamp has a date-time just
if its seconds lie within the calendar's years and its nanoseconds within a second, or within two at
the end of a minute; the date-time is then a valid one and leads back to the timestamp. Every valid
date-time is that of its timestamp. The seconds count the days of the calendar from the epoch. -/
theorem dateTime_bijection :
    (∀ t : Timestamp, t.dateTime?.isSome = true ↔
      (-8334601228800 ≤ t.seconds.toInt ∧ t.seconds.toInt ≤ 8210266876799) ∧
        (t.nanos.toNat < 1000000000 ∨
          t.nanos.toNat < 2000000000 ∧ t.seconds.toInt % 60 = 59)) ∧
    (∀ (t : Timestamp) (d : DateTime), t.dateTime? = some d →
      d.isValid = true ∧ d.timestamp = t) ∧
    (∀ d : DateTime, d.isValid = true → d.timestamp.dateTime? = some d) ∧
    (∀ d : DateTime, d.isValid = true → d.timestamp.seconds.toInt =
      d.date.dayNumber * 86400 + (d.hour * 3600 + d.minute * 60 + d.second : Nat)) ∧
    (Date.mk 1970 1 1).dayNumber = 0 ∧
    ∀ d : Date, d.IsDay → d.next.IsDay ∧ d.next.dayNumber = d.dayNumber + 1 := by
  refine ⟨?_, ?_, ?_, ?_, by decide, fun d => Date.dayNumber_next⟩
  · intro t
    rw [← isValid_fields, Option.isSome_iff_exists]
    constructor
    · rintro ⟨d, hd⟩
      exact (dateTime?_eq_some_iff.1 hd).1
    · intro h
      exact ⟨t.fields, dateTime?_eq_some_iff.2 ⟨h, rfl⟩⟩
  · intro t d hd
    obtain ⟨hvalid, rfl⟩ := dateTime?_eq_some_iff.1 hd
    exact ⟨hvalid, timestamp_fields t⟩
  · intro d hd
    have hfields := fields_timestamp hd
    exact dateTime?_eq_some_iff.2 ⟨hfields.symm ▸ hd, hfields⟩
  · intro d hd
    exact DateTime.toInt_seconds_timestamp hd

/-- The leap second at the end of a day before the first year. -/
theorem dateTime_bijection_leap_second :
    let d : DateTime := ⟨⟨-1, 2, 28⟩, 23, 59, 59, 1999999999⟩
    d.isValid = true ∧ d.timestamp.dateTime? = some d ∧
      d.date.next = ⟨-1, 3, 1⟩ ∧ d.date.next.dayNumber = d.date.dayNumber + 1 := by
  intro d
  have hvalid : d.isValid = true := by decide
  obtain ⟨-, -, hback, -, -, hnext⟩ := dateTime_bijection
  exact ⟨hvalid, hback d hvalid, by decide, (hnext d.date (by unfold Date.IsDay; decide)).2⟩

end Timestamp

end KeyedImages
