import KeyedImages.Timestamp

/-! Dates and times of day of the proleptic Gregorian calendar, and their timestamps. -/
namespace KeyedImages

/-- A calendar date; years before 1 are numbered 0, -1 and so on. -/
structure Date where
  year : Int
  month : Nat
  day : Nat
  deriving DecidableEq, Repr

namespace Date

def isLeapYear (year : Int) : Bool :=
  year % 4 == 0 && (year % 100 != 0 || year % 400 == 0)

/-- The lengths of the twelve months. -/
def monthLengths (leap : Bool) : List Nat :=
  [31, if leap then 29 else 28, 31, 30, 31, 30, 31, 31, 30, 31, 30, 31]

/-- The length of a month numbered from 1, zero for a number that names no month. -/
def monthLength (leap : Bool) : Nat → Nat
  | 0 => 0
  | m + 1 => (monthLengths leap).getD m 0

/-- The days of a year before a month numbered from 1. -/
def daysBeforeMonth (leap : Bool) (month : Nat) : Nat :=
  ((monthLengths leap).take (month - 1)).foldl (· + ·) 0

/-- The days from the first day of year 0 to the first day of a year. -/
def daysBeforeYear (year : Int) : Int :=
  365 * year + (year + 3) / 4 - (year + 99) / 100 + (year + 399) / 400

/-- The days from the first day of year 0 to the epoch. -/
def epochDay : Int := 719528

/-- The years that have dates. -/
def firstYear : Int := -262143
def lastYear : Int := 262142

def isValid (d : Date) : Bool :=
  firstYear ≤ d.year && d.year ≤ lastYear &&
    1 ≤ d.day && d.day ≤ monthLength (isLeapYear d.year) d.month

/-- The number of days since the epoch. -/
def dayNumber (d : Date) : Int :=
  daysBeforeYear d.year + daysBeforeMonth (isLeapYear d.year) d.month + d.day - 1 - epochDay

/-- The year of a day counted from the first day of year 0. Four hundred years have 146097 days, so
the estimate is at most one year off. -/
def yearOf (day : Int) : Int :=
  let estimate := 400 * day / 146097
  if daysBeforeYear (estimate + 1) ≤ day then estimate + 1
  else if day < daysBeforeYear estimate then estimate - 1
  else estimate

/-- The month and the day of the month of a day counted from the start of the given months. -/
def monthAndDay : (lengths : List Nat) → (month day : Nat) → Nat × Nat
  | [], month, day => (month, day + 1)
  | n :: lengths, month, day =>
    if day < n then (month, day + 1) else monthAndDay lengths (month + 1) (day - n)

/-- The date of a number of days since the epoch. -/
def ofDayNumber (n : Int) : Date :=
  let day := n + epochDay
  let year := yearOf day
  let (month, day) :=
    monthAndDay (monthLengths (isLeapYear year)) 1 (day - daysBeforeYear year).toNat
  ⟨year, month, day⟩

end Date

/-- A date and a time of day. A leap second is the second 59 with a billion nanoseconds or more. -/
structure DateTime where
  date : Date
  hour : Nat
  minute : Nat
  second : Nat
  nano : Nat
  deriving DecidableEq, Repr

namespace DateTime

def isValid (t : DateTime) : Bool :=
  t.date.isValid && t.hour < 24 && t.minute < 60 && t.second < 60 &&
    (t.nano < 1000000000 || (t.second == 59 && t.nano < 2000000000))

/-- The seconds since the epoch; a leap second counts as the second before it. -/
def epochSeconds (t : DateTime) : Int :=
  t.date.dayNumber * 86400 + (t.hour * 3600 + t.minute * 60 + t.second : Nat)

/-- The timestamp of a date and time. -/
def timestamp (t : DateTime) : Timestamp :=
  ⟨Int64.ofInt t.epochSeconds, UInt32.ofNat t.nano⟩

/-- The year of a written date: four digits, and a sign where four digits are not enough. -/
def yearText (year : Int) : List Char :=
  if 0 ≤ year ∧ year ≤ 9999 then Text.Numeral.padded 4 year.toNat
  else (if year < 0 then '-' else '+') :: Text.Numeral.padded 4 year.natAbs

/-- Date and time with nine digits of a second, in universal time. A leap second is shown as
second 60. -/
def text (t : DateTime) : String :=
  let leap := 1000000000 ≤ t.nano
  let two := Text.Numeral.padded 2
  String.ofList <|
    yearText t.date.year ++ '-' :: two t.date.month ++ '-' :: two t.date.day ++
    'T' :: two t.hour ++ ':' :: two t.minute ++
    ':' :: two (if leap then t.second + 1 else t.second) ++
    '.' :: Text.Numeral.padded 9 (if leap then t.nano - 1000000000 else t.nano) ++ ['Z']

end DateTime

namespace Timestamp

/-- The date and time of a timestamp. There is none outside the years that have dates, and none when
the nanoseconds fill a second that is not the last of its minute. -/
def dateTime? (t : Timestamp) : Option DateTime :=
  let seconds := t.seconds.toInt
  let ofDay := (seconds % 86400).toNat
  let result : DateTime :=
    ⟨Date.ofDayNumber (seconds / 86400), ofDay / 3600, ofDay / 60 % 60, ofDay % 60, t.nanos.toNat⟩
  if result.isValid then some result else none

end Timestamp

end KeyedImages
