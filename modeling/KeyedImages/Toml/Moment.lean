import KeyedImages.Calendar
import KeyedImages.Text.Reader

/-! Dates and times as values of a TOML document. -/
namespace KeyedImages.Toml

/-- A time of day. A fraction of a second has at most nine digits. -/
structure TimeOfDay where
  hour : Nat
  minute : Nat
  second : Nat
  nano : Nat
  deriving DecidableEq, Repr

/-- The distance of local time from universal time. -/
inductive Offset
  | universal
  | minutes (m : Int)
  deriving DecidableEq, Repr

/-- A date, a time of day, or both, perhaps with the distance from universal time. -/
structure Moment where
  date : Option Date
  time : Option TimeOfDay
  offset : Option Offset
  deriving DecidableEq, Repr

open Text (Reader)
open Text.Numeral (padded)

/-- Drops the zeros at the end of digits. -/
def withoutTrailingZeros (ds : List Char) : List Char :=
  (ds.reverse.dropWhile (· == '0')).reverse

def TimeOfDay.chars (t : TimeOfDay) : List Char :=
  padded 2 t.hour ++ ':' :: padded 2 t.minute ++ ':' :: padded 2 t.second ++
    if t.nano = 0 then [] else '.' :: withoutTrailingZeros (padded 9 t.nano)

def Offset.chars : Offset → List Char
  | universal => ['Z']
  | minutes m =>
    (if m < 0 then '-' else '+') :: padded 2 (m.natAbs / 60) ++ ':' :: padded 2 (m.natAbs % 60)

def dateChars (d : Date) : List Char :=
  padded 4 d.year.toNat ++ '-' :: padded 2 d.month ++ '-' :: padded 2 d.day

/-- The normal text of a moment: a `T` stands between date and time. -/
def Moment.text (m : Moment) : String :=
  let date := m.date.elim [] dateChars
  let mark := if m.date.isSome && m.time.isSome then ['T'] else []
  String.ofList (date ++ mark ++ m.time.elim [] TimeOfDay.chars ++ m.offset.elim [] Offset.chars)

namespace Moment

/-- Takes a number of a given count of digits that lies between two bounds. -/
def number (digits least greatest : Nat) : Reader Nat := do
  let n := Text.Numeral.value (← Reader.exactly digits Char.isDigit)
  guard (least ≤ n ∧ n ≤ greatest)
  pure n

def readDate : Reader Date := do
  let year ← number 4 0 9999
  Reader.char '-'
  let month ← number 2 1 12
  Reader.char '-'
  let day ← number 2 1 (Date.monthLength (Date.isLeapYear year) month)
  pure ⟨year, month, day⟩

/-- Takes a point and digits; the digits behind the ninth do not count. -/
def readFraction : Reader Nat := do
  Reader.char '.'
  let ds := (← Reader.span1 Char.isDigit).take 9
  pure (Text.Numeral.value ds * Nat.pow 10 (9 - ds.length))

def readTime : Reader TimeOfDay := do
  let hour ← number 2 0 23
  Reader.char ':'
  let minute ← number 2 0 59
  Reader.char ':'
  let second ← number 2 0 60
  pure ⟨hour, minute, second, (← optional readFraction).getD 0⟩

def readOffset : Reader Offset := do
  match ← Reader.one (fun c => c == 'Z' || c == 'z' || c == '+' || c == '-') with
  | 'Z' | 'z' => pure .universal
  | sign =>
    let hours ← number 2 0 23
    Reader.char ':'
    let minutes ← number 2 0 59
    let m : Int := hours * 60 + minutes
    pure (.minutes (if sign = '-' then -m else m))

/-- What follows a date. -/
def readTimeBehindDate : Reader (TimeOfDay × Option Offset) := do
  discard (Reader.one fun c => c == 'T' || c == 't' || c == ' ')
  let time ← readTime
  pure (time, ← optional readOffset)

def readWithDate : Reader Moment := do
  let date ← readDate
  match ← optional readTimeBehindDate with
  | some (time, offset) => pure ⟨some date, some time, offset⟩
  | none => pure ⟨some date, none, none⟩

def read : Reader Moment :=
  readWithDate <|> (do pure ⟨none, some (← readTime), none⟩)

end Moment

end KeyedImages.Toml
