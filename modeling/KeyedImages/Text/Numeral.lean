/-! Decimal numerals: the digits of a natural number, and the number that digits stand for. -/
namespace KeyedImages.Text.Numeral

/-- The digit of a number below ten. -/
def digit (n : Nat) : Char := Char.ofNat ('0'.toNat + n)

/-- The value of a digit. -/
def digitValue (c : Char) : Nat := c.toNat - '0'.toNat

/-- The digits of a number, most significant first, without leading zeros. -/
def digits (n : Nat) : List Char :=
  if n < 10 then [digit n] else digits (n / 10) ++ [digit (n % 10)]

/-- The number that a list of digits stands for. -/
def value (ds : List Char) : Nat :=
  ds.foldl (fun n c => 10 * n + digitValue c) 0

/-- A minus sign, if any, and the digits. -/
def signed : Int → List Char
  | .ofNat n => digits n
  | .negSucc n => '-' :: digits (n + 1)

/-- The digits of a number, filled up with zeros to a least width. -/
def padded (width n : Nat) : List Char :=
  List.replicate (width - (digits n).length) '0' ++ digits n

def ofNat (n : Nat) : String := String.ofList (digits n)

def ofInt (i : Int) : String := String.ofList (signed i)

/-- Reads a numeral of digits alone; leading zeros are allowed. -/
def nat? : List Char → Option Nat
  | [] => none
  | ds => if ds.all Char.isDigit then some (value ds) else none

/-- Reads a natural number below a bound; one plus sign may stand in front. -/
def below? (bound : Nat) (cs : List Char) : Option Nat :=
  let n := match cs with
    | '+' :: ds => nat? ds
    | ds => nat? ds
  n.filter (· < bound)

/-- Whether 64 bits hold a number with its sign. -/
def isInt64 (i : Int) : Bool := Int64.minValue.toInt ≤ i && i ≤ Int64.maxValue.toInt

/-- Why a text is no whole number of a given width. -/
inductive Fault
  | empty
  | notDigits
  | tooLarge
  | tooSmall
  deriving DecidableEq, Repr

def Fault.message : Fault → String
  | .empty => "cannot parse integer from empty string"
  | .notDigits => "invalid digit found in string"
  | .tooLarge => "number too large to fit in target type"
  | .tooSmall => "number too small to fit in target type"

/-- Reads a whole number of 64 bits; one sign may stand in front. -/
def int64 (cs : List Char) : Except Fault Int :=
  match cs with
  | [] => .error .empty
  | '-' :: ds =>
    match nat? ds with
    | none => .error .notDigits
    | some n => if isInt64 (-n) then .ok (-n) else .error .tooSmall
  | cs =>
    let ds := match cs with
      | '+' :: ds => ds
      | ds => ds
    match nat? ds with
    | none => .error .notDigits
    | some n => if isInt64 n then .ok n else .error .tooLarge

end KeyedImages.Text.Numeral
