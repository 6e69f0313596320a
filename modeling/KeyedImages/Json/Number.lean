import KeyedImages.Text.Numeral

/-! Numbers of JSON texts: as they are written, and as the quantities that they stand for. -/
namespace KeyedImages.Json

/-- A number as it is written, in its parts. A part that is not written is empty. -/
structure Number where
  negative : Bool
  whole : List Char
  fraction : List Char
  /-- The exponent's sign, true for minus, and its digits. -/
  exponent : Option (Bool × List Char)
  deriving DecidableEq, Repr

/-- A whole number of 64 bits, with or without sign, or a floating-point number. -/
inductive Quantity
  | integer (i : Int)
  | float (f : Float)

namespace Number

/-- The written form of a whole number. -/
def ofInt : Int → Number
  | .ofNat n => ⟨false, Text.Numeral.digits n, [], none⟩
  | .negSucc n => ⟨true, Text.Numeral.digits (n + 1), [], none⟩

def chars (n : Number) : List Char :=
  (if n.negative then ['-'] else []) ++ n.whole ++
    (if n.fraction.isEmpty then [] else '.' :: n.fraction) ++
    match n.exponent with
    | none => []
    | some (minus, ds) => 'e' :: (if minus then '-' else '+') :: ds

/-- Takes digits into a significand of 64 bits as long as they fit. The rest is left over. -/
def absorb (significand : Nat) : List Char → Nat × List Char
  | [] => (significand, [])
  | c :: ds =>
    let next := 10 * significand + Text.Numeral.digitValue c
    if next < UInt64.size then absorb next ds else (significand, c :: ds)

def powerOfTen (n : Nat) : Float := Float.ofScientific 1 false n

/-- A significand times a power of ten, with one rounding for each. There is none beyond the largest
floating-point number. -/
def scale (significand : Nat) (exponent : Int) : Option Float :=
  let f := (UInt64.ofNat significand).toFloat
  if 308 < exponent then (if significand = 0 then some 0 else none)
  else if 0 ≤ exponent then
    let product := f * powerOfTen exponent.toNat
    if product.isInf then none else some product
  else if -308 ≤ exponent then some (f / powerOfTen (-exponent).toNat)
  else if -616 ≤ exponent then some (f / powerOfTen 308 / powerOfTen (-exponent - 308).toNat)
  else some 0

/-- The value of a number that has a fraction, an exponent, or too many digits for 64 bits. -/
def float? (n : Number) : Option Float :=
  let (significand, beyond) := absorb 0 n.whole
  let (significand', left) := absorb significand n.fraction
  let places : Int := beyond.length - (n.fraction.length - left.length : Nat)
  let magnitude := match n.exponent with
    | none => scale significand' places
    | some (minus, ds) =>
      let e := Text.Numeral.value ds
      if e ≤ Int32.maxValue.toInt then scale significand' (if minus then places - e else places + e)
      else if significand' = 0 || minus then some 0
      else none
  magnitude.map fun f => if n.negative then -f else f

/-- What a number stands for. A negative zero, and a whole number that 64 bits do not hold, is a
floating-point number. -/
def quantity? (n : Number) : Option Quantity :=
  let value := Text.Numeral.value n.whole
  if n.fraction.isEmpty && n.exponent.isNone then
    if n.negative then
      if 0 < value && Text.Numeral.isInt64 (-value) then some (.integer (-value))
      else n.float?.map .float
    else if value < UInt64.size then some (.integer value)
    else n.float?.map .float
  else n.float?.map .float

/-- Splits a text behind its leading digits. -/
def spanDigits (cs : List Char) : List Char × List Char :=
  (cs.takeWhile Char.isDigit, cs.dropWhile Char.isDigit)

def scanSign : List Char → Bool × List Char
  | '-' :: cs => (true, cs)
  | cs => (false, cs)

/-- Digits behind a point, none where there is no point. -/
def scanFraction : List Char → Option (List Char × List Char)
  | '.' :: cs => if (spanDigits cs).1.isEmpty then none else some (spanDigits cs)
  | cs => some ([], cs)

/-- The sign and the digits behind the mark of an exponent. -/
def scanPower : List Char → Option (Option (Bool × List Char) × List Char)
  | '+' :: cs => digits false cs
  | '-' :: cs => digits true cs
  | cs => digits false cs
where
  digits (minus : Bool) (cs : List Char) : Option (Option (Bool × List Char) × List Char) :=
    if (spanDigits cs).1.isEmpty then none
    else some (some (minus, (spanDigits cs).1), (spanDigits cs).2)

def scanExponent : List Char → Option (Option (Bool × List Char) × List Char)
  | 'e' :: cs => scanPower cs
  | 'E' :: cs => scanPower cs
  | cs => some (none, cs)

/-- Whether digits may stand in front of the point: a zero stands alone there. -/
def isWhole : List Char → Bool
  | [] => false
  | ['0'] => true
  | d :: _ => d != '0'

/-- Reads a number at the start of a text. -/
def scan (cs : List Char) : Option (Number × List Char) :=
  let (negative, cs) := scanSign cs
  let (whole, rest) := spanDigits cs
  if isWhole whole then
    (scanFraction rest).bind fun (fraction, rest) =>
      (scanExponent rest).map fun (exponent, rest) => (⟨negative, whole, fraction, exponent⟩, rest)
  else none

theorem length_spanDigits_le (cs : List Char) : (spanDigits cs).2.length ≤ cs.length :=
  (List.dropWhile_sublist _).length_le

theorem length_scanSign_le (cs : List Char) : (scanSign cs).2.length ≤ cs.length := by
  unfold scanSign
  split <;> simp

theorem length_scanFraction_le {cs ds rest : List Char} (h : scanFraction cs = some (ds, rest)) :
    rest.length ≤ cs.length := by
  unfold scanFraction at h
  split at h
  · rename_i cs
    split at h
    · simp at h
    · have := length_spanDigits_le cs
      simp only [Option.some.injEq] at h
      simp only [h] at this
      simp; omega
  · simp_all

theorem length_scanPower_le {cs rest : List Char} {e : Option (Bool × List Char)}
    (h : scanPower cs = some (e, rest)) : rest.length ≤ cs.length := by
  have digits {minus : Bool} {cs : List Char} (h : scanPower.digits minus cs = some (e, rest)) :
      rest.length ≤ cs.length := by
    unfold scanPower.digits at h
    split at h
    · simp at h
    · have := length_spanDigits_le cs
      simp only [Option.some.injEq, Prod.mk.injEq] at h
      rw [h.2] at this
      exact this
  unfold scanPower at h
  split at h
  · have := digits h; simp; omega
  · have := digits h; simp; omega
  · exact digits h

theorem length_scanExponent_le {cs rest : List Char} {e : Option (Bool × List Char)}
    (h : scanExponent cs = some (e, rest)) : rest.length ≤ cs.length := by
  unfold scanExponent at h
  split at h
  · have := length_scanPower_le h; simp; omega
  · have := length_scanPower_le h; simp; omega
  · simp_all

/-- A scanned number takes at least one character. -/
theorem length_scan {cs rest : List Char} {n : Number} (h : scan cs = some (n, rest)) :
    rest.length < cs.length := by
  have sign := length_scanSign_le cs
  unfold scan at h
  generalize scanSign cs = s at *
  obtain ⟨negative, cs'⟩ := s
  dsimp only at h sign
  split at h
  case isFalse => simp at h
  case isTrue whole =>
    simp only [Option.bind_eq_some_iff, Option.map_eq_some_iff, Prod.exists, Prod.mk.injEq] at h
    obtain ⟨fraction, r₁, h₁, exponent, r₂, h₂, -, rfl⟩ := h
    have f := length_scanFraction_le h₁
    have e := length_scanExponent_le h₂
    have split : (spanDigits cs').1.length + (spanDigits cs').2.length = cs'.length := by
      rw [← List.length_append]
      exact congrArg List.length List.takeWhile_append_dropWhile
    have pos : 0 < (spanDigits cs').1.length := by
      cases hw : (spanDigits cs').1 with
      | nil => simp [hw, isWhole] at whole
      | cons => simp
    omega

end Number

end KeyedImages.Json
