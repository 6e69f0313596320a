import KeyedImages.Decimal.Layout
import KeyedImages.Text.Numeral

/-! The binary floating-point number nearest to a decimal. -/
namespace KeyedImages.Decimal

/-- A quotient rounded to the nearest whole number; in the middle, to the even one. -/
def roundedQuotient (num den : Nat) : Nat :=
  let q := num / den
  match Ord.compare (2 * (num % den)) den with
  | .lt => q
  | .gt => q + 1
  | .eq => if q % 2 = 0 then q else q + 1

/-- Both sides of a quotient, the one or the other multiplied by a power of two, so that the
quotient is divided by it. -/
def overPowerOfTwo (num den : Nat) (e : Int) : Nat × Nat :=
  (num <<< (-e).toNat, den <<< e.toNat)

/-- The exponent of the last place of 53 at a quotient, at least the smallest there is. -/
def lastPlace (num den : Nat) : Int :=
  let e : Int := (Nat.log2 num : Int) - Nat.log2 den - 52
  let (n, d) := overPowerOfTwo num den e
  max (if n / d < leadingBit then e - 1 else e) (-1074)

/-- The bits of the number nearest to a positive quotient. The bits of the number behind the largest
are those of infinity. -/
def bitsOfQuotient (num den : Nat) : Nat :=
  let e := lastPlace num den
  let (n, d) := overPowerOfTwo num den e
  let mantissa := roundedQuotient n d
  if mantissa < leadingBit then mantissa
  else min ((e + 1075).toNat * leadingBit + (mantissa - leadingBit)) (lastExponent * leadingBit)

/-- The number nearest to `digits * 10 ^ exponent`. Decimals from ten to the 310th on are infinite,
and those below ten to the minus 330th are zero. -/
def nearest (digits : Nat) (exponent : Int) : Float :=
  let first := exponent + (Text.Numeral.digits digits).length
  if digits = 0 ∨ first < -330 then 0
  else if 310 < first then Float.ofBits (UInt64.ofNat (lastExponent * leadingBit))
  else Float.ofBits (UInt64.ofNat
    (bitsOfQuotient (digits * Nat.pow 10 exponent.toNat) (Nat.pow 10 (-exponent).toNat)))

end KeyedImages.Decimal
