import KeyedImages.Decimal.Shortest

/-! The whole number nearest to a binary floating-point number. -/
namespace KeyedImages.Decimal

/-- A magnitude rounded to the nearest whole number; a half goes up. -/
def Binary.rounded (b : Binary) : Nat :=
  let unit := 1 <<< (-b.exponent).toNat
  (2 * b.mantissa <<< b.exponent.toNat + unit) / (2 * unit)

/-- The nearest number of those below a bound. What is no number counts as zero. -/
def nearestBelow (bound : Nat) (f : Float) : Nat :=
  match magnitude f with
  | .zero | .notANumber => 0
  | .infinite => if isNegative f then 0 else bound - 1
  | .finite b => if isNegative f then 0 else min b.rounded (bound - 1)

end KeyedImages.Decimal
