import KeyedImages.Decimal.Layout
import KeyedImages.Text.Numeral

/-! The shortest decimal that reads back as a given binary floating-point number. -/
namespace KeyedImages.Decimal

/-- A finite nonzero magnitude `mantissa * 2 ^ exponent`. It is `atPowerOfTwo` when the next smaller
number lies half as far away as the next larger one. -/
structure Binary where
  mantissa : Nat
  exponent : Int
  atPowerOfTwo : Bool

/-- What the bits of a floating-point number say, its sign apart. -/
inductive Magnitude
  | zero
  | finite (b : Binary)
  | infinite
  | notANumber

def isNegative (f : Float) : Bool := f.toBits >>> 63 == 1

def magnitude (f : Float) : Magnitude :=
  let bits := f.toBits.toNat
  let fraction : Nat := bits % leadingBit
  let biased : Nat := bits / leadingBit % (lastExponent + 1)
  if biased = lastExponent then (if fraction = 0 then .infinite else .notANumber)
  else if biased = 0 then
    if fraction = 0 then .zero else .finite ⟨fraction, -1074, false⟩
  else .finite ⟨fraction + leadingBit, (biased : Int) - 1075, fraction = 0 && 1 < biased⟩

/-- A decimal `digits * 10 ^ exponent`. -/
structure Scaled where
  digits : Nat
  exponent : Int
  deriving DecidableEq, Repr

/-- Compares `a * 2 ^ p` with `b * 10 ^ k`, exactly. -/
def compareScaled (a : Nat) (p : Int) (b : Nat) (k : Int) : Ordering :=
  Ord.compare ((a * Nat.pow 10 (-k).toNat) <<< p.toNat) ((b * Nat.pow 10 k.toNat) <<< (-p).toNat)

namespace Binary

/-- The largest power of ten that is not above the number. Logarithms estimate it to within one. -/
def tenExponent (b : Binary) : Int :=
  let estimate := (Nat.log2 b.mantissa + b.exponent) * 30103 / 100000
  let reaches (k : Int) : Bool := compareScaled b.mantissa b.exponent 1 k != .lt
  if reaches (estimate + 1) then estimate + 1
  else if reaches estimate then estimate
  else estimate - 1

/-- Whether a decimal is nearer to the number than to its neighbours. A decimal in the middle
between two numbers reads as the one with the even mantissa. -/
def readsFrom (b : Binary) (d : Scaled) : Bool :=
  let inside (o : Ordering) : Bool := o == .lt || (o == .eq && b.mantissa % 2 == 0)
  let below := if b.atPowerOfTwo then 4 * b.mantissa - 1 else 4 * b.mantissa - 2
  inside (compareScaled below (b.exponent - 2) d.digits d.exponent) &&
    inside (compareScaled (4 * b.mantissa + 2) (b.exponent - 2) d.digits d.exponent).swap

/-- The number divided by a power of ten, rounded down. -/
def quotient (b : Binary) (k : Int) : Nat :=
  (b.mantissa * Nat.pow 10 (-k).toNat) <<< b.exponent.toNat /
    Nat.pow 10 k.toNat <<< (-b.exponent).toNat

/-- Of two neighbouring multiples of `10 ^ k` around the number, the nearer; in the middle, the even
one. -/
def nearer (b : Binary) (lower : Nat) (k : Int) : Nat :=
  match compareScaled (2 * b.mantissa) b.exponent (2 * lower + 1) k with
  | .lt => lower
  | .gt => lower + 1
  | .eq => if lower % 2 = 0 then lower else lower + 1

/-- The best decimal on the grid of multiples of `10 ^ k`, if one reads back as the number. -/
def onGrid? (b : Binary) (k : Int) : Option Scaled :=
  let lower := b.quotient k
  let hit (n : Nat) : Bool := b.readsFrom ⟨n, k⟩
  match hit lower, hit (lower + 1) with
  | true, true => some ⟨b.nearer lower k, k⟩
  | true, false => some ⟨lower, k⟩
  | false, true => some ⟨lower + 1, k⟩
  | false, false => none

/-- Tries finer and finer grids; seventeen digits always suffice. -/
def shortest (b : Binary) : Scaled :=
  let top := b.tenExponent
  let grids := (List.range 17).map fun (n : Nat) => top - n
  (grids.findSome? b.onGrid?).getD ⟨b.quotient (top - 16), top - 16⟩

end Binary

/-- Moves trailing zeros of the digits into the exponent. -/
def Scaled.normal (d : Scaled) : Scaled :=
  if h : d.digits ≠ 0 ∧ d.digits % 10 = 0 then normal ⟨d.digits / 10, d.exponent + 1⟩ else d
termination_by d.digits
decreasing_by omega

end KeyedImages.Decimal
