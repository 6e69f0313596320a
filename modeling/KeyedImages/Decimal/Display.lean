import KeyedImages.Decimal.Shortest

/-! Texts of floating-point numbers: all places written out, or an exponent where that is long. -/
namespace KeyedImages.Decimal

/-- How a floating-point number is written. -/
structure Style where
  /-- Least and greatest exponent of the first digit at which all places are written out. -/
  positional : Option (Int × Int)
  /-- Whether a whole number shows its point and a zero. -/
  keepsPoint : Bool

/-- All places, however many, and a point only before places. -/
def Style.plain : Style := ⟨none, false⟩

/-- All places, and always a point. -/
def Style.pointed : Style := ⟨none, true⟩

/-- An exponent below a hundred-thousandth and from ten to the sixteenth on; always a point or an
exponent. -/
def Style.marked : Style := ⟨some (-5, 15), true⟩

/-- Digits with a point behind the given number of them; zeros fill up on either side. -/
def placed (style : Style) (digits : List Char) (point : Int) : List Char :=
  if point ≤ 0 then '0' :: '.' :: List.replicate (-point).toNat '0' ++ digits
  else if digits.length ≤ point then
    digits ++ List.replicate (point.toNat - digits.length) '0' ++
      if style.keepsPoint then ['.', '0'] else []
  else digits.take point.toNat ++ '.' :: digits.drop point.toNat

/-- One digit, a point before further digits, and the exponent with its sign and at least two
digits. -/
def withExponent (digits : List Char) (first : Int) : List Char :=
  digits.take 1 ++ (if digits.length ≤ 1 then [] else '.' :: digits.drop 1) ++
    'e' :: (if first < 0 then '-' else '+') :: Text.Numeral.padded 2 first.natAbs

def chars (style : Style) (f : Float) : List Char :=
  let sign := if isNegative f then ['-'] else []
  match magnitude f with
  | .notANumber => "NaN".toList
  | .infinite => sign ++ "inf".toList
  | .zero => sign ++ '0' :: if style.keepsPoint then ['.', '0'] else []
  | .finite b =>
    let d := b.shortest.normal
    let digits := Text.Numeral.digits d.digits
    let first := d.exponent + digits.length - 1
    let out := match style.positional with
      | none => true
      | some (least, greatest) => decide (least ≤ first ∧ first ≤ greatest)
    sign ++ if out then placed style digits (first + 1) else withExponent digits first

def text (style : Style) (f : Float) : String := String.ofList (chars style f)

end KeyedImages.Decimal
