import KeyedImages.Decimal.Nearest
import KeyedImages.Text.Hexadecimal
import KeyedImages.Text.Reader

/-! Numbers of TOML: whole numbers of 64 bits and floating-point numbers. -/
namespace KeyedImages.Toml

open Text (Reader)

namespace Number

/-- Takes digits, with single underscores between them. -/
def digits (p : Char → Bool) : Reader (List Char) := do
  let c ← Reader.one p
  let cs ← Reader.many (Reader.one p <|> (do Reader.char '_'; Reader.one p))
  pure (c :: cs)

/-- Takes a plus or a minus sign, if there is one; true for minus. -/
def sign : Reader Bool := do
  pure ((← optional (Reader.one fun c => c == '+' || c == '-')) == some '-')

/-- Takes a zero, or digits of which the first is no zero. -/
def whole : Reader (List Char) :=
  (do Reader.char '0'; pure ['0']) <|> digits Char.isDigit

/-- Takes a fraction. -/
def fraction : Reader (List Char) := do
  Reader.char '.'
  digits Char.isDigit

/-- Takes an exponent. -/
def exponent : Reader Int := do
  discard (Reader.one fun c => c == 'e' || c == 'E')
  let minus ← sign
  let n := Text.Numeral.value (← digits Char.isDigit)
  pure (if minus then -n else n)

/-- Takes digits with a fraction, an exponent or both. What is too large is refused, but only with a
plus sign or none. -/
def decimal : Reader Float := do
  let minus ← sign
  let ds ← whole
  let places ← optional fraction
  let power ← optional exponent
  guard (places.isSome || power.isSome)
  let places := places.getD []
  let f := Decimal.nearest (Text.Numeral.value (ds ++ places)) (power.getD 0 - places.length)
  guard (minus || !f.isInf)
  pure (if minus then -f else f)

/-- Takes the name of infinity or of what is no number. -/
def special : Reader Float := do
  let minus ← sign
  let f ← (do Reader.literal "inf"; pure (1 / 0)) <|> (do Reader.literal "nan"; pure (0 / 0))
  pure (if minus then -f else f)

def float : Reader Float := decimal <|> special

/-- Takes digits of another base behind the base's mark. -/
def based (mark : String) (base : Nat) : Reader Int := do
  Reader.literal mark
  let isDigit (c : Char) : Bool := (Text.hexValue? c).any (· < base)
  let ds ← digits isDigit
  pure (ds.foldl (fun n c => base * n + (Text.hexValue? c).getD 0) 0 : Nat)

def integer : Reader Int := do
  let i ← based "0x" 16 <|> based "0o" 8 <|> based "0b" 2 <|> (do
    let minus ← sign
    let n := Text.Numeral.value (← whole)
    pure (if minus then -n else n))
  guard (Text.Numeral.isInt64 i)
  pure i

end Number

end KeyedImages.Toml
