import KeyedImages.Text.Numeral

/-! Points in time as seconds and nanoseconds since the epoch, kept as given. -/
namespace KeyedImages

/-- Seconds since the epoch and nanoseconds counted forward from them. The two parts are not
normalised: nanoseconds may reach a second and more. -/
structure Timestamp where
  seconds : Int64
  nanos : UInt32
  deriving DecidableEq, Repr, Inhabited

namespace Timestamp

/-- The epoch itself. -/
def zero : Timestamp := ⟨0, 0⟩

/-- The parts are compared in order, without carrying nanoseconds into seconds. -/
def compare (a b : Timestamp) : Ordering :=
  (Ord.compare a.seconds b.seconds).then (Ord.compare a.nanos b.nanos)

/-- Seconds, a point, and the nanoseconds with at least nine digits. -/
def chars (t : Timestamp) : List Char :=
  Text.Numeral.signed t.seconds.toInt ++ '.' :: Text.Numeral.padded 9 t.nanos.toNat

def text (t : Timestamp) : String := String.ofList t.chars

/-- The two parts by name. -/
def fieldText (t : Timestamp) : String :=
  "Timestamp \x7b seconds: " ++ Text.Numeral.ofInt t.seconds.toInt ++
    ", nanos: " ++ Text.Numeral.ofNat t.nanos.toNat ++ " \x7d"

end Timestamp

end KeyedImages
