import KeyedImages.Log
import KeyedImages.Service.Method
import KeyedImages.Text.Hexadecimal

/-! The secret of a service: the one place where a presented token is compared with it. -/
namespace KeyedImages

/-- A shared secret. The empty secret counts as none, and yet the empty token matches it. -/
structure ServiceKey where
  secret : String
  deriving DecidableEq

namespace ServiceKey

def empty : ServiceKey := ⟨""⟩

def isProvisioned (key : ServiceKey) : Bool := key.secret != ""

/-- What is written when a token is accepted, and when it is refused. -/
def accepted : Log.Record := ⟨.debug, .key, "Service key accepted"⟩
def refused : Log.Record := ⟨.warn, .key, "Invalid service key presented"⟩

/-- Compares a token with the secret. -/
def check (key : ServiceKey) (token : String) : Except ServiceError Unit × List Log.Record :=
  if token = key.secret then (.ok (), [accepted]) else (.error .invalidKey, [refused])

/-- Drops the secret. -/
def clear (_ : ServiceKey) : ServiceKey × List Log.Record :=
  (empty, [⟨.info, .key, "Service key cleared"⟩])

/-- Sets the secret, and warns if it is empty. -/
def provision (_ : ServiceKey) (secret : String) : ServiceKey × List Log.Record :=
  let key : ServiceKey := ⟨secret⟩
  (key, [if key.isProvisioned then ⟨.info, .key, "Service key provisioned"⟩
    else ⟨.warn, .key, "Service key provisioned empty; the empty token will be accepted"⟩])

/-- Shows whether there is a secret and never the secret. -/
def fieldText (key : ServiceKey) : String :=
  "ServiceKey \x7b provisioned: " ++ (if key.isProvisioned then "true" else "false") ++ " \x7d"

/-- The same on lines of their own. -/
def fieldLines (key : ServiceKey) : String :=
  "ServiceKey \x7b\n    provisioned: " ++ (if key.isProvisioned then "true" else "false") ++
    ",\n\x7d"

end ServiceKey

/-- Sixteen random bytes. -/
abbrev Draw := Vector UInt8 16

namespace ServiceKey

/-- What generated keys start with. -/
def generatedStart : String := "ask_"

/-- The two digits of a byte. -/
def hexByte (b : UInt8) : List Char := [Text.hexDigit (b.toNat / 16), Text.hexDigit (b.toNat % 16)]

/-- A draw with the marks of a random identifier: four bits say version 4 and two say the variant.
-/
def marked (draw : Draw) : Draw :=
  (draw.set 6 (draw[6] &&& 0x0f ||| 0x40)).set 8 (draw[8] &&& 0x3f ||| 0x80)

/-- The key of a draw: its marked bytes in hexadecimal digits. -/
def generatedChars (draw : Draw) : List Char :=
  generatedStart.toList ++ (marked draw).toList.flatMap hexByte

/-- Makes a key of a draw. -/
def generate (draw : Draw) : ServiceKey × List Log.Record :=
  (⟨String.ofList (generatedChars draw)⟩, [⟨.info, .key, "Generated new service key"⟩])

def isLowerHex (c : Char) : Bool := c.isDigit || ('a' ≤ c && c ≤ 'f')

/-- What can be said of a key's form: its length in bytes, whether it starts as generated keys do,
whether the rest is 32 hexadecimal digits in lower case, and whether these carry the marks. -/
structure Form where
  length : Nat
  started : Bool
  lowerHex : Bool
  marks : Bool
  deriving DecidableEq, Repr

def form (key : ServiceKey) : Form :=
  let start := generatedStart.toList
  let chars := key.secret.toList
  let started := start.isPrefixOf chars
  let rest := chars.drop start.length
  let lowerHex := started && rest.length == 32 && rest.all isLowerHex
  let marks := lowerHex && rest[12]? == some '4' &&
    (rest[16]?).any (fun c => ['8', '9', 'a', 'b'].contains c)
  ⟨key.secret.utf8ByteSize, started, lowerHex, marks⟩

end ServiceKey

end KeyedImages
