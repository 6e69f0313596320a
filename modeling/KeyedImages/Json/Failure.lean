import KeyedImages.Decimal.Display
import KeyedImages.Json.Fragment
import KeyedImages.Text.Quoted

/-! Why a text does not decode: it is malformed, or it holds something other than what is expected.
-/
namespace KeyedImages.Json

/-- What was found. -/
inductive Found
  | null
  | bool (b : Bool)
  | integer (i : Int)
  | float (f : Float)
  | string (s : String)
  | sequence
  | map
  /-- A variant without a body. -/
  | unitVariant

namespace Found

def text : Found → String
  | null => "null"
  | bool b => "boolean `" ++ (if b then "true" else "false") ++ "`"
  | integer i => "integer `" ++ Text.Numeral.ofInt i ++ "`"
  | float f => "floating point `" ++ Decimal.text .marked f ++ "`"
  | string s => "string " ++ Text.quote s
  | sequence => "sequence"
  | map => "map"
  | unitVariant => "unit variant"

def ofQuantity : Quantity → Found
  | .integer i => integer i
  | .float f => float f

end Found

/-- The first thing that is wrong with a text, in the order of the text. -/
inductive Failure
  /-- The text is no JSON, breaks off, or goes on behind its value. -/
  | malformed
  | invalidType (found : Found) (expected : String)
  | invalidValue (found : Found) (expected : String)
  | invalidLength (length : Nat) (expected : String)
  | unknownVariant (name : String) (known : List String)
  | missingField (name : String)
  | duplicateField (name : String)

/-- A choice of names: the name, two names, or more after `one of`. -/
def choice : List String → String
  | [a] => "`" ++ a ++ "`"
  | [a, b] => "`" ++ a ++ "` or `" ++ b ++ "`"
  | names => "one of " ++ ", ".intercalate (names.map fun n => "`" ++ n ++ "`")

/-- The message of a failure; a malformed text has none of its own. -/
def Failure.message? : Failure → Option String
  | malformed => none
  | invalidType found expected =>
    some ("invalid type: " ++ found.text ++ ", expected " ++ expected)
  | invalidValue found expected =>
    some ("invalid value: " ++ found.text ++ ", expected " ++ expected)
  | invalidLength n expected =>
    some ("invalid length " ++ Text.Numeral.ofNat n ++ ", expected " ++ expected)
  | unknownVariant name known =>
    some ("unknown variant `" ++ name ++ "`, expected " ++ choice known)
  | missingField name => some ("missing field `" ++ name ++ "`")
  | duplicateField name => some ("duplicate field `" ++ name ++ "`")

/-- A value, or the first failure. -/
abbrev Decoded (α : Type) := Except Failure α

/-- What a fragment is, where it is not what was expected. -/
def Fragment.found : Fragment → Decoded Found
  | .missing => throw .malformed
  | .null => pure .null
  | .bool b => pure (.bool b)
  | .number n =>
    match n.quantity? with
    | some q => pure (.ofQuantity q)
    | none => throw .malformed
  | .string (some s) => pure (.string s)
  | .string none => throw .malformed
  | .array .. => pure .sequence
  | .object .. => pure .map

/-- Fails with what the fragment is. -/
def Fragment.unexpected {α : Type} (f : Fragment) (expected : String) : Decoded α := do
  throw (.invalidType (← f.found) expected)

end KeyedImages.Json
