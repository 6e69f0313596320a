import KeyedImages.Decimal.Display
import KeyedImages.Settings.Tree
import KeyedImages.Text.Numeral
import KeyedImages.Text.Quoted

/-! Why settings cannot be loaded. -/
namespace KeyedImages.Settings

/-- What was found where a scalar of some kind was expected. -/
inductive Found
  | integer (i : Int)
  | natural (n : Nat)
  | string (s : String)
  | nothing
  | sequence
  | map
  deriving DecidableEq, Repr

def Found.text : Found → String
  | integer i => "64-bit integer `" ++ Text.Numeral.ofInt i ++ "`"
  | natural n => "64-bit unsigned integer `" ++ Text.Numeral.ofNat n ++ "`"
  | string s => "string " ++ Text.quote s
  | nothing => "unit value"
  | sequence => "sequence"
  | map => "map"

/-- Where a group of settings was expected, a scalar is named by its value. -/
def Scalar.text : Scalar → String
  | .nil => "unit value"
  | .boolean b => "boolean `" ++ (if b then "true" else "false") ++ "`"
  | .integer i => "integer `" ++ Text.Numeral.ofInt i ++ "`"
  | .float f => "floating point `" ++ Decimal.text .pointed f ++ "`"
  | .string s => "string " ++ Text.quote s

/-- Why settings cannot be loaded. -/
inductive Failure
  /-- The file is there, but its name does not say how it is written. -/
  | unknownFormat (path : String)
  | fileNotFound (name : String)
  | malformedFile
  | invalidType (found : Found) (expected key : String) (origin : Option String)
  /-- A scalar where a group of settings was expected. -/
  | notGroup (found : Scalar) (expected : String)
  | tooShort (length : Nat) (expected : String)
  | missingField (name : String)
  | propertyNotFound (key : String)
  | other (message : String)

namespace Failure

/-- What is wrong. What is wrong inside a file that cannot be read is not told here. -/
def reason : Failure → String
  | unknownFormat path =>
    "configuration file \"" ++ path ++ "\" is not of a registered file format"
  | fileNotFound name => "configuration file \"" ++ name ++ "\" not found"
  | malformedFile => "malformed configuration file"
  | invalidType found expected key origin =>
    "invalid type: " ++ found.text ++ ", expected " ++ expected ++ " for key `" ++ key ++ "`" ++
      origin.elim "" (" in " ++ ·)
  | notGroup found expected => "invalid type: " ++ found.text ++ ", expected " ++ expected
  | tooShort n expected => "invalid length " ++ Text.Numeral.ofNat n ++ ", expected " ++ expected
  | missingField name => "missing field `" ++ name ++ "`"
  | propertyNotFound key => "configuration property " ++ Text.quote key ++ " not found"
  | other message => message

def message (e : Failure) : String := "Failed to load or parse configuration: " ++ e.reason

end Failure

end KeyedImages.Settings
