import KeyedImages.Json.Fragment
import KeyedImages.Settings.Failure
import KeyedImages.Surroundings
import KeyedImages.Toml.Document

/-! Settings in files: how a file is found, and the members that it holds. -/
namespace KeyedImages.Settings

/-- The formats in which settings can be written, each told by an extension. No others are read
here: a file of YAML, INI, RON or JSON5 counts as one of no known format, and is not looked for when
a name comes without its extension. -/
inductive Format
  | toml
  | json
  deriving DecidableEq, Repr

namespace Format

def extension : Format → String
  | toml => "toml"
  | json => "json"

def all : List Format := [toml, json]

/-- The format of a file with the given extension. -/
def ofExtension? (e : String) : Option Format := all.find? (·.extension == e)

end Format

/-- A file that was found. -/
structure File where
  format : Format
  /-- Its path from the working directory. -/
  origin : String
  text : String

namespace File

/-- The path of a name with an extension added, if it can be added. -/
def extended? (directory name : String) (f : Format) : Option String :=
  (FilePath.stem? directory name).map (· ++ "." ++ f.extension)

/-- The paths at which the file of a name is looked for. -/
def paths (directory name : String) : List String :=
  name :: Format.all.filterMap (extended? directory name)

/-- Finds the file that a name means: the file of just this name if there is one, or else the first
of the name with an extension added. The order of the formats stands for whichever order they are
tried in. -/
def find (s : Surroundings) (name : String) : Except Failure File :=
  match s.file? name with
  | some text =>
    match Format.ofExtension? (FilePath.extension name) with
    | some format => .ok ⟨format, FilePath.tidy name, text⟩
    | none => .error (.unknownFormat (FilePath.join s.directory name))
  | none =>
    let file? (f : Format) : Option File := do
      let path ← extended? s.directory name f
      pure ⟨f, FilePath.tidy path, ← s.file? path⟩
    match Format.all.findSome? file? with
    | some file => .ok file
    | none => .error (.fileNotFound name)

end File

mutual

/-- The tree of a TOML value. -/
def ofToml (origin : Option String) : Toml.Value → Tree
  | .boolean b => .scalar origin (.boolean b)
  | .integer i => .scalar origin (.integer i)
  | .float f => .scalar origin (.float f)
  | .string s => .scalar origin (.string s)
  | .moment m => .scalar origin (.string m.text)
  | .array items => .array origin (ofTomlItems origin items)
  | .table members => .table origin (ofTomlMembers origin members)

def ofTomlItems (origin : Option String) : List Toml.Value → List Tree
  | [] => []
  | v :: vs => ofToml origin v :: ofTomlItems origin vs

def ofTomlMembers (origin : Option String) : List (String × Toml.Value) → List (String × Tree)
  | [] => []
  | (name, v) :: ms => (name, ofToml origin v) :: ofTomlMembers origin ms

end

/-- The scalar of a JSON number. Whole numbers are kept as such where 64 bits with a sign hold them.
-/
def ofQuantity : Json.Quantity → Scalar
  | .integer i =>
    if Text.Numeral.isInt64 i then .integer i else .float (UInt64.ofNat i.toNat).toFloat
  | .float f => .float f

mutual

/-- The tree of a JSON value that is known to be whole. Of members with equal names the last counts.
-/
def ofJson (origin : Option String) : Json.Fragment → Tree
  | .missing | .null => .scalar origin .nil
  | .bool b => .scalar origin (.boolean b)
  | .number n => .scalar origin (n.quantity?.elim .nil ofQuantity)
  | .string s => .scalar origin (.string (s.getD ""))
  | .array items _ => .array origin (ofJsonItems origin items)
  | .object members _ => .table origin (ofJsonMembers origin [] members)

def ofJsonItems (origin : Option String) : List Json.Fragment → List Tree
  | [] => []
  | f :: fs => ofJson origin f :: ofJsonItems origin fs

def ofJsonMembers (origin : Option String) (before : List (String × Tree)) :
    List (Option String × Json.Fragment) → List (String × Tree)
  | [] => before
  | (name, f) :: ms => ofJsonMembers origin (Members.put (name.getD "") (ofJson origin f) before) ms

end

/-- The members of a JSON text, if it is an object. -/
def readJson? (origin : Option String) (cs : List Char) : Option (List (String × Tree)) :=
  let (f, more) := Json.Fragment.read cs
  match f with
  | .object members _ =>
    if f.canKeep 0 && !more then some (ofJsonMembers origin [] members) else none
  | _ => none

/-- The members of a file. A mark in front of the text is left out. -/
def File.read (file : File) : Except Failure (List (String × Tree)) :=
  let cs := match file.text.toList with
    | '\ufeff' :: cs => cs
    | cs => cs
  let members := match file.format with
    | .toml => (Toml.read? cs).map (ofTomlMembers file.origin)
    | .json => readJson? file.origin cs
  match members with
  | some members => .ok members
  | none => .error .malformedFile

end KeyedImages.Settings
