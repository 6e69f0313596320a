import KeyedImages.Decimal.Whole
import KeyedImages.Settings.Basic
import KeyedImages.Settings.File
import KeyedImages.Settings.Path

/-! Settings of layers: defaults, a file, variables with a common beginning, and two variables of
their own. The later layer wins. -/
namespace KeyedImages.Settings

/-- What the name of a variable begins with, its last character apart. -/
def variableStart : String := "A_SYSTEM"

namespace Layers

def defaults : Tree :=
  let set (name : String) (v : Scalar) (t : Tree) : Tree :=
    t.set (Path.ofName name) (.scalar none v)
  Tree.empty |> set "service.client_name" (.string default.service.clientName)
    |> set "service.images" (.integer default.service.images.toNat)
    |> set "log.level" (.string default.log.level)

/-- Puts points for pairs of underscores, from the left. -/
def withPoints : List Char → List Char
  | '_' :: '_' :: cs => '.' :: withPoints cs
  | c :: cs => c :: withPoints cs
  | [] => []

/-- The entry of a variable, if its name begins as it must. Upper and lower case are the same, and
an empty variable counts as none. -/
def ofVariable? (name value : String) : Option (String × Tree) :=
  let start := (lower variableStart).toList ++ ['_']
  let cs := (lower name).toList
  if value ≠ "" && start.isPrefixOf cs then
    some (String.ofList (withPoints (cs.drop start.length)),
      .scalar (some "the environment") (.string value))
  else none

/-- The entries of all variables. Their order stands for whichever order they are met in. -/
def ofVariables (environment : Environment) : List (String × Tree) :=
  environment.filterMap fun (name, value) => ofVariable? name value

/-- The variables that stand for one setting each. -/
def direct : List (String × String) := [("SERVICE_KEY", "service.key"), ("LOG_LEVEL", "log.level")]

/-- The entry of a variable of its own, and a warning where it is empty. -/
def ofDirect (s : Surroundings) : String × String → List (String × Tree) × List Log.Record
  | (name, setting) =>
    match s.get? name with
    | none => ([], [])
    | some value =>
      if value = "" then ([], [⟨.warn, .settings, "Ignoring empty " ++ name⟩])
      else ([(setting, Tree.string value)], [])

/-- The members of the file of a name, none where no file is named. -/
def ofFile (s : Surroundings) : Option String → Except Failure (List (String × Tree))
  | none => .ok []
  | some name => File.find s name >>= File.read

/-- All layers in one tree. -/
def join (s : Surroundings) (file : Option String) : Except Failure Tree := do
  let members ← ofFile s file
  pure (((defaults.setAll members).setAll (ofVariables s.environment)).setAll
    (direct.flatMap fun d => (ofDirect s d).1))

end Layers

/-- A reader of the value under a key. -/
abbrev Reading (α : Type) := (key : String) → Tree → Except Failure α

namespace Reading

/-- Reads a text. Other scalars are written out. -/
def string : Reading String := fun key t =>
  let refuse (found : Found) (origin : Option String) : Except Failure String :=
    .error (.invalidType found "a string" key origin)
  match t with
  | .scalar _ (.string s) => .ok s
  | .scalar _ (.boolean b) => .ok (if b then "true" else "false")
  | .scalar _ (.integer i) => .ok (Text.Numeral.ofInt i)
  | .scalar _ (.float f) => .ok (Decimal.text .plain f)
  | .scalar origin .nil => refuse .nothing origin
  | .array origin _ => refuse .sequence origin
  | .table origin _ => refuse .map origin

/-- Reads a text that may be left out. -/
def string? : Reading (Option String) := fun key t =>
  match t with
  | .scalar _ .nil => .ok none
  | t => some <$> string key t

/-- The number that a text stands for: a word for yes or no, or a numeral of 64 bits. -/
def number? (s : String) : Option Nat :=
  let word := lower s
  if ["true", "on", "yes"].contains word then some 1
  else if ["false", "off", "no"].contains word then some 0
  else Text.Numeral.below? UInt64.size s.toList

/-- Reads a number of 32 bits. A fraction is rounded, its half away from zero, and kept between zero
and the greatest number of 64 bits. -/
def count : Reading UInt32 := fun key t =>
  let refuse (found : Found) (expected : String) (origin : Option String) : Except Failure UInt32 :=
    .error (.invalidType found expected key origin)
  let bounded (n : Nat) : Except Failure UInt32 :=
    if n < UInt32.size then .ok (UInt32.ofNat n)
    else refuse (.natural n) "an unsigned 32 bit integer" none
  match t with
  | .scalar _ (.boolean b) => bounded (if b then 1 else 0)
  | .scalar origin (.integer i) =>
    if i < 0 then refuse (.integer i) "an unsigned 64 bit or less integer" origin
    else bounded i.toNat
  | .scalar _ (.float f) => bounded (Decimal.nearestBelow UInt64.size f)
  | .scalar origin (.string s) =>
    match number? s with
    | some n => bounded n
    | none => refuse (.string s) "an integer" origin
  | .scalar origin .nil => refuse .nothing "an integer" origin
  | .array origin _ => refuse .sequence "an integer" origin
  | .table origin _ => refuse .map "an integer" origin

/-- The value of a field that must be there. -/
def needed {α : Type} (name : String) (value : Option α) : Except Failure α :=
  match value with
  | some value => .ok value
  | none => .error (.missingField name)

/-- Reads a member of a group. -/
def member? {α : Type} (read : Reading α) (group name : String) (t : Tree) :
    Except Failure (Option α) :=
  (t.get? name).mapM (read (group ++ "." ++ name))

/-- Reads an item of a group that is given as an array of its fields. -/
def item? {α : Type} (read : Reading α) (group : String) (items : List Tree) (i : Nat) :
    Except Failure (Option α) :=
  items[i]?.mapM (read (group ++ "[" ++ Text.Numeral.ofNat i ++ "]"))

/-- An item that must be there. -/
def neededItem {α : Type} (read : Reading α) (group expected : String) (items : List Tree)
    (i : Nat) : Except Failure α := do
  match ← item? read group items i with
  | some value => pure value
  | none => throw (.tooShort i expected)

def service : Reading ServiceSettings := fun group t => do
  match t with
  | .table .. =>
    let key ← member? string? group "key" t
    let clientName ← member? string group "client_name" t
    let images ← member? count group "images" t
    pure ⟨key.join, ← needed "client_name" clientName, ← needed "images" images⟩
  | .array _ items =>
    let expected := "struct ServiceSettings with 3 elements"
    let key ← item? string? group items 0
    let clientName ← neededItem string group expected items 1
    pure ⟨key.join, clientName, ← neededItem count group expected items 2⟩
  | .scalar _ v => throw (.notGroup v "struct ServiceSettings")

def log : Reading LogSettings := fun group t => do
  match t with
  | .table .. => pure ⟨← needed "level" (← member? string group "level" t)⟩
  | .array _ items => pure ⟨← neededItem string group "struct LogConfig with 1 element" items 0⟩
  | .scalar _ v => throw (.notGroup v "struct LogConfig")

end Reading

/-- The settings of a tree. -/
def ofTree (t : Tree) : Except Failure Settings := do
  let service ← (t.get? "service").mapM (Reading.service "service")
  let log ← (t.get? "log").mapM (Reading.log "log")
  pure ⟨← Reading.needed "service" service, ← Reading.needed "log" log⟩

/-- The settings at a place, with the file of a name if one is given, and what is logged about
variables. -/
def resolve (s : Surroundings) (file : Option String) : Except Failure Settings × List Log.Record :=
  (Layers.join s file >>= ofTree, Layers.direct.flatMap fun d => (Layers.ofDirect s d).2)

end KeyedImages.Settings
