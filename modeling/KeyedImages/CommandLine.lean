import KeyedImages.Text.Numeral
import KeyedImages.Text.Split

/-! The command line: which options are given, and why words are refused. -/
namespace KeyedImages.CommandLine

/-- An option with a value. -/
inductive Setting
  | config
  | key
  | name
  | images
  deriving DecidableEq, Repr

/-- An option without a value. -/
inductive Switch
  | json
  | help
  | version
  deriving DecidableEq, Repr

namespace Setting

def longName : Setting → String
  | config => "config"
  | key => "key"
  | name => "name"
  | images => "images"

def shortName? : Setting → Option Char
  | config => some 'c'
  | key => some 'k'
  | name => some 'n'
  | images => none

def all : List Setting := [config, key, name, images]

def ofLong? (s : String) : Option Setting := all.find? (·.longName == s)

def ofShort? (c : Char) : Option Setting := all.find? (·.shortName? == some c)

/-- The option as it is shown. -/
def usage (s : Setting) : String :=
  "--" ++ s.longName ++ " <" ++ String.ofList (s.longName.toList.map Char.toUpper) ++ ">"

end Setting

namespace Switch

def longName : Switch → String
  | json => "json"
  | help => "help"
  | version => "version"

def shortName? : Switch → Option Char
  | json => none
  | help => some 'h'
  | version => some 'V'

def all : List Switch := [json, help, version]

def ofLong? (s : String) : Option Switch := all.find? (·.longName == s)

def ofShort? (c : Char) : Option Switch := all.find? (·.shortName? == some c)

def usage (s : Switch) : String := "--" ++ s.longName

end Switch

/-- The options that were given. -/
structure Choices where
  config : Option String
  key : Option String
  name : Option String
  images : Option UInt32
  json : Bool
  deriving DecidableEq, Repr

def Choices.empty : Choices := ⟨none, none, none, none, false⟩

/-- Why a text is no number of images. -/
inductive CountFault
  | notNumber (fault : Text.Numeral.Fault)
  | outOfRange (i : Int)
  deriving DecidableEq, Repr

/-- The greatest number of images. -/
def greatestCount : Nat := UInt32.size - 1

def CountFault.message : CountFault → String
  | notNumber fault => fault.message
  | outOfRange i =>
    Text.Numeral.ofInt i ++ " is not in 0..=" ++ Text.Numeral.ofNat greatestCount

/-- Why a command line is refused. -/
inductive Refusal
  | unexpected (argument : String)
  | missingValue (s : Setting)
  /-- A value behind the equals sign of an option that takes none. -/
  | extraValue (s : Switch) (value : String)
  | repeatedSetting (s : Setting)
  | repeatedSwitch (s : Switch)
  | invalidCount (value : String) (fault : CountFault)
  deriving DecidableEq, Repr

def Refusal.message : Refusal → String
  | unexpected argument => "unexpected argument '" ++ argument ++ "' found"
  | missingValue s => "a value is required for '" ++ s.usage ++ "' but none was supplied"
  | extraValue s value =>
    "unexpected value '" ++ value ++ "' for '" ++ s.usage ++ "' found; no more were expected"
  | repeatedSetting s => "the argument '" ++ s.usage ++ "' cannot be used multiple times"
  | repeatedSwitch s => "the argument '" ++ s.usage ++ "' cannot be used multiple times"
  | invalidCount value fault =>
    "invalid value '" ++ value ++ "' for '" ++ Setting.images.usage ++ "': " ++ fault.message

/-- What ends the reading of a command line before its end. -/
inductive Stop
  | help
  | version
  | refused (reason : Refusal)
  deriving DecidableEq, Repr

/-- Reads a number of images. -/
def count (value : String) : Except CountFault UInt32 :=
  match Text.Numeral.int64 value.toList with
  | .error fault => .error (.notNumber fault)
  | .ok i =>
    if 0 ≤ i ∧ i ≤ greatestCount then .ok (UInt32.ofNat i.toNat) else .error (.outOfRange i)

/-- A word of the command line. -/
inductive Word
  /-- Two dashes, behind which no options are read. -/
  | rest
  | long (name : String) (value : Option String)
  /-- A dash and the characters behind it. -/
  | short (first : Char) (others : List Char)
  | plain
  deriving DecidableEq, Repr

/-- What a word is by its dashes. A single dash is plain. -/
def Word.ofString (s : String) : Word :=
  match s.toList with
  | ['-', '-'] => .rest
  | '-' :: '-' :: cs =>
    let (name, value) := Text.splitFirst '=' cs
    .long (String.ofList name) (value.map String.ofList)
  | '-' :: c :: cs => .short c cs
  | _ => .plain

/-- The value in the word of a short option; an equals sign may stand in front of it. -/
def attachedValue : List Char → Option String
  | [] => none
  | '=' :: cs => some (String.ofList cs)
  | cs => some (String.ofList cs)

/-- The options so far. The last setting waits for its value, or has one that was not looked at. -/
structure State where
  choices : Choices
  pending : Option (Setting × Option String)
  deriving DecidableEq, Repr

namespace State

def start : State := ⟨.empty, none⟩

/-- Records the value of a setting that was not given before. -/
def set (c : Choices) (s : Setting) (value : String) : Except Stop Choices :=
  let repeated : Except Stop Choices := .error (.refused (.repeatedSetting s))
  match s with
  | .config => if c.config.isSome then repeated else .ok { c with config := some value }
  | .key => if c.key.isSome then repeated else .ok { c with key := some value }
  | .name => if c.name.isSome then repeated else .ok { c with name := some value }
  | .images =>
    if c.images.isSome then repeated
    else match count value with
      | .ok n => .ok { c with images := some n }
      | .error fault => .error (.refused (.invalidCount value fault))

/-- Looks at the setting that is pending. -/
def settle (st : State) : Except Stop Choices :=
  match st.pending with
  | none => .ok st.choices
  | some (s, none) => .error (.refused (.missingValue s))
  | some (s, some value) => set st.choices s value

/-- Takes a setting with the value in its word, or one that waits for its value. -/
def take (st : State) (s : Setting) (value : Option String) : Except Stop State := do
  let c ← st.settle
  match value with
  | some value => pure ⟨← set c s value, none⟩
  | none => pure ⟨c, some (s, none)⟩

/-- Takes a switch. -/
def turn (st : State) (s : Switch) : Except Stop State := do
  let c ← st.settle
  match s with
  | .json =>
    if c.json then throw (.refused (.repeatedSwitch .json))
    else pure ⟨{ c with json := true }, none⟩
  | .help => throw .help
  | .version => throw .version

/-- Takes an option by its long name. -/
def long (st : State) (name : String) (value : Option String) : Except Stop State :=
  match Setting.ofLong? name, Switch.ofLong? name with
  | some s, _ => st.take s value
  | none, some s =>
    match value with
    | some value => .error (.refused (.extraValue s value))
    | none => st.turn s
  | none, none => .error (.refused (.unexpected ("--" ++ name)))

/-- Takes an option by its short name. -/
def short (st : State) (first : Char) (others : List Char) : Except Stop State :=
  match Setting.ofShort? first, Switch.ofShort? first with
  | some s, _ => st.take s (attachedValue others)
  | none, some s => st.turn s
  | none, none => .error (.refused (.unexpected (String.ofList ['-', first])))

/-- Takes a plain word, which must be the value that a setting waits for. -/
def plain (st : State) (word : String) : Except Stop State :=
  match st.pending with
  | some (s, none) => .ok ⟨st.choices, some (s, some word)⟩
  | _ => .error (.refused (.unexpected word))

/-- Reads words from a state on. -/
def read (st : State) : List String → Except Stop Choices
  | [] => st.settle
  | word :: words =>
    match Word.ofString word with
    | .rest =>
      match words with
      | [] => st.settle
      | word :: _ => .error (.refused (.unexpected word))
    | .long name value => st.long name value >>= (read · words)
    | .short first others => st.short first others >>= (read · words)
    | .plain => st.plain word >>= (read · words)

end State

/-- Reads a command line. -/
def read (words : List String) : Except Stop Choices := State.start.read words

end KeyedImages.CommandLine
