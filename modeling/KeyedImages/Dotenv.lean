import KeyedImages.Surroundings
import KeyedImages.Text.Alphanumeric
import KeyedImages.Text.Whitespace

/-! Files of assignments to variables, one on a line. -/
namespace KeyedImages.Dotenv

def fileName : String := ".env"

/-- The paths at which the file is looked for: in a directory, and in those around it. -/
def paths (directory : String) : List String :=
  (List.range ((FilePath.parts directory).length + 1)).map fun n =>
    String.join (List.replicate n "../") ++ fileName

/-- Where a character of a line stands: outside of quotes, behind a blank there, in quotes of one
kind or the other, or behind a backslash in one of these places. -/
inductive Place
  | plain
  | blank
  | escape
  | single
  | singleEscape
  | double
  | doubleEscape
  deriving DecidableEq, Repr

/-- The place behind a character outside of quotes. Only a single blank is told from other
characters. -/
def Place.outside (afterBlank : Bool) (c : Char) : Place :=
  match c with
  | '\\' => escape
  | '"' => double
  | '\'' => single
  | c =>
    if !afterBlank && Text.isWhitespace c && c != '\n' && c != '\r' then blank else plain

/-- The place behind a character. -/
def Place.next : Place → Char → Place
  | plain, c => outside false c
  | blank, c => outside true c
  | escape, _ => plain
  | single, c => if c = '\\' then singleEscape else if c = '\'' then plain else single
  | singleEscape, _ => single
  | double, c => if c = '\\' then doubleEscape else if c = '"' then plain else double
  | doubleEscape, _ => double

/-- Goes along a line to its end, or to the mark of a comment behind a blank. Gives what was passed
and the place at the end, none where a comment starts. -/
def scan : Place → List Char → List Char × Option Place
  | place, [] => ([], some place)
  | place, c :: cs =>
    if place = .blank ∧ c = '#' then ([], none)
    else
      let (passed, last) := scan (place.next c) cs
      (c :: passed, last)

/-- A line without its line break. -/
def withoutBreak (cs : List Char) : List Char :=
  match cs.reverse with
  | '\n' :: '\r' :: rest => rest.reverse
  | '\n' :: rest => rest.reverse
  | _ => cs

/-- Cuts a text behind each line break. -/
def cut : List Char → List (List Char)
  | [] => []
  | c :: cs =>
    if c = '\n' then [c] :: cut cs
    else match cut cs with
      | [] => [[c]]
      | line :: lines => (c :: line) :: lines

/-- Joins lines within quotes. Comments are left out. A text that ends within quotes, behind a
backslash or behind a blank breaks off, which is marked by none at the end. -/
def join (before : List Char) (place : Place) : List (List Char) → List (Option (List Char))
  | [] => if place = .plain then [] else [none]
  | line :: lines =>
    let all := before ++ line
    if (Text.trimStart all).head? = some '#' then some [] :: join [] .plain lines
    else match scan place line with
      | (passed, none) => some (before ++ passed) :: join [] .plain lines
      | (_, some .plain) => some (withoutBreak all) :: join [] .plain lines
      | (_, some place) => join all place lines

/-- Reading a value, with the part behind a dollar sign that names a variable. -/
inductive Part
  | text
  | single
  | escape
  | name (reversed : List Char)
  | braced (reversed : List Char)
  /-- Behind a blank outside of quotes. -/
  | finished
  deriving DecidableEq, Repr

/-- Reads a value; `double` is true within double quotes. `value?` gives the text of a named
variable, empty if there is none. A character behind a name counts as text even if it is a quote. -/
def value? (named : List Char → List Char) (double : Bool) : Part → List Char → Option (List Char)
  | .text, [] | .escape, [] => if double then none else some []
  | .single, [] | .braced _, [] => none
  | .name n, [] => if double then none else some (named n.reverse)
  | .finished, [] => some []
  | .finished, c :: cs =>
    if c = ' ' ∨ c = '\t' then value? named double .finished cs
    else if c = '#' then some []
    else none
  | .escape, c :: cs =>
    match c with
    | '\\' | '\'' | '"' | '$' | ' ' => (c :: ·) <$> value? named double .text cs
    | 'n' => ('\n' :: ·) <$> value? named double .text cs
    | _ => none
  | .single, c :: cs =>
    if c = '\'' then value? named double .text cs else (c :: ·) <$> value? named double .single cs
  | .name n, c :: cs =>
    if Text.isAlphanumeric c then value? named double (.name (c :: n)) cs
    else if c = '\x7b' ∧ n = [] then value? named double (.braced []) cs
    else if c = '$' then (named n.reverse ++ ·) <$> value? named double (.name []) cs
    else (named n.reverse ++ c :: ·) <$> value? named double .text cs
  | .braced n, c :: cs =>
    if c = '\x7d' then (named n.reverse ++ ·) <$> value? named double .text cs
    else value? named double (.braced (c :: n)) cs
  | .text, c :: cs =>
    if c = '$' then value? named double (.name []) cs
    else if c = '\\' then value? named double .escape cs
    else if c = '"' then value? named (!double) .text cs
    else if double then (c :: ·) <$> value? named double .text cs
    else if c = '\'' then value? named double .single cs
    else if c = ' ' ∨ c = '\t' then value? named double .finished cs
    else (c :: ·) <$> value? named double .text cs

def startsName (c : Char) : Bool := c.isAlpha || c == '_'

/-- Takes a name, and the whitespace behind it. -/
def name? (cs : List Char) : Option (String × List Char) :=
  if cs.head?.any startsName then
    let isNameChar (c : Char) : Bool := c.isAlphanum || c == '_' || c == '.'
    some (String.ofList (cs.takeWhile isNameChar), Text.trimStart (cs.dropWhile isNameChar))
  else none

/-- Takes a name and the equals sign behind it. The word `export` may stand in front. -/
def target? (cs : List Char) : Option (String × List Char) := do
  match ← name? cs with
  | (name, '=' :: rest) => some (name, rest)
  | ("export", rest) =>
    match ← name? rest with
    | (name, '=' :: rest) => some (name, rest)
    | _ => none
  | _ => none

/-- What a line does to the variables. A variable that is set keeps its value. -/
def assign? (environment : Environment) (line : List Char) : Option Environment :=
  let cs := Text.trimStart (Text.trimEnd line)
  if cs = [] ∨ cs.head? = some '#' then some environment
  else do
    let (name, rest) ← target? cs
    let rest := Text.trimStart rest
    let named (n : List Char) : List Char :=
      ((environment.lookup (String.ofList n)).getD "").toList
    let value ← if rest = [] ∨ rest.head? = some '#' then some [] else value? named false .text rest
    if (environment.lookup name).isSome then some environment
    else some (environment ++ [(name, String.ofList value)])

/-- Carries lines out up to the first that is wrong. -/
def assignAll (environment : Environment) : List (Option (List Char)) → Environment
  | [] | none :: _ => environment
  | some line :: lines =>
    match assign? environment line with
    | some environment => assignAll environment lines
    | none => environment

/-- The variables with those that a text adds. A mark in front of the text is left out. Values are
kept whatever they hold; a NUL in one breaks off where variables are set outside. -/
def load (text : String) (environment : Environment) : Environment :=
  let cs := match text.toList with
    | '\ufeff' :: cs => cs
    | cs => cs
  assignAll environment (join [] .plain (cut cs))

end KeyedImages.Dotenv
