import KeyedImages.Toml.Number
import KeyedImages.Toml.Quoted
import KeyedImages.Toml.Table

/-! TOML documents: their statements, and the table that the statements make up. -/
namespace KeyedImages.Toml

open Text (Reader)

/-- A key of one part or more. -/
structure Key where
  path : List String
  name : String
  deriving DecidableEq, Repr

inductive Statement
  | assign (key : Key) (v : Value)
  /-- The header of a table. -/
  | table (key : Key)
  /-- The header of one of several tables under one name. -/
  | element (key : Key)

/-- The bound on the depth of nesting, and on the parts of a key. -/
def limit : Nat := 80

namespace Layout

def blanks : Reader Unit := discard (Reader.span isBlank)

/-- A number sign and the characters behind it. -/
def comment : Reader Unit := do
  Reader.char '#'
  discard (Reader.span isPlain)

def newline : Reader Unit := fun cs => (newline? cs).map ((), ·)

/-- The rest of a line: blanks, perhaps a comment, and the line break or the end of the text. -/
def lineEnd : Reader Unit := do
  blanks
  discard (optional comment)
  newline <|> Reader.atEnd

/-- Blanks, comments and line breaks between the items of an array. -/
def gap : Reader Unit := do
  blanks
  discard (Reader.many do discard (optional comment); newline; blanks)

end Layout

namespace Key

def isBare (c : Char) : Bool :=
  c.isDigit || ('a' ≤ c && c ≤ 'z') || ('A' ≤ c && c ≤ 'Z') || c == '-' || c == '_'

/-- Takes one part of a key. -/
def readPart : Reader String := do
  Layout.blanks
  let part ← Quoted.line <|> String.ofList <$> Reader.span1 isBare
  Layout.blanks
  pure part

def ofParts? (parts : List String) : Option Key :=
  if parts.length < limit then parts.getLast?.map (⟨parts.dropLast, ·⟩) else none

def read : Reader Key := do
  ofParts? (← Reader.separated readPart (Reader.char '.'))

end Key

namespace Value

/-- Takes a value that holds no others. -/
def readPlain : Reader Value :=
  .string <$> Quoted.read
    <|> (do Reader.literal "true"; pure (.boolean true))
    <|> (do Reader.literal "false"; pure (.boolean false))
    <|> .moment <$> Moment.read
    <|> .float <$> Number.float
    <|> .integer <$> Number.integer

/-- Takes an array; a comma may follow its last item. -/
def readArray (item : Reader Value) : Reader Value := do
  Reader.char '['
  let items ← Reader.separated (do Layout.gap; let v ← item; Layout.gap; pure v) (Reader.char ',')
  unless items.isEmpty do discard (optional (Reader.char ','))
  Layout.gap
  Reader.char ']'
  pure (.array items)

/-- The table of pairs between braces. -/
def ofPairs? (pairs : List (Key × Value)) : Option Value := do
  let t ← pairs.foldlM (fun t (key, v) => Table.assign key.path key.name v t) ⟨.declared, []⟩
  pure (.table (closeMembers t.members))

/-- Takes a table between braces, on one line apart from its values. -/
def readBraced (item : Reader Value) : Reader Value := do
  Reader.char '\x7b'
  let pair : Reader (Key × Value) := do
    let key ← Key.read
    Reader.char '='
    Layout.blanks
    let v ← item
    Layout.blanks
    pure (key, v)
  let pairs ← Reader.separated pair (Reader.char ',')
  Layout.blanks
  Reader.char '\x7d'
  ofPairs? pairs

/-- Takes a value with at most the given number of values around one another. -/
def read : (depth : Nat) → Reader Value
  | 0 => readPlain
  | depth + 1 => readArray (read depth) <|> readBraced (read depth) <|> readPlain

end Value

namespace Statement

def readAssign : Reader Statement := do
  let key ← Key.read
  Reader.char '='
  Layout.blanks
  let v ← Value.read (limit - 1)
  Layout.lineEnd
  pure (.assign key v)

def readElement : Reader Statement := do
  Reader.literal "[["
  let key ← Key.read
  Reader.literal "]]"
  Layout.lineEnd
  pure (.element key)

def readTable : Reader Statement := do
  Reader.char '['
  let key ← Key.read
  Reader.char ']'
  Layout.lineEnd
  pure (.table key)

/-- Takes a line, which may hold no statement. -/
def readLine : Reader (Option Statement) :=
  (do Layout.newline; pure none)
    <|> (do Layout.comment; Layout.newline <|> Reader.atEnd; pure none)
    <|> some <$> readElement
    <|> some <$> readTable
    <|> some <$> readAssign

/-- Leaves out the mark that may stand in front of a text. -/
def skipMark : List Char → List Char
  | '\ufeff' :: cs => cs
  | cs => cs

/-- The statements of a text. -/
def readAll? (cs : List Char) : Option (List Statement) :=
  let line := do let s ← readLine; Layout.blanks; pure s
  (Reader.whole? (do Layout.blanks; Reader.many line) (skipMark cs)).map (·.filterMap id)

end Statement

/-- What the next assignments add to. -/
inductive Section
  | top
  | table (key : Key)
  | element (key : Key)
  deriving DecidableEq, Repr

/-- A document under way: the tables of the sections that are finished, and the table of the section
that is open, which the others do not hold. -/
structure Draft where
  root : Table
  place : Section
  current : Table

namespace Draft

def start : Draft := ⟨⟨.declared, []⟩, .top, ⟨.declared, []⟩⟩

/-- Puts the open section's table where it belongs. -/
def finish (d : Draft) : Option Table :=
  match d.place with
  | .top => some d.current
  | .table key =>
    (·.2) <$> Table.descend .implied (Table.putTable key.name d.current) key.path d.root
  | .element key =>
    (·.2) <$> Table.descend .implied (Table.appendTable key.name d.current) key.path d.root

def step (d : Draft) : Statement → Option Draft
  | .assign key v =>
    (Table.assign key.path key.name v d.current).map fun t => { d with current := t }
  | .table key => do
    let (current, root) ← Table.descend .implied (Table.takeImplied key.name) key.path (← d.finish)
    pure ⟨root, .table key, current⟩
  | .element key => do
    let ((), root) ← Table.descend .implied (Table.openTables key.name) key.path (← d.finish)
    pure ⟨root, .element key, ⟨.declared, []⟩⟩

end Draft

/-- The members of a document, if it is one. -/
def read? (cs : List Char) : Option (List (String × Value)) := do
  let d ← (← Statement.readAll? cs).foldlM Draft.step Draft.start
  pure (closeMembers (← d.finish).members)

end KeyedImages.Toml
