import KeyedImages.Settings.Tree
import KeyedImages.Text.Numeral
import KeyedImages.Text.Reader

/-! Paths into trees of settings: names with points between them, and indices in brackets. -/
namespace KeyedImages.Settings

open Text (Reader)

inductive Step
  | name (s : String)
  | index (i : Int)
  deriving DecidableEq, Repr

/-- A name and the steps behind it. -/
structure Path where
  first : String
  rest : List Step
  deriving DecidableEq, Repr

namespace Path

def isNameChar (c : Char) : Bool :=
  c.isDigit || ('a' ≤ c && c ≤ 'z') || ('A' ≤ c && c ≤ 'Z') || c == '_' || c == '-' || c == ' '

def isBlank (c : Char) : Bool := c == ' ' || c == '\t' || c == '\r' || c == '\n'

def readName : Reader String := String.ofList <$> Reader.span1 isNameChar

/-- Takes an index of 64 bits. -/
def readIndex : Reader Int := do
  let minus ← optional (Reader.char '-')
  let n := Text.Numeral.value (← Reader.span1 Char.isDigit)
  let i : Int := if minus.isSome then -n else n
  guard (Text.Numeral.isInt64 i)
  pure i

def readStep : Reader Step :=
  (do Reader.char '.'; .name <$> readName) <|> (do
    Reader.char '['
    discard (Reader.span isBlank)
    let i ← readIndex
    discard (Reader.span isBlank)
    Reader.char ']'
    pure (.index i))

/-- Reads a path. What is no path is a name as a whole. -/
def ofName (name : String) : Path :=
  let read : Reader Path := do
    let first ← readName
    pure ⟨first, ← Reader.many readStep⟩
  (Reader.whole? read name.toList).getD ⟨name, []⟩

end Path

namespace Tree

/-- Writes a value at a name and steps behind it. Whatever stands in the way gives way. -/
def write (t v : Tree) (first : Step) : List Step → Tree
  | [] =>
    match first with
    | .name name => t.assign name v
    | .index i => t.change i fun _ => v
  | second :: rest =>
    match first with
    | .name name => t.put (lower name) (write ((t.get? (lower name)).getD nil) v second rest)
    | .index i => t.change i fun item => write item v second rest

def set (t : Tree) (path : Path) (v : Tree) : Tree := t.write v (.name path.first) path.rest

/-- Writes values at the paths that their names are. The order of the entries stands for whichever
order they are met in. -/
def setAll (t : Tree) (entries : List (String × Tree)) : Tree :=
  entries.foldl (fun t (name, v) => t.set (Path.ofName name) v) t

end Tree

end KeyedImages.Settings
