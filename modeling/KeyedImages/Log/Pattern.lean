import KeyedImages.Text.Alphanumeric
import KeyedImages.Text.Hexadecimal
import KeyedImages.Text.Numeral
import KeyedImages.Text.Reader
import KeyedImages.Text.Whitespace

/-! Regular expressions: what they match, and how they are written. -/
namespace KeyedImages.Log

/-- A set of characters. -/
inductive CharSet
  | range (first last : Char)
  | digit
  | space
  | word
  | any
  | none
  | union (a b : CharSet)
  | inter (a b : CharSet)
  | compl (a : CharSet)
  deriving DecidableEq, Repr

def isWordChar (c : Char) : Bool := c == '_' || Text.isAlphanumeric c

/-- A letter of ASCII in the other case. -/
def otherCase (c : Char) : Char := if c.isUpper then c.toLower else c.toUpper

namespace CharSet

def single (c : Char) : CharSet := range c c

def contains : CharSet → Char → Bool
  | range first last, c => first ≤ c && c ≤ last
  | digit, c => c.isDigit
  | space, c => Text.isWhitespace c
  | word, c => isWordChar c
  | any, _ => true
  | none, _ => false
  | union a b, c => a.contains c || b.contains c
  | inter a b, c => a.contains c && b.contains c
  | compl a, c => !a.contains c

/-- Whether a character, or its other case where case does not count, is in a set. -/
def admits (s : CharSet) (anyCase : Bool) (c : Char) : Bool :=
  match s with
  | compl a => !(a.contains c || (anyCase && a.contains (otherCase c)))
  | s => s.contains c || (anyCase && s.contains (otherCase c))

end CharSet

/-- A condition on a place between characters. -/
inductive Anchor
  | start
  | finish
  | lineStart
  | lineFinish
  | wordEdge
  | noWordEdge
  deriving DecidableEq, Repr

/-- Whether a condition holds between the character before and the one after, if there are any. -/
def Anchor.holds (a : Anchor) (before after : Option Char) : Bool :=
  let edge := before.any isWordChar != after.any isWordChar
  match a with
  | start => before.isNone
  | finish => after.isNone
  | lineStart => before.isNone || before == some '\n'
  | lineFinish => after.isNone || after == some '\n'
  | wordEdge => edge
  | noWordEdge => !edge

/-- A regular expression. A repetition has a least and perhaps a greatest number. -/
inductive Pattern
  | empty
  | one (set : CharSet) (anyCase : Bool)
  | anchor (a : Anchor)
  | seq (p q : Pattern)
  | alt (p q : Pattern)
  | loop (p : Pattern) (least : Nat) (greatest : Option Nat)
  deriving DecidableEq, Repr

/-- A place in a text: the character before it, and the rest of the text. -/
structure Spot where
  before : Option Char
  rest : List Char
  deriving DecidableEq, Repr

namespace Pattern

/-- Repeats a step, at most `fuel` times beyond the least number, and gathers the spots that are
reached once the least number is done. -/
def repeated (step : Spot → List Spot) : (least fuel : Nat) → List Spot → List Spot
  | 0, 0, spots => spots
  | 0, fuel + 1, spots =>
    let next := (spots.flatMap step).eraseDups
    if next.isEmpty then spots else (spots ++ repeated step 0 fuel next).eraseDups
  | least + 1, fuel, spots => repeated step least fuel (spots.flatMap step).eraseDups

/-- The spots to which a match can lead from a spot. More rounds of a loop than there are characters
lead nowhere else. -/
def ends : Pattern → Spot → List Spot
  | empty, s => [s]
  | one set anyCase, s =>
    match s.rest with
    | c :: rest => if set.admits anyCase c then [⟨some c, rest⟩] else []
    | [] => []
  | anchor a, s => if a.holds s.before s.rest.head? then [s] else []
  | seq p q, s => ((p.ends s).flatMap q.ends).eraseDups
  | alt p q, s => (p.ends s ++ q.ends s).eraseDups
  | loop p least greatest, s =>
    let more := match greatest with
      | none => s.rest.length
      | some n => min (n - least) s.rest.length
    repeated p.ends least more [s]

/-- Whether there is a match anywhere from a spot on. -/
def foundFrom (p : Pattern) (before : Option Char) : List Char → Bool
  | [] => !(p.ends ⟨before, []⟩).isEmpty
  | c :: cs => !(p.ends ⟨before, c :: cs⟩).isEmpty || foundFrom p (some c) cs

def isFoundIn (p : Pattern) (text : String) : Bool := p.foundFrom none text.toList

/-! Reading patterns. -/

open Text (Reader)

/-- The ways of reading that can be switched on: case does not count, a point matches line breaks,
and line breaks count as ends. -/
structure Mode where
  anyCase : Bool
  dotAll : Bool
  lines : Bool
  deriving DecidableEq, Repr

/-- Takes a code point in digits. -/
def readCodePoint (digits : Nat) : Reader Char :=
  (do
    Reader.char '\x7b'
    let ds ← Reader.span1 fun c => (Text.hexValue? c).isSome
    Reader.char '\x7d'
    Text.scalar? ds) <|>
  (do Text.scalar? (← Reader.exactly digits fun c => (Text.hexValue? c).isSome))

/-- The set of an escape that stands for several characters. -/
def setOfEscape? : Char → Option CharSet
  | 'd' => some .digit
  | 'D' => some (.compl .digit)
  | 's' => some .space
  | 'S' => some (.compl .space)
  | 'w' => some .word
  | 'W' => some (.compl .word)
  | _ => none

/-- Whether a character stands for itself behind a backslash. -/
def isEscapable (c : Char) : Bool :=
  c.toNat < 0x80 && !c.isAlphanum && c != '<' && c != '>'

/-- Takes what follows a backslash and stands for one character or one of several. -/
def readEscape : Reader CharSet := do
  let c ← Reader.one fun _ => true
  match c with
  | 'n' => pure (.single '\n')
  | 't' => pure (.single '\t')
  | 'r' => pure (.single '\r')
  | 'f' => pure (.single '\x0c')
  | 'v' => pure (.single '\x0b')
  | 'a' => pure (.single '\x07')
  | 'x' => .single <$> readCodePoint 2
  | 'u' => .single <$> readCodePoint 4
  | 'U' => .single <$> readCodePoint 8
  | c =>
    match setOfEscape? c with
    | some set => pure set
    | none => guard (isEscapable c); pure (.single c)

/-- The sets with names of their own inside brackets. -/
def namedSet? : String → Option CharSet
  | "alpha" => some (.union (.range 'a' 'z') (.range 'A' 'Z'))
  | "digit" => some (.range '0' '9')
  | "alnum" => some (.union (.range '0' '9') (.union (.range 'a' 'z') (.range 'A' 'Z')))
  | "lower" => some (.range 'a' 'z')
  | "upper" => some (.range 'A' 'Z')
  | "space" => some (.union (.range '\t' '\r') (.single ' '))
  | "blank" => some (.union (.single '\t') (.single ' '))
  | "punct" => some (.union (.range '!' '/') (.union (.range ':' '@') (.union (.range '[' '\x60')
    (.range '\x7b' '~'))))
  | "word" => some (.union (.range '0' '9') (.union (.range 'a' 'z') (.union (.range 'A' 'Z')
    (.single '_'))))
  | "xdigit" => some (.union (.range '0' '9') (.union (.range 'a' 'f') (.range 'A' 'F')))
  | "ascii" => some (.range '\x00' '\x7f')
  | "cntrl" => some (.union (.range '\x00' '\x1f') (.single '\x7f'))
  | "graph" => some (.range '!' '~')
  | "print" => some (.range ' ' '~')
  | _ => none

/-- Takes a named set. -/
def readNamedSet : Reader CharSet := do
  Reader.literal "[:"
  let inverted ← optional (Reader.char '^')
  let name ← Reader.span1 Char.isLower
  Reader.literal ":]"
  let set ← namedSet? (String.ofList name)
  pure (if inverted.isSome then .compl set else set)

/-- Takes a character, or several by an escape. -/
def readMember : Reader CharSet :=
  (do Reader.char '\\'; readEscape) <|>
    .single <$> Reader.one fun c => c != '\\' && c != '[' && c != ']'

/-- Takes a member or a range. -/
def readRange : Reader CharSet := do
  let first ← readMember
  match first with
  | .range a _ =>
    let last ← optional (do
      Reader.char '-'
      readMember)
    match last with
    | none => pure first
    | some (.range b _) => guard (a ≤ b); pure (.range a b)
    | some _ => failure
  | set => pure set

/-- Takes a set between brackets; sets may be nested, and pairs of ampersands stand between sets of
which the common members are meant. -/
def readSet : (depth : Nat) → Reader CharSet
  | 0 => failure
  | depth + 1 => do
    Reader.char '['
    let inverted ← optional (Reader.char '^')
    let leading ← optional (do Reader.char ']'; pure (CharSet.single ']'))
    let dashes ← Reader.many (do Reader.char '-'; pure (CharSet.single '-'))
    let item : Reader CharSet := do
      let next ← fun cs => some ((cs.take 2), cs)
      guard (next ≠ ['&', '&'])
      readNamedSet <|> readSet depth <|> readRange
    let items ← Reader.many item
    let others ← Reader.many (do Reader.literal "&&"; Reader.many item)
    Reader.char ']'
    let union (sets : List CharSet) : CharSet := sets.foldr .union .none
    let first := leading.toList ++ dashes ++ items
    guard (!first.isEmpty)
    let set := others.foldl (fun s o => .inter s (union o)) (union first)
    pure (if inverted.isSome then .compl set else set)

/-- Takes the numbers of a repetition between braces. -/
def readCounts : Reader (Nat × Option Nat) := do
  Reader.char '\x7b'
  let blanks := discard (Reader.span (· == ' '))
  blanks
  let least := Text.Numeral.value (← Reader.span1 Char.isDigit)
  blanks
  let greatest ← (do
    Reader.char ','
    blanks
    let ds ← Reader.span Char.isDigit
    blanks
    pure (if ds.isEmpty then none else some (Text.Numeral.value ds))) <|> pure (some least)
  Reader.char '\x7d'
  guard (least ≤ 1000 ∧ greatest.all (fun n => least ≤ n ∧ n ≤ 1000))
  pure (least, greatest)

/-- Takes a repetition. A question mark behind it changes the match but not whether there is one. -/
def readLoop : Reader (Nat × Option Nat) := do
  let counts ←
    (do Reader.char '*'; pure (0, none)) <|> (do Reader.char '+'; pure (1, none)) <|>
    (do Reader.char '?'; pure (0, some 1)) <|> readCounts
  discard (optional (Reader.char '?'))
  pure counts

/-- Takes letters that switch ways of reading on, and behind a minus sign off. -/
def readMode (mode : Mode) : Reader Mode := do
  let isLetter (c : Char) : Bool := ['i', 's', 'm', 'u', 'U', 'x'].contains c
  let on ← Reader.span isLetter
  let off ← (do Reader.char '-'; Reader.span1 isLetter) <|> pure []
  guard (!(on ++ off).contains 'x' && !off.contains 'u')
  let switched (letter : Char) (old : Bool) : Bool :=
    if on.contains letter then true else if off.contains letter then false else old
  pure ⟨switched 'i' mode.anyCase, switched 's' mode.dotAll, switched 'm' mode.lines⟩

/-- Takes the name of a group. -/
def readGroupName : Reader Unit := do
  Reader.literal "?P<" <|> Reader.literal "?<"
  discard (Reader.one fun c => c.isAlpha || c == '_')
  discard (Reader.span fun c => c.isAlphanum || c == '_' || c == '.' || c == '[' || c == ']')
  Reader.char '>'

/-- Takes a backslash and a condition on places. -/
def readAnchor (mode : Mode) : Reader Anchor :=
  (do Reader.char '^'; pure (if mode.lines then .lineStart else .start)) <|>
  (do Reader.char '$'; pure (if mode.lines then .lineFinish else .finish)) <|>
  (do Reader.literal "\\A"; pure .start) <|> (do Reader.literal "\\z"; pure .finish) <|>
  (do Reader.literal "\\b"; pure .wordEdge) <|> (do Reader.literal "\\B"; pure .noWordEdge)

/-- Whether a character stands for itself outside of brackets. -/
def isLiteral (c : Char) : Bool :=
  let special := ['\\', '.', '[', '(', ')', '*', '+', '?', '\x7b', '|', '^', '$']
  !special.contains c

/-- Takes what may be repeated, other than a group. -/
def readAtom (depth : Nat) (mode : Mode) : Reader Pattern :=
  .anchor <$> readAnchor mode <|>
  (do
    Reader.char '.'
    pure (.one (if mode.dotAll then .any else .compl (.single '\n')) false)) <|>
  (fun set => .one set mode.anyCase) <$> readSet depth <|>
  (do Reader.char '\\'; pure (.one (← readEscape) mode.anyCase)) <|>
  (fun c => .one (.single c) mode.anyCase) <$> Reader.one isLiteral

/-- A piece of a sequence: a pattern, or the ways of reading from here on. -/
inductive Piece
  | pattern (p : Pattern)
  | mode (m : Mode)

/-- Takes a pattern and its repetitions. -/
def readRepeated (atom : Reader Pattern) : Reader Pattern := do
  let p ← atom
  pure ((← Reader.many readLoop).foldl (fun p (least, greatest) => .loop p least greatest) p)

/-- Takes pieces up to the end of a group or of the text, and gives one pattern for each
alternative. At most `fuel` pieces and bars are taken; `group` takes a group. -/
def readAlternatives (depth : Nat) (group : Mode → Reader Pattern) :
    (fuel : Nat) → Mode → Reader (List Pattern)
  | 0, _ => pure [.empty]
  | fuel + 1, mode =>
    let switch : Reader Piece := do
      Reader.literal "(?"
      let m ← readMode mode
      Reader.char ')'
      pure (.mode m)
    let piece : Reader Piece :=
      switch <|> .pattern <$> readRepeated (group mode <|> readAtom depth mode)
    (do
      match ← piece with
      | .pattern p =>
        match ← readAlternatives depth group fuel mode with
        | [] => pure [p]
        | q :: others => pure (.seq p q :: others)
      | .mode m => readAlternatives depth group fuel m) <|>
    (do
      Reader.char '|'
      pure (.empty :: (← readAlternatives depth group fuel mode))) <|>
    pure [.empty]

/-- A pattern that matches where one of several matches. -/
def anyOf : List Pattern → Pattern
  | [] => .empty
  | [p] => p
  | p :: ps => .alt p (anyOf ps)

/-- Takes a group, with at most the given number of groups around one another. -/
def readGroup : (depth fuel : Nat) → Mode → Reader Pattern
  | 0, _, _ => failure
  | depth + 1, fuel, mode => do
    Reader.char '('
    let inner ← (do Reader.char '?'; let m ← readMode mode; Reader.char ':'; pure m) <|>
      (do readGroupName; pure mode) <|> pure mode
    let ps ← readAlternatives depth (readGroup depth fuel) fuel inner
    Reader.char ')'
    pure (anyOf ps)

/-- Reads a pattern. -/
def ofString? (s : String) : Option Pattern :=
  let cs := s.toList
  (Reader.whole? (readAlternatives cs.length (readGroup cs.length cs.length) cs.length
    ⟨false, false, false⟩) cs).map anyOf

end Pattern

end KeyedImages.Log
