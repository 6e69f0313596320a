import KeyedImages.Text.Hexadecimal
import KeyedImages.Text.Reader

/-! The four kinds of strings of TOML: with or without escapes, on one line or on several. -/
namespace KeyedImages.Toml

open Text (Reader)

def isBlank (c : Char) : Bool := c == ' ' || c == '\t'

/-- Whether a character may stand in a comment: all but the controls, and the tab. -/
def isPlain (c : Char) : Bool := c == '\t' || (0x20 ≤ c.toNat && c.toNat != 0x7f)

/-- The rest of a text behind its line break. -/
def newline? : List Char → Option (List Char)
  | '\n' :: cs => some cs
  | '\r' :: '\n' :: cs => some cs
  | _ => none

/-- Leaves out a line break at the start of a text. -/
def skipNewline (cs : List Char) : List Char := (newline? cs).getD cs

/-- The character of an escape, and what follows the escape. -/
def escape? : List Char → Option (Char × List Char)
  | 'b' :: cs => some ('\x08', cs)
  | 'f' :: cs => some ('\x0c', cs)
  | 'n' :: cs => some ('\n', cs)
  | 'r' :: cs => some ('\r', cs)
  | 't' :: cs => some ('\t', cs)
  | '"' :: cs => some ('"', cs)
  | '\\' :: cs => some ('\\', cs)
  | 'u' :: a :: b :: c :: d :: cs => (Text.scalar? [a, b, c, d]).map (·, cs)
  | 'U' :: a :: b :: c :: d :: e :: f :: g :: h :: cs =>
    (Text.scalar? [a, b, c, d, e, f, g, h]).map (·, cs)
  | _ => none

theorem length_escape {cs rest : List Char} {c : Char} (h : escape? cs = some (c, rest)) :
    rest.length < cs.length := by
  unfold escape? at h
  split at h
  case h_8 | h_9 =>
    obtain ⟨_, -, h⟩ := Option.map_eq_some_iff.1 h
    rw [← (Prod.mk.inj h).2]
    simp; omega
  all_goals simp_all

namespace Quoted

/-- Puts a character in front of what was read. -/
def before (c : Char) (r : List Char × List Char) : List Char × List Char := (c :: r.1, r.2)

/-- Reads a string with escapes up to its closing quote. -/
def basic (cs : List Char) : Option (List Char × List Char) :=
  match cs with
  | [] => none
  | '"' :: cs => some ([], cs)
  | '\\' :: cs =>
    match h : escape? cs with
    | some (c, rest) =>
      have := length_escape h
      (basic rest).map (before c)
    | none => none
  | c :: cs => if isPlain c then (basic cs).map (before c) else none
termination_by cs.length
decreasing_by all_goals simp; try omega

/-- Reads a string without escapes up to its closing quote. -/
def literal : List Char → Option (List Char × List Char)
  | [] => none
  | '\'' :: cs => some ([], cs)
  | c :: cs => if isPlain c then (literal cs).map (before c) else none

/-- The quotes that belong to the text where three or more of them end a string: two at most. -/
def lastQuotes (quote : Char) : List Char → List Char × List Char
  | c :: d :: cs =>
    if c = quote then (if d = quote then ([c, d], cs) else ([c], d :: cs)) else ([], c :: d :: cs)
  | [c] => if c = quote then ([c], []) else ([], [c])
  | [] => ([], [])

/-- Whether only blanks stand before the end of the line. -/
def lineEnds (cs : List Char) : Bool := (newline? (cs.dropWhile isBlank)).isSome

/-- Reads a string with escapes on several lines. A backslash at the end of a line joins it with the
next line that is not blank; `joining` is true where blanks are left out. -/
def basicLines (joining : Bool) (cs : List Char) : Option (List Char × List Char) :=
  match cs with
  | [] => none
  | '"' :: '"' :: '"' :: cs => some (lastQuotes '"' cs)
  | '\n' :: cs => if joining then basicLines true cs else (basicLines false cs).map (before '\n')
  | '\r' :: '\n' :: cs =>
    if joining then basicLines true cs else (basicLines false cs).map (before '\n')
  | '\\' :: cs =>
    if lineEnds cs then basicLines true cs
    else match h : escape? cs with
      | some (c, rest) =>
        have := length_escape h
        (basicLines false rest).map (before c)
      | none => none
  | c :: cs =>
    if joining && isBlank c then basicLines true cs
    else if isPlain c then (basicLines false cs).map (before c)
    else none
termination_by cs.length
decreasing_by all_goals simp; try omega

/-- Reads a string without escapes on several lines. -/
def literalLines : List Char → Option (List Char × List Char)
  | [] => none
  | '\'' :: '\'' :: '\'' :: cs => some (lastQuotes '\'' cs)
  | '\n' :: cs => (literalLines cs).map (before '\n')
  | '\r' :: '\n' :: cs => (literalLines cs).map (before '\n')
  | c :: cs => if isPlain c then (literalLines cs).map (before c) else none

/-- Makes a text of the characters that were read. -/
def packed (r : Option (List Char × List Char)) : Option (String × List Char) :=
  r.map fun (s, rest) => (String.ofList s, rest)

/-- Reads a string on one line. -/
def line : Reader String := fun cs =>
  match cs with
  | '"' :: cs => packed (basic cs)
  | '\'' :: cs => packed (literal cs)
  | _ => none

/-- Reads a string of any kind. A line break right behind three opening quotes is left out. -/
def read : Reader String := fun cs =>
  match cs with
  | '"' :: '"' :: '"' :: cs => packed (basicLines false (skipNewline cs))
  | '\'' :: '\'' :: '\'' :: cs => packed (literalLines (skipNewline cs))
  | cs => line cs

end Quoted

end KeyedImages.Toml
