import KeyedImages.Json.Number
import KeyedImages.Text.Hexadecimal

/-! The tokens of a JSON text, up to the first place where none can be read. -/
namespace KeyedImages.Json

/-- A token. A string is kept without its text when its escapes name no characters, and a text that
goes on with no token ends in `bad`. -/
inductive Token
  | null
  | bool (b : Bool)
  | number (n : Number)
  | string (s : Option String)
  | openArray
  | closeArray
  | openObject
  | closeObject
  | comma
  | colon
  | bad
  deriving DecidableEq, Repr

def isBlank (c : Char) : Bool := c == ' ' || c == '\n' || c == '\t' || c == '\r'

/-- A part of a string: a character, or a unit of 16 bits written as an escape. -/
inductive Piece
  | char (c : Char)
  | unit (n : Nat)
  deriving DecidableEq, Repr

namespace Piece

/-- The character of a short escape. -/
def escaped? : Char → Option Char
  | '"' => some '"'
  | '\\' => some '\\'
  | '/' => some '/'
  | 'b' => some '\x08'
  | 'f' => some '\x0c'
  | 'n' => some '\n'
  | 'r' => some '\r'
  | 't' => some '\t'
  | _ => none

/-- The unit of four hexadecimal digits. -/
def unit? (a b c d : Char) : Option Nat := Text.hexNumber? [a, b, c, d]

/-- Puts a part in front of the parts that were read. -/
def before (p : Piece) (r : List Piece × List Char) : List Piece × List Char := (p :: r.1, r.2)

/-- Reads the rest of a string up to its closing quote. Controls must be escaped. -/
def scan : List Char → Option (List Piece × List Char)
  | [] => none
  | '"' :: cs => some ([], cs)
  | '\\' :: 'u' :: a :: b :: c :: d :: cs =>
    (unit? a b c d).bind fun n => (scan cs).map (before (.unit n))
  | '\\' :: e :: cs => (escaped? e).bind fun c => (scan cs).map (before (.char c))
  | c :: cs => if c = '\\' ∨ c.toNat < 0x20 then none else (scan cs).map (before (.char c))

/-- A scanned string is shorter by its closing quote. -/
theorem length_scan {cs rest : List Char} {ps : List Piece} (h : scan cs = some (ps, rest)) :
    rest.length < cs.length := by
  fun_induction scan cs generalizing ps with
  | case1 => simp at h
  | case2 => simp_all
  | case3 a b c d cs ih =>
    simp only [Option.bind_eq_some_iff, Option.map_eq_some_iff, before, Prod.mk.injEq] at h
    obtain ⟨_, _, r, hr, -, rfl⟩ := h
    have := ih hr
    simp; omega
  | case4 e cs _ ih =>
    simp only [Option.bind_eq_some_iff, Option.map_eq_some_iff, before, Prod.mk.injEq] at h
    obtain ⟨_, _, r, hr, -, rfl⟩ := h
    have := ih hr
    simp; omega
  | case5 => simp at h
  | case6 c cs _ _ _ _ ih =>
    simp only [Option.map_eq_some_iff, before, Prod.mk.injEq] at h
    obtain ⟨r, hr, -, rfl⟩ := h
    have := ih hr
    simp; omega

def isLeading (n : Nat) : Bool := 0xd800 ≤ n && n < 0xdc00
def isTrailing (n : Nat) : Bool := 0xdc00 ≤ n && n < 0xe000

/-- The characters of the parts. A leading surrogate must be followed by a trailing one, and a
trailing one must not stand alone. -/
def join : List Piece → Option (List Char)
  | [] => some []
  | .char c :: ps => (c :: ·) <$> join ps
  | .unit n :: .unit m :: ps =>
    if isLeading n then
      if isTrailing m then
        (Char.ofNat (0x10000 + (n - 0xd800) * 0x400 + (m - 0xdc00)) :: ·) <$> join ps
      else none
    else if isTrailing n then none
    else (Char.ofNat n :: ·) <$> join (.unit m :: ps)
  | .unit n :: ps =>
    if isLeading n || isTrailing n then none else (Char.ofNat n :: ·) <$> join ps

end Piece

namespace Token

/-- Reads the token that starts with a character other than a blank. -/
def scan (c : Char) (cs : List Char) : Option (Token × List Char) :=
  match c with
  | '[' => some (openArray, cs)
  | ']' => some (closeArray, cs)
  | '\x7b' => some (openObject, cs)
  | '\x7d' => some (closeObject, cs)
  | ',' => some (comma, cs)
  | ':' => some (colon, cs)
  | '"' => (Piece.scan cs).map fun (ps, rest) => (string ((Piece.join ps).map String.ofList), rest)
  | 'n' => if "ull".toList.isPrefixOf cs then some (null, cs.drop 3) else none
  | 't' => if "rue".toList.isPrefixOf cs then some (bool true, cs.drop 3) else none
  | 'f' => if "alse".toList.isPrefixOf cs then some (bool false, cs.drop 4) else none
  | c =>
    if c == '-' || c.isDigit then
      (Number.scan (c :: cs)).map fun (n, rest) => (number n, rest)
    else none

theorem length_scan {c : Char} {cs rest : List Char} {t : Token}
    (h : scan c cs = some (t, rest)) : rest.length ≤ cs.length := by
  unfold scan at h
  split at h
  case h_7 =>
    simp only [Option.map_eq_some_iff, Prod.mk.injEq, Prod.exists] at h
    obtain ⟨_, r, hr, -, rfl⟩ := h
    exact Nat.le_of_lt (Piece.length_scan hr)
  case h_11 =>
    split at h
    · simp only [Option.map_eq_some_iff, Prod.mk.injEq, Prod.exists] at h
      obtain ⟨_, r, hr, -, rfl⟩ := h
      have := Number.length_scan hr
      simp at this; omega
    · simp at h
  all_goals first
    | (simp only [Option.some.injEq, Prod.mk.injEq] at h; simp [h.2])
    | (split at h <;> simp only [reduceCtorEq, Option.some.injEq, Prod.mk.injEq] at h; simp [← h.2])

end Token

/-- The tokens of a text. Blanks may stand between tokens. -/
def tokens : List Char → List Token
  | [] => []
  | c :: cs =>
    if isBlank c then tokens cs
    else match h : Token.scan c cs with
      | none => [.bad]
      | some (t, rest) =>
        have := Token.length_scan h
        t :: tokens rest
termination_by cs => cs.length
decreasing_by all_goals simp; try omega

end KeyedImages.Json
