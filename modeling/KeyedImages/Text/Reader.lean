/-! Readers, which take something off the front of a text or fail. -/
namespace KeyedImages.Text

abbrev Reader (α : Type) := StateT (List Char) Option α

namespace Reader

variable {α β : Type}

/-- Takes a character of a kind. -/
def one (p : Char → Bool) : Reader Char := fun cs =>
  match cs with
  | c :: rest => if p c then some (c, rest) else none
  | [] => none

/-- Takes a given character. -/
def char (c : Char) : Reader Unit := discard (one (· == c))

/-- Takes a given text. -/
def literal (s : String) : Reader Unit := fun cs =>
  if s.toList.isPrefixOf cs then some ((), cs.drop s.toList.length) else none

/-- Takes all characters of a kind that come next. -/
def span (p : Char → Bool) : Reader (List Char) := fun cs =>
  some (cs.takeWhile p, cs.dropWhile p)

/-- The same, and at least one. -/
def span1 (p : Char → Bool) : Reader (List Char) := do
  let c ← one p
  let cs ← span p
  pure (c :: cs)

/-- Takes a number of characters of a kind. -/
def exactly (n : Nat) (p : Char → Bool) : Reader (List Char) := fun cs =>
  if n ≤ cs.length && (cs.take n).all p then some (cs.take n, cs.drop n) else none

/-- Repeats a reader until it fails or takes nothing more. -/
def many (r : Reader α) : Reader (List α) := fun cs => some (go cs)
where
  go (cs : List Char) : List α × List Char :=
    match r cs with
    | none => ([], cs)
    | some (a, rest) =>
      if rest.length < cs.length then
        let (as, rest) := go rest
        (a :: as, rest)
      else ([], cs)
  termination_by cs.length

/-- Takes items with a separator between any two, or none. -/
def separated (item : Reader α) (separator : Reader β) : Reader (List α) := do
  match ← optional item with
  | none => pure []
  | some a =>
    let as ← many (do discard separator; item)
    pure (a :: as)

/-- Succeeds at the end of the text. -/
def atEnd : Reader Unit := fun cs => if cs.isEmpty then some ((), cs) else none

/-- Reads a text to its end. -/
def whole? (r : Reader α) (cs : List Char) : Option α :=
  (r cs).bind fun (a, rest) => if rest.isEmpty then some a else none

end Reader

end KeyedImages.Text
