/-! Texts cut at a separator. -/
namespace KeyedImages.Text

/-- The parts of a text between separators. There is one more part than there are separators. -/
def split (separator : Char) : List Char → List (List Char)
  | [] => [[]]
  | c :: cs =>
    if c = separator then [] :: split separator cs
    else match split separator cs with
      | [] => [[c]]
      | part :: parts => (c :: part) :: parts

/-- The part before the first separator, and what is behind it if there is one. -/
def splitFirst (separator : Char) (cs : List Char) : List Char × Option (List Char) :=
  (cs.takeWhile (· ≠ separator), (cs.dropWhile (· ≠ separator)).tail?)

theorem length_split (separator : Char) (cs : List Char) :
    (split separator cs).length = cs.count separator + 1 := by
  induction cs with
  | nil => rfl
  | cons c cs ih =>
    by_cases h : c = separator
    · simp [split, h, ih]
    · cases hs : split separator cs with
      | nil => simp [hs] at ih
      | cons part parts => simp_all [split]

end KeyedImages.Text
