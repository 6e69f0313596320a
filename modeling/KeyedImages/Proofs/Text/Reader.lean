import KeyedImages.Text.Reader

/-! What readers do with a text, one combination of readers at a time. -/
namespace KeyedImages.Text.Reader

variable {α β : Type} {r r' : Reader α} {f : α → Reader β} {p : Char → Bool} {a : α} {c : Char}
  {cs rest : List Char}

@[simp] theorem bind_apply : (r >>= f) cs = (r cs).bind fun x => f x.1 x.2 := rfl

@[simp] theorem pure_apply : (pure a : Reader α) cs = some (a, cs) := rfl

@[simp] theorem map_apply {f : α → β} : (f <$> r) cs = (r cs).map fun x => (f x.1, x.2) := by
  change (r cs).bind _ = _
  cases r cs <;> rfl

@[simp] theorem discard_apply : (discard r : Reader Unit) cs = (r cs).map fun x => ((), x.2) :=
  map_apply

@[simp] theorem orElse_apply : (r <|> r') cs = (r cs).or (r' cs) := by
  change (r cs).orElse _ = _
  cases r cs <;> rfl

@[simp] theorem optional_apply :
    optional r cs = ((r cs).map fun x => (some x.1, x.2)).or (some (none, cs)) := by
  unfold optional
  rw [orElse_apply, map_apply, pure_apply]

@[simp] theorem guard_apply {q : Prop} [Decidable q] :
    (guard q : Reader Unit) cs = if q then some ((), cs) else none := by
  unfold guard
  split <;> rfl

@[simp] theorem one_cons : one p (c :: cs) = if p c then some (c, cs) else none := rfl

@[simp] theorem char_cons {d : Char} :
    char d (c :: cs) = if c = d then some ((), cs) else none := by
  by_cases h : c = d <;> simp [char, h]

theorem many_of_none (h : r cs = none) : many r cs = some ([], cs) := by
  rw [many, many.go, h]

/-- A reader is repeated as long as it takes something. -/
theorem many_of_some {as : List α} {rest' : List Char} (h : r cs = some (a, rest))
    (hlt : rest.length < cs.length) (hmany : many r rest = some (as, rest')) :
    many r cs = some (a :: as, rest') := by
  rw [many, Option.some.injEq] at *
  rw [many.go, h]
  simp only [hlt, if_true, hmany]

end KeyedImages.Text.Reader
