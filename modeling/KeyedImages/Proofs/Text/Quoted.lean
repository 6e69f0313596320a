import KeyedImages.Proofs.Text.Lines

/-! Quoted text is read back character by character, so that no two texts are quoted alike. -/
namespace KeyedImages.Text

theorem hexNumber?_append_singleton (ds : List Char) (c : Char) : hexNumber? (ds ++ [c]) =
    (hexNumber? ds).bind fun n => (hexValue? c).map (16 * n + ·) := by
  simp [hexNumber?, List.foldlM_append]

/-- Digits stand for the number that they were made of. -/
theorem hexNumber?_hexDigits (n : Nat) : hexNumber? (hexDigits n) = some n := by
  have hvalue : ∀ k < 16, hexValue? (hexDigit k) = some k := by decide
  fun_induction hexDigits n with
  | case1 n h => simp [hexNumber?, hvalue n h]
  | case2 n h ih =>
    rw [hexNumber?_append_singleton, ih, hvalue _ (Nat.mod_lt n (by decide)), Option.bind_some,
      Option.map_some, Nat.div_add_mod]

theorem scalar?_hexDigits (c : Char) : scalar? (hexDigits c.toNat) = some c := by
  have hvalid : c.toNat.isValidChar := c.valid
  simp [scalar?, hexNumber?_hexDigits, hvalid]

/-- The character of a letter behind a backslash. -/
def unescape? : Char → Option Char
  | '0' => some '\x00'
  | 't' => some '\t'
  | 'r' => some '\r'
  | 'n' => some '\n'
  | '"' => some '"'
  | '\\' => some '\\'
  | _ => none

/-- Takes what stands behind a backslash. -/
def unquoteEscape? : List Char → Option (Char × List Char)
  | 'u' :: '\x7b' :: cs =>
    match splitFirst '\x7d' cs with
    | (ds, some rest) => (scalar? ds).map (·, rest)
    | (_, none) => none
  | e :: cs => (unescape? e).map (·, cs)
  | [] => none

/-- Takes a character from the inside of quotes. -/
def unquoteChar? : List Char → Option (Char × List Char)
  | [] => none
  | c :: cs => if c = '\\' then unquoteEscape? cs else some (c, cs)

theorem unquoteChar?_quoteChar (c : Char) (rest : List Char) :
    unquoteChar? (quoteChar c ++ rest) = some (c, rest) := by
  unfold quoteChar
  split
  case h_7 hbackslash =>
    split
    · exact if_neg hbackslash
    · have hclose := not_mem_hexDigits (by decide : ∀ k < 16, hexDigit k ≠ '\x7d') c.toNat
      simp [codePoint, unquoteChar?, unquoteEscape?, splitFirst_append rest hclose,
        scalar?_hexDigits]
  all_goals rfl

theorem quoteChars_inj {cs ds : List Char} (h : cs.flatMap quoteChar = ds.flatMap quoteChar) :
    cs = ds := by
  induction cs generalizing ds with
  | nil =>
    cases ds with
    | nil => rfl
    | cons d ds =>
      have hread := unquoteChar?_quoteChar d (ds.flatMap quoteChar)
      rw [← List.flatMap_cons, ← h] at hread
      cases hread
  | cons c cs ih =>
    have hread := unquoteChar?_quoteChar c (cs.flatMap quoteChar)
    rw [← List.flatMap_cons, h] at hread
    cases ds with
    | nil => cases hread
    | cons d ds =>
      rw [List.flatMap_cons, unquoteChar?_quoteChar] at hread
      obtain ⟨rfl, hrest⟩ := Prod.mk.inj (Option.some.inj hread)
      rw [ih hrest.symm]

theorem quote_injective : Function.Injective quote := by
  intro s t h
  have hchars := String.ofList_injective h
  unfold quoteChars at hchars
  exact String.toList_injective (quoteChars_inj (List.append_cancel_right (List.cons.inj hchars).2))

end KeyedImages.Text
