import KeyedImages.Proofs.Json.Reading

/-! Both layouts of a document are texts of its tokens. -/
namespace KeyedImages.Json.Document

variable {ws cs : List Char}

theorem unit?_control {n : Nat} (h : n < 0x20) :
    Piece.unit? '0' '0' (Text.hexDigit (n / 16)) (Text.hexDigit (n % 16)) = some n := by
  have all : ∀ k < 0x20,
      Piece.unit? '0' '0' (Text.hexDigit (k / 16)) (Text.hexDigit (k % 16)) = some k := by decide
  exact all n h

/-- Escaped or not, a character is written as one that is read back. -/
theorem letters_escapeChar (c : Char) (h : Letters ws cs) :
    Letters (escapeChar c ++ ws) (c :: cs) := by
  unfold escapeChar
  split
  case h_8 hquote hbackslash _ _ _ _ _ =>
    split
    next hcontrol => exact .unit (unit?_control hcontrol) h
    next hcontrol => exact .plain hquote hbackslash hcontrol h
  all_goals exact .short rfl h

theorem letters_escaped (cs : List Char) : Letters (cs.flatMap escapeChar) cs := by
  induction cs with
  | nil => exact .nil
  | cons c cs ih => exact letters_escapeChar c ih

theorem writes_stringChars (s : String) : Writes [.string (some s)] (stringChars s) := by
  have hspelled := Token.Spelled.string (letters_escaped s.toList)
  rw [String.ofList_toList] at hspelled
  exact .spelled hspelled

theorem writes_key (k : String) :
    Writes [.string (some k), .colon] (stringChars k ++ [':']) :=
  (writes_stringChars k).append (.spelled .colon)

mutual

theorem writes_compact (d : Document) : Writes d.tokens d.compact := by
  match d with
  | null => exact .spelled .null
  | bool true => exact .spelled .true
  | bool false => exact .spelled .false
  | number n => exact .spelled (.number n)
  | string s => exact writes_stringChars s
  | array items =>
    have hitems := writes_compactItems items
    exact (Writes.spelled .openArray).append (hitems.append (.spelled .closeArray))
  | object members =>
    have hmembers := writes_compactMembers members
    exact (Writes.spelled .openObject).append (hmembers.append (.spelled .closeObject))

theorem writes_compactItems (ds : List Document) : Writes (itemTokens ds) (compactItems ds) := by
  match ds with
  | [] => exact .nil fun _ hb => absurd hb List.not_mem_nil
  | [d] => exact writes_compact d
  | d :: d' :: ds =>
    have hrest := writes_compactItems (d' :: ds)
    exact (writes_compact d).append ((Writes.spelled .comma).append hrest)

theorem writes_compactMembers (ms : List (String × Document)) :
    Writes (memberTokens ms) (compactMembers ms) := by
  match ms with
  | [] => exact .nil fun _ hb => absurd hb List.not_mem_nil
  | [(k, d)] =>
    simpa [memberTokens, compactMembers] using (writes_key k).append (writes_compact d)
  | (k, d) :: m :: ms =>
    have hd := (writes_key k).append (writes_compact d)
    have hrest := (Writes.spelled .comma).append (writes_compactMembers (m :: ms))
    simpa [memberTokens, compactMembers] using hd.append hrest

end

/-- Items are parted by commas, and each begins a line. -/
theorem prettyItems_eq (level : Nat) {ds : List Document} (h : ds ≠ []) :
    prettyItems level ds = newLine (level + 1) ++
      (',' :: newLine (level + 1)).intercalate (ds.map (pretty (level + 1))) ++
      newLine level ++ [']'] := by
  induction ds with
  | nil => exact absurd rfl h
  | cons d ds ih =>
    cases ds with
    | nil => simp [prettyItems]
    | cons d' ds =>
      have hrest := ih (List.cons_ne_nil d' ds)
      simp [prettyItems, hrest]

theorem blank_space : ∀ b ∈ [' '], isBlank b = true := by simp [isBlank]

theorem blank_newLine (level : Nat) : ∀ b ∈ newLine level, isBlank b = true := by
  intro b hb
  rcases List.mem_cons.1 hb with rfl | hspace
  · rfl
  · rw [List.eq_of_mem_replicate hspace]
    rfl

mutual

theorem writes_pretty (level : Nat) (d : Document) : Writes d.tokens (d.pretty level) := by
  match d with
  | null => exact .spelled .null
  | bool true => exact .spelled .true
  | bool false => exact .spelled .false
  | number n => exact .spelled (.number n)
  | string s => exact writes_stringChars s
  | array [] => exact (Writes.spelled .openArray).append (.spelled .closeArray)
  | object [] => exact (Writes.spelled .openObject).append (.spelled .closeObject)
  | array (d :: ds) =>
    have hitems := writes_prettyItems level (d :: ds) (by simp)
    exact (Writes.spelled .openArray).append hitems
  | object (m :: ms) =>
    have hmembers := writes_prettyMembers level (m :: ms) (by simp)
    exact (Writes.spelled .openObject).append hmembers

theorem writes_prettyItems (level : Nat) (ds : List Document) (hne : ds ≠ []) :
    Writes (itemTokens ds ++ [.closeArray]) (prettyItems level ds) := by
  match ds with
  | [] => contradiction
  | [d] =>
    have hd := (writes_pretty (level + 1) d).blanks (blank_newLine (level + 1))
    have hclose := (Writes.spelled .closeArray).blanks (blank_newLine level)
    simpa [prettyItems, itemTokens] using hd.append hclose
  | d :: d' :: ds =>
    have hd := (writes_pretty (level + 1) d).blanks (blank_newLine (level + 1))
    have hrest := writes_prettyItems level (d' :: ds) (by simp)
    simpa [prettyItems, itemTokens] using hd.append ((Writes.spelled .comma).append hrest)

theorem writes_prettyMembers (level : Nat) (ms : List (String × Document)) (hne : ms ≠ []) :
    Writes (memberTokens ms ++ [.closeObject]) (prettyMembers level ms) := by
  match ms with
  | [] => contradiction
  | [(k, d)] =>
    have hkey := (writes_key k).blanks (blank_newLine (level + 1))
    have hd := (writes_pretty (level + 1) d).blanks blank_space
    have hclose := (Writes.spelled .closeObject).blanks (blank_newLine level)
    simpa [prettyMembers, memberTokens] using hkey.append (hd.append hclose)
  | (k, d) :: m :: ms =>
    have hkey := (writes_key k).blanks (blank_newLine (level + 1))
    have hd := (writes_pretty (level + 1) d).blanks blank_space
    have hrest := (Writes.spelled .comma).append (writes_prettyMembers level (m :: ms) (by simp))
    simpa [prettyMembers, memberTokens] using hkey.append (hd.append hrest)

end

end KeyedImages.Json.Document
