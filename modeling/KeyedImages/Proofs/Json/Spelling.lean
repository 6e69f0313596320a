import KeyedImages.Json.Token
import KeyedImages.Proofs.Text.Numeral

/-! How tokens may be written, and that every way to write them is read as those tokens. -/
namespace KeyedImages.Json

open Text (Numeral.signed Numeral.digits)

/-- How the characters of a string may be written between its quotes. -/
inductive Letters : List Char → List Char → Prop
  | nil : Letters [] []
  | plain {c : Char} {ws cs : List Char} (quote : c ≠ '"') (backslash : c ≠ '\\')
      (control : ¬ c.toNat < 0x20) : Letters ws cs → Letters (c :: ws) (c :: cs)
  | short {e c : Char} {ws cs : List Char} (escape : Piece.escaped? e = some c) :
      Letters ws cs → Letters ('\\' :: e :: ws) (c :: cs)
  | unit {a b c d x : Char} {ws cs : List Char} (code : Piece.unit? a b c d = some x.toNat) :
      Letters ws cs → Letters ('\\' :: 'u' :: a :: b :: c :: d :: ws) (x :: cs)
  | pair {a b c d a' b' c' d' : Char} {n m : Nat} {ws cs : List Char}
      (first : Piece.unit? a b c d = some n) (second : Piece.unit? a' b' c' d' = some m)
      (leading : Piece.isLeading n = true) (trailing : Piece.isTrailing m = true) :
      Letters ws cs →
      Letters ('\\' :: 'u' :: a :: b :: c :: d :: '\\' :: 'u' :: a' :: b' :: c' :: d' :: ws)
        (Char.ofNat (0x10000 + (n - 0xd800) * 0x400 + (m - 0xdc00)) :: cs)

/-- How a token may be written. -/
inductive Token.Spelled : Token → List Char → Prop
  | null : Spelled .null ['n', 'u', 'l', 'l']
  | true : Spelled (.bool true) ['t', 'r', 'u', 'e']
  | false : Spelled (.bool false) ['f', 'a', 'l', 's', 'e']
  | number (n : Int) : Spelled (.number (.ofInt n)) (Numeral.signed n)
  | string {ws cs : List Char} (letters : Letters ws cs) :
      Spelled (.string (some (String.ofList cs))) ('"' :: ws ++ ['"'])
  | openArray : Spelled .openArray ['[']
  | closeArray : Spelled .closeArray [']']
  | openObject : Spelled .openObject ['\x7b']
  | closeObject : Spelled .closeObject ['\x7d']
  | comma : Spelled .comma [',']
  | colon : Spelled .colon [':']

/-- A text of tokens in order. Any blanks may stand around them. -/
inductive Writes : List Token → List Char → Prop
  | nil {bs : List Char} (blank : ∀ b ∈ bs, isBlank b = true) : Writes [] bs
  | cons {t : Token} {ts : List Token} {bs w cs : List Char} (blank : ∀ b ∈ bs, isBlank b = true)
      (spelled : t.Spelled w) (rest : Writes ts cs) : Writes (t :: ts) (bs ++ (w ++ cs))

variable {t : Token} {ts us : List Token} {bs ws cs ds rest : List Char} {n : Nat}

namespace Piece

/-- No character has the code of a surrogate. -/
theorem not_surrogate (c : Char) : isLeading c.toNat = false ∧ isTrailing c.toNat = false := by
  have hvalid := c.valid
  simp only [UInt32.isValidChar, Nat.isValidChar] at hvalid
  simp only [isLeading, isTrailing, Bool.and_eq_false_iff, decide_eq_false_iff_not,
    Char.toNat]
  omega

theorem join_unit (c : Char) (ps : List Piece) :
    join (.unit c.toNat :: ps) = (c :: ·) <$> join ps := by
  obtain ⟨hl, ht⟩ := not_surrogate c
  rcases ps with - | ⟨- | -, ps⟩ <;> simp [join, hl, ht]

/-- A string is scanned up to its quote, and its parts make up its characters. -/
theorem scan_letters (h : Letters ws cs) :
    ∃ ps, join ps = some cs ∧ ∀ rest, scan (ws ++ '"' :: rest) = some (ps, rest) := by
  induction h with
  | nil => exact ⟨[], rfl, fun _ => rfl⟩
  | @plain c ws cs quote backslash control _ ih =>
    obtain ⟨ps, hjoin, hscan⟩ := ih
    refine ⟨.char c :: ps, by simp [join, hjoin], fun rest => ?_⟩
    simp [scan, backslash, control, hscan, before]
  | @short e c ws cs escape _ ih =>
    obtain ⟨ps, hjoin, hscan⟩ := ih
    have he : e ≠ 'u' := by rintro rfl; simp [escaped?] at escape
    refine ⟨.char c :: ps, by simp [join, hjoin], fun rest => ?_⟩
    simp [scan, he, escape, hscan, before]
  | @unit a b c d x ws cs code _ ih =>
    obtain ⟨ps, hjoin, hscan⟩ := ih
    refine ⟨.unit x.toNat :: ps, by simp [join_unit, hjoin], fun rest => ?_⟩
    simp [scan, code, hscan, before]
  | @pair a b c d a' b' c' d' n m ws cs first second leading trailing _ ih =>
    obtain ⟨ps, hjoin, hscan⟩ := ih
    refine ⟨.unit n :: .unit m :: ps, by simp [join, leading, trailing, hjoin], fun rest => ?_⟩
    simp [scan, first, second, hscan, before]

end Piece

namespace Number

/-- Whether a text does not go on as a number would. -/
def Stops (cs : List Char) : Prop :=
  ∀ c ∈ cs.head?, c.isDigit = false ∧ c ≠ '.' ∧ c ≠ 'e' ∧ c ≠ 'E'

theorem spanDigits_digits (n : Nat) (h : Stops rest) :
    spanDigits (Numeral.digits n ++ rest) = (Numeral.digits n, rest) := by
  have hall : ∀ c ∈ Numeral.digits n, c.isDigit = true :=
    fun c hc => Text.Numeral.isDigit_of_mem_digits hc
  have hstop : rest.takeWhile Char.isDigit = [] ∧ rest.dropWhile Char.isDigit = rest := by
    cases rest with
    | nil => simp
    | cons c cs => simp [(h c rfl).1]
  rw [spanDigits, List.takeWhile_append_of_pos hall, List.dropWhile_append_of_pos hall, hstop.1,
    hstop.2, List.append_nil]

theorem isWhole_digits (n : Nat) : isWhole (Numeral.digits n) = true := by
  rcases Nat.eq_zero_or_pos n with rfl | h
  · simp [Numeral.digits, Text.Numeral.digit, isWhole]
  · have hfirst := Text.Numeral.head?_digits_ne_zero h
    obtain ⟨d, ds, hd, -⟩ := Text.Numeral.exists_digits_eq_cons n
    have hne : d ≠ '0' := by simpa [hd] using hfirst
    rw [hd]
    unfold isWhole
    split <;> simp_all

theorem scanFraction_of_stops (h : Stops rest) : scanFraction rest = some ([], rest) := by
  unfold scanFraction
  split
  · exact absurd rfl (h _ rfl).2.1
  · rfl

theorem scanExponent_of_stops (h : Stops rest) : scanExponent rest = some (none, rest) := by
  unfold scanExponent
  split
  · exact absurd rfl (h _ rfl).2.2.1
  · exact absurd rfl (h _ rfl).2.2.2
  · rfl

theorem scanSign_digits (n : Nat) (rest : List Char) :
    scanSign (Numeral.digits n ++ rest) = (false, Numeral.digits n ++ rest) := by
  obtain ⟨d, ds, hd, hdigit⟩ := Text.Numeral.exists_digits_eq_cons n
  have hne : d ≠ '-' := by rintro rfl; simp at hdigit
  rw [hd]
  unfold scanSign
  split <;> simp_all

/-- A whole number is scanned as it was written, if the text does not go on as a number. -/
theorem scan_signed (n : Int) (h : Stops rest) :
    scan (Numeral.signed n ++ rest) = some (ofInt n, rest) := by
  cases n with
  | ofNat n =>
    simp [scan, Numeral.signed, ofInt, scanSign_digits, spanDigits_digits n h, isWhole_digits,
      scanFraction_of_stops h, scanExponent_of_stops h]
  | negSucc n =>
    simp [scan, Numeral.signed, ofInt, scanSign, spanDigits_digits (n + 1) h, isWhole_digits,
      scanFraction_of_stops h, scanExponent_of_stops h]

end Number

theorem eq_of_isBlank {c : Char} (h : isBlank c = true) :
    c = ' ' ∨ c = '\n' ∨ c = '\t' ∨ c = '\r' := by
  simpa [isBlank, or_assoc] using h

namespace Token

/-- Whether tokens do not start with a number. -/
def NoNumber : List Token → Prop
  | .number _ :: _ => False
  | _ => True

/-- Tokens among which no number stands directly behind another. -/
def Apart : List Token → Prop
  | [] => True
  | .number _ :: ts => NoNumber ts ∧ Apart ts
  | _ :: ts => Apart ts

theorem scan_of_number {c : Char} (h : (c == '-' || c.isDigit) = true) (cs : List Char) :
    scan c cs = (Number.scan (c :: cs)).map fun (n, rest) => (number n, rest) := by
  unfold scan
  split <;> simp_all

/-- A token is scanned as it was written, a number if the text does not go on as one. -/
theorem scan_spelled (h : t.Spelled ws) :
    ∃ c cs, ws = c :: cs ∧ isBlank c = false ∧ (NoNumber [t] → Number.Stops ws) ∧
      ∀ rest, (NoNumber [t] ∨ Number.Stops rest) → scan c (cs ++ rest) = some (t, rest) := by
  cases h with
  | number n =>
    obtain ⟨c, cs, hw, hfirst, -⟩ := Text.Numeral.exists_signed_eq_cons n
    have hc : (c == '-' || c.isDigit) = true := by
      rw [Bool.or_eq_true, beq_iff_eq]
      exact hfirst
    refine ⟨c, cs, hw, ?_, False.elim, fun rest hr => ?_⟩
    · rw [← Bool.not_eq_true]
      intro hb
      rcases eq_of_isBlank hb with rfl | rfl | rfl | rfl <;> simp at hc
    · rw [scan_of_number hc, ← List.cons_append, ← hw, Number.scan_signed n (hr.resolve_left id)]
      rfl
  | string letters =>
    obtain ⟨ps, hjoin, hscan⟩ := Piece.scan_letters letters
    exact ⟨'"', _, rfl, by decide, by simp [Number.Stops],
      fun rest _ => by simp [scan, hscan, hjoin]⟩
  | _ => exact ⟨_, _, rfl, by decide, by simp [Number.Stops], fun rest _ => by simp [scan]⟩

theorem Apart.tail (h : Apart (t :: ts)) : Apart ts ∧ (NoNumber [t] ∨ NoNumber ts) := by
  cases t with
  | number n => exact ⟨h.2, .inr h.1⟩
  | _ => exact ⟨h, .inl trivial⟩

end Token

theorem tokens_blanks (h : ∀ b ∈ bs, isBlank b = true) : tokens (bs ++ cs) = tokens cs := by
  induction bs with
  | nil => rfl
  | cons b bs ih =>
    rw [List.cons_append, tokens, if_pos (h b List.mem_cons_self)]
    exact ih fun b hb => h b (List.mem_cons_of_mem _ hb)

theorem tokens_of_scan {c : Char} (hb : isBlank c = false)
    (h : Token.scan c cs = some (t, rest)) : tokens (c :: cs) = t :: tokens rest := by
  rw [tokens, hb, if_neg Bool.false_ne_true]
  split
  · next heq => rw [h] at heq; cases heq
  · next heq => rw [h] at heq; cases heq; rfl

theorem Number.stops_blanks (h : ∀ b ∈ bs, isBlank b = true) (hcs : Stops cs) :
    Stops (bs ++ cs) := by
  cases bs with
  | nil => exact hcs
  | cons b bs =>
    have hb := h b List.mem_cons_self
    rcases eq_of_isBlank hb with rfl | rfl | rfl | rfl <;> simp [Stops]

namespace Writes

theorem stops (h : Writes ts cs) (hn : Token.NoNumber ts) : Number.Stops cs := by
  cases h with
  | nil blank =>
    rw [← List.append_nil cs]
    exact Number.stops_blanks blank (by simp [Number.Stops])
  | @cons t ts bs w cs blank spelled rest =>
    obtain ⟨c, w', rfl, -, hstops, -⟩ := Token.scan_spelled spelled
    have ht : Token.NoNumber [t] := by cases t <;> exact hn
    exact Number.stops_blanks blank (hstops ht)

/-- A text of tokens is read as those tokens, if no two of them are numbers in a row. -/
theorem tokens_eq (h : Writes ts cs) (apart : Token.Apart ts) : tokens cs = ts := by
  induction h with
  | @nil bs blank =>
    rw [← List.append_nil bs, tokens_blanks blank, tokens]
  | @cons t ts bs w cs blank spelled rest ih =>
    obtain ⟨c, w', rfl, hblank, -, hscan⟩ := Token.scan_spelled spelled
    obtain ⟨happart, hnumber⟩ := apart.tail
    have hstop := hscan cs (hnumber.imp_right rest.stops)
    rw [tokens_blanks blank, List.cons_append, tokens_of_scan hblank hstop, ih happart]

theorem blanks (hb : ∀ b ∈ bs, isBlank b = true) (h : Writes ts cs) : Writes ts (bs ++ cs) := by
  cases h with
  | nil blank => exact .nil fun b hmem => (List.mem_append.1 hmem).elim (hb b) (blank b)
  | @cons t ts bs' w cs blank spelled rest =>
    rw [← List.append_assoc]
    exact .cons (fun b hmem => (List.mem_append.1 hmem).elim (hb b) (blank b)) spelled rest

theorem append (h : Writes ts cs) (h' : Writes us ds) : Writes (ts ++ us) (cs ++ ds) := by
  induction h with
  | nil blank => exact h'.blanks blank
  | @cons t ts bs w cs blank spelled rest ih =>
    rw [List.append_assoc, List.append_assoc]
    exact .cons blank spelled ih

theorem exists_eq_cons_of_openObject (h : Writes (.openObject :: ts) cs) :
    ∃ c ds, cs = c :: ds ∧ (isBlank c = true ∨ c = '\x7b') := by
  cases h with
  | @cons t ts bs w cs blank spelled rest =>
    cases spelled
    cases bs with
    | nil => exact ⟨_, _, rfl, .inr rfl⟩
    | cons b bs => exact ⟨_, _, rfl, .inl (blank b List.mem_cons_self)⟩

theorem spelled (h : t.Spelled ws) : Writes [t] ws := by
  have hw : Writes [t] ([] ++ (ws ++ [])) := .cons (by simp) h (.nil (by simp))
  simpa using hw

end Writes

end KeyedImages.Json
