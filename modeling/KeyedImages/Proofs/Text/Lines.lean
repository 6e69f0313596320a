import KeyedImages.Proofs.Text.Numeral
import KeyedImages.Text.Quoted
import KeyedImages.Text.Split

/-! Texts cut into lines, and texts that never break a line. -/
namespace KeyedImages.Text

variable {sep : Char} {cs : List Char}

theorem split_of_not_mem (h : sep ∉ cs) : split sep cs = [cs] := by
  induction cs with
  | nil => rfl
  | cons c cs ih =>
    rw [List.mem_cons, not_or] at h
    rw [split, if_neg (Ne.symm h.1), ih h.2]

/-- A text is cut at a separator that does not occur before. -/
theorem splitFirst_append (rest : List Char) (h : sep ∉ cs) :
    splitFirst sep (cs ++ sep :: rest) = (cs, some rest) := by
  have hbefore : ∀ c ∈ cs, decide (c ≠ sep) = true :=
    fun c hc => decide_eq_true fun heq => h (heq ▸ hc)
  rw [splitFirst, List.takeWhile_append_of_pos hbefore, List.dropWhile_append_of_pos hbefore]
  simp

/-- The parts before a separator and those behind it are found apart. -/
theorem split_append (sep : Char) (cs rest : List Char) :
    split sep (cs ++ sep :: rest) = split sep cs ++ split sep rest := by
  induction cs with
  | nil => simp [split]
  | cons c cs ih =>
    by_cases h : c = sep
    · simp [split, h, ih]
    · have hne : split sep cs ≠ [] := by
        intro hnil
        have hlen := length_split sep cs
        simp [hnil] at hlen
      obtain ⟨part, parts, hparts⟩ := List.exists_cons_of_ne_nil hne
      simp [split, h, ih, hparts]

/-- Ended lines are cut one by one, and the last one has no end. -/
theorem split_lines {α : Type} (line : α → List Char) (xs : List α) (last : List Char) :
    split sep (xs.flatMap (fun x => line x ++ [sep]) ++ last) =
      xs.flatMap (fun x => split sep (line x)) ++ split sep last := by
  induction xs with
  | nil => rfl
  | cons x xs ih =>
    rw [List.flatMap_cons, List.flatMap_cons, List.append_assoc, List.append_assoc,
      List.singleton_append, split_append, ih, List.append_assoc]

/-- Two words of a class of characters that end outside it are the same if the texts are. -/
theorem word_append_inj {p : Char → Bool} {as bs xs ys : List Char} {x y : Char}
    (has : ∀ c ∈ as, p c = true) (hbs : ∀ c ∈ bs, p c = true) (hx : p x = false)
    (hy : p y = false) (h : as ++ x :: xs = bs ++ y :: ys) : as = bs ∧ x :: xs = y :: ys := by
  have hword := congrArg (List.takeWhile p) h
  rw [List.takeWhile_append_of_pos has, List.takeWhile_append_of_pos hbs] at hword
  simp only [List.takeWhile_cons, hx, hy, Bool.false_eq_true, if_false, List.append_nil] at hword
  subst hword
  exact ⟨rfl, List.append_cancel_left h⟩

namespace Numeral

theorem digits_append_inj {m n : Nat} {xs ys : List Char} {x y : Char} (hx : x.isDigit = false)
    (hy : y.isDigit = false) (h : digits m ++ x :: xs = digits n ++ y :: ys) :
    m = n ∧ x :: xs = y :: ys := by
  obtain ⟨hdigits, hrest⟩ := word_append_inj (fun _ => isDigit_of_mem_digits)
    (fun _ => isDigit_of_mem_digits) hx hy h
  refine ⟨?_, hrest⟩
  rw [← value_digits m, hdigits, value_digits]

theorem newline_not_mem_digits (n : Nat) : '\n' ∉ digits n :=
  not_mem_of_isDigit (fun _ => isDigit_of_mem_digits) rfl

theorem newline_not_mem_ofNat (n : Nat) : '\n' ∉ (ofNat n).toList := by
  rw [ofNat, String.toList_ofList]
  exact newline_not_mem_digits n

end Numeral

theorem not_mem_hexDigits {c : Char} (h : ∀ k < 16, hexDigit k ≠ c) (n : Nat) :
    c ∉ hexDigits n := by
  fun_induction hexDigits n with
  | case1 n hlt => simpa using (h n hlt).symm
  | case2 n hlt ih =>
    have hlast := h (n % 16) (Nat.mod_lt n (by omega))
    simp [ih, hlast.symm]

theorem newline_not_mem_quoteChar (c : Char) : '\n' ∉ quoteChar c := by
  unfold quoteChar
  split
  case h_7 hne _ _ =>
    split
    · simpa using Ne.symm hne
    · have hdigits := not_mem_hexDigits (by decide : ∀ k < 16, hexDigit k ≠ '\n') c.toNat
      simp [codePoint, hdigits]
  all_goals decide

/-- A quoted text stays on its line, whatever it is. -/
theorem newline_not_mem_quote (s : String) : '\n' ∉ (quote s).toList := by
  simp [quote, quoteChars, newline_not_mem_quoteChar]

end KeyedImages.Text
