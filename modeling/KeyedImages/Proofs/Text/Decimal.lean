import KeyedImages.Proofs.Text.Lines
import Mathlib

/-! Decimal numbers with a fixed number of places: what their text stands for. -/
namespace KeyedImages.Text

namespace Numeral

variable {n places : Nat}

theorem length_digits_le (h : n < 10 ^ places) (hplaces : 0 < places) :
    (digits n).length ≤ places := by
  induction places, hplaces using Nat.le_induction generalizing n with
  | base =>
    rw [digits, if_pos (by omega)]
    exact le_rfl
  | succ places _ ih =>
    rw [digits]
    split
    · exact Nat.succ_le_succ (Nat.zero_le places)
    · have hfirst : (digits (n / 10)).length ≤ places := ih (by omega)
      rw [List.length_append, List.length_singleton]
      exact Nat.succ_le_succ hfirst

theorem lt_length_digits (h : 10 ^ places ≤ n) : places < (digits n).length := by
  induction places generalizing n with
  | zero => exact List.length_pos_iff.2 (digits_ne_nil n)
  | succ places ih =>
    have hten : ¬ n < 10 := by
      have hpos : 0 < 10 ^ places := Nat.pow_pos (by decide)
      omega
    have hfirst : places < (digits (n / 10)).length := ih (by omega)
    rw [digits, if_neg hten, List.length_append, List.length_singleton]
    exact Nat.succ_lt_succ hfirst

theorem length_padded_max (width n : Nat) :
    (padded width n).length = max width (digits n).length := by
  rw [padded, List.length_append, List.length_replicate]
  omega

theorem length_padded (h : n < 10 ^ places) (hplaces : 0 < places) :
    (padded places n).length = places := by
  rw [length_padded_max, max_eq_left (length_digits_le h hplaces)]

/-- A number with one digit more than the width is written with all its digits. -/
theorem length_padded_succ (h : 10 ^ places ≤ n) (h' : n < 10 ^ (places + 1)) :
    (padded places n).length = places + 1 := by
  have hlow := lt_length_digits h
  have hhigh := length_digits_le h' (Nat.succ_pos places)
  rw [length_padded_max]
  omega

theorem isDigit_of_mem_padded {c : Char} (h : c ∈ padded places n) : c.isDigit = true := by
  rcases List.mem_append.1 h with hzero | hdigit
  · rw [List.eq_of_mem_replicate hzero]
    rfl
  · exact isDigit_of_mem_digits hdigit

/-- Zeros in front do not change a number. -/
theorem value_padded (places n : Nat) : value (padded places n) = n := by
  have hzeros (k : Nat) (ds : List Char) : value (List.replicate k '0' ++ ds) = value ds := by
    induction k with
    | zero => rfl
    | succ k ih => exact ih
  rw [padded, hzeros, value_digits]

theorem nat?_padded (places n : Nat) : nat? (padded places n) = some n := by
  have hall : (padded places n).all Char.isDigit = true :=
    List.all_eq_true.2 fun _ hc => isDigit_of_mem_padded hc
  cases hds : padded places n with
  | nil => exact absurd (List.append_eq_nil_iff.1 hds).2 (digits_ne_nil n)
  | cons d ds =>
    rw [hds] at hall
    rw [nat?, if_pos hall, ← hds, value_padded]
    exact List.cons_ne_nil d ds

theorem below?_padded {bound : Nat} (width : Nat) (h : n < bound) :
    below? bound (padded width n) = some n := by
  rw [below?_of_isDigit bound fun _ => isDigit_of_mem_padded, nat?_padded]
  simp [h]

end Numeral

/-- Digits, a point, and just so many digits behind it, with a minus sign in front or none. -/
def IsDecimal (places : Nat) (cs : List Char) : Prop :=
  ∃ sign whole behind, cs = sign ++ whole ++ '.' :: behind ∧ (sign = [] ∨ sign = ['-']) ∧
    whole ≠ [] ∧ (∀ c ∈ whole, c.isDigit = true) ∧ (∀ c ∈ behind, c.isDigit = true) ∧
    behind.length = places

theorem isDecimal_signed (i : Int) {behind : List Char} (h : ∀ c ∈ behind, c.isDigit = true) :
    IsDecimal behind.length (Numeral.signed i ++ '.' :: behind) := by
  cases i with
  | ofNat n =>
    exact ⟨[], Numeral.digits n, behind, rfl, .inl rfl, Numeral.digits_ne_nil n,
      fun _ => Numeral.isDigit_of_mem_digits, h, rfl⟩
  | negSucc n =>
    exact ⟨['-'], Numeral.digits (n + 1), behind, rfl, .inr rfl, Numeral.digits_ne_nil _,
      fun _ => Numeral.isDigit_of_mem_digits, h, rfl⟩

/-- Other than digits there are one point and at most one minus sign. -/
theorem IsDecimal.count_of_not_isDigit {places : Nat} {cs : List Char} {c : Char}
    (h : IsDecimal places cs) (hc : c.isDigit = false) (hminus : c ≠ '-') :
    cs.count c = if c = '.' then 1 else 0 := by
  obtain ⟨sign, whole, behind, rfl, hsign, -, hwhole, hbehind, -⟩ := h
  have hsign' : c ∉ sign := by
    rcases hsign with rfl | rfl
    · exact List.not_mem_nil
    · simpa using hminus
  rw [List.count_append, List.count_append, List.count_cons, List.count_eq_zero.2 hsign',
    List.count_eq_zero.2 (Numeral.not_mem_of_isDigit hwhole hc),
    List.count_eq_zero.2 (Numeral.not_mem_of_isDigit hbehind hc)]
  by_cases hpoint : c = '.'
  · simp [hpoint]
  · simp [hpoint, Ne.symm hpoint]

/-- Reads digits, a point, and just so many digits behind it. -/
def fraction? (places : Nat) (cs : List Char) : Option ℚ :=
  match splitFirst '.' cs with
  | (whole, some behind) =>
    if behind.length = places then do
      let n ← Numeral.nat? whole
      let m ← Numeral.nat? behind
      pure ((n : ℚ) + m / 10 ^ places)
    else none
  | _ => none

/-- Reads a decimal number: the same, with a minus sign in front or none. -/
def decimal? (places : Nat) : List Char → Option ℚ
  | '-' :: cs => (fraction? places cs).map (- ·)
  | cs => fraction? places cs

variable {m places : Nat}

theorem fraction?_digits (n : Nat) (hm : m < 10 ^ places) (hplaces : 0 < places) :
    fraction? places (Numeral.digits n ++ '.' :: Numeral.padded places m) =
      some ((n : ℚ) + m / 10 ^ places) := by
  have hpoint : '.' ∉ Numeral.digits n :=
    Numeral.not_mem_of_isDigit (fun _ => Numeral.isDigit_of_mem_digits) rfl
  have hsplit := splitFirst_append (Numeral.padded places m) hpoint
  simp [fraction?, hsplit, Numeral.length_padded hm hplaces, Numeral.nat?_digits,
    Numeral.nat?_padded]

/-- The sign in front is that of the digits on both sides of the point. -/
theorem decimal?_signed (i : Int) (hm : m < 10 ^ places) (hplaces : 0 < places) :
    decimal? places (Numeral.signed i ++ '.' :: Numeral.padded places m) =
      some (if i < 0 then (i : ℚ) - m / 10 ^ places else (i : ℚ) + m / 10 ^ places) := by
  cases i with
  | ofNat n =>
    have hread := fraction?_digits n hm hplaces
    obtain ⟨d, ds, hds, hd⟩ := Numeral.exists_digits_eq_cons n
    have hminus : d ≠ '-' := Numeral.ne_of_isDigit hd rfl
    rw [hds] at hread
    have hnonneg : ¬ Int.ofNat n < 0 := Int.not_lt.2 (Int.natCast_nonneg n)
    rw [Numeral.signed, hds, if_neg hnonneg]
    simpa [decimal?, hminus] using hread
  | negSucc n =>
    rw [Numeral.signed, if_pos (Int.negSucc_lt_zero n), List.cons_append, decimal?,
      fraction?_digits _ hm hplaces, Option.map_some, Int.cast_negSucc]
    congr 1
    push_cast
    ring

end KeyedImages.Text
