import KeyedImages.Text.Numeral

/-! Decimal numerals stand for the numbers of which they are made. -/
namespace KeyedImages.Text.Numeral

variable {n : Nat}

theorem isDigit_digit (h : n < 10) : (digit n).isDigit = true := by
  have all : ∀ k < 10, (digit k).isDigit = true := by decide
  exact all n h

theorem digitValue_digit (h : n < 10) : digitValue (digit n) = n := by
  have all : ∀ k < 10, digitValue (digit k) = k := by decide
  exact all n h

theorem value_append_singleton (ds : List Char) (c : Char) :
    value (ds ++ [c]) = 10 * value ds + digitValue c := by
  rw [value, List.foldl_append, ← value]
  rfl

/-- The digits are those of the usual numeral. -/
theorem digits_eq_toDigits (n : Nat) : digits n = Nat.toDigits 10 n := by
  have hdigit : ∀ k < 10, digit k = k.digitChar := by decide
  fun_induction digits n with
  | case1 n h => rw [Nat.toDigits_eq_if (by decide), if_pos h, hdigit n h]
  | case2 n h ih =>
    rw [Nat.toDigits_eq_if (by decide), if_neg h, ih, hdigit _ (Nat.mod_lt n (by decide))]

theorem ofNat_eq_toString (n : Nat) : ofNat n = toString n :=
  congrArg String.ofList (digits_eq_toDigits n)

theorem value_digits (n : Nat) : value (digits n) = n := by
  fun_induction digits n with
  | case1 n h => simp [value, digitValue_digit h]
  | case2 n h ih =>
    rw [value_append_singleton, ih, digitValue_digit (Nat.mod_lt n (by omega))]
    omega

theorem isDigit_of_mem_digits {c : Char} (h : c ∈ digits n) : c.isDigit = true := by
  fun_induction digits n with
  | case1 n hlt =>
    rw [List.mem_singleton.1 h]
    exact isDigit_digit hlt
  | case2 n hlt ih =>
    rcases List.mem_append.1 h with hrest | hlast
    · exact ih hrest
    · rw [List.mem_singleton.1 hlast]
      exact isDigit_digit (Nat.mod_lt n (by omega))

theorem digits_ne_nil (n : Nat) : digits n ≠ [] := by
  rw [digits]
  split <;> simp

theorem exists_digits_eq_cons (n : Nat) : ∃ d ds, digits n = d :: ds ∧ d.isDigit = true := by
  cases hds : digits n with
  | nil => exact absurd hds (digits_ne_nil n)
  | cons d ds => exact ⟨d, ds, rfl, isDigit_of_mem_digits (by rw [hds]; exact List.mem_cons_self)⟩

/-- Only zero is written with a zero in front. -/
theorem head?_digits_ne_zero (h : 0 < n) : (digits n).head? ≠ some '0' := by
  fun_induction digits n with
  | case1 n hlt =>
    have all : ∀ k < 10, 0 < k → digit k ≠ '0' := by decide
    simpa using all n hlt h
  | case2 n hlt ih =>
    have hfirst := ih (by omega)
    cases hds : digits (n / 10) with
    | nil => exact absurd hds (digits_ne_nil _)
    | cons d ds => simpa [hds] using hfirst

theorem nat?_digits (n : Nat) : nat? (digits n) = some n := by
  have hall : (digits n).all Char.isDigit = true :=
    List.all_eq_true.2 fun _ hc => isDigit_of_mem_digits hc
  cases hds : digits n with
  | nil => exact absurd hds (digits_ne_nil n)
  | cons d ds =>
    rw [hds] at hall
    rw [nat?, if_pos hall, ← hds, value_digits]
    simp

theorem exists_signed_eq_cons (n : Int) : ∃ c ds, signed n = c :: ds ∧
    (c = '-' ∨ c.isDigit = true) ∧ ∀ d ∈ ds, d.isDigit = true := by
  cases n with
  | ofNat n =>
    have hdigits : ∀ d ∈ digits n, d.isDigit = true := fun d => isDigit_of_mem_digits
    obtain ⟨c, ds, hds, hc⟩ := exists_digits_eq_cons n
    rw [hds, List.forall_mem_cons] at hdigits
    exact ⟨c, ds, hds, .inr hc, hdigits.2⟩
  | negSucc n => exact ⟨'-', _, rfl, .inl rfl, fun d => isDigit_of_mem_digits⟩

theorem ne_of_isDigit {c d : Char} (hc : c.isDigit = true) (hd : d.isDigit = false) : c ≠ d := by
  rintro rfl
  exact Bool.false_ne_true (hd.symm.trans hc)

theorem not_mem_of_isDigit {c : Char} {ds : List Char} (h : ∀ d ∈ ds, d.isDigit = true)
    (hc : c.isDigit = false) : c ∉ ds :=
  fun hmem => ne_of_isDigit (h c hmem) hc rfl

/-- Digits are read below a bound as they are, as no sign stands in front of them. -/
theorem below?_of_isDigit (bound : Nat) {ds : List Char} (h : ∀ d ∈ ds, d.isDigit = true) :
    below? bound ds = (nat? ds).filter (· < bound) := by
  unfold below?
  split
  · next ds => exact absurd (h '+' List.mem_cons_self) (by decide)
  · rfl

/-- A numeral is read below a bound just if its number is below it and has no minus sign. -/
theorem below?_signed (bound : Nat) (n : Int) :
    below? bound (signed n) = if 0 ≤ n ∧ n < bound then some n.toNat else none := by
  cases n with
  | ofNat n =>
    rw [signed, below?_of_isDigit bound fun _ => isDigit_of_mem_digits, nat?_digits]
    by_cases h : n < bound
    · simp [h]
    · simp [h, Nat.le_of_not_lt h]
  | negSucc n =>
    rw [if_neg fun h => absurd h.1 (Int.not_le.2 (Int.negSucc_lt_zero n))]
    simp [below?, signed, nat?]

/-- A numeral is read as its number where 64 bits hold it. -/
theorem int64_signed (n : Int) : int64 (signed n) =
    if isInt64 n then .ok n else .error (if n < 0 then .tooSmall else .tooLarge) := by
  cases n with
  | ofNat n =>
    have hnonneg : ¬ Int.ofNat n < 0 := Int.not_lt.2 (Int.natCast_nonneg n)
    have hread := nat?_digits n
    obtain ⟨d, ds, hds, hd⟩ := exists_digits_eq_cons n
    have hminus : d ≠ '-' := ne_of_isDigit hd rfl
    have hplus : d ≠ '+' := ne_of_isDigit hd rfl
    rw [if_neg hnonneg, signed, hds]
    rw [hds] at hread
    simp [int64, hminus, hplus, hread]
  | negSucc n =>
    rw [if_pos (Int.negSucc_lt_zero n), signed]
    simp only [int64, nat?_digits]
    rfl

theorem isInt64_toInt (x : Int64) : isInt64 x.toInt = true := by
  rw [isInt64, Bool.and_eq_true, decide_eq_true_eq, decide_eq_true_eq]
  exact ⟨x.minValue_le_toInt, x.toInt_le⟩

end KeyedImages.Text.Numeral
