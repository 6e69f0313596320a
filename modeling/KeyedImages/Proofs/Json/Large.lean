import KeyedImages.Proofs.Decimal.Large
import KeyedImages.Proofs.Json.Values

/-! Whole numbers that 64 bits do not hold: as floating-point numbers they are still large, or there
is no such number. -/
namespace KeyedImages.Json.Number

open Decimal (AtLeast)
open Text.Numeral (digits digitValue value)

variable {m n : Nat}

theorem digitValue_le {c : Char} (h : c.isDigit = true) : digitValue c ≤ 9 := by
  simp only [Char.isDigit, Bool.and_eq_true, decide_eq_true_eq, UInt32.le_iff_toNat_le] at h
  exact Nat.sub_le_of_le_add h.2

/-- What digits are taken into stays below 64 bits. Unless all of them fit, one more would not
have. -/
theorem absorb_spec (ds : List Char) (hm : m < UInt64.size) :
    (absorb m ds).1 < UInt64.size ∧
      ((absorb m ds).1 = ds.foldl (fun n c => 10 * n + digitValue c) m ∨
        ∃ c ∈ ds, UInt64.size ≤ 10 * (absorb m ds).1 + digitValue c) := by
  induction ds generalizing m with
  | nil => exact ⟨hm, .inl rfl⟩
  | cons c ds ih =>
    rw [absorb]
    split
    · next hnext =>
      obtain ⟨hlt, hend⟩ := ih hnext
      refine ⟨hlt, hend.imp id ?_⟩
      rintro ⟨d, hd, hfull⟩
      exact ⟨d, List.mem_cons_of_mem c hd, hfull⟩
    · next hnext => exact ⟨hm, .inr ⟨c, List.mem_cons_self, Nat.le_of_not_lt hnext⟩⟩

/-- The digits that are taken of a large number make a number that is still large. -/
theorem absorb_digits (h : 2 ^ 63 ≤ n) :
    2 ^ 32 ≤ (absorb 0 (digits n)).1 ∧ (absorb 0 (digits n)).1 < UInt64.size := by
  obtain ⟨hlt, hall | ⟨c, hc, hfull⟩⟩ := absorb_spec (digits n) (m := 0) (by decide)
  · refine ⟨?_, hlt⟩
    rw [hall, ← value, Text.Numeral.value_digits]
    omega
  · have hdigit := digitValue_le (Text.Numeral.isDigit_of_mem_digits hc)
    unfold UInt64.size at *
    exact ⟨by omega, hlt⟩

/-- A large number times a power of ten that is not below one is still large, if there is one. -/
theorem scale_spec (hlow : 2 ^ 32 ≤ m) (hhigh : m < UInt64.size) :
    scale m n = none ∨ ∃ f, scale m n = some f ∧ AtLeast 32 f := by
  have hm : 2 ^ 32 ≤ (UInt64.ofNat m).toNat := by
    rwa [UInt64.toNat_ofNat_of_lt' hhigh]
  unfold scale
  dsimp only
  split
  · rw [if_neg (by omega)]
    exact .inl rfl
  · next hn =>
    have hproduct : AtLeast (32 + 0) ((UInt64.ofNat m).toFloat * powerOfTen n) :=
      (Decimal.atLeast_toFloat hm).mul (by decide) (Decimal.atLeast_powerOfTen (by omega))
    rw [if_pos (Int.natCast_nonneg n), Int.toNat_natCast]
    split
    · exact .inl rfl
    · exact .inr ⟨_, rfl, hproduct⟩

/-- A number that is large on either side of zero is a large floating-point number, if any. -/
theorem float?_ofInt {n : Int} (h : 2 ^ 63 ≤ n.natAbs) :
    (ofInt n).float? = none ∨
      ∃ f, AtLeast 32 f ∧ (ofInt n).float? = some (if n < 0 then -f else f) := by
  have hread : (ofInt n).float? =
      (scale (absorb 0 (digits n.natAbs)).1 (absorb 0 (digits n.natAbs)).2.length).map
        fun f => if n < 0 then -f else f := by
    cases n with
    | ofNat n =>
      have hnonneg : ¬ Int.ofNat n < 0 := Int.not_lt.2 (Int.natCast_nonneg n)
      simp only [if_neg hnonneg]
      simp [float?, ofInt, absorb]
    | negSucc n => simp [float?, ofInt, absorb, Int.negSucc_lt_zero]
  obtain ⟨hlow, hhigh⟩ := absorb_digits h
  rw [hread]
  rcases scale_spec (n := (absorb 0 (digits n.natAbs)).2.length) hlow hhigh with
    hnone | ⟨f, hf, hlarge⟩
  · rw [hnone]
    exact .inl rfl
  · rw [hf]
    exact .inr ⟨f, hlarge, rfl⟩

end KeyedImages.Json.Number
