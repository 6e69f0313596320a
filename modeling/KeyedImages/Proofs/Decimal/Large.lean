import KeyedImages.Decimal.Whole
import KeyedImages.Json.Number
import Mathlib

/-! Binary floating-point numbers that are not below a power of two, told from their bits. Rounding
and products keep them there. -/
namespace KeyedImages.Decimal

open Float.Model Float.Model.UnpackedFloat

variable {k l m n : Nat} {e : Int} {f g : Float} {u v : UnpackedFloat}

/-- A number is not below a power of two. It may be infinite. -/
def AtLeast (k : Nat) (f : Float) : Prop :=
  (1023 + k) * leadingBit ≤ f.toBits.toNat ∧ f.toBits.toNat ≤ lastExponent * leadingBit

instance : Decidable (AtLeast k f) := instDecidableAnd

/-- A positive number in normal form that is not below a power of two, or infinity. -/
inductive Reaches (k : Nat) : UnpackedFloat → Prop
  | infinite : Reaches k (.infinity .positive)
  | normal {m : Nat} {e : Int} (pos : 0 < m) (normal : m.log2 = 52) (bound : k ≤ e + 52) :
    Reaches k (.finite .positive m e pos)

theorem log2_eq_52 : m.log2 = 52 ↔ leadingBit ≤ m ∧ m < 2 * leadingBit := by
  rcases Nat.eq_zero_or_pos m with rfl | hpos
  · simp [leadingBit]
  · rw [Nat.log2_eq_iff (by omega)]
    rfl

section Bits

variable {b : BitVec Format.binary64.numBits}

theorem toNat_unpackExponent :
    (unpackExponent b).toNat = b.toNat / leadingBit % (lastExponent + 1) := by
  simp [unpackExponent, Nat.shiftRight_eq_div_pow, leadingBit, lastExponent]

theorem toNat_unpackMantissa : (unpackMantissa b).toNat = b.toNat % leadingBit := by
  simp [unpackMantissa, leadingBit]

theorem toNat_unpackSign : (unpackSign b).toNat = b.toNat / (2048 * leadingBit) % 2 := by
  simp [unpackSign, Nat.shiftRight_eq_div_pow, leadingBit]

theorem toNat_packComponents (sign : Sign) (exponent : BitVec Format.binary64.exponentBits)
    (mantissa : BitVec Format.binary64.mantissaBitsWithoutImplicit) :
    (packComponents Format.binary64 sign exponent mantissa).toNat =
      sign.toBitVec.toNat * (2048 * leadingBit) + exponent.toNat * leadingBit + mantissa.toNat := by
  have hexponent : exponent.toNat < 2 ^ 11 := exponent.isLt
  have hmantissa : mantissa.toNat < 2 ^ 52 := mantissa.isLt
  rw [packComponents, BitVec.toNat_append, BitVec.toNat_append,
    ← Nat.shiftLeft_add_eq_or_of_lt hexponent, ← Nat.shiftLeft_add_eq_or_of_lt hmantissa,
    Nat.shiftLeft_eq, Nat.shiftLeft_eq, leadingBit]
  omega

/-- Bits from those of a power of two up to those of infinity. -/
theorem reaches_unpack (hlow : (1023 + k) * leadingBit ≤ b.toNat)
    (hhigh : b.toNat ≤ lastExponent * leadingBit) :
    Reaches k (UnpackedFloat.unpack Format.binary64 b) := by
  have hexponent := toNat_unpackExponent (b := b)
  have hmantissa := toNat_unpackMantissa (b := b)
  have hsign : Sign.ofBitVec (unpackSign b) = .positive := by
    rw [Sign.ofBitVec, if_pos]
    apply BitVec.eq_of_toNat_eq
    rw [toNat_unpackSign]
    simp only [leadingBit, lastExponent, BitVec.toNat_ofNat] at *
    omega
  unfold UnpackedFloat.unpack
  simp only [hsign]
  split
  · next hlast =>
    have hzero : unpackMantissa b = 0#_ := by
      have hlast := congrArg BitVec.toNat hlast
      apply BitVec.eq_of_toNat_eq
      rw [hexponent] at hlast
      rw [hmantissa]
      simp only [leadingBit, lastExponent, BitVec.toNat_neg, BitVec.toNat_ofNat] at *
      omega
    rw [if_pos hzero]
    exact .infinite
  · next hlast =>
    split
    · next hnone =>
      have hnone := congrArg BitVec.toNat hnone
      rw [hexponent] at hnone
      simp only [leadingBit, lastExponent, BitVec.toNat_ofNat] at *
      omega
    · refine .normal _ ?_ ?_
      · have hfraction : (unpackMantissa b).toNat < 2 ^ 52 := (unpackMantissa b).isLt
        rw [log2_eq_52, BitVec.toNat_append, ← Nat.shiftLeft_add_eq_or_of_lt hfraction,
          Nat.shiftLeft_eq, leadingBit, BitVec.toNat_ofNat]
        omega
      · rw [hexponent, show ((Format.binary64.exponentBias : Int) +
          Format.binary64.mantissaBitsWithoutImplicit) = 1075 from rfl]
        have hbelow : b.toNat / leadingBit < lastExponent + 1 := by
          simp only [leadingBit, lastExponent] at *
          omega
        rw [Nat.mod_eq_of_lt hbelow]
        simp only [leadingBit, lastExponent] at *
        omega

/-- What is packed from a power of two on has the bits of it. -/
theorem toNat_pack (hk : k ≤ 1024) (h : Reaches k u) :
    (1023 + k) * leadingBit ≤ (UnpackedFloat.pack Format.binary64 u).toNat ∧
      (UnpackedFloat.pack Format.binary64 u).toNat ≤ lastExponent * leadingBit := by
  have hinfinity : (packedInfinity Format.binary64 .positive).toNat = lastExponent * leadingBit :=
    rfl
  cases h with
  | infinite =>
    rw [UnpackedFloat.pack, hinfinity]
    simp only [leadingBit, lastExponent]
    omega
  | @normal m e pos normal bound =>
    have hbias : e + Format.binary64.exponentBias + Format.binary64.mantissaBitsWithoutImplicit =
      e + 1075 := add_assoc e 1023 52
    have hbits : m.log2 + 1 = Format.binary64.mantissaBits := by rw [normal]; rfl
    obtain ⟨hlow, hhigh⟩ := log2_eq_52.1 normal
    simp only [UnpackedFloat.pack, hbias, if_pos hbits]
    split
    · rw [hinfinity]
      simp only [leadingBit, lastExponent]
      omega
    · next hfinite =>
      have hexponent : (BitVec.ofNat 11 (e + 1075).toNat).toNat = (e + 1075).toNat :=
        Nat.mod_eq_of_lt (by omega)
      have hfraction : (BitVec.ofNat 52 m).toNat = m - leadingBit := by
        rw [BitVec.toNat_ofNat]
        simp only [leadingBit] at *
        omega
      rw [toNat_packComponents, hexponent, hfraction]
      simp only [Sign.toBitVec, BitVec.toNat_ofNat, leadingBit, lastExponent] at *
      omega

end Bits

section Rounding

theorem mantissa_shiftRight (x : ExtendedMantissa) (n : Nat) :
    (x >>> n).mantissa = x.mantissa / 2 ^ n := by
  change (n.repeat ExtendedMantissa.shiftRightOne x).mantissa = _
  induction n with
  | zero => exact (Nat.div_one _).symm
  | succ n ih =>
    rw [Nat.repeat, ExtendedMantissa.shiftRightOne, ih, Nat.div_div_eq_div_mul, ← Nat.pow_succ]

theorem roundedMantissa_bounds (x : ExtendedMantissa) :
    x.mantissa ≤ x.roundedMantissa ∧ x.roundedMantissa ≤ x.mantissa + 1 := by
  obtain ⟨m, roundBit, stickyBit⟩ := x
  unfold ExtendedMantissa.roundedMantissa
  cases roundBit <;> cases stickyBit <;>
    simp [ExtendedMantissa.accuracy, Accuracy.roundToNearestEven]
  omega

theorem log2_cutDown (h : 52 ≤ m.log2) : (m / 2 ^ (m.log2 - 52)).log2 = 52 := by
  have hpos : 0 < 2 ^ (m.log2 - 52) := Nat.two_pow_pos _
  have hsplit : leadingBit * 2 ^ (m.log2 - 52) = 2 ^ m.log2 := by
    rw [show leadingBit = 2 ^ 52 from rfl, ← Nat.pow_add, Nat.add_sub_cancel' h]
  have hm : m ≠ 0 := by
    rintro rfl
    simp at h
  rw [log2_eq_52, Nat.le_div_iff_mul_le hpos, Nat.div_lt_iff_lt_mul hpos, Nat.mul_assoc, hsplit]
  exact ⟨Nat.log2_self_le hm, by rw [mul_comm, ← Nat.pow_succ]; exact Nat.lt_log2_self⟩

/-- A mantissa of 53 bits or more is cut down to 53, unless the exponent is too small for that. -/
theorem cutDown_facts (h : 52 ≤ m.log2) (he : -1022 ≤ m.log2 + e) :
    (shiftToTargetExponent Format.binary64 m e .exact).1.mantissa.log2 = 52 ∧
      (shiftToTargetExponent Format.binary64 m e .exact).2 + 52 = m.log2 + e := by
  have hshift : (Format.binary64.targetExponent (totalExponent m e) - e).toNat = m.log2 - 52 := by
    simp only [Format.targetExponent, totalExponent, Format.mantissaBits, Format.minExponent]
    omega
  simp only [shiftToTargetExponent, shiftToExponent, hshift,
    ExtendedMantissa.ofMantissaAndAccuracy, mantissa_shiftRight]
  exact ⟨log2_cutDown h, by omega⟩

/-- Rounding does not lead below a power of two. -/
theorem reaches_round (h : 52 ≤ m.log2) (hk : k ≤ m.log2 + e) :
    Reaches k (roundWithAccuracy Format.binary64 .positive m e .exact) := by
  unfold roundWithAccuracy
  obtain ⟨hmantissa, hexponent⟩ := cutDown_facts (e := e) h (by omega)
  generalize shiftToTargetExponent Format.binary64 m e .exact = cut at *
  obtain ⟨x, e'⟩ := cut
  dsimp only at *
  -- The rounded mantissa may have one bit more than the one that was cut down.
  have hx : leadingBit ≤ x.roundedMantissa :=
    (log2_eq_52.1 hmantissa).1.trans (roundedMantissa_bounds x).1
  have hr : 52 ≤ x.roundedMantissa.log2 := by
    rw [Nat.le_log2 (by unfold leadingBit at hx; omega)]
    exact hx
  obtain ⟨hlast, hexponent'⟩ := cutDown_facts (e := e') hr (by omega)
  have hne :
      (shiftToTargetExponent Format.binary64 x.roundedMantissa e' .exact).1.mantissa ≠ 0 := by
    intro hzero
    rw [hzero] at hlast
    simp at hlast
  rw [dif_neg hne]
  exact .normal _ hlast (by omega)

theorem reaches_mul (hu : Reaches k u) (hv : Reaches l v) :
    Reaches (k + l) (UnpackedFloat.mul Format.binary64 u v) := by
  cases hu with
  | infinite => cases hv <;> exact .infinite
  | @normal m e hm hm' hk =>
    cases hv with
    | infinite => exact .infinite
    | @normal n e' hn hn' hl =>
      have hproduct : leadingBit * leadingBit ≤ m * n :=
        Nat.mul_le_mul (log2_eq_52.1 hm').1 (log2_eq_52.1 hn').1
      have hlog : 104 ≤ (m * n).log2 := (Nat.le_log2 (Nat.mul_pos hm hn).ne').2 hproduct
      exact reaches_round (by omega) (by push_cast; omega)

/-- A natural number reaches the powers of two that it is not below. -/
theorem reaches_ofNat (h : 2 ^ k ≤ n) : Reaches k (UnpackedFloat.ofNat Format.binary64 n) := by
  have hpos : 0 < n := (Nat.two_pow_pos k).trans_le h
  have hcompare : Ord.compare (n : Int) 0 = .gt :=
    compare_gt_iff_gt.2 (Int.natCast_pos.2 hpos)
  have hshift : (0 - Format.binary64.targetExponent (totalExponent n 0)).toNat = 52 - n.log2 := by
    simp only [Format.targetExponent, totalExponent, Format.mantissaBits, Format.minExponent]
    omega
  simp only [UnpackedFloat.ofNat, UnpackedFloat.ofInt, UnpackedFloat.normalize, hcompare,
    UnpackedFloat.round, decreaseExponent, hshift, Int.toNat_natCast, Nat.shiftLeft_eq]
  have hne : n * 2 ^ (52 - n.log2) ≠ 0 := (Nat.mul_pos hpos (Nat.two_pow_pos _)).ne'
  have hlog : ∀ j, 2 ^ j ≤ n → j + (52 - n.log2) ≤ (n * 2 ^ (52 - n.log2)).log2 := by
    intro j hj
    rw [Nat.le_log2 hne, Nat.pow_add]
    exact Nat.mul_le_mul_right _ hj
  have hself := hlog n.log2 (Nat.log2_self_le hpos.ne')
  have hk := hlog k h
  exact reaches_round (by omega) (by omega)

end Rounding

section Numbers

theorem atLeast_ofModel (hk : k ≤ 1024) (h : Reaches k u) :
    AtLeast k (.ofModel (Float.Model.pack u)) := toNat_pack hk h

theorem AtLeast.reaches (h : AtLeast k f) : Reaches k f.toModel.unpack := reaches_unpack h.1 h.2

theorem AtLeast.mul (hkl : k + l ≤ 1024) (hf : AtLeast k f) (hg : AtLeast l g) :
    AtLeast (k + l) (f * g) :=
  atLeast_ofModel hkl (reaches_mul hf.reaches hg.reaches)

theorem atLeast_toFloat {i : UInt64} (h : 2 ^ k ≤ i.toNat) : AtLeast k i.toFloat := by
  have hk : k < 64 := (Nat.pow_lt_pow_iff_right (by decide)).1 (h.trans_lt i.toNat_lt)
  exact atLeast_ofModel (by omega) (reaches_ofNat h)

theorem reaches_ofScientific (h : n ≤ 308) :
    Reaches 0 (UnpackedFloat.ofScientific Format.binary64 1 n) := by
  have hlarge : ¬ (n : Int) > 2 ^ Format.binary64.exponentBits := by
    change ¬ (n : Int) > 2048
    omega
  have hsmall : ¬ (n : Int) < -((2 ^ Format.binary64.exponentBits : Int) + Nat.log2 1) := by
    change ¬ (n : Int) < -2048
    omega
  rw [UnpackedFloat.ofScientific, dif_neg (by decide), if_neg hlarge, if_neg hsmall,
    if_pos (Int.natCast_nonneg n), UnpackedFloat.mul, Int.toNat_natCast]
  have hproduct : 2 ^ 53 * 1 ≤ 1 <<< Format.binary64.mantissaBits * 10 ^ n :=
    Nat.mul_le_mul_left _ (Nat.pow_pos (by decide))
  have hlog : 53 ≤ (1 <<< Format.binary64.mantissaBits * 10 ^ n).log2 :=
    (Nat.le_log2 (by omega)).2 hproduct
  exact reaches_round (by omega) (by change (0 : Int) ≤ _ + (-53 + 0); omega)

/-- The powers of ten that are in use are not below one. -/
theorem atLeast_powerOfTen (h : n ≤ 308) : AtLeast 0 (Json.Number.powerOfTen n) := by
  rcases Nat.lt_or_ge 22 n with hlarge | hsmall
  · rw [Json.Number.powerOfTen, Float.ofScientific, dif_neg (by omega)]
    exact atLeast_ofModel (by decide) (reaches_ofScientific h)
  · have all : ∀ n ≤ 22, AtLeast 0 (Json.Number.powerOfTen n) := by decide +kernel
    exact all n hsmall

theorem isNegative_iff : isNegative f = true ↔ 2048 * leadingBit ≤ f.toBits.toNat := by
  have hlt := f.toBits.toNat_lt
  have hsign : (f.toBits >>> 63).toNat = f.toBits.toNat / 2 ^ 63 := by
    rw [UInt64.toNat_shiftRight, Nat.shiftRight_eq_div_pow, UInt64.toNat_ofNat]
  rw [isNegative, beq_iff_eq, ← UInt64.toNat_inj, hsign, UInt64.toNat_one]
  simp only [leadingBit]
  omega

theorem isNegative_neg (h : AtLeast k f) : isNegative (-f) = true := by
  have hsign : ∀ exponent mantissa, 2048 * leadingBit ≤
      (packComponents Format.binary64 .negative exponent mantissa).toNat := by
    intro exponent mantissa
    rw [toNat_packComponents, Sign.toBitVec, BitVec.toNat_one (by decide)]
    omega
  rw [isNegative_iff]
  change _ ≤ (UnpackedFloat.pack Format.binary64 f.toModel.unpack.neg).toNat
  have hreaches := h.reaches
  generalize f.toModel.unpack = u at hreaches
  cases hreaches with
  | infinite => exact hsign _ _
  | normal =>
    simp only [UnpackedFloat.neg, UnpackedFloat.pack]
    split_ifs
    · exact hsign _ _
    · exact hsign _ _
    · exact hsign _ _

/-- Behind a minus sign there is nothing but zero to round to. -/
theorem AtLeast.nearestBelow_neg (h : AtLeast k f) (bound : Nat) : nearestBelow bound (-f) = 0 := by
  unfold nearestBelow
  rw [isNegative_neg h]
  split <;> rfl

theorem le_rounded {b : Binary} (hm : leadingBit ≤ b.mantissa) (hk : k ≤ b.exponent + 52) :
    2 ^ k ≤ b.rounded := by
  have hpowers : 2 ^ k * 2 ^ (-b.exponent).toNat ≤ leadingBit * 2 ^ b.exponent.toNat := by
    rw [show leadingBit = 2 ^ 52 from rfl, ← Nat.pow_add, ← Nat.pow_add]
    exact Nat.pow_le_pow_right (by decide) (by omega)
  have hmantissa := Nat.mul_le_mul_right (2 ^ b.exponent.toNat) hm
  unfold Binary.rounded
  simp only [Nat.shiftLeft_eq, one_mul]
  rw [Nat.le_div_iff_mul_le (by positivity), Nat.mul_left_comm]
  exact (Nat.mul_le_mul_left 2 (hpowers.trans hmantissa)).trans (Nat.le_add_right _ _)

/-- The nearest number below a bound is not below a power of two, if the bound is above it. -/
theorem AtLeast.le_nearestBelow (h : AtLeast k f) {bound : Nat} (hbound : 2 ^ k < bound) :
    2 ^ k ≤ nearestBelow bound f := by
  obtain ⟨hlow, hhigh⟩ := h
  have hpositive : isNegative f = false := by
    rw [← Bool.not_eq_true, isNegative_iff]
    simp only [leadingBit, lastExponent] at *
    omega
  have hbiased :
      f.toBits.toNat / leadingBit % (lastExponent + 1) = f.toBits.toNat / leadingBit := by
    simp only [leadingBit, lastExponent] at *
    omega
  by_cases hlast : f.toBits.toNat / leadingBit = lastExponent
  · have hfraction : f.toBits.toNat % leadingBit = 0 := by
      simp only [leadingBit, lastExponent] at *
      omega
    have hinfinite : magnitude f = .infinite := by
      simp only [magnitude, hbiased, if_pos hlast, if_pos hfraction]
    simp only [nearestBelow, hinfinite, hpositive]
    exact Nat.le_sub_one_of_lt hbound
  · have hnone : f.toBits.toNat / leadingBit ≠ 0 := by
      simp only [leadingBit] at *
      omega
    have hexponent : (k : Int) ≤ (f.toBits.toNat / leadingBit : Nat) - 1075 + 52 := by
      simp only [leadingBit] at *
      omega
    simp only [nearestBelow, magnitude, hbiased, if_neg hlast, if_neg hnone, hpositive,
      Bool.false_eq_true, if_false]
    apply le_min
    · apply le_rounded
      · dsimp only
        exact Nat.le_add_left _ _
      · dsimp only
        exact hexponent
    · exact Nat.le_sub_one_of_lt hbound

end Numbers

end KeyedImages.Decimal
