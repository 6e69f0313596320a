import KeyedImages.Settings.Basic
import Mathlib

/-! The key of a service is never empty: it is the configured one, or one made of a draw, in which
all bits but the marks are as drawn. -/
namespace KeyedImages

namespace ServiceKey

variable {a b : UInt8} {bs bs' : List UInt8} {c : Char} {draw draw' : Draw} {m n : Nat}

section Digits

theorem isLowerHex_hexDigit (h : n < 16) : isLowerHex (Text.hexDigit n) = true := by
  have all : ∀ k < 16, isLowerHex (Text.hexDigit k) = true := by decide
  exact all n h

theorem utf8Size_hexDigit (h : n < 16) : (Text.hexDigit n).utf8Size = 1 := by
  have all : ∀ k < 16, (Text.hexDigit k).utf8Size = 1 := by decide
  exact all n h

theorem hexDigit_inj (hm : m < 16) (hn : n < 16) (h : Text.hexDigit m = Text.hexDigit n) :
    m = n := by
  have all : ∀ j < 16, ∀ k < 16, Text.hexDigit j = Text.hexDigit k → j = k := by decide
  exact all m hm n hn h

/-- Both digits of a byte are below sixteen. -/
theorem toNat_div_lt (a : UInt8) : a.toNat / 16 < 16 := by
  have hlt := a.toNat_lt
  omega

theorem hexByte_inj (h : hexByte a = hexByte b) : a = b := by
  simp only [hexByte, List.cons.injEq, and_true] at h
  obtain ⟨hhigh, hlow⟩ := h
  have hdiv := hexDigit_inj (toNat_div_lt a) (toNat_div_lt b) hhigh
  have hmod := hexDigit_inj (Nat.mod_lt _ (by omega)) (Nat.mod_lt _ (by omega)) hlow
  apply UInt8.toNat_inj.1
  omega

theorem hexBytes_inj (h : bs.flatMap hexByte = bs'.flatMap hexByte) : bs = bs' := by
  induction bs generalizing bs' with
  | nil =>
    cases bs' with
    | nil => rfl
    | cons b' bs' => simp [hexByte] at h
  | cons b bs ih =>
    cases bs' with
    | nil => simp [hexByte] at h
    | cons b' bs' =>
      obtain ⟨hfirst, hrest⟩ := List.append_inj h rfl
      rw [hexByte_inj hfirst, ih hrest]

theorem length_hexBytes (bs : List UInt8) : (bs.flatMap hexByte).length = 2 * bs.length := by
  induction bs with
  | nil => rfl
  | cons b bs ih =>
    simp only [List.flatMap_cons, List.length_append, List.length_cons, ih, hexByte,
      List.length_nil]
    omega

theorem exists_hexDigit_of_mem (h : c ∈ bs.flatMap hexByte) : ∃ n < 16, c = Text.hexDigit n := by
  obtain ⟨b, -, hc⟩ := List.mem_flatMap.1 h
  rcases List.mem_pair.1 hc with rfl | rfl
  · exact ⟨_, toNat_div_lt b, rfl⟩
  · exact ⟨_, Nat.mod_lt _ (by omega), rfl⟩

/-- The digits at even positions are the upper halves of the bytes. -/
theorem getElem?_hexBytes (bs : List UInt8) (i : Nat) :
    (bs.flatMap hexByte)[2 * i]? = bs[i]?.map fun b => Text.hexDigit (b.toNat / 16) := by
  induction bs generalizing i with
  | nil => rfl
  | cons b bs ih =>
    cases i with
    | zero => rfl
    | succ i => exact ih i

end Digits

section Marks

/-- A bit of a draw: its byte, and its place there from the lowest up. -/
abbrev Bit := Fin 16 × Fin 8

def isSet (draw : Draw) (bit : Bit) : Bool := draw[bit.1].toNat.testBit bit.2

/-- The bits outside of the upper half of byte 6, which says the version, and the upper two bits of
byte 8, which say the variant. -/
def freeBits : List Bit :=
  (List.product (List.finRange 16) (List.finRange 8)).filter fun (i, j) =>
    ¬ (i = 6 ∧ 4 ≤ j) ∧ ¬ (i = 8 ∧ 6 ≤ j)

/-- The bits of a byte that stay as drawn. -/
def kept (i : Fin 16) : UInt8 := if i = 6 then 0x0f else if i = 8 then 0x3f else 0xff

/-- The bits of a byte that are set whatever is drawn. -/
def mark (i : Fin 16) : UInt8 := if i = 6 then 0x40 else if i = 8 then 0x80 else 0

theorem getElem_marked (draw : Draw) (i : Fin 16) :
    (marked draw)[i] = draw[i] &&& kept i ||| mark i := by
  by_cases hvariant : i = 8
  · subst hvariant
    simp [marked, kept, mark]
  · by_cases hversion : i = 6
    · subst hversion
      simp [marked, kept, mark]
    · have h8 : 8 ≠ i.val := fun h => hvariant (Fin.ext h.symm)
      have h6 : 6 ≠ i.val := fun h => hversion (Fin.ext h.symm)
      have hwhole : draw[i] &&& 255 = draw[i] := by
        apply UInt8.toNat_inj.1
        rw [UInt8.toNat_and]
        exact (Nat.and_two_pow_sub_one_eq_mod _ 8).trans (Nat.mod_eq_of_lt (UInt8.toNat_lt _))
      simpa [marked, kept, mark, h8, h6, hversion, hvariant] using hwhole.symm

theorem testBit_kept (i : Fin 16) (j : Fin 8) :
    (kept i).toNat.testBit j = decide ((i, j) ∈ freeBits) := by
  revert i j
  decide

theorem testBit_mark {i : Fin 16} {j : Fin 8} (h : (i, j) ∈ freeBits) :
    (mark i).toNat.testBit j = false := by
  revert i j
  decide

/-- A mark stands in each bit that is not free. -/
theorem isSet_marked (draw : Draw) (i : Fin 16) (j : Fin 8) : isSet (marked draw) (i, j) =
    if (i, j) ∈ freeBits then isSet draw (i, j) else (mark i).toNat.testBit j := by
  simp only [isSet, getElem_marked, UInt8.toNat_or, UInt8.toNat_and, Nat.testBit_or,
    Nat.testBit_and, testBit_kept]
  by_cases h : (i, j) ∈ freeBits
  · simp [h, testBit_mark h]
  · simp [h]

theorem eq_of_isSet (h : ∀ bit, isSet draw bit = isSet draw' bit) : draw = draw' := by
  apply Vector.ext
  intro i hi
  apply UInt8.toNat_inj.1
  apply Nat.eq_of_testBit_eq
  intro j
  by_cases hj : j < 8
  · exact h (⟨i, hi⟩, ⟨j, hj⟩)
  · have hbound (x : UInt8) : x.toNat.testBit j = false :=
      Nat.testBit_lt_two_pow (x.toNat_lt.trans_le (Nat.pow_le_pow_right (by omega) (by omega)))
    rw [hbound, hbound]

theorem marked_eq_iff :
    marked draw = marked draw' ↔ ∀ bit ∈ freeBits, isSet draw bit = isSet draw' bit := by
  constructor
  · rintro h ⟨i, j⟩ hfree
    have hbit := congrArg (isSet · (i, j)) h
    simpa only [isSet_marked, if_pos hfree] using hbit
  · intro h
    apply eq_of_isSet
    rintro ⟨i, j⟩
    rw [isSet_marked, isSet_marked]
    split
    · next hfree => exact h _ hfree
    · rfl

/-- The upper half of byte 6 is the version. -/
theorem version_digit (a : UInt8) : Text.hexDigit ((a &&& 0x0f ||| 0x40).toNat / 16) = '4' := by
  have hhigh : (a.toNat &&& 15 ||| 64) / 2 ^ 4 = 4 := by
    rw [← Nat.shiftRight_eq_div_pow, Nat.shiftRight_or_distrib, Nat.shiftRight_and_distrib]
    simp
  rw [UInt8.toNat_or, UInt8.toNat_and]
  exact congrArg Text.hexDigit hhigh

/-- The upper half of byte 8 is the variant and two bits that are drawn. -/
theorem variant_digit (a : UInt8) :
    Text.hexDigit ((a &&& 0x3f ||| 0x80).toNat / 16) ∈ ['8', '9', 'a', 'b'] := by
  have hhigh : (a.toNat &&& 63 ||| 128) / 2 ^ 4 = (a.toNat >>> 4) % 2 ^ 2 ||| 8 := by
    rw [← Nat.shiftRight_eq_div_pow, Nat.shiftRight_or_distrib, Nat.shiftRight_and_distrib,
      ← Nat.and_two_pow_sub_one_eq_mod]
    rfl
  have all : ∀ k < 4, Text.hexDigit (k ||| 8) ∈ ['8', '9', 'a', 'b'] := by decide
  rw [UInt8.toNat_or, UInt8.toNat_and]
  change Text.hexDigit ((a.toNat &&& 63 ||| 128) / 2 ^ 4) ∈ _
  rw [hhigh]
  exact all _ (Nat.mod_lt _ (by omega))

end Marks

section Generated

/-- The digits of the key of a draw. -/
def keyDigits (draw : Draw) : List Char := (marked draw).toList.flatMap hexByte

theorem toList_generate (draw : Draw) :
    (generate draw).1.secret.toList = generatedStart.toList ++ keyDigits draw :=
  String.toList_ofList

theorem length_keyDigits (draw : Draw) : (keyDigits draw).length = 32 := by
  rw [keyDigits, length_hexBytes, Vector.length_toList]

theorem isLowerHex_of_mem_keyDigits (h : c ∈ keyDigits draw) : isLowerHex c = true := by
  obtain ⟨n, hn, rfl⟩ := exists_hexDigit_of_mem h
  exact isLowerHex_hexDigit hn

theorem version_keyDigits (draw : Draw) : (keyDigits draw)[12]? = some '4' := by
  have hbyte : (marked draw).toList[6]? = some (draw[6] &&& 0x0f ||| 0x40) := by
    simp [marked]
  rw [keyDigits, getElem?_hexBytes _ 6, hbyte, Option.map_some, version_digit]

theorem variant_keyDigits (draw : Draw) :
    ∃ c ∈ ['8', '9', 'a', 'b'], (keyDigits draw)[16]? = some c := by
  have hbyte : (marked draw).toList[8]? = some (draw[8] &&& 0x3f ||| 0x80) := by
    simp [marked]
  refine ⟨_, variant_digit draw[8], ?_⟩
  rw [keyDigits, getElem?_hexBytes _ 8, hbyte, Option.map_some]

/-- A character of a key takes one byte. -/
theorem utf8ByteSize_generate (draw : Draw) : (generate draw).1.secret.utf8ByteSize = 36 := by
  have hsize (cs : List Char) (h : ∀ c ∈ cs, c.utf8Size = 1) : String.utf8Len cs = cs.length := by
    induction cs with
    | nil => rfl
    | cons c cs ih =>
      obtain ⟨hc, hcs⟩ := List.forall_mem_cons.1 h
      rw [String.utf8Len_cons, hc, ih hcs, List.length_cons]
  have hchars : ∀ c ∈ generatedChars draw, c.utf8Size = 1 := by
    intro c hc
    rcases List.mem_append.1 hc with hstart | hdigit
    · have all : ∀ c ∈ generatedStart.toList, c.utf8Size = 1 := by
        simp [generatedStart, Char.utf8Size]
      exact all c hstart
    · obtain ⟨n, hn, rfl⟩ := exists_hexDigit_of_mem hdigit
      exact utf8Size_hexDigit hn
  have hlength : (generatedChars draw).length = 36 := by
    rw [generatedChars, List.length_append]
    exact congrArg (4 + ·) (length_keyDigits draw)
  rw [generate, String.utf8ByteSize_ofList, hsize _ hchars, hlength]

/-- A generated key has the form of one. -/
theorem form_generate (draw : Draw) : (generate draw).1.form = ⟨36, true, true, true⟩ := by
  have hstarted : generatedStart.toList.isPrefixOf (generatedStart.toList ++ keyDigits draw) =
      true := List.isPrefixOf_iff_prefix.2 (List.prefix_append _ _)
  have hall : (keyDigits draw).all isLowerHex = true :=
    List.all_eq_true.2 fun _ => isLowerHex_of_mem_keyDigits
  obtain ⟨c, hc, hvariant⟩ := variant_keyDigits draw
  simp only [form, toList_generate, utf8ByteSize_generate, hstarted, List.drop_left,
    length_keyDigits, hall, version_keyDigits, hvariant, Option.any_some,
    List.contains_iff_mem.2 hc]
  rfl

theorem generate_eq_iff : (generate draw).1 = (generate draw').1 ↔ marked draw = marked draw' := by
  constructor
  · intro h
    have hchars := congrArg (fun key : ServiceKey => key.secret.toList) h
    simp only [toList_generate] at hchars
    exact Vector.toList_inj.1 (hexBytes_inj (List.append_cancel_left hchars))
  · intro h
    simp only [generate, generatedChars, h]

/-- A generated key starts with its mark, so there is something in it. -/
theorem isProvisioned_generate (draw : Draw) : (generate draw).1.isProvisioned = true := by
  apply bne_iff_ne.2
  intro hempty
  have hsize := utf8ByteSize_generate draw
  rw [hempty] at hsize
  cases hsize

end Generated

end ServiceKey

namespace Settings

open ServiceKey

variable {s : Settings} {secret : String}

theorem serviceKey_of_configured (h : s.service.key = some secret) (hne : secret ≠ "")
    (draw : Draw) : (s.serviceKey draw).1 = ⟨secret⟩ := by
  rw [serviceKey, h]
  dsimp only
  rw [if_neg hne]

theorem serviceKey_of_missing (h : ∀ secret, s.service.key = some secret → secret = "")
    (draw : Draw) : (s.serviceKey draw).1 = (generate draw).1 := by
  unfold serviceKey
  split
  · next secret hkey =>
    rw [if_pos (h secret hkey)]
    rfl
  · rfl

/-- The service is never started with the empty key, not even when that is the one configured. -/
theorem isProvisioned_serviceKey (s : Settings) (draw : Draw) :
    (s.serviceKey draw).1.isProvisioned = true := by
  by_cases h : ∃ secret, s.service.key = some secret ∧ secret ≠ ""
  · obtain ⟨secret, hkey, hne⟩ := h
    rw [serviceKey_of_configured hkey hne]
    exact bne_iff_ne.2 hne
  · have hmissing : ∀ secret, s.service.key = some secret → secret = "" := by
      intro secret hkey
      by_contra hne
      exact h ⟨secret, hkey, hne⟩
    rw [serviceKey_of_missing hmissing]
    exact isProvisioned_generate draw

/-- The key of settings is the configured one, if that is not empty, and one made of the draw
otherwise. Such a key is its start and 32 digits, two of which carry the marks, and two of them are
the same just if the draws are in the 122 bits that carry none. -/
theorem serviceKey_usable (s : Settings) (draw : Draw) :
    (s.serviceKey draw).1.isProvisioned = true ∧
    (∀ secret, s.service.key = some secret → secret ≠ "" → (s.serviceKey draw).1 = ⟨secret⟩) ∧
    ((∀ secret, s.service.key = some secret → secret = "") →
      (s.serviceKey draw).1 = (generate draw).1) ∧
    (∃ digits, (generate draw).1.secret.toList = "ask_".toList ++ digits ∧ digits.length = 32 ∧
      (∀ c ∈ digits, isLowerHex c = true) ∧ digits[12]? = some '4' ∧
      ∃ c ∈ ['8', '9', 'a', 'b'], digits[16]? = some c) ∧
    (generate draw).1.secret.utf8ByteSize = 36 ∧ freeBits.length = 122 ∧
    ∀ draw', (generate draw).1 = (generate draw').1 ↔
      ∀ bit ∈ freeBits, isSet draw bit = isSet draw' bit := by
  refine ⟨s.isProvisioned_serviceKey draw, ?_, fun h => serviceKey_of_missing h draw, ?_,
    utf8ByteSize_generate draw, by decide +kernel, ?_⟩
  · intro secret hkey hne
    exact serviceKey_of_configured hkey hne draw
  · exact ⟨keyDigits draw, toList_generate draw, length_keyDigits draw,
      fun _ => isLowerHex_of_mem_keyDigits, version_keyDigits draw, variant_keyDigits draw⟩
  · intro draw'
    exact generate_eq_iff.trans marked_eq_iff

/-- A key of one blank is used as it is, and in the place of an empty one draws that differ in one
bit of a marked byte make two keys. -/
theorem serviceKey_usable_empty_configured :
    let settings (key : String) : Settings := ⟨⟨some key, "a-system", 2⟩, ⟨"info"⟩⟩
    let draw : Draw := Vector.replicate 16 0xff
    let other : Draw := Vector.ofFn fun i => if i = 8 then 0xdf else 0xff
    ((settings " ").serviceKey draw).1 = ⟨" "⟩ ∧
      ((settings "").serviceKey draw).1 = (generate draw).1 ∧
      (generate draw).1 ≠ (generate other).1 := by
  intro settings draw other
  obtain ⟨-, hconfigured, -⟩ := serviceKey_usable (settings " ") draw
  obtain ⟨-, -, hmissing, -, -, -, hsame⟩ := serviceKey_usable (settings "") draw
  refine ⟨hconfigured " " rfl (by decide), hmissing ?_, ?_⟩
  · intro secret h
    exact (Option.some.inj h).symm
  · intro h
    have hbit := (hsame other).1 h (8, 5) (by decide)
    revert hbit
    decide

end Settings

end KeyedImages
