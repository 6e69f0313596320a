import KeyedImages.Proofs.Text.Decimal
import KeyedImages.Timestamp

/-! The text of a timestamp read back: it stands for one timestamp alone, whether or not its
nanoseconds are a part of a second. -/
namespace KeyedImages.Timestamp

open Text (IsDecimal splitFirst)

/-- Reads the two numbers on both sides of the first point. -/
def ofChars? (cs : List Char) : Option Timestamp :=
  match splitFirst '.' cs with
  | (whole, some behind) => do
    let seconds ← (Text.Numeral.int64 whole).toOption
    let nanos ← Text.Numeral.below? UInt32.size behind
    pure ⟨Int64.ofInt seconds, UInt32.ofNat nanos⟩
  | _ => none

theorem ofChars?_chars (t : Timestamp) : ofChars? t.chars = some t := by
  have hpoint : '.' ∉ Text.Numeral.signed t.seconds.toInt := by
    obtain ⟨c, ds, hds, hc, hdigits⟩ := Text.Numeral.exists_signed_eq_cons t.seconds.toInt
    rw [hds, List.mem_cons, not_or]
    refine ⟨?_, Text.Numeral.not_mem_of_isDigit hdigits rfl⟩
    rcases hc with rfl | hc
    · decide
    · exact (Text.Numeral.ne_of_isDigit hc rfl).symm
  have hnanos := Text.Numeral.below?_padded 9 t.nanos.toNat_lt_size
  rw [ofChars?, chars, Text.splitFirst_append _ hpoint]
  simp only [Text.Numeral.int64_signed, if_pos (Text.Numeral.isInt64_toInt t.seconds), hnanos]
  simp [Except.toOption]

theorem chars_inj {a b : Timestamp} (h : a.chars = b.chars) : a = b := by
  have hread := congrArg ofChars? h
  rw [ofChars?_chars, ofChars?_chars] at hread
  exact Option.some.inj hread

theorem isDecimal_chars (t : Timestamp) :
    IsDecimal (if t.nanos.toNat < 10 ^ 9 then 9 else 10) t.chars := by
  have hlength : (Text.Numeral.padded 9 t.nanos.toNat).length =
      if t.nanos.toNat < 10 ^ 9 then 9 else 10 := by
    have hlt := t.nanos.toNat_lt
    split
    · next h => exact Text.Numeral.length_padded h (by decide)
    · next h => exact Text.Numeral.length_padded_succ (by omega) (by omega)
  rw [← hlength]
  exact Text.isDecimal_signed _ fun _ => Text.Numeral.isDigit_of_mem_padded

theorem newline_not_mem_text (t : Timestamp) : '\n' ∉ t.text.toList := by
  rw [text, String.toList_ofList, ← List.count_eq_zero,
    t.isDecimal_chars.count_of_not_isDigit rfl (by decide)]
  rfl

/-- Two timestamps have the same text only if they are the same. The text is always a decimal on one
line: a minus sign or none, digits, one point, and nine digits, or ten if the nanoseconds are a
second or more. -/
theorem text_lossless (a b : Timestamp) :
    (a.text = b.text ↔ a = b) ∧
    IsDecimal (if a.nanos.toNat < 10 ^ 9 then 9 else 10) a.text.toList ∧
    a.text.toList.count '.' = 1 ∧ '\n' ∉ a.text.toList := by
  have hdecimal : IsDecimal (if a.nanos.toNat < 10 ^ 9 then 9 else 10) a.text.toList := by
    rw [text, String.toList_ofList]
    exact a.isDecimal_chars
  refine ⟨⟨fun h => chars_inj (String.ofList_injective h), ?_⟩, hdecimal, ?_,
    a.newline_not_mem_text⟩
  · rintro rfl
    rfl
  · rw [hdecimal.count_of_not_isDigit rfl (by decide)]
    rfl

/-- A second before the epoch, with the most nanoseconds that can be held. -/
example : (mk (-1) 4294967295).text = "-1.4294967295" := by decide +kernel

end KeyedImages.Timestamp
