import KeyedImages.Proofs.Calendar.Order
import KeyedImages.Proofs.Text.Decimal

/-! The text of a timestamp as a decimal number: which instant it shows, and whether the order of
the numbers is that of the timestamps. -/
namespace KeyedImages.Timestamp

open Text (decimal?)

variable {t a b : Timestamp}

/-- Nanoseconds are a part of a second. -/
def IsNormal (t : Timestamp) : Prop := t.nanos.toNat < 10 ^ 9

instance : DecidablePred IsNormal := fun t => inferInstanceAs (Decidable (t.nanos.toNat < 10 ^ 9))

/-- The seconds from the epoch: nanoseconds count forward, before it as well. -/
def instant (t : Timestamp) : ℚ := t.seconds.toInt + t.nanos.toNat / 10 ^ 9

/-- The nanoseconds from the epoch to what is shown, where those before it count backward. -/
def shownNanos (t : Timestamp) : Int :=
  if t.seconds.toInt < 0 then t.seconds.toInt * 10 ^ 9 - t.nanos.toNat
  else t.seconds.toInt * 10 ^ 9 + t.nanos.toNat

theorem decimal?_text (h : t.IsNormal) :
    decimal? 9 t.text.toList = some ((t.shownNanos : ℚ) / 10 ^ 9) := by
  rw [text, String.toList_ofList, chars, Text.decimal?_signed _ h (by decide), shownNanos]
  split
  · congr 1
    push_cast
    ring
  · congr 1
    push_cast
    ring

theorem instant_eq (t : Timestamp) :
    t.instant = ((t.seconds.toInt * 10 ^ 9 + t.nanos.toNat : Int) : ℚ) / 10 ^ 9 := by
  rw [instant]
  push_cast
  ring

theorem shown_eq_instant_iff :
    (t.shownNanos : ℚ) / 10 ^ 9 = t.instant ↔ 0 ≤ t.seconds.toInt ∨ t.nanos = 0 := by
  rw [instant_eq, div_left_inj' (by norm_num), Int.cast_inj, shownNanos, ← UInt32.toNat_inj,
    UInt32.toNat_zero]
  split <;> omega

/-- Within a second before the epoch the numbers go down as time goes on. -/
theorem order_shown_iff (ha : a.IsNormal) (hb : b.IsNormal) :
    (a.compare b = .lt ↔ (a.shownNanos : ℚ) / 10 ^ 9 < (b.shownNanos : ℚ) / 10 ^ 9) ↔
      ¬ (a.seconds = b.seconds ∧ a.seconds.toInt < 0 ∧ a.nanos ≠ b.nanos) := by
  unfold IsNormal at ha hb
  rw [div_lt_div_iff_of_pos_right (by norm_num), Int.cast_lt, compare_eq_lt_iff, ← Int64.toInt_inj,
    Ne, ← UInt32.toNat_inj]
  unfold shownNanos
  split <;> split <;> omega

/-- The text of a timestamp is a decimal number with nine places. It is the instant unless that lies
before the epoch and within a second, and the numbers are in the order of the timestamps unless both
have the same second before the epoch and different nanoseconds. -/
theorem text_read_as_number (a b : Timestamp) (ha : a.IsNormal) (hb : b.IsNormal) :
    ∃ p q, decimal? 9 a.text.toList = some p ∧ decimal? 9 b.text.toList = some q ∧
      (p = a.instant ↔ 0 ≤ a.seconds.toInt ∨ a.nanos = 0) ∧
      (q = b.instant ↔ 0 ≤ b.seconds.toInt ∨ b.nanos = 0) ∧
      ((a.compare b = .lt ↔ p < q) ↔
        ¬ (a.seconds = b.seconds ∧ a.seconds.toInt < 0 ∧ a.nanos ≠ b.nanos)) :=
  ⟨_, _, decimal?_text ha, decimal?_text hb, shown_eq_instant_iff, shown_eq_instant_iff,
    order_shown_iff ha hb⟩

/-- Two instants in neighbouring seconds before the epoch: neither number is the instant, and still
they are in order. -/
theorem text_read_as_number_before_epoch :
    let a : Timestamp := ⟨-2, 999999999⟩
    let b : Timestamp := ⟨-1, 1⟩
    a.IsNormal ∧ b.IsNormal ∧ ∃ p q, decimal? 9 a.text.toList = some p ∧
      decimal? 9 b.text.toList = some q ∧ p ≠ a.instant ∧ q ≠ b.instant ∧ p < q := by
  intro a b
  have ha : a.IsNormal := by decide
  have hb : b.IsNormal := by decide
  obtain ⟨p, q, hp, hq, hinstant, hinstant', horder⟩ := text_read_as_number a b ha hb
  refine ⟨ha, hb, p, q, hp, hq, mt hinstant.1 (by decide), mt hinstant'.1 (by decide), ?_⟩
  exact (horder.2 (by decide)).1 (by decide)

/-- Half a second before the epoch is shown as one and a half, below the second that it comes
after. -/
theorem half_second_before_epoch_misread :
    let t : Timestamp := ⟨-1, 500000000⟩
    t.IsNormal ∧ decimal? 9 t.text.toList = some (-3 / 2) ∧ t.instant = -1 / 2 ∧
      (mk (-1) 0).compare t = .lt ∧
      ∃ q, decimal? 9 (mk (-1) 0).text.toList = some q ∧ ¬ q < -3 / 2 := by
  intro t
  have ht : t.IsNormal := by decide
  have hwhole : (mk (-1) 0).IsNormal := by decide
  have hnanos : t.nanos.toNat = 500000000 := by decide
  have hseconds : t.seconds.toInt = -1 := by decide
  have hshown : t.shownNanos = -1500000000 := by decide
  have hshown' : (mk (-1) 0).shownNanos = -1000000000 := by decide
  refine ⟨ht, ?_, ?_, by decide, _, decimal?_text hwhole, ?_⟩
  · rw [decimal?_text ht, hshown]
    norm_num
  · rw [instant, hnanos, hseconds]
    norm_num
  · rw [hshown']
    norm_num

end KeyedImages.Timestamp
