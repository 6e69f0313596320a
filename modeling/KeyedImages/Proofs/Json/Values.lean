import KeyedImages.Proofs.Json.Reading
import KeyedImages.Proofs.Result
import Mathlib.Data.List.Forall2

/-! The plain values that a document decodes to: numbers, strings, and lists of them. -/
namespace KeyedImages.Json

variable {α : Type}

theorem throw_ne_ok {e : Failure} {a : α} : ¬ (throw e : Decoded α) = .ok a := by
  intro h
  cases h

theorem Fragment.unexpected_ne_ok {f : Fragment} {expected : String} {a : α} :
    ¬ f.unexpected expected = .ok a := by
  unfold unexpected
  rw [bind_eq_ok]
  rintro ⟨_, -, h⟩
  exact throw_ne_ok h

namespace Number

open Text.Numeral (value_digits isInt64)

/-- A whole number that 64 bits hold is read exactly, and no other one as a whole number. -/
theorem quantity?_ofInt (n : Int) :
    quantity? (ofInt n) =
      if Int64.minValue.toInt ≤ n ∧ n < UInt64.size then some (.integer n)
      else (ofInt n).float?.map .float := by
  have hmin : Int64.minValue.toInt < 0 := by decide
  have hmax : 0 ≤ Int64.maxValue.toInt := by decide
  cases n with
  | ofNat n =>
    have hvalue : quantity? (ofInt (.ofNat n)) =
        if n < UInt64.size then some (.integer n) else (ofInt (.ofNat n)).float?.map .float := by
      simp only [quantity?, ofInt, value_digits]
      rfl
    by_cases hlt : n < UInt64.size
    · have hpos : (0 : Int) ≤ Int.ofNat n := Int.natCast_nonneg n
      rw [hvalue, if_pos hlt, if_pos ⟨Int.le_trans (Int.le_of_lt hmin) hpos, Int.ofNat_lt.2 hlt⟩]
      rfl
    · rw [hvalue, if_neg hlt, if_neg fun h => hlt (Int.ofNat_lt.1 h.2)]
  | negSucc n =>
    have hneg : -((n + 1 : Nat) : Int) = Int.negSucc n := rfl
    have hvalue : quantity? (ofInt (.negSucc n)) =
        if isInt64 (.negSucc n) then some (.integer (.negSucc n))
        else (ofInt (.negSucc n)).float?.map .float := by
      simp only [quantity?, ofInt, value_digits, hneg]
      simp
    by_cases hle : Int64.minValue.toInt ≤ Int.negSucc n
    · rw [hvalue, if_pos ?_, if_pos ⟨hle, by omega⟩]
      rw [isInt64, Bool.and_eq_true, decide_eq_true_eq, decide_eq_true_eq]
      omega
    · rw [hvalue, if_neg ?_, if_neg fun h => hle h.1]
      rw [isInt64, Bool.and_eq_true, decide_eq_true_eq]
      omega

end Number

namespace Fragment

variable {d : Document}

theorem integer_eq_ok {least greatest i : Int} {expected : String}
    (hleast : Int64.minValue.toInt ≤ least) (hgreatest : greatest < UInt64.size) :
    d.fragment.integer least greatest expected = .ok i ↔
      d = .number i ∧ least ≤ i ∧ i ≤ greatest := by
  cases d with
  | number n =>
    have hread : (number (.ofInt n)).integer least greatest expected = .ok i ↔
        n = i ∧ least ≤ n ∧ n ≤ greatest := by
      rw [integer, Number.quantity?_ofInt]
      by_cases hheld : Int64.minValue.toInt ≤ n ∧ n < UInt64.size
      · rw [if_pos hheld]
        by_cases hbounds : least ≤ n ∧ n ≤ greatest <;> simp [hbounds, pure_eq_ok, throw_ne_ok]
      · have hout : ¬ (least ≤ n ∧ n ≤ greatest) := by omega
        rw [if_neg hheld]
        cases (Number.ofInt n).float? <;> simp [hout, throw_ne_ok]
    rw [Document.fragment, hread]
    constructor
    · rintro ⟨rfl, hbounds⟩
      exact ⟨rfl, hbounds⟩
    · rintro ⟨h, hbounds⟩
      cases h
      exact ⟨rfl, hbounds⟩
  | _ =>
    simp only [reduceCtorEq, false_and, iff_false]
    exact unexpected_ne_ok

theorem int64_eq_ok {x : Int64} : d.fragment.int64 = .ok x ↔ d = .number x.toInt := by
  rw [int64, map_eq_ok]
  constructor
  · rintro ⟨i, hi, rfl⟩
    obtain ⟨rfl, hlow, hhigh⟩ := (integer_eq_ok (by decide) (by decide)).1 hi
    rw [Int64.toInt_maxValue] at hhigh
    rw [Int64.toInt_ofInt_of_le hlow (by omega)]
  · rintro rfl
    have hbounds := And.intro x.minValue_le_toInt x.toInt_le
    exact ⟨x.toInt, (integer_eq_ok (by decide) (by decide)).2 ⟨rfl, hbounds⟩, Int64.ofInt_toInt x⟩

/-- A number of a type whose values are those below a bound. -/
theorem natural_eq_ok {α : Type} {bound : Nat} {expected : String} {ofNat : Nat → α}
    {toNat : α → Nat} {a : α} (hbound : bound ≤ UInt64.size) (hlt : ∀ a, toNat a < bound)
    (hto : ∀ n < bound, toNat (ofNat n) = n) (hof : ∀ a, ofNat (toNat a) = a) :
    ofNat <$> d.fragment.natural bound expected = .ok a ↔ d = .number (toNat a) := by
  have hgreatest : (bound - 1 : Int) < UInt64.size := by omega
  rw [natural, map_eq_ok]
  constructor
  · rintro ⟨n, hn, rfl⟩
    obtain ⟨i, hi, rfl⟩ := map_eq_ok.1 hn
    obtain ⟨rfl, hlow, hhigh⟩ := (integer_eq_ok (by decide) hgreatest).1 hi
    rw [hto _ (by omega), Int.toNat_of_nonneg hlow]
  · rintro rfl
    have hbounds : (0 : Int) ≤ toNat a ∧ (toNat a : Int) ≤ bound - 1 := by
      have := hlt a
      omega
    refine ⟨toNat a, map_eq_ok.2 ⟨toNat a, ?_, rfl⟩, hof a⟩
    exact (integer_eq_ok (by decide) hgreatest).2 ⟨rfl, hbounds⟩

theorem uint8_eq_ok {x : UInt8} : d.fragment.uint8 = .ok x ↔ d = .number x.toNat :=
  natural_eq_ok (by decide) UInt8.toNat_lt (fun _ h => UInt8.toNat_ofNat_of_lt' h)
    fun _ => UInt8.ofNat_toNat

theorem uint32_eq_ok {x : UInt32} : d.fragment.uint32 = .ok x ↔ d = .number x.toNat :=
  natural_eq_ok (by decide) UInt32.toNat_lt (fun _ h => UInt32.toNat_ofNat_of_lt' h)
    fun _ => UInt32.ofNat_toNat

theorem uint64_eq_ok {x : UInt64} : d.fragment.uint64 = .ok x ↔ d = .number x.toNat :=
  natural_eq_ok (by decide) UInt64.toNat_lt (fun _ h => UInt64.toNat_ofNat_of_lt' h)
    fun _ => UInt64.ofNat_toNat

theorem textOf_eq_ok {s : String} : d.fragment.textOf = .ok s ↔ d = .string s := by
  cases d with
  | string s' => simp [Document.fragment, textOf, pure_eq_ok]
  | _ => simp [Document.fragment, textOf, unexpected_ne_ok]

/-- Null stands for no value, and for no other. -/
theorem optional_eq_ok {α : Type} {decode : Fragment → Decoded α} {o : Option α}
    (hnull : ∀ a, ¬ decode .null = .ok a) :
    d.fragment.optional decode = .ok o ↔
      match o with
      | none => d = .null
      | some a => decode d.fragment = .ok a := by
  cases d with
  | null =>
    cases o <;> simp [Document.fragment, optional, pure_eq_ok, hnull]
  | _ => cases o <;> simp [Document.fragment, optional, map_eq_ok]

theorem mapM_itemFragments {α : Type} {decode : Fragment → Decoded α} {items : List Document}
    {as : List α} : (Document.itemFragments items).mapM decode = .ok as ↔
      List.Forall₂ (fun item a => decode item.fragment = .ok a) items as := by
  induction items generalizing as with
  | nil => cases as <;> simp [Document.itemFragments, pure, Except.pure]
  | cons item items ih =>
    simp only [Document.itemFragments, List.mapM_cons, bind_eq_ok, pure_eq_ok]
    constructor
    · rintro ⟨a, ha, as', has, rfl⟩
      exact .cons ha (ih.1 has)
    · intro h
      cases h with
      | cons ha has => exact ⟨_, ha, _, ih.2 has, rfl⟩

/-- The items of an array decode one after the other. -/
theorem list_eq_ok {α : Type} {decode : Fragment → Decoded α} {as : List α} :
    d.fragment.list decode = .ok as ↔
      ∃ items, d = .array items ∧
        List.Forall₂ (fun item a => decode item.fragment = .ok a) items as := by
  cases d with
  | array items =>
    rw [Document.fragment, list, bind_eq_ok]
    simp [pure_eq_ok, mapM_itemFragments]
  | _ => simp [Document.fragment, list, unexpected_ne_ok]

theorem list_map {α : Type} {decode : Fragment → Decoded α} {write : α → Document}
    (h : ∀ a, decode (write a).fragment = .ok a) (as : List α) :
    (Document.array (as.map write)).fragment.list decode = .ok as :=
  list_eq_ok.2 ⟨_, rfl, List.forall₂_map_left_iff.2 (List.forall₂_same.2 fun a _ => h a)⟩

end Fragment

end KeyedImages.Json
