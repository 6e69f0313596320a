import KeyedImages.CommandLine
import KeyedImages.Proofs.Result
import KeyedImages.Proofs.Text.Numeral

/-! The number of images on the command line: wherever it is given among other words, it is read as
itself, and the other words mean what they meant without it. -/
namespace KeyedImages.CommandLine

open Text.Numeral (signed isInt64)

/-- The option of the number of images, with its value in decimal. -/
def imagesWord (n : Int) : String := "--images=" ++ Text.Numeral.ofInt n

section Count

variable {n : Int} {k : UInt32}

theorem count_ofInt (k : UInt32) : count (Text.Numeral.ofInt k.toNat) = .ok k := by
  have hlt := k.toNat_lt
  have hint64 : isInt64 k.toNat = true := by
    rw [isInt64, Int64.toInt_minValue, Int64.toInt_maxValue, Bool.and_eq_true, decide_eq_true_eq,
      decide_eq_true_eq]
    omega
  have hbounds : 0 ≤ (k.toNat : Int) ∧ (k.toNat : Int) ≤ greatestCount := by
    unfold greatestCount UInt32.size
    omega
  rw [count, Text.Numeral.ofInt, String.toList_ofList, Text.Numeral.int64_signed, if_pos hint64]
  simp only [if_pos hbounds, Int.toNat_natCast, UInt32.ofNat_toNat]

theorem eq_of_count (h : count (Text.Numeral.ofInt n) = .ok k) : (k.toNat : Int) = n := by
  rw [count, Text.Numeral.ofInt, String.toList_ofList, Text.Numeral.int64_signed] at h
  split at h
  · cases h
  · next i hi =>
    split at hi
    · obtain rfl := Except.ok.inj hi
      split at h
      · next hbounds =>
        obtain rfl := Except.ok.inj h
        have hlt : n.toNat < UInt32.size := by
          unfold greatestCount UInt32.size at *
          omega
        rw [UInt32.toNat_ofNat_of_lt' hlt, Int.toNat_of_nonneg hbounds.1]
      · cases h
    · cases hi

end Count

/-- Choices with a number of images. -/
def Choices.withImages (c : Choices) (k : UInt32) : Choices := { c with images := some k }

namespace State

variable {st st' : State} {c c' d : Choices} {p : Option (Setting × Option String)}
  {s : Setting} {word value : String} {words before after : List String} {k : UInt32}

/-- Takes a word that does not end the options. -/
def takeWord (st : State) (word : String) : Except Stop State :=
  match Word.ofString word with
  | .rest => .error (.refused (.unexpected word))
  | .long name value => st.long name value
  | .short first others => st.short first others
  | .plain => st.plain word

theorem read_cons (h : Word.ofString word ≠ .rest) (st : State) :
    st.read (word :: words) = st.takeWord word >>= (read · words) := by
  rw [read.eq_def, takeWord]
  dsimp only
  split <;> simp_all

/-- Words behind which options are read leave a state from which the others are read. -/
theorem read_append (h : ∀ word ∈ before, Word.ofString word ≠ .rest) (st : State) :
    st.read (before ++ after) = before.foldlM takeWord st >>= (read · after) := by
  induction before generalizing st with
  | nil => rfl
  | cons word before ih =>
    obtain ⟨hword, hbefore⟩ := List.forall_mem_cons.1 h
    rw [List.cons_append, read_cons hword, List.foldlM_cons, bind_assoc]
    congr 1
    funext st'
    exact ih hbefore st'

/-- A setting that waits for no value can as well be looked at before the next word. -/
theorem read_settled (h : st.settle = .ok c) (words : List String) :
    st.read words = read ⟨c, none⟩ words := by
  have hplain : ∀ word, st.plain word = plain ⟨c, none⟩ word := by
    intro word
    obtain ⟨choices, pending⟩ := st
    match pending with
    | none => rfl
    | some (_, some _) => rfl
    | some (_, none) => cases h
  have hlong : ∀ name value, st.long name value = long ⟨c, none⟩ name value := by
    intro name value
    simp only [long, take, turn, h]
    rfl
  have hshort : ∀ first others, st.short first others = short ⟨c, none⟩ first others := by
    intro first others
    simp only [short, take, turn, h]
    rfl
  cases words with
  | nil => exact h
  | cons word words =>
    rw [read.eq_def, read.eq_def]
    simp only [hplain, hlong, hshort, h]
    rfl

/-- Recording a value is not affected by a number of images. -/
theorem set_withImages (h : set c s value = .ok d) (hd : d.images = none) (k : UInt32) :
    c.images = none ∧ set (c.withImages k) s value = .ok (d.withImages k) := by
  cases s with
  | images =>
    simp only [set] at h
    split at h
    · cases h
    · split at h
      · obtain rfl := Except.ok.inj h
        cases hd
      · cases h
  | _ =>
    simp only [set] at h ⊢
    split at h
    · cases h
    · next hnew =>
      obtain rfl := Except.ok.inj h
      exact ⟨hd, if_neg hnew⟩

theorem settle_withImages (h : settle ⟨c, p⟩ = .ok d) (hd : d.images = none) (k : UInt32) :
    c.images = none ∧ settle ⟨c.withImages k, p⟩ = .ok (d.withImages k) := by
  match p with
  | none =>
    obtain rfl := Except.ok.inj h
    exact ⟨hd, rfl⟩
  | some (s, none) => cases h
  | some (s, some value) => exact set_withImages h hd k

theorem take_withImages {value : Option String} (h : take ⟨c, p⟩ s value = .ok st)
    (hst : st.choices.images = none) (k : UInt32) : c.images = none ∧
      take ⟨c.withImages k, p⟩ s value = .ok ⟨st.choices.withImages k, st.pending⟩ := by
  rw [take, bind_eq_ok] at h
  obtain ⟨d, hd, h⟩ := h
  cases value with
  | none =>
    obtain rfl := pure_eq_ok.1 h
    obtain ⟨hc, hk⟩ := settle_withImages hd hst k
    refine ⟨hc, ?_⟩
    rw [take, hk]
    rfl
  | some value =>
    obtain ⟨e, he, h⟩ := bind_eq_ok.1 h
    obtain rfl := pure_eq_ok.1 h
    obtain ⟨hd', hset⟩ := set_withImages he hst k
    obtain ⟨hc, hk⟩ := settle_withImages hd hd' k
    refine ⟨hc, ?_⟩
    rw [take, hk]
    simp only [bind, Except.bind, hset]
    rfl

theorem turn_withImages {s : Switch} (h : turn ⟨c, p⟩ s = .ok st)
    (hst : st.choices.images = none) (k : UInt32) : c.images = none ∧
      turn ⟨c.withImages k, p⟩ s = .ok ⟨st.choices.withImages k, st.pending⟩ := by
  rw [turn, bind_eq_ok] at h
  obtain ⟨d, hd, h⟩ := h
  cases s with
  | json =>
    simp only at h
    split at h
    · cases h
    · next hjson =>
      obtain rfl := pure_eq_ok.1 h
      obtain ⟨hc, hk⟩ := settle_withImages hd hst k
      refine ⟨hc, ?_⟩
      rw [turn, hk]
      exact if_neg hjson
  | help => cases h
  | version => cases h

theorem long_withImages {name : String} {value : Option String}
    (h : long ⟨c, p⟩ name value = .ok st) (hst : st.choices.images = none) (k : UInt32) :
    c.images = none ∧
      long ⟨c.withImages k, p⟩ name value = .ok ⟨st.choices.withImages k, st.pending⟩ := by
  unfold long at *
  generalize Setting.ofLong? name = setting, Switch.ofLong? name = switch at h ⊢
  match setting, switch, value with
  | some s, _, _ => exact take_withImages h hst k
  | none, some s, some _ => cases h
  | none, some s, none => exact turn_withImages h hst k
  | none, none, _ => cases h

theorem short_withImages {first : Char} {others : List Char}
    (h : short ⟨c, p⟩ first others = .ok st) (hst : st.choices.images = none) (k : UInt32) :
    c.images = none ∧
      short ⟨c.withImages k, p⟩ first others = .ok ⟨st.choices.withImages k, st.pending⟩ := by
  unfold short at *
  generalize Setting.ofShort? first = setting, Switch.ofShort? first = switch at h ⊢
  match setting, switch with
  | some s, _ => exact take_withImages h hst k
  | none, some s => exact turn_withImages h hst k
  | none, none => cases h

theorem plain_withImages (h : plain ⟨c, p⟩ word = .ok st) (hst : st.choices.images = none)
    (k : UInt32) : c.images = none ∧
      plain ⟨c.withImages k, p⟩ word = .ok ⟨st.choices.withImages k, st.pending⟩ := by
  match p with
  | none => cases h
  | some (_, some _) => cases h
  | some (s, none) =>
    obtain rfl := Except.ok.inj h
    exact ⟨hst, rfl⟩

/-- Words that give no number of images are read in the same way behind one. -/
theorem read_withImages (h : read ⟨c, p⟩ words = .ok d) (hd : d.images = none) (k : UInt32) :
    c.images = none ∧ read ⟨c.withImages k, p⟩ words = .ok (d.withImages k) := by
  induction words generalizing c p with
  | nil => exact settle_withImages h hd k
  | cons word words ih =>
    rw [read.eq_def] at h ⊢
    dsimp only at h ⊢
    split at h
    · cases words with
      | nil => exact settle_withImages h hd k
      | cons => cases h
    · obtain ⟨st, hst, h⟩ := bind_eq_ok.1 h
      obtain ⟨hnone, hread⟩ := ih h
      obtain ⟨hc, hk⟩ := long_withImages hst hnone k
      exact ⟨hc, bind_eq_ok.2 ⟨_, hk, hread⟩⟩
    · obtain ⟨st, hst, h⟩ := bind_eq_ok.1 h
      obtain ⟨hnone, hread⟩ := ih h
      obtain ⟨hc, hk⟩ := short_withImages hst hnone k
      exact ⟨hc, bind_eq_ok.2 ⟨_, hk, hread⟩⟩
    · obtain ⟨st, hst, h⟩ := bind_eq_ok.1 h
      obtain ⟨hnone, hread⟩ := ih h
      obtain ⟨hc, hk⟩ := plain_withImages hst hnone k
      exact ⟨hc, bind_eq_ok.2 ⟨_, hk, hread⟩⟩

end State

theorem ofString_imagesWord (n : Int) :
    Word.ofString (imagesWord n) = .long "images" (some (Text.Numeral.ofInt n)) := by
  have hchars : (imagesWord n).toList = "--images=".toList ++ signed n := by
    rw [imagesWord, String.toList_append, Text.Numeral.ofInt]
    exact congrArg _ String.toList_ofList
  rw [Word.ofString, hchars]
  simp [Text.splitFirst, Text.Numeral.ofInt]

/-- Among words that are read without it, the number of images is read if it is one, and the line is
refused otherwise. -/
theorem read_imagesWord {before after : List String} {c d : Choices} (n : Int)
    (hbefore : read before = .ok c) (hrest : ∀ word ∈ before, Word.ofString word ≠ .rest)
    (hread : read (before ++ after) = .ok d) (hd : d.images = none) :
    read (before ++ imagesWord n :: after) = match count (Text.Numeral.ofInt n) with
      | .ok k => .ok (d.withImages k)
      | .error fault => .error (.refused (.invalidCount (Text.Numeral.ofInt n) fault)) := by
  have happend : ∀ words, read (before ++ words) =
      before.foldlM State.takeWord State.start >>= (State.read · words) :=
    fun words => State.read_append hrest State.start
  have hall := happend []
  rw [List.append_nil, hbefore] at hall
  obtain ⟨st, hst, hsettle⟩ := bind_eq_ok.1 hall.symm
  rw [happend, hst] at hread
  have hafter : State.read ⟨c, none⟩ after = .ok d :=
    (State.read_settled hsettle after).symm.trans hread
  have hword : Word.ofString (imagesWord n) ≠ .rest := by
    rw [ofString_imagesWord]
    exact nofun
  have hc : c.images = none := (State.read_withImages hafter hd 0).1
  have hset : State.set c .images (Text.Numeral.ofInt n) = match count (Text.Numeral.ofInt n) with
      | .ok k => .ok (c.withImages k)
      | .error fault => .error (.refused (.invalidCount (Text.Numeral.ofInt n) fault)) := by
    rw [State.set, hc]
    rfl
  have htake : st.takeWord (imagesWord n) = st.take .images (some (Text.Numeral.ofInt n)) := by
    rw [State.takeWord, ofString_imagesWord]
    rfl
  rw [happend, hst]
  change st.read (imagesWord n :: after) = _
  rw [State.read_cons hword, htake, State.take, show st.settle = .ok c from hsettle]
  cases hcount : count (Text.Numeral.ofInt n) with
  | error fault =>
    rw [hcount] at hset
    simp only [bind, Except.bind, hset]
  | ok k =>
    rw [hcount] at hset
    simp only [bind, Except.bind, hset]
    exact (State.read_withImages hafter hd k).2

end KeyedImages.CommandLine
