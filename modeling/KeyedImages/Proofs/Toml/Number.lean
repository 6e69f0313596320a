import KeyedImages.Proofs.Text.Numeral
import KeyedImages.Proofs.Text.Reader
import KeyedImages.Toml.Document
import Mathlib

/-! Whole numbers in decimal as values of a TOML document: each is read as itself if 64 bits hold
it, and otherwise there is no document. -/
namespace KeyedImages.Toml

open Text (Reader)
open Text.Numeral (signed isInt64 isDigit_of_mem_digits exists_signed_eq_cons)

section LineEnds

variable {c d : Char} {ds cs rest : List Char} {n k least greatest : Nat}

/-- A character that may stand behind the first one of a numeral at the end of its line. -/
def Follows (d : Char) : Prop := d.isDigit = true ∨ d = '\n'

theorem follows_head (h : ∀ d ∈ ds, d.isDigit = true) (cs : List Char) :
    ∃ d rest, ds ++ '\n' :: cs = d :: rest ∧ Follows d := by
  cases ds with
  | nil => exact ⟨_, _, rfl, .inr rfl⟩
  | cons d ds => exact ⟨_, _, rfl, .inl (h d List.mem_cons_self)⟩

theorem not_follows (h : Follows c) (hc : d.isDigit = false) (hc' : d ≠ '\n') : c ≠ d := by
  rintro rfl
  rcases h with hdigit | rfl
  · rw [hc] at hdigit
    cases hdigit
  · exact hc' rfl

/-- A literal whose second character is no digit is not met. -/
theorem literal_line {s : String} {a b : Char} {w : List Char} (hs : s.toList = a :: b :: w)
    (hb : b.isDigit = false) (hb' : b ≠ '\n') (h : ∀ d ∈ ds, d.isDigit = true) :
    Reader.literal s (c :: (ds ++ '\n' :: cs)) = none := by
  obtain ⟨d, rest, hrest, hd⟩ := follows_head h cs
  rw [Reader.literal, hs, hrest, if_neg]
  simp [(not_follows hd hb hb').symm]

/-- Behind a number of fixed width there is another digit, or the line ends. -/
theorem number_line {m : Nat} (h : ∀ d ∈ ds, d.isDigit = true)
    (hread : Moment.number (k + 1) least greatest (c :: (ds ++ '\n' :: cs)) = some (m, rest)) :
    ∃ d more, rest = d :: more ∧ Follows d := by
  simp only [Moment.number, Reader.bind_apply, Reader.exactly, List.take_succ_cons,
    List.drop_succ_cons, Option.bind_eq_some_iff, Option.ite_none_right_eq_some,
    Option.some.injEq] at hread
  obtain ⟨_, ⟨htaken, rfl⟩, hrest⟩ := hread
  have hrest : (ds ++ '\n' :: cs).drop k = rest := by
    obtain ⟨_, hguard, hpure⟩ := hrest
    rw [Reader.guard_apply, Option.ite_none_right_eq_some] at hguard
    obtain ⟨-, hguard⟩ := hguard
    cases hguard
    exact (Prod.mk.inj (Option.some.inj hpure)).2
  rcases Nat.lt_or_ge ds.length k with hlt | hle
  · have hend : '\n' ∈ (ds ++ '\n' :: cs).take k := by
      rw [List.take_append, List.mem_append]
      obtain ⟨i, hi⟩ := Nat.exists_eq_add_of_lt hlt
      exact .inr (by rw [show k - ds.length = i + 1 by omega]; exact List.mem_cons_self)
    simp only [Bool.and_eq_true, List.all_cons, List.all_eq_true] at htaken
    exact absurd (htaken.2.2 _ hend) (by decide)
  · rw [← hrest, List.drop_append_of_le_length hle]
    exact follows_head (fun d hd => h d (List.mem_of_mem_drop hd)) cs

theorem moment_line (h : ∀ d ∈ ds, d.isDigit = true) :
    Moment.read (c :: (ds ++ '\n' :: cs)) = none := by
  have hdate : Moment.readDate (c :: (ds ++ '\n' :: cs)) = none := by
    rw [Moment.readDate, Reader.bind_apply, Option.bind_eq_none_iff]
    rintro ⟨m, rest⟩ hread
    obtain ⟨d, more, rfl, hd⟩ := number_line h hread
    simp [not_follows (d := '-') hd]
  have htime : Moment.readTime (c :: (ds ++ '\n' :: cs)) = none := by
    rw [Moment.readTime, Reader.bind_apply, Option.bind_eq_none_iff]
    rintro ⟨m, rest⟩ hread
    obtain ⟨d, more, rfl, hd⟩ := number_line h hread
    simp [not_follows (d := ':') hd]
  simp [Moment.read, Moment.readWithDate, hdate, htime]

theorem head_ne (hc : c = '-' ∨ c.isDigit = true) (hd : d.isDigit = false) (hd' : d ≠ '-') :
    c ≠ d := by
  rintro rfl
  rcases hc with rfl | hdigit
  · exact hd' rfl
  · rw [hd] at hdigit
    cases hdigit

end LineEnds

namespace Number

variable {n : Nat} {ds cs : List Char}

/-- Digits are taken up to the end of their line. -/
theorem many_digits (h : ∀ d ∈ ds, d.isDigit = true) :
    Reader.many (Reader.one Char.isDigit <|> (do Reader.char '_'; Reader.one Char.isDigit))
      (ds ++ '\n' :: cs) = some (ds, '\n' :: cs) := by
  induction ds with
  | nil => exact Reader.many_of_none (by simp)
  | cons d ds ih =>
    obtain ⟨hd, hds⟩ := List.forall_mem_cons.1 h
    exact Reader.many_of_some (by simp [hd]) (by simp) (ih hds)

theorem whole_digits (n : Nat) :
    whole (Text.Numeral.digits n ++ '\n' :: cs) = some (Text.Numeral.digits n, '\n' :: cs) := by
  rcases Nat.eq_zero_or_pos n with rfl | hpos
  · cbv
  · have hhead := Text.Numeral.head?_digits_ne_zero hpos
    have hdigits : ∀ d ∈ Text.Numeral.digits n, d.isDigit = true := fun d => isDigit_of_mem_digits
    cases hds : Text.Numeral.digits n with
    | nil => exact absurd hds (Text.Numeral.digits_ne_nil n)
    | cons d ds =>
      rw [hds] at hhead hdigits
      obtain ⟨hd, hds⟩ := List.forall_mem_cons.1 hdigits
      have hzero : d ≠ '0' := fun h => hhead (congrArg some h)
      simp [whole, digits, hzero, hd, many_digits hds]

theorem sign_minus : sign ('-' :: cs) = some (true, cs) := rfl

theorem sign_digits (n : Nat) :
    sign (Text.Numeral.digits n ++ '\n' :: cs) =
      some (false, Text.Numeral.digits n ++ '\n' :: cs) := by
  obtain ⟨d, ds, hds, hd⟩ := Text.Numeral.exists_digits_eq_cons n
  have hplus : d ≠ '+' := Text.Numeral.ne_of_isDigit hd rfl
  have hminus : d ≠ '-' := Text.Numeral.ne_of_isDigit hd rfl
  rw [hds]
  simp [sign, hplus, hminus]

theorem sign_signed (n : Int) : sign (signed n ++ '\n' :: cs) =
    some (decide (n < 0), Text.Numeral.digits n.natAbs ++ '\n' :: cs) := by
  cases n with
  | ofNat n =>
    have hnonneg : ¬ Int.ofNat n < 0 := Int.not_lt.2 (Int.natCast_nonneg n)
    rw [decide_eq_false hnonneg]
    exact sign_digits n
  | negSucc n =>
    rw [decide_eq_true (Int.negSucc_lt_zero n)]
    exact sign_minus

theorem decimal_signed (n : Int) : decimal (signed n ++ '\n' :: cs) = none := by
  simp [decimal, sign_signed, whole_digits, fraction, exponent]

theorem special_signed (n : Int) : special (signed n ++ '\n' :: cs) = none := by
  obtain ⟨d, ds, hds, -⟩ := Text.Numeral.exists_digits_eq_cons n.natAbs
  have hdigits : ∀ d ∈ ds, d.isDigit = true := fun d hd =>
    isDigit_of_mem_digits (by rw [hds]; exact List.mem_cons_of_mem _ hd)
  have hinf : Reader.literal "inf" (d :: (ds ++ '\n' :: cs)) = none :=
    literal_line rfl (by decide) (by decide) hdigits
  have hnan : Reader.literal "nan" (d :: (ds ++ '\n' :: cs)) = none :=
    literal_line rfl (by decide) (by decide) hdigits
  simp [special, sign_signed, hds, hinf, hnan]

theorem based_signed (mark : String) (base : Nat) (n : Int) {b : Char} {w : List Char}
    (hs : mark.toList = '0' :: b :: w) (hb : b.isDigit = false) (hb' : b ≠ '\n') :
    based mark base (signed n ++ '\n' :: cs) = none := by
  obtain ⟨c, ds, hsigned, -, hds⟩ := exists_signed_eq_cons n
  rw [hsigned, based, Reader.bind_apply, List.cons_append, literal_line hs hb hb' hds]
  rfl

theorem integer_signed (n : Int) : integer (signed n ++ '\n' :: cs) =
    if isInt64 n then some (n, '\n' :: cs) else none := by
  have hhex : based "0x" 16 (signed n ++ '\n' :: cs) = none :=
    based_signed _ _ n rfl (by decide) (by decide)
  have hoctal : based "0o" 8 (signed n ++ '\n' :: cs) = none :=
    based_signed _ _ n rfl (by decide) (by decide)
  have hbinary : based "0b" 2 (signed n ++ '\n' :: cs) = none :=
    based_signed _ _ n rfl (by decide) (by decide)
  have hvalue : (if n < 0 then -(n.natAbs : Int) else n.natAbs) = n := by omega
  have hdecimal : (do
      let minus ← sign
      let n := Text.Numeral.value (← whole)
      pure (if minus then -n else n) : Reader Int) (signed n ++ '\n' :: cs) =
      some (n, '\n' :: cs) := by
    simp only [bind_pure_comp, Reader.bind_apply, sign_signed, Reader.map_apply, Option.bind_some,
      decide_eq_true_eq, whole_digits, Option.map_some, Text.Numeral.value_digits, hvalue]
  rw [integer, Reader.bind_apply, Reader.orElse_apply, Reader.orElse_apply, Reader.orElse_apply,
    hhex, hoctal, hbinary, hdecimal]
  by_cases h : isInt64 n = true <;> simp [h]

end Number

namespace Value

theorem readPlain_signed (n : Int) (cs : List Char) : readPlain (signed n ++ '\n' :: cs) =
    if isInt64 n then some (.integer n, '\n' :: cs) else none := by
  obtain ⟨c, ds, hsigned, hc, hds⟩ := exists_signed_eq_cons n
  have hquoted : Quoted.read (signed n ++ '\n' :: cs) = none := by
    have hdouble : c ≠ '"' := head_ne hc (by decide) (by decide)
    have hsingle : c ≠ '\'' := head_ne hc (by decide) (by decide)
    simp [hsigned, Quoted.read, Quoted.line, hdouble, hsingle]
  have htrue : Reader.literal "true" (signed n ++ '\n' :: cs) = none := by
    rw [hsigned]
    exact literal_line rfl (by decide) (by decide) hds
  have hfalse : Reader.literal "false" (signed n ++ '\n' :: cs) = none := by
    rw [hsigned]
    exact literal_line rfl (by decide) (by decide) hds
  have hmoment : Moment.read (signed n ++ '\n' :: cs) = none := by
    rw [hsigned]
    exact moment_line hds
  simp only [readPlain, Reader.orElse_apply, Reader.map_apply, Reader.bind_apply, hquoted, htrue,
    hfalse, hmoment, Number.float, Number.decimal_signed, Number.special_signed,
    Number.integer_signed]
  split <;> rfl

/-- A whole number in decimal at the end of its line is read as itself if 64 bits hold it, and as no
value otherwise. -/
theorem read_signed (depth : Nat) (n : Int) (cs : List Char) : read depth (signed n ++ '\n' :: cs) =
    if isInt64 n then some (.integer n, '\n' :: cs) else none := by
  cases depth with
  | zero => exact readPlain_signed n cs
  | succ depth =>
    obtain ⟨c, ds, hsigned, hc, hds⟩ := exists_signed_eq_cons n
    have harray : readArray (read depth) (signed n ++ '\n' :: cs) = none := by
      have hbracket : c ≠ '[' := head_ne hc (by decide) (by decide)
      simp [hsigned, readArray, hbracket]
    have hbraced : readBraced (read depth) (signed n ++ '\n' :: cs) = none := by
      have hbrace : c ≠ '\x7b' := head_ne hc (by decide) (by decide)
      simp [hsigned, readBraced, hbrace]
    rw [read, Reader.orElse_apply, Reader.orElse_apply, harray, hbraced, Option.none_or,
      Option.none_or, readPlain_signed]

end Value

section Statements

variable {cs ds rest before after : List Char} {ss ss' : List (Option Statement)} {n : Int}

/-- A text that starts with neither a blank nor a mark. -/
def Starts (cs : List Char) : Prop :=
  ∃ c ds, cs = c :: ds ∧ isBlank c = false ∧ c ≠ '\ufeff'

theorem Starts.append (h : Starts cs) (rest : List Char) : Starts (cs ++ rest) := by
  obtain ⟨c, ds, rfl, hc⟩ := h
  exact ⟨c, ds ++ rest, rfl, hc⟩

theorem Starts.blanks (h : Starts cs) : Layout.blanks cs = some ((), cs) := by
  obtain ⟨c, ds, rfl, hc, -⟩ := h
  simp [Layout.blanks, Reader.span, hc]

theorem Starts.skipMark (h : Starts cs) : Statement.skipMark cs = cs := by
  obtain ⟨c, ds, rfl, -, hc⟩ := h
  unfold Statement.skipMark
  split
  · next heq => exact absurd (List.cons.inj heq).1 hc
  · rfl

/-- Takes a line and the blanks behind it. -/
def line : Reader (Option Statement) := do
  let s ← Statement.readLine
  Layout.blanks
  pure s

/-- Lines that are read as such, whatever stands behind them, with what they state. -/
inductive Lines : List Char → List (Option Statement) → Prop
  | nil : Lines [] []
  | cons {cs ds : List Char} {s : Option Statement} {ss : List (Option Statement)}
      (starts : Starts cs) (read : ∀ rest, Statement.readLine (cs ++ rest) = some (s, rest)) :
      Lines ds ss → Lines (cs ++ ds) (s :: ss)

theorem Lines.starts (h : Lines cs ss) (hrest : Starts rest) : Starts (cs ++ rest) := by
  cases h with
  | nil => exact hrest
  | cons starts => exact (starts.append _).append _

/-- Lines are read one by one, up to what stands behind them. -/
theorem Lines.many (h : Lines cs ss) (hrest : Starts rest)
    (hmany : Reader.many line rest = some (ss', after)) :
    Reader.many line (cs ++ rest) = some (ss ++ ss', after) := by
  induction h with
  | nil => exact hmany
  | @cons cs ds s ss starts read lines ih =>
    have hline : line (cs ++ (ds ++ rest)) = some (s, ds ++ rest) := by
      rw [line, Reader.bind_apply, read, Option.bind_some, Reader.bind_apply,
        (lines.starts hrest).blanks]
      rfl
    have hlt : (ds ++ rest).length < (cs ++ (ds ++ rest)).length := by
      obtain ⟨c, cs, rfl, -⟩ := starts
      simp only [List.cons_append, List.length_cons, List.length_append]
      omega
    rw [List.append_assoc]
    exact Reader.many_of_some hline hlt ih

theorem readAll?_eq (h : Starts cs) :
    Statement.readAll? cs = (Reader.whole? (Reader.many line) cs).map (·.filterMap id) := by
  have hread : (do Layout.blanks; Reader.many line : Reader _) cs = Reader.many line cs := by
    rw [Reader.bind_apply, h.blanks]
    rfl
  simp only [Statement.readAll?, h.skipMark, Reader.whole?, ← hread]
  rfl

theorem starts_images (cs : List Char) : Starts ("images = ".toList ++ cs) :=
  Starts.append ⟨'i', _, rfl, by decide, by decide⟩ cs

/-- A line that starts with a letter is an assignment. -/
theorem readLine_letter (cs : List Char) : Statement.readLine ('i' :: cs) =
    (Statement.readAssign ('i' :: cs)).map fun x => (some x.1, x.2) := by
  have helement : Statement.readElement ('i' :: cs) = none := rfl
  have htable : Statement.readTable ('i' :: cs) = none := rfl
  simp [Statement.readLine, Layout.newline, newline?, Layout.comment, helement, htable]

theorem readKey_images (cs : List Char) :
    Key.read ("images =".toList ++ cs) = some (⟨[], "images"⟩, '=' :: cs) := by
  cbv

theorem readLine_images (n : Int) (cs : List Char) :
    Statement.readLine ("images = ".toList ++ (signed n ++ '\n' :: cs)) =
      if isInt64 n then some (some (.assign ⟨[], "images"⟩ (.integer n)), cs) else none := by
  have hstart : Statement.readLine ("images = ".toList ++ (signed n ++ '\n' :: cs)) =
      (Statement.readAssign ("images =".toList ++ ' ' :: (signed n ++ '\n' :: cs))).map
        fun x => (some x.1, x.2) := readLine_letter _
  have hblanks : Layout.blanks (' ' :: (signed n ++ '\n' :: cs)) =
      some ((), signed n ++ '\n' :: cs) := by
    obtain ⟨c, ds, hsigned, hc, -⟩ := exists_signed_eq_cons n
    have hspace : c ≠ ' ' := head_ne hc (by decide) (by decide)
    have htab : c ≠ '\t' := head_ne hc (by decide) (by decide)
    simp [hsigned, Layout.blanks, Reader.span, isBlank, hspace, htab]
  have hend : Layout.lineEnd ('\n' :: cs) = some ((), cs) := by cbv
  rw [hstart, Statement.readAssign, Reader.bind_apply, readKey_images]
  simp only [Option.bind_some, Reader.bind_apply, Reader.char_cons, if_true, hblanks,
    Value.read_signed]
  by_cases h : isInt64 n = true <;> simp [h, hend]

/-- A text with a line for a number that 64 bits do not hold is no document, whatever the other
lines. -/
theorem read?_eq_none (h : Lines before ss) (hn : isInt64 n = false) :
    read? (before ++ ("images = ".toList ++ (signed n ++ '\n' :: after))) = none := by
  have himages : line ("images = ".toList ++ (signed n ++ '\n' :: after)) = none := by
    rw [line, Reader.bind_apply, readLine_images, hn, if_neg Bool.false_ne_true]
    rfl
  have hstarts := starts_images (signed n ++ '\n' :: after)
  generalize "images = ".toList ++ (signed n ++ '\n' :: after) = rest at *
  have hleft : rest.isEmpty = false := by
    obtain ⟨c, ds, rfl, -⟩ := hstarts
    rfl
  rw [read?, readAll?_eq (h.starts hstarts), Reader.whole?,
    h.many hstarts (Reader.many_of_none himages)]
  simp only [Option.bind_some, hleft, Bool.false_eq_true, if_false]
  rfl

theorem lines_service : Lines "[service]\n".toList [some (.table ⟨[], "service"⟩)] := by
  have hstarts : Starts "[service]\n".toList := ⟨'[', _, rfl, by decide, by decide⟩
  have hread : ∀ rest, Statement.readLine ("[service]\n".toList ++ rest) =
      some (some (.table ⟨[], "service"⟩), rest) := by
    intro rest
    cbv
  exact .cons hstarts hread .nil

/-- A document of one section with one whole number is read if 64 bits hold the number, and is none
otherwise. -/
theorem read?_section (n : Int) :
    read? ("[service]\n".toList ++ ("images = ".toList ++ (signed n ++ ['\n']))) =
      if isInt64 n then some [("service", .table [("images", .integer n)])] else none := by
  by_cases h : isInt64 n = true
  · have hend : line [] = none := by cbv
    have himages : line ("images = ".toList ++ (signed n ++ ['\n'])) =
        some (some (.assign ⟨[], "images"⟩ (.integer n)), []) := by
      rw [line, Reader.bind_apply, readLine_images, if_pos h]
      rfl
    have hstarts := starts_images (signed n ++ ['\n'])
    generalize "images = ".toList ++ (signed n ++ ['\n']) = rest at *
    have hpos : 0 < rest.length := by
      obtain ⟨c, ds, rfl, -⟩ := hstarts
      exact Nat.succ_pos _
    have hmany := lines_service.many hstarts
      (Reader.many_of_some himages hpos (Reader.many_of_none hend))
    rw [if_pos h, read?, readAll?_eq (lines_service.starts hstarts), Reader.whole?, hmany]
    cbv
  · rw [if_neg h]
    exact read?_eq_none lines_service (Bool.eq_false_iff.2 h)

end Statements

end KeyedImages.Toml
