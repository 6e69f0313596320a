import KeyedImages.Proofs.CommandLine
import Mathlib

/-! Options on a command line: neither the order in which they stand nor the way in which each is
written makes a difference. -/
namespace KeyedImages.CommandLine

/-- An option, with the value that is given for it. -/
inductive Given
  | setting (s : Setting) (value : String)
  | json
  deriving DecidableEq, Repr

namespace Given

def longName : Given → String
  | setting s _ => s.longName
  | json => Switch.json.longName

/-- The value can stand as a word of its own: it does not look like an option. -/
def IsPlain : Given → Prop
  | setting _ value => value.toList.head? ≠ some '-'
  | json => True

instance : DecidablePred IsPlain
  | setting _ value => inferInstanceAs (Decidable (value.toList.head? ≠ some '-'))
  | json => .isTrue trivial

/-- Records an option that was not given before. -/
def record (c : Choices) : Given → Except Stop Choices
  | setting s value => State.set c s value
  | json =>
    if c.json then .error (.refused (.repeatedSwitch .json)) else .ok { c with json := true }

end Given

/-- The words in which an option can be written: with the value behind an equals sign, or in a word
of its own behind the long name or the short one. -/
inductive Written : Given → List String → Prop
  | joined (s : Setting) (value : String) :
    Written (.setting s value) ["--" ++ s.longName ++ "=" ++ value]
  | long (s : Setting) (value : String) : Written (.setting s value) ["--" ++ s.longName, value]
  | short (s : Setting) (value : String) (c : Char) : s.shortName? = some c →
    Written (.setting s value) [String.ofList ['-', c], value]
  | json : Written .json ["--json"]

/-- A command line of options, each in one of its ways. -/
inductive Spells : List Given → List String → Prop
  | nil : Spells [] []
  | cons {g : Given} {gs : List Given} {words rest : List String} :
    Written g words → Spells gs rest → Spells (g :: gs) (words ++ rest)

variable {g g' : Given} {gs gs' : List Given} {words words' : List String} {c : Choices}

section Words

variable {s : Setting} {value : String}

theorem ofString_joined (s : Setting) (value : String) :
    Word.ofString ("--" ++ s.longName ++ "=" ++ value) = .long s.longName (some value) := by
  cases s <;> simp [Word.ofString, Setting.longName, Text.splitFirst, String.toList_append]

theorem ofString_long (s : Setting) :
    Word.ofString ("--" ++ s.longName) = .long s.longName none := by
  cases s <;> rfl

theorem ofString_short {c : Char} (h : s.shortName? = some c) :
    Word.ofString (String.ofList ['-', c]) = .short c [] := by
  cases s <;> cases h <;> rfl

theorem ofString_plain (h : value.toList.head? ≠ some '-') : Word.ofString value = .plain := by
  rw [Word.ofString]
  cases hcs : value.toList with
  | nil => rfl
  | cons c cs =>
    have hc : c ≠ '-' := by
      rintro rfl
      rw [hcs] at h
      exact h rfl
    simp [hc]

theorem ofLong?_longName (s : Setting) : Setting.ofLong? s.longName = some s := by
  cases s <;> rfl

theorem ofShort?_shortName {c : Char} (h : s.shortName? = some c) :
    Setting.ofShort? c = some s := by
  cases s <;> cases h <;> rfl

end Words

section Read

variable {s : Setting} {word value : String}

theorem read_joined (st : State) (s : Setting) (value : String) (rest : List String) :
    st.read (("--" ++ s.longName ++ "=" ++ value) :: rest) =
      st.settle >>= fun c => State.set c s value >>= fun d => State.read ⟨d, none⟩ rest := by
  have hword := ofString_joined s value
  have hrest : Word.ofString ("--" ++ s.longName ++ "=" ++ value) ≠ .rest := by
    rw [hword]
    exact nofun
  rw [State.read_cons hrest, State.takeWord, hword]
  dsimp only
  rw [State.long, ofLong?_longName]
  simp only [State.take, bind_assoc, pure_bind]

/-- A value in a word of its own is kept with its setting, and is not looked at before the next
option. -/
theorem read_apart (hrest : Word.ofString word ≠ .rest)
    (hword : ∀ st : State, st.takeWord word = st.take s none)
    (hvalue : value.toList.head? ≠ some '-') (st : State) (rest : List String) :
    st.read (word :: value :: rest) =
      st.settle >>= fun c => State.read ⟨c, some (s, some value)⟩ rest := by
  have hplain : Word.ofString value ≠ .rest := by
    rw [ofString_plain hvalue]
    exact nofun
  rw [State.read_cons hrest, hword, State.take]
  simp only [bind_assoc, pure_bind, State.read_cons hplain, State.takeWord, ofString_plain hvalue]
  rfl

theorem read_long (s : Setting) (hvalue : value.toList.head? ≠ some '-') (st : State)
    (rest : List String) : st.read (("--" ++ s.longName) :: value :: rest) =
      st.settle >>= fun c => State.read ⟨c, some (s, some value)⟩ rest := by
  apply read_apart _ _ hvalue
  · rw [ofString_long]
    exact nofun
  · intro st
    rw [State.takeWord, ofString_long]
    dsimp only
    rw [State.long, ofLong?_longName]

theorem read_short {c : Char} (hc : s.shortName? = some c)
    (hvalue : value.toList.head? ≠ some '-') (st : State) (rest : List String) :
    st.read (String.ofList ['-', c] :: value :: rest) =
      st.settle >>= fun c => State.read ⟨c, some (s, some value)⟩ rest := by
  apply read_apart _ _ hvalue
  · rw [ofString_short hc]
    exact nofun
  · intro st
    rw [State.takeWord, ofString_short hc]
    dsimp only
    rw [State.short, ofShort?_shortName hc]
    rfl

theorem read_json (st : State) (rest : List String) :
    st.read ("--json" :: rest) =
      st.settle >>= fun c => Given.record c .json >>= fun d => State.read ⟨d, none⟩ rest := by
  have hword : Word.ofString "--json" = .long "json" none := rfl
  have hrest : Word.ofString "--json" ≠ .rest := by
    rw [hword]
    exact nofun
  rw [State.read_cons hrest, State.takeWord, hword]
  change (st.turn .json >>= (State.read · rest)) = _
  rw [State.turn, bind_assoc]
  congr 1
  funext c
  simp only [Given.record]
  split <;> rfl

/-- A command line of options is read by recording one after the other. -/
theorem read_spells (h : Spells gs words) (hplain : ∀ g ∈ gs, g.IsPlain) (st : State) :
    st.read words = st.settle >>= fun c => gs.foldlM Given.record c := by
  -- A value in a word of its own is recorded when the rest is read, so the pending one is general.
  induction h generalizing st with
  | nil => exact (bind_pure _).symm
  | @cons g gs words rest hwords hspells ih =>
    obtain ⟨hfirst, hothers⟩ := List.forall_mem_cons.1 hplain
    have hnext := ih hothers
    cases hwords with
    | joined s value =>
      rw [List.singleton_append, read_joined]
      simp only [hnext, List.foldlM_cons]
      rfl
    | long s value =>
      rw [List.cons_append, List.singleton_append, read_long s hfirst]
      simp only [hnext, List.foldlM_cons]
      rfl
    | short s value c hc =>
      rw [List.cons_append, List.singleton_append, read_short hc hfirst]
      simp only [hnext, List.foldlM_cons]
      rfl
    | json =>
      rw [List.singleton_append, read_json]
      simp only [hnext, List.foldlM_cons]
      rfl

end Read

section Order

namespace Given

variable {f f' : Choices → Choices} {d : Choices}

/-- What recording an option comes to, whatever is wrong where it fails. -/
def record? (c : Choices) (g : Given) : Option Choices := (record c g).toOption

def isTaken (c : Choices) : Given → Bool
  | setting .config _ => c.config.isSome
  | setting .key _ => c.key.isSome
  | setting .name _ => c.name.isSome
  | setting .images _ => c.images.isSome
  | json => c.json

/-- What an option changes in the choices. -/
inductive Changes : Given → (Choices → Choices) → Prop
  | config (value : String) :
    Changes (.setting .config value) fun c => { c with config := some value }
  | key (value : String) : Changes (.setting .key value) fun c => { c with key := some value }
  | name (value : String) : Changes (.setting .name value) fun c => { c with name := some value }
  | images (value : String) (n : UInt32) : count value = .ok n →
    Changes (.setting .images value) fun c => { c with images := some n }
  | json : Changes .json fun c => { c with json := true }

theorem refused_of_isTaken (h : isTaken c g = true) :
    ∃ reason, record c g = .error (.refused reason) := by
  cases g with
  | setting s value =>
    refine ⟨.repeatedSetting s, ?_⟩
    cases s <;> exact if_pos h
  | json => exact ⟨.repeatedSwitch .json, if_pos h⟩

theorem record_of_changes (hnew : isTaken c g = false) (hf : Changes g f) :
    record c g = .ok (f c) := by
  have hfree : ¬ isTaken c g = true := ne_true_of_eq_false hnew
  cases hf with
  | config value | key value | name value | json => exact if_neg hfree
  | images value n hcount =>
    refine (if_neg hfree).trans ?_
    rw [hcount]

/-- A number of images that is none changes nothing: it is refused. -/
theorem changes_or_refused (g : Given) : (∃ f, Changes g f) ∨
    ∀ c, isTaken c g = false → ∃ reason, record c g = .error (.refused reason) := by
  cases g with
  | json => exact .inl ⟨_, .json⟩
  | setting s value =>
    cases s with
    | config => exact .inl ⟨_, .config value⟩
    | key => exact .inl ⟨_, .key value⟩
    | name => exact .inl ⟨_, .name value⟩
    | images =>
      cases hcount : count value with
      | ok n => exact .inl ⟨_, .images value n hcount⟩
      | error fault =>
        right
        intro c hnew
        refine ⟨.invalidCount value fault, (if_neg (ne_true_of_eq_false hnew)).trans ?_⟩
        rw [hcount]

theorem record_cases (c : Choices) (g : Given) :
    (isTaken c g = false ∧ ∃ f, Changes g f ∧ record c g = .ok (f c)) ∨
      ∃ reason, record c g = .error (.refused reason) := by
  cases htaken : isTaken c g with
  | true => exact .inr (refused_of_isTaken htaken)
  | false =>
    rcases changes_or_refused g with ⟨f, hf⟩ | hrefused
    · exact .inl ⟨rfl, f, hf, record_of_changes htaken hf⟩
    · exact .inr (hrefused c htaken)

/-- An option can be recorded just if it was not and its value is one. -/
theorem record?_eq_some : record? c g = some d ↔
    isTaken c g = false ∧ ∃ f, Changes g f ∧ f c = d := by
  unfold record?
  constructor
  · intro h
    rcases record_cases c g with ⟨hnew, f, hf, hok⟩ | ⟨reason, hrefused⟩
    · rw [hok] at h
      exact ⟨hnew, f, hf, Option.some.inj h⟩
    · rw [hrefused] at h
      cases h
  · rintro ⟨hnew, f, hf, rfl⟩
    rw [record_of_changes hnew hf]
    rfl

/-- Two options do not get in each other's way: each looks at a part of its own. -/
theorem Changes.apart (hf : Changes g f) (hf' : Changes g' f') (h : g.longName ≠ g'.longName)
    (c : Choices) : isTaken (f c) g' = isTaken c g' ∧ f' (f c) = f (f' c) := by
  cases hf <;> cases hf' <;> first
    | exact ⟨rfl, rfl⟩
    | exact absurd rfl h

theorem record?_twice (h : g.longName ≠ g'.longName) :
    (record? c g).bind (record? · g') = some d ↔ isTaken c g = false ∧ isTaken c g' = false ∧
      ∃ f f', Changes g f ∧ Changes g' f' ∧ f' (f c) = d := by
  rw [Option.bind_eq_some_iff]
  constructor
  · rintro ⟨e, he, hd⟩
    obtain ⟨hnew, f, hf, rfl⟩ := record?_eq_some.1 he
    obtain ⟨hnew', f', hf', hd⟩ := record?_eq_some.1 hd
    rw [(hf.apart hf' h c).1] at hnew'
    exact ⟨hnew, hnew', f, f', hf, hf', hd⟩
  · rintro ⟨hnew, hnew', f, f', hf, hf', hd⟩
    rw [← (hf.apart hf' h c).1] at hnew'
    exact ⟨f c, record?_eq_some.2 ⟨hnew, f, hf, rfl⟩, record?_eq_some.2 ⟨hnew', f', hf', hd⟩⟩

theorem record?_comm (h : g.longName ≠ g'.longName) (c : Choices) :
    (record? c g).bind (record? · g') = (record? c g').bind (record? · g) := by
  apply Option.ext
  intro d
  rw [record?_twice h, record?_twice h.symm]
  constructor
  · rintro ⟨hnew, hnew', f, f', hf, hf', rfl⟩
    exact ⟨hnew', hnew, f', f, hf', hf, (hf'.apart hf h.symm c).2⟩
  · rintro ⟨hnew, hnew', f, f', hf, hf', rfl⟩
    exact ⟨hnew', hnew, f', f, hf', hf, (hf'.apart hf h c).2⟩

end Given

theorem toOption_foldlM (gs : List Given) (c : Choices) : (gs.foldlM Given.record c).toOption =
    gs.foldl (fun found g => found.bind (Given.record? · g)) (some c) := by
  induction gs generalizing c with
  | nil => rfl
  | cons g gs ih =>
    rw [List.foldlM_cons, List.foldl_cons, Option.bind_some, Given.record?]
    cases Given.record c g with
    | ok d => exact ih d
    | error e =>
      have hnone : gs.foldl (fun found g => found.bind (Given.record? · g)) none = none :=
        List.foldl_fixed' (fun _ => rfl) gs
      exact hnone.symm

/-- Options that are recorded in another order come to the same choices, or fail as well. -/
theorem toOption_foldlM_perm (hperm : gs.Perm gs') (hnodup : (gs.map Given.longName).Nodup)
    (c : Choices) :
    (gs.foldlM Given.record c).toOption = (gs'.foldlM Given.record c).toOption := by
  rw [toOption_foldlM, toOption_foldlM]
  apply hperm.foldl_eq'
  intro g hg g' hg' found
  by_cases hname : g.longName = g'.longName
  · rw [List.inj_on_of_nodup_map hnodup hg hg' hname]
  · cases found with
    | none => rfl
    | some c => exact Given.record?_comm hname c

end Order

section Refused

variable {e : Stop}

theorem refused_of_record (h : g.record c = .error e) : ∃ reason, e = .refused reason := by
  rcases Given.record_cases c g with ⟨-, f, -, hok⟩ | ⟨reason, hrefused⟩
  · rw [hok] at h
    cases h
  · rw [hrefused] at h
    exact ⟨reason, (Except.error.inj h).symm⟩

/-- Nothing but a refusal ends the reading of options. -/
theorem refused_of_foldlM (h : gs.foldlM Given.record c = .error e) :
    ∃ reason, e = .refused reason := by
  induction gs generalizing c with
  | nil => cases h
  | cons g gs ih =>
    rw [List.foldlM_cons] at h
    cases hfirst : Given.record c g with
    | ok d =>
      rw [hfirst] at h
      exact ih h
    | error e' =>
      rw [hfirst] at h
      obtain rfl := Except.error.inj h
      exact refused_of_record hfirst

end Refused

/-- Two command lines with the same options, each at most once, mean the same, or are both
refused. -/
theorem read_spells_perm (hwords : Spells gs words) (hwords' : Spells gs' words')
    (hperm : gs.Perm gs') (hnodup : (gs.map Given.longName).Nodup) (hplain : ∀ g ∈ gs, g.IsPlain) :
    (∃ c, read words = .ok c ∧ read words' = .ok c) ∨
      ∃ reason reason', read words = .error (.refused reason) ∧
        read words' = .error (.refused reason') := by
  have hread : read words = gs.foldlM Given.record .empty := read_spells hwords hplain .start
  have hread' : read words' = gs'.foldlM Given.record .empty := by
    apply read_spells hwords' _ .start
    intro g hg
    exact hplain g (hperm.mem_iff.2 hg)
  have hsame := toOption_foldlM_perm hperm hnodup .empty
  rw [← hread, ← hread'] at hsame
  cases hok : read words with
  | ok c =>
    rw [hok] at hsame
    cases hok' : read words' with
    | ok c' =>
      rw [hok'] at hsame
      obtain rfl := Option.some.inj hsame
      exact .inl ⟨c, rfl, rfl⟩
    | error e' =>
      rw [hok'] at hsame
      cases hsame
  | error e =>
    rw [hok] at hsame
    cases hok' : read words' with
    | ok c' =>
      rw [hok'] at hsame
      cases hsame
    | error e' =>
      obtain ⟨reason, rfl⟩ := refused_of_foldlM (hread.symm.trans hok)
      obtain ⟨reason', rfl⟩ := refused_of_foldlM (hread'.symm.trans hok')
      exact .inr ⟨reason, reason', rfl, rfl⟩

end KeyedImages.CommandLine
