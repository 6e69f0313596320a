import KeyedImages.Proofs.Text.Lines
import KeyedImages.Session.Transcript
import Mathlib.Data.List.Forall2

/-! The text of a transcript: a line for each step and one for the whole. Whatever the details are,
steps and counts can be read off it again. -/
namespace KeyedImages

theorem Method.mem_name {c : Char} {m : Method} (h : c ∈ m.name.toList) : c ≠ ' ' ∧ c ≠ '\n' := by
  revert c
  cases m <;> simp [name]

theorem Method.name_inj {m n : Method} (h : m.name.toList = n.name.toList) : m = n := by
  have hname := String.toList_inj.1 h
  cases m <;> cases n <;> simp [name] at hname ⊢

theorem ServiceError.newline_not_mem_message (e : ServiceError) : '\n' ∉ e.message.toList := by
  cases e with
  | invalidKey => decide
  | imageNotFound id =>
    have hconst : '\n' ∉ "image not found".toList := by decide
    exact hconst

theorem ServiceError.name_of_message {e f : ServiceError}
    (h : e.message.toList = f.message.toList) : e.name = f.name := by
  have hne : "invalid service key".toList ≠ "image not found".toList := by decide
  cases e with
  | invalidKey => cases f with
    | invalidKey => rfl
    | imageNotFound id => exact absurd h hne
  | imageNotFound id => cases f with
    | invalidKey => exact absurd h.symm hne
    | imageNotFound id => rfl

namespace Session

open Text

variable {t u : Transcript} {a b : Step}

/-- Two outcomes that are shown alike: the same detail, or errors of the same name. -/
def Outcome.ShownAs : Outcome → Outcome → Prop
  | .ok detail, .ok detail' => detail = detail'
  | .failed e, .failed e' => e.name = e'.name
  | _, _ => False

/-- Whether the detail of a step, if it has one, stays on its line. -/
def Step.Unbroken (s : Step) : Prop := ∀ detail, s.outcome = .ok detail → '\n' ∉ detail.toList

theorem Step.line_eq (s : Step) : ∃ word, s.line = s.method.name.toList ++ ' ' :: word ∧
    word = match s.outcome with
      | .ok detail => "ok      ".toList ++ detail.toList
      | .failed e => "failed  ".toList ++ e.message.toList := by
  obtain ⟨method, detail | e⟩ := s <;> exact ⟨_, by simp [line], rfl⟩

theorem Step.newline_not_mem_line (h : a.Unbroken) : '\n' ∉ a.line := by
  obtain ⟨word, hline, hword⟩ := a.line_eq
  have hunbroken : '\n' ∉ word := by
    cases ho : a.outcome with
    | ok detail => simp [hword, ho, h detail ho]
    | failed e => simp [hword, ho, e.newline_not_mem_message]
  rw [hline, List.mem_append, List.mem_cons]
  rintro (hname | hblank | hmem)
  · exact (Method.mem_name hname).2 rfl
  · exact absurd hblank (by decide)
  · exact hunbroken hmem

theorem Step.split_lines_eq {steps : List Step} (h : ∀ s ∈ steps, s.Unbroken) :
    steps.flatMap (fun s => split '\n' s.line) = steps.map Step.line := by
  rw [List.map_eq_flatMap]
  apply List.flatMap_congr
  intro s hs
  exact split_of_not_mem (newline_not_mem_line (h s hs))

/-- A line shows the method, how the step went, and why. -/
theorem Step.line_inj (h : a.line = b.line) :
    a.method = b.method ∧ a.outcome.ShownAs b.outcome := by
  obtain ⟨word, ha, hword⟩ := a.line_eq
  obtain ⟨word', hb, hword'⟩ := b.line_eq
  rw [ha, hb] at h
  -- A detail can be anything, so lines are compared from the left: no method holds a blank.
  have hname {m : Method} : ∀ c ∈ m.name.toList, (c != ' ') = true := by
    intro c hc
    simpa using (Method.mem_name hc).1
  obtain ⟨hmethod, hrest⟩ := word_append_inj hname hname (by decide) (by decide) h
  refine ⟨Method.name_inj hmethod, ?_⟩
  have hsame := (List.cons.inj hrest).2
  rw [hword, hword'] at hsame
  cases hoa : a.outcome with
  | ok detail =>
    cases hob : b.outcome with
    | ok detail' =>
      simp only [hoa, hob] at hsame
      exact String.toList_inj.1 (List.append_cancel_left hsame)
    | failed e => simp [hoa, hob] at hsame
  | failed e =>
    cases hob : b.outcome with
    | ok detail => simp [hoa, hob] at hsame
    | failed e' =>
      simp only [hoa, hob] at hsame
      exact ServiceError.name_of_message (List.append_cancel_left hsame)

namespace Transcript

theorem newline_not_mem_summary (t : Transcript) : '\n' ∉ t.summary := by
  simp [summary, Numeral.newline_not_mem_digits]
  cases t.keyRevoked <;> decide

theorem summary_eq (t : Transcript) : t.summary =
    Numeral.digits t.steps.length ++ ' ' :: ("calls, ".toList ++
      (Numeral.digits t.imageIds.length ++ ' ' :: ("images, key revoked: ".toList ++
        (if t.keyRevoked then "true" else "false").toList))) := by
  simp [summary]

/-- The number of ids, and what became of the key, are shown in the last line. -/
theorem summary_inj (h : t.summary = u.summary) :
    t.imageIds.length = u.imageIds.length ∧ t.keyRevoked = u.keyRevoked := by
  rw [t.summary_eq, u.summary_eq] at h
  have hrest := (Numeral.digits_append_inj (by decide) (by decide) h).2
  have hcounts := List.append_cancel_left (List.cons.inj hrest).2
  obtain ⟨hids, hkey⟩ := Numeral.digits_append_inj (by decide) (by decide) hcounts
  refine ⟨hids, ?_⟩
  have hrevoked := List.append_cancel_left (List.cons.inj hkey).2
  cases ht : t.keyRevoked <;> cases hu : u.keyRevoked <;> simp_all

theorem split_chars (t : Transcript) :
    split '\n' t.chars = t.steps.flatMap (fun s => split '\n' s.line) ++ [t.summary] := by
  rw [chars, split_lines, split_of_not_mem t.newline_not_mem_summary]

/-- Where no detail breaks its line, the lines of a text are those of the steps and the last. -/
theorem lines_eq (h : ∀ s ∈ t.steps, s.Unbroken) :
    split '\n' t.chars = t.steps.map Step.line ++ [t.summary] := by
  rw [split_chars, Step.split_lines_eq h]

/-- Transcripts whose details stay on their lines read the same only if they have the same methods
with the same details or kinds of errors, as many ids, and the same word on the key. -/
theorem text_unambiguous (ht : ∀ s ∈ t.steps, s.Unbroken) (hu : ∀ s ∈ u.steps, s.Unbroken)
    (h : t.text = u.text) :
    t.steps.length = u.steps.length ∧
    List.Forall₂ (fun a b => a.method = b.method ∧ a.outcome.ShownAs b.outcome) t.steps u.steps ∧
    t.imageIds.length = u.imageIds.length ∧ t.keyRevoked = u.keyRevoked := by
  have hchars : t.chars = u.chars := String.ofList_injective h
  have hsplit := congrArg (split '\n') hchars
  rw [lines_eq ht, lines_eq hu] at hsplit
  obtain ⟨hsteps, hlast⟩ := List.append_inj' hsplit rfl
  have hsummary := summary_inj (List.cons.inj hlast).1
  have hlines : List.Forall₂ (fun a b : Step => a.line = b.line) t.steps u.steps := by
    rw [← List.forall₂_eq_eq_eq] at hsteps
    exact List.forall₂_map_right_iff.1 (List.forall₂_map_left_iff.1 hsteps)
  have hshown := hlines.imp fun a b => Step.line_inj
  exact ⟨hshown.length_eq, hshown, hsummary⟩

/-- A detail that looks like a failed step in front of the last line, behind a lookup that failed.
The two transcripts read the same and differ in the id that was looked up, in the id of an upload,
and in the time. -/
theorem text_unambiguous_lookalike :
    let detail := "GetImage failed  image not found 1 calls, 0 images, key revoked: true"
    let t : Transcript := ⟨[⟨.getImage, .failed (.imageNotFound ⟨7⟩)⟩, ⟨.hello, .ok detail⟩],
      [⟨1⟩], none, false⟩
    let u : Transcript := ⟨[⟨.getImage, .failed (.imageNotFound ⟨0⟩)⟩, ⟨.hello, .ok detail⟩],
      [⟨2⟩], some Timestamp.zero, false⟩
    (∀ s ∈ t.steps, s.Unbroken) ∧ (∀ s ∈ u.steps, s.Unbroken) ∧ t.text = u.text ∧ t ≠ u ∧
      List.Forall₂ (fun a b => a.method = b.method ∧ a.outcome.ShownAs b.outcome)
        t.steps u.steps := by
  intro detail t u
  have hdetail : '\n' ∉ detail.toList := by decide
  have ht : ∀ s ∈ t.steps, s.Unbroken := by simpa [t, Step.Unbroken] using hdetail
  have hu : ∀ s ∈ u.steps, s.Unbroken := by simpa [u, Step.Unbroken] using hdetail
  have htext : t.text = u.text := by decide +kernel
  exact ⟨ht, hu, htext, by decide, (text_unambiguous ht hu htext).2.1⟩

end Transcript

end Session

end KeyedImages
