import KeyedImages.Proofs.MockService.Greeting

/-! The columns of a transcript's text: where a line says how its step went, and where it says more
of it. Nothing fills up the method in front of them, so each method has columns of its own. -/
namespace KeyedImages

namespace Text

/-- A line shows a word from one column on and ends with a text from another one on, with nothing
but blanks between the two. Columns are counted from one. -/
def ShowsAt (line word text : List Char) (i j : Nat) : Prop :=
  ∃ front gap, line = front ++ word ++ gap ++ text ∧ (∀ c ∈ gap, c = ' ') ∧
    i = front.length + 1 ∧ j = (front ++ word ++ gap).length + 1

variable {line word text : List Char} {i j k l : Nat}

/-- A word without blanks is shown at one column only, and so is the text behind it. -/
theorem ShowsAt.unique (hword : ' ' ∉ word) (hne : word ≠ []) (h : ShowsAt line word text i j)
    (h' : ShowsAt line word text k l) : i = k ∧ j = l := by
  obtain ⟨front, gap, hline, hgap, rfl, rfl⟩ := h
  obtain ⟨front', gap', hline', hgap', rfl, rfl⟩ := h'
  obtain ⟨init, last, rfl⟩ := (List.eq_nil_or_concat word).resolve_left hne
  have hlast : (last == ' ') = false := by
    rw [beq_eq_false_iff_ne]
    rintro rfl
    simp at hword
  have hsame : front ++ init.concat last ++ gap = front' ++ init.concat last ++ gap' :=
    List.append_cancel_right (hline.symm.trans hline')
  -- Read from the right, the gaps are words of blanks that end at the same letter.
  have hback : gap.reverse ++ last :: (front ++ init).reverse =
      gap'.reverse ++ last :: (front' ++ init).reverse := by
    simpa using congrArg List.reverse hsame
  have hblank {blanks : List Char} (h : ∀ c ∈ blanks, c = ' ') :
      ∀ c ∈ blanks.reverse, (c == ' ') = true := by
    simpa using h
  obtain ⟨hgaps, -⟩ := word_append_inj (hblank hgap) (hblank hgap') hlast hlast hback
  have hlength := congrArg List.length hsame
  have hgaplength := congrArg List.length hgaps
  simp only [List.length_append, List.length_reverse] at hlength hgaplength ⊢
  omega

end Text

theorem Method.length_name_lt (m : Method) : m.name.length < 14 := by
  cases m <;> decide

namespace Session

/-- The word for how a step went. -/
def Outcome.word : Outcome → String
  | .ok _ => "ok"
  | .failed _ => "failed"

/-- What is said of a step besides: its detail, or the message of its error. -/
def Outcome.remark : Outcome → String
  | .ok detail => detail
  | .failed e => e.message

/-- The line of a step says at one column how the step went, and from another one on the rest. -/
def Step.ShowsAt (s : Step) (i j : Nat) : Prop :=
  Text.ShowsAt s.line s.outcome.word.toList s.outcome.remark.toList i j

variable {s : Step} {t : Transcript} {i j : Nat}

/-- The word stands behind the method and one blank, and the rest eight characters further on. -/
theorem Step.showsAt_iff : s.ShowsAt i j ↔
    i = s.method.name.length + 2 ∧ j = s.method.name.length + 10 := by
  have hshows : s.ShowsAt (s.method.name.length + 2) (s.method.name.length + 10) := by
    obtain ⟨method, detail | e⟩ := s
    · refine ⟨method.name.toList ++ [' '], List.replicate 6 ' ', ?_, ?_, ?_, ?_⟩
      all_goals simp [line, Outcome.word, Outcome.remark, String.length_toList]
    · refine ⟨method.name.toList ++ [' '], List.replicate 2 ' ', ?_, ?_, ?_, ?_⟩
      all_goals simp [line, Outcome.word, Outcome.remark, String.length_toList]
  constructor
  · intro h
    refine h.unique ?_ ?_ hshows
    all_goals cases s.outcome <;> simp [Outcome.word]
  · rintro ⟨rfl, rfl⟩
    exact hshows

theorem Step.not_showsAt (s : Step) : ¬ s.ShowsAt 16 24 := by
  have hname := s.method.length_name_lt
  rw [showsAt_iff]
  omega

theorem aligned_iff : (∃ i j, ∀ s ∈ t.steps, s.ShowsAt i j) ↔
    ∀ a ∈ t.steps, ∀ b ∈ t.steps, a.method.name.length = b.method.name.length := by
  constructor
  · rintro ⟨i, j, h⟩ a ha b hb
    have hcolumn := (Step.showsAt_iff.1 (h a ha)).1
    have hcolumn' := (Step.showsAt_iff.1 (h b hb)).1
    omega
  · intro h
    cases hsteps : t.steps with
    | nil => exact ⟨0, 0, fun s hs => absurd hs List.not_mem_nil⟩
    | cons a steps =>
      rw [hsteps] at h
      refine ⟨a.method.name.length + 2, a.method.name.length + 10, fun s hs => ?_⟩
      rw [Step.showsAt_iff, h s hs a List.mem_cons_self]
      exact ⟨rfl, rfl⟩

/-- Where no detail breaks its line, each step has a line, and the columns of a line follow from the
length of its method's name alone. So the lines are aligned just if all names are of one length, and
a line never says at its sixteenth column how the step went. -/
theorem columns_follow_methods (t : Transcript) (h : ∀ s ∈ t.steps, s.Unbroken) :
    Text.split '\n' t.text.toList = t.steps.map Step.line ++ [t.summary] ∧
    (∀ s ∈ t.steps, ∀ i j, s.ShowsAt i j ↔
      i = s.method.name.length + 2 ∧ j = s.method.name.length + 10) ∧
    ((∃ i j, ∀ s ∈ t.steps, s.ShowsAt i j) ↔
      ∀ a ∈ t.steps, ∀ b ∈ t.steps, a.method.name.length = b.method.name.length) ∧
    ((∀ s ∈ t.steps, s.ShowsAt 16 24) ↔ t.steps = []) := by
  refine ⟨?_, fun _ _ _ _ => Step.showsAt_iff, aligned_iff, fun hall => ?_, fun hnil => ?_⟩
  · rw [Transcript.text, String.toList_ofList, Transcript.lines_eq h]
  · cases hsteps : t.steps with
    | nil => rfl
    | cons a steps => exact absurd (hall a (by simp [hsteps])) a.not_showsAt
  · simp [hnil]

/-- Two methods of five letters are aligned with each other. The detail of the first looks at the
sixteenth and the twenty-fourth column as if the step's word and detail stood there. -/
theorem columns_follow_methods_lookalike :
    let t : Transcript := ⟨[⟨.hello, .ok " ok      x"⟩, ⟨.reset, .ok ""⟩], [], none, false⟩
    (∀ s ∈ t.steps, s.Unbroken) ∧ (∃ i j, ∀ s ∈ t.steps, s.ShowsAt i j) ∧
      ¬ ∀ s ∈ t.steps, s.ShowsAt 16 24 := by
  intro t
  have ht : ∀ s ∈ t.steps, s.Unbroken := by simp [t, Step.Unbroken]
  obtain ⟨-, -, haligned, htable⟩ := columns_follow_methods t ht
  exact ⟨ht, haligned.2 (by decide), mt htable.1 (by decide)⟩

/-- A session greets and asks for its key, and the names of these methods differ in length. So the
transcript of a session that succeeds is never aligned, whatever the service. -/
theorem not_aligned_of_completed {σ : Type} {service : Service σ} {s : σ} {request : Request}
    {now : Timestamp} (h : ((dialogue request now).run service s).value = .ok t) :
    ¬ ∃ i j, ∀ s ∈ t.steps, s.ShowsAt i j := by
  have hend := run_ended service s request now
  rw [h] at hend
  have hstep (stage : Stage) (hstage : stage ∈ plan request.images.toNat) :
      ∃ step ∈ t.steps, step.method = stage.method := by
    have hmethod : stage.method ∈ t.steps.map (·.method) := by
      rw [hend.methods]
      exact List.mem_map_of_mem hstage
    exact List.mem_map.1 hmethod
  obtain ⟨a, ha, hhello⟩ := hstep .hello (by simp)
  obtain ⟨b, hb, hauth⟩ := hstep .auth (by simp)
  intro haligned
  have hlength := aligned_iff.1 haligned a ha b hb
  rw [hhello, hauth] at hlength
  exact absurd hlength (by decide)

/-- In the text of a session with a new stand-in the greeting and the key have different columns. -/
theorem greeting_and_key_unaligned :
    ∃ t, ((dialogue ⟨"a", 0⟩ Timestamp.zero).run MockService.service (.new ⟨"k"⟩)).value = .ok t ∧
      (∀ s ∈ t.steps, s.Unbroken) ∧ (∃ s ∈ t.steps, s.ShowsAt 7 15) ∧
      (∃ s ∈ t.steps, s.ShowsAt 6 14) ∧ (¬ ∃ i j, ∀ s ∈ t.steps, s.ShowsAt i j) ∧
      ¬ ∀ s ∈ t.steps, s.ShowsAt 16 24 := by
  have hvalue := (MockService.dialogue_comesTo (.new ⟨"k"⟩) ⟨"a", 0⟩ Timestamp.zero (by decide)).1
  obtain ⟨steps, hsteps, hunbroken⟩ := MockService.steps_greeted hvalue
  have hgreeting : (MockService.greetingStep "a").Unbroken := by
    intro detail hdetail
    cases hdetail
    decide
  refine ⟨_, hvalue, ?_, ⟨⟨.hello, .ok "Good to go a"⟩, ?_, ?_⟩,
    ⟨⟨.auth, .ok "key issued"⟩, ?_, ?_⟩, not_aligned_of_completed hvalue, ?_⟩
  · rw [hsteps]
    exact List.forall_mem_cons.2 ⟨hgreeting, hunbroken⟩
  · exact List.mem_cons_self
  · exact Step.showsAt_iff.2 (by decide)
  · exact List.mem_cons_of_mem _ List.mem_cons_self
  · exact Step.showsAt_iff.2 (by decide)
  · rw [hsteps]
    exact fun hall => Step.not_showsAt _ (hall _ List.mem_cons_self)

end Session

end KeyedImages
