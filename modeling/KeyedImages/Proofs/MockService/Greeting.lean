import KeyedImages.Proofs.MockService.Alone
import KeyedImages.Proofs.Session.Lines
import KeyedImages.Proofs.Session.Records
import KeyedImages.Proofs.Timestamp.Reading

/-! Where a client's name reaches the log and the text of a session with the stand-in. It is quoted
everywhere but in the greeting, and the greeting is all that can break a line. -/
namespace KeyedImages

open Text

theorem ImageId.newline_not_mem_text (id : ImageId) : '\n' ∉ id.text.toList :=
  Numeral.newline_not_mem_ofNat _

namespace Session

variable {σ : Type} {service : Service σ} {s : σ} {request : Request} {now : Timestamp}
  {stage : Stage} {stages : List Stage} {past : List Exchange} {x : Exchange} {r : Log.Record}

/-- Only a greeting is recorded as the service gives it. -/
theorem newline_not_mem_detail (h : x.call.method ≠ .hello) : '\n' ∉ (detail x).toList := by
  obtain ⟨call, reply⟩ := x
  cases call with
  | hello name => exact absurd rfl h
  | noop | reset => simp [detail]
  | auth name time => cases reply <;> simp [detail]
  | getServerTime key => cases reply <;> simp [detail, Timestamp.newline_not_mem_text]
  | postImage key image => cases reply <;> simp [detail, Numeral.newline_not_mem_ofNat]
  | getImage key id => cases reply <;> simp [detail, Numeral.newline_not_mem_ofNat]

theorem unbroken_stepOf (h : x.call.method ≠ .hello) : (stepOf x).Unbroken := by
  intro shown hshown
  unfold stepOf outcome at hshown
  cases he : x.error? with
  | some e => simp [he] at hshown
  | none =>
    simp only [he, Outcome.ok.injEq] at hshown
    exact hshown ▸ newline_not_mem_detail h

theorem Step.newline_mem_note (step : Step) : '\n' ∈ step.note.message.toList ↔
    ∃ shown, step.outcome = .ok shown ∧ '\n' ∈ shown.toList := by
  obtain ⟨method, outcome⟩ := step
  have hname : '\n' ∉ method.name.toList := fun h => (Method.mem_name h).2 rfl
  have hmark : '\n' ∉ (if method.requiresKey then " (keyed)" else "").toList := by
    split <;> simp
  cases outcome with
  | ok shown => simp [note, hname, hmark]
  | failed e => simp [note, hname, hmark, e.newline_not_mem_message]

theorem newline_not_mem_startNote (request : Request) :
    '\n' ∉ (startNote request).message.toList := by
  simp [startNote, newline_not_mem_quote]

theorem newline_not_mem_endNote (t : Transcript) : '\n' ∉ (endNote t).message.toList := by
  rw [endNote_eq]
  unfold finishedText
  simp only [String.toList_append, List.mem_append, Numeral.newline_not_mem_ofNat, or_false]
  decide

theorem newline_not_mem_notes (hx : x.call.method ≠ .hello) (hr : r ∈ stage.notes x) :
    '\n' ∉ r.message.toList := by
  rcases List.mem_append.1 hr with hr | hr
  · unfold Stage.warnings at hr
    split at hr
    · obtain rfl := List.mem_singleton.1 hr
      simp
    · obtain rfl := List.mem_singleton.1 hr
      simp
    · cases hr
  · obtain rfl := List.mem_singleton.1 hr
    rw [Step.newline_mem_note]
    rintro ⟨shown, hshown, hbreak⟩
    exact unbroken_stepOf hx shown hshown hbreak

/-- Behind its greeting a session writes no line break, whatever the service replies. -/
theorem newline_not_mem_log_follow (h : .hello ∉ stages)
    (hr : r ∈ ((follow request now stages past).run service.muted s).log) :
    '\n' ∉ r.message.toList := by
  induction stages generalizing past s with
  | nil =>
    obtain rfl := List.mem_singleton.1 hr
    exact newline_not_mem_endNote _
  | cons stage stages ih =>
    rw [List.mem_cons, not_or] at h
    simp only [follow, Dialogue.run, Service.muted, List.nil_append, Stage.proceed] at hr
    split at hr
    · cases hr
    · rw [Dialogue.log_run_notes] at hr
      rcases List.mem_append.1 hr with hr | hr
      · refine newline_not_mem_notes ?_ hr
        rw [next_method]
        cases stage <;> simp_all [Stage.method]
      · exact ih h.2 hr

end Session

namespace MockService

open Session

variable {s : MockService} {request : Request} {now : Timestamp} {r : Log.Record} {call : Call}

theorem newline_not_mem_answer (h : r ∈ (s.answer call).2.2) : '\n' ∉ r.message.toList := by
  rcases mem_answer h with hfixed | ⟨name, rfl⟩ | ⟨image, id, rfl⟩
  · have all : ∀ r ∈ fixedNotes, '\n' ∉ r.message.toList := by decide
    exact all r hfixed
  · simp [authNote, newline_not_mem_quote]
  · simp [acceptNote, Numeral.newline_not_mem_ofNat, id.newline_not_mem_text]

/-- The step of the greeting that a name is given. -/
def greetingStep (name : String) : Step := ⟨.hello, .ok (greetingStart ++ name)⟩

theorem newline_mem_greetingStep (name : String) :
    '\n' ∈ (greetingStep name).note.message.toList ↔ '\n' ∈ name.toList := by
  simp [Step.newline_mem_note, greetingStep, greetingStart]

theorem count_greetingStep (name : String) :
    (greetingStep name).line.count '\n' = name.toList.count '\n' := by
  have hstart :
      (Method.hello.name.toList ++ " ok      ".toList ++ greetingStart.toList).count '\n' = 0 := by
    decide
  have hline : (greetingStep name).line =
      Method.hello.name.toList ++ " ok      ".toList ++ greetingStart.toList ++ name.toList := by
    simp [greetingStep, Step.line]
  rw [hline, List.count_append, hstart, Nat.zero_add]

theorem hello_not_mem_tail_plan (n : Nat) : .hello ∉ (plan n).tail := by
  by_cases hn : n = 0 <;> simp [plan, hn]

/-- A session with the stand-in opens with its greeting, and no later call is another one. -/
theorem opens_with_greeting (s : MockService) (request : Request) (now : Timestamp) :
    ∃ later, ((dialogue request now).run service s).exchanges =
        ⟨.hello request.name, .ok (greetingStart ++ request.name)⟩ :: later ∧
      ∀ x ∈ later, x.call.method ≠ .hello := by
  have hend := run_ended service s request now
  obtain ⟨later, hlater⟩ : ∃ later, ((dialogue request now).run service s).exchanges =
      ⟨.hello request.name, .ok (greetingStart ++ request.name)⟩ :: later := by
    rw [dialogue_eq_follow]
    exact ⟨_, rfl⟩
  refine ⟨later, hlater, fun x hx hhello => ?_⟩
  -- A later greeting would come from a stage behind the first, and none of these greets.
  obtain ⟨past, rest, rfl⟩ := List.append_of_mem hx
  rw [hlater, ← List.cons_append] at hend
  obtain ⟨before, stage, after, hplan, hpassed, hc, -⟩ := hend.moment
  obtain ⟨opening, before, rfl⟩ := List.exists_cons_of_length_eq_add_one hpassed.length_eq
  have hstage : stage ∈ (plan request.images.toNat).tail := by simp [hplan]
  rw [hc, next_method] at hhello
  cases stage with
  | hello => exact hello_not_mem_tail_plan _ hstage
  | _ => cases hhello

theorem log_opens_with_greeting (s : MockService) (request : Request) (now : Timestamp) :
    ∃ later, ((dialogue request now).run service.muted s).log =
        startNote request :: (greetingStep request.name).note :: later ∧
      ∀ r ∈ later, '\n' ∉ r.message.toList := by
  rw [dialogue_eq_follow]
  exact ⟨_, rfl, fun r hr => newline_not_mem_log_follow (hello_not_mem_tail_plan _) hr⟩

/-- A transcript from the stand-in begins with the greeting, and its other steps are unbroken. -/
theorem steps_greeted {t : Transcript}
    (h : ((dialogue request now).run service s).value = .ok t) :
    ∃ steps, t.steps = greetingStep request.name :: steps ∧ ∀ step ∈ steps, step.Unbroken := by
  obtain ⟨later, hxs, hlater⟩ := opens_with_greeting s request now
  have hend := run_ended service s request now
  rw [h, hxs] at hend
  refine ⟨later.map stepOf, hend.steps_eq, fun step hstep => ?_⟩
  obtain ⟨x, hx, rfl⟩ := List.mem_map.1 hstep
  exact unbroken_stepOf (hlater x hx)

section

variable {t : Transcript} {name : String} {steps : List Step}

theorem lines_of_greeted (ht : t.steps = greetingStep name :: steps)
    (h : ∀ step ∈ steps, step.Unbroken) : split '\n' t.text.toList =
      split '\n' (greetingStep name).line ++ steps.map Step.line ++ [t.summary] := by
  rw [Transcript.text, String.toList_ofList, t.split_chars, ht, List.flatMap_cons,
    Step.split_lines_eq h]

theorem length_lines_of_greeted (ht : t.steps = greetingStep name :: steps)
    (h : ∀ step ∈ steps, step.Unbroken) :
    (split '\n' t.text.toList).length = t.steps.length + 1 + name.toList.count '\n' := by
  simp [lines_of_greeted ht h, ht, length_split, count_greetingStep]
  omega

end

/-- Of all that a session with the stand-in writes, only the record of its greeting can break a
line, and does so just if the name does. So it is with the text of the transcript: it has a line for
each step and one more, and one more again for each line break in the name. -/
theorem greeting_alone_breaks_lines (s : MockService) (request : Request) (now : Timestamp) :
    let c := (dialogue request now).run service s
    let breaks := request.name.toList.count '\n'
    c.log.filter (fun r => '\n' ∈ r.message.toList) =
      (if breaks = 0 then [] else [(greetingStep request.name).note]) ∧
    (∀ t, c.value = .ok t →
      (split '\n' t.text.toList).length = t.steps.length + 1 + breaks ∧
      split '\n' t.text.toList = split '\n' (greetingStep request.name).line ++
        t.steps.tail.map Step.line ++ [t.summary] ∧
      (split '\n' t.text.toList = t.steps.map Step.line ++ [t.summary] ↔ breaks = 0)) ∧
    (s.count + request.images.toNat < UInt64.size → ∃ t, c.value = .ok t) := by
  dsimp only
  refine ⟨?_, fun t ht => ?_, fun hcount => ⟨_, (dialogue_comesTo s request now hcount).1⟩⟩
  · obtain ⟨later, hlog, hlater⟩ := log_opens_with_greeting s request now
    rw [Dialogue.filter_log fun s call r hr => decide_eq_false (newline_not_mem_answer hr), hlog]
    have hnone : later.filter (fun r => '\n' ∈ r.message.toList) = [] := by
      simpa using hlater
    simp [List.filter_cons, newline_not_mem_startNote, newline_mem_greetingStep, hnone,
      List.count_eq_zero]
  · obtain ⟨steps, hsteps, hunbroken⟩ := steps_greeted ht
    have hlines := lines_of_greeted hsteps hunbroken
    have hlength := length_lines_of_greeted hsteps hunbroken
    refine ⟨hlength, by rw [hlines, hsteps]; rfl, fun hwhole => ?_, fun hbreaks => ?_⟩
    · rw [hwhole] at hlength
      simpa using hlength
    · have hgreeting : '\n' ∉ (greetingStep request.name).line := by
        rw [← List.count_eq_zero, count_greetingStep, hbreaks]
      rw [hlines, split_of_not_mem hgreeting, hsteps]
      rfl

/-- At a new stand-in and with a name of two lines, one record has a line break, and the text has
two lines more than steps. -/
theorem greeting_alone_breaks_lines_forged :
    let c := (dialogue ⟨"a\nb", 0⟩ Timestamp.zero).run service (.new ⟨"k"⟩)
    c.log.filter (fun r => '\n' ∈ r.message.toList) = [(greetingStep "a\nb").note] ∧
      ∃ t, c.value = .ok t ∧ (split '\n' t.text.toList).length = t.steps.length + 2 := by
  have hbreaks : "a\nb".toList.count '\n' = 1 := by decide
  obtain ⟨hlog, htext, hvalue⟩ :=
    greeting_alone_breaks_lines (.new ⟨"k"⟩) ⟨"a\nb", 0⟩ Timestamp.zero
  obtain ⟨t, ht⟩ := hvalue (by decide)
  have hlength := (htext t ht).1
  rw [hbreaks] at hlog hlength
  exact ⟨hlog, t, ht, hlength⟩

/-- The name breaks the record of the greeting, and a line of the text. -/
theorem name_forges_line :
    let c := (dialogue ⟨"a\nb", 0⟩ Timestamp.zero).run service (.new ⟨"k"⟩)
    (∃ r ∈ c.log, '\n' ∈ r.message.toList) ∧
      ∃ t, c.value = .ok t ∧ (split '\n' t.text.toList).length ≠ t.steps.length + 1 := by
  intro c
  have hbreaks : "a\nb".toList.count '\n' = 1 := by decide
  have hgreeting : (greetingStep "a\nb").note ∈ c.log := List.mem_cons_of_mem _ List.mem_cons_self
  have hnote : '\n' ∈ (greetingStep "a\nb").note.message.toList := by
    rw [newline_mem_greetingStep, ← List.count_pos_iff, hbreaks]
    exact Nat.one_pos
  have hvalue := (dialogue_comesTo (.new ⟨"k"⟩) ⟨"a\nb", 0⟩ Timestamp.zero (by decide)).1
  obtain ⟨steps, hsteps, hunbroken⟩ := steps_greeted hvalue
  refine ⟨⟨_, hgreeting, hnote⟩, _, hvalue, ?_⟩
  rw [length_lines_of_greeted hsteps hunbroken, hbreaks]
  omega

end MockService

end KeyedImages
