import KeyedImages.Proofs.MockService.Shared
import KeyedImages.Proofs.Session.Passage

/-! Sessions as clients of a shared service, and where each of them stands after what it has done.
-/
namespace KeyedImages

namespace Dialogue

variable {α : Type}

/-- The next call of a dialogue. The notes that it writes before are its own affair. -/
def act : MockService.Behaviour (Dialogue α)
  | .done _ => none
  | .note _ rest => rest.act
  | .ask call next => some ⟨.call call, next⟩

/-- The value of a dialogue that makes no more calls. -/
def value? : Dialogue α → Option α
  | .done value => some value
  | .note _ rest => rest.value?
  | .ask .. => none

theorem act_notes (records : List Log.Record) (d : Dialogue α) :
    (records.foldr .note d).act = d.act := by
  induction records with
  | nil => rfl
  | cons record records ih => exact ih

theorem value?_notes (records : List Log.Record) (d : Dialogue α) :
    (records.foldr .note d).value? = d.value? := by
  induction records with
  | nil => rfl
  | cons record records ih => exact ih

end Dialogue

def Exchange.event (x : Exchange) : MockService.Event := ⟨.call x.call, x.reply⟩

open MockService Session

/-- What is left of a session's dialogue after its own exchanges: the rest of the plan, or nothing
once it has broken off. -/
inductive Situation (request : Request) (now : Timestamp) :
    List Exchange → Dialogue (Except ServiceError Transcript) → Prop
  | underway {before after : List Stage} {past : List Exchange} (records : List Log.Record)
      (h : Passed request now before past) (hall : plan request.images.toNat = before ++ after) :
      Situation request now past (records.foldr .note (follow request now after past))
  | broken {past : List Exchange} {e : ServiceError}
      (h : Ended request now (plan request.images.toNat) past (.error e)) :
      Situation request now past (.done (.error e))

variable {request : Request} {now : Timestamp} {past : List Exchange}
  {d : Dialogue (Except ServiceError Transcript)}

theorem situation_dialogue (request : Request) (now : Timestamp) :
    Situation request now [] (dialogue request now) := by
  rw [dialogue_eq_follow]
  exact .underway [startNote request] .start rfl

theorem Situation.step {op : Operation} {next : op.Result → _}
    (h : Situation request now past d) (ha : d.act = some ⟨op, next⟩) (result : op.Result) :
    ∃ x : Exchange, (⟨op, result⟩ : Event) = x.event ∧
      Situation request now (past ++ [x]) (next result) := by
  cases h with
  | broken h => cases ha
  | @underway before after _ records h hall =>
    rw [Dialogue.act_notes] at ha
    cases after with
    | nil => cases ha
    | cons stage after =>
      obtain ⟨rfl, hnext⟩ := Sigma.mk.inj (Option.some.inj ha)
      obtain rfl := eq_of_heq hnext
      refine ⟨⟨stage.next request now past, result⟩, rfl, ?_⟩
      simp only [Stage.proceed]
      cases hx : stage.unexpected? ⟨stage.next request now past, result⟩ with
      | some e => exact .broken (.broken h hall rfl hx)
      | none => exact .underway _ (h.step rfl hx) (by rw [hall, List.append_assoc]; rfl)

/-- A session that makes no more calls has come to one of its ends. -/
theorem Situation.ended (h : Situation request now past d) (ha : d.act = none) :
    ∃ r, d.value? = some r ∧ Ended request now (plan request.images.toNat) past r := by
  cases h with
  | broken h => exact ⟨_, rfl, h⟩
  | @underway before after _ records h hall =>
    rw [Dialogue.act_notes] at ha
    cases after with
    | nil =>
      rw [List.append_nil] at hall
      exact ⟨_, Dialogue.value?_notes records _, .completed (hall ▸ h)⟩
    | cons stage after => cases ha

namespace MockService.Shared

variable {ι : Type} [DecidableEq ι] {i j : ι} {e : Event} {xs ys : List Event}
  {history before after : List (ι × Event)}

theorem eventsOf_append (i : ι) (before after : List (ι × Event)) :
    eventsOf i (before ++ after) = eventsOf i before ++ eventsOf i after := by
  simp [eventsOf]

theorem eventsOf_cons_self : eventsOf i ((i, e) :: after) = e :: eventsOf i after := by
  simp [eventsOf]

theorem eventsOf_cons_of_ne (h : j ≠ i) : eventsOf i ((j, e) :: after) = eventsOf i after := by
  simp [eventsOf, h]

theorem mem_eventsOf : e ∈ eventsOf i history ↔ (i, e) ∈ history := by
  simp [eventsOf]

/-- What a client did at some point, it did at a moment of the whole history. -/
theorem exists_moment (h : eventsOf i history = xs ++ e :: ys) :
    ∃ before after, history = before ++ (i, e) :: after ∧
      eventsOf i before = xs ∧ eventsOf i after = ys := by
  induction history generalizing xs with
  | nil => simp [eventsOf] at h
  | cons p history ih =>
    obtain ⟨j, d⟩ := p
    by_cases hj : j = i
    · subst hj
      rw [eventsOf_cons_self] at h
      cases xs with
      | nil =>
        obtain ⟨rfl, rfl⟩ := List.cons.inj h
        exact ⟨[], history, rfl, rfl, rfl⟩
      | cons x xs =>
        obtain ⟨rfl, hrest⟩ := List.cons.inj h
        obtain ⟨before, after, rfl, hbefore, hafter⟩ := ih hrest
        exact ⟨(j, d) :: before, after, rfl, by rw [eventsOf_cons_self, hbefore], hafter⟩
    · rw [eventsOf_cons_of_ne hj] at h
      obtain ⟨before, after, rfl, hbefore, hafter⟩ := ih h
      exact ⟨(j, d) :: before, after, rfl, by rw [eventsOf_cons_of_ne hj, hbefore], hafter⟩

/-- However sessions take turns, each stands where its own exchanges have brought it. -/
theorem run_situation (s : MockService) (requests : ι → Request) (clocks : ι → Timestamp)
    (order : List ι) (i : ι) :
    let w := (start s fun i => dialogue (requests i) (clocks i)).run Dialogue.act order
    ∃ past, eventsOf i w.history = past.map Exchange.event ∧
      Situation (requests i) (clocks i) past (w.clients i) := by
  refine run_induction (P := fun w => ∃ past, eventsOf i w.history = past.map Exchange.event ∧
    Situation (requests i) (clocks i) past (w.clients i)) (fun w j ⟨past, hown, hsit⟩ => ?_)
    ⟨[], rfl, situation_dialogue (requests i) (clocks i)⟩ order
  rcases turn_cases Dialogue.act w j with ⟨-, heq⟩ | ⟨op, next, ha, heq⟩
  · rw [heq]
    exact ⟨past, hown, hsit⟩
  · rw [heq]
    by_cases hj : j = i
    · subst hj
      obtain ⟨x, hx, hnext⟩ := hsit.step ha (w.service.perform op).1
      refine ⟨past ++ [x], ?_, ?_⟩
      · rw [eventsOf_append, hown, eventsOf_cons_self, List.map_append, hx]
        rfl
      · simpa using hnext
    · refine ⟨past, ?_, ?_⟩
      · rw [eventsOf_append, hown, eventsOf_cons_of_ne hj]
        simp [eventsOf]
      · simpa [Function.update_of_ne (Ne.symm hj)] using hsit

end MockService.Shared

end KeyedImages
