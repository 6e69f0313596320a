import KeyedImages.Proofs.MockService.History
import Mathlib.Logic.Equiv.Basic

/-! Two runs with different secrets. A renaming of keys that keeps them apart and keeps the empty
one carries the one run into the other, and what is shown and logged stays the same. -/
namespace KeyedImages

variable {r : String → String}

/-- A call with its key renamed. -/
def Call.renamed (r : String → String) : Call → Call
  | .getServerTime key => .getServerTime (r key)
  | .postImage key image => .postImage (r key) image
  | .getImage key id => .getImage (r key) id
  | call => call

def ServiceKey.renamed (r : String → String) (key : ServiceKey) : ServiceKey := ⟨r key.secret⟩

theorem ServiceKey.check_renamed (hr : Function.Injective r) (key : ServiceKey) (token : String) :
    (key.renamed r).check (r token) = key.check token := by
  have heq : r token = r key.secret ↔ token = key.secret := hr.eq_iff
  simp only [check, renamed, heq]

theorem ServiceKey.isProvisioned_renamed (hr : Function.Injective r) (hempty : r "" = "")
    (key : ServiceKey) : (key.renamed r).isProvisioned = key.isProvisioned := by
  have heq : r key.secret = "" ↔ key.secret = "" := by
    constructor
    · intro h
      exact hr (h.trans hempty.symm)
    · intro h
      rw [h, hempty]
  rw [Bool.eq_iff_iff]
  simp [isProvisioned, renamed, heq]

/-- The text that shows a key tells whether there is a secret, and nothing more. -/
theorem ServiceKey.fieldText_congr {a b : ServiceKey} (h : a.isProvisioned = b.isProvisioned) :
    a.fieldText = b.fieldText := by
  unfold fieldText
  rw [h]

namespace MockService

def renamed (r : String → String) (s : MockService) : MockService :=
  { s with key := s.key.renamed r }

/-- An operation with its key renamed. -/
def Operation.renamed (r : String → String) : Operation → Operation
  | .call c => .call (c.renamed r)
  | .provision key => .provision (r key)
  | .posted => .posted
  | .isProvisioned => .isProvisioned

/-- An event with its key renamed. Of the results only that of an auth is renamed. -/
def Event.renamed (r : String → String) : Event → Event
  | ⟨.call (.auth name time), reply⟩ => ⟨.call (.auth name time), reply.map r⟩
  | ⟨.call (.getServerTime key), reply⟩ => ⟨.call (.getServerTime (r key)), reply⟩
  | ⟨.call (.postImage key image), reply⟩ => ⟨.call (.postImage (r key) image), reply⟩
  | ⟨.call (.getImage key id), reply⟩ => ⟨.call (.getImage (r key) id), reply⟩
  | ⟨.provision key, result⟩ => ⟨.provision (r key), result⟩
  | e => e

/-- What there is to see of an operation: its result, the text that shows the service afterwards,
and the records that were written. -/
structure Moment where
  event : Event
  shown : String
  log : List Log.Record

def moments (s : MockService) : List Operation → List Moment
  | [] => []
  | op :: ops =>
    let (result, next, log) := s.perform op
    ⟨⟨op, result⟩, next.fieldText, log⟩ :: next.moments ops

/-- A moment with the key of its event renamed. What is shown and logged is left as it is. -/
def Moment.renamed (r : String → String) (m : Moment) : Moment :=
  { m with event := m.event.renamed r }

theorem fieldText_renamed (hr : Function.Injective r) (hempty : r "" = "") (s : MockService) :
    (s.renamed r).fieldText = s.fieldText := by
  have hkey : (s.renamed r).key.fieldText = s.key.fieldText :=
    ServiceKey.fieldText_congr (s.key.isProvisioned_renamed hr hempty)
  have hlast : (s.renamed r).lastId = s.lastId := rfl
  unfold fieldText
  rw [hkey, hlast]

/-- The key is looked at in one place, and only for whether the token is the same. -/
theorem guarded_renamed {α : Type} (hr : Function.Injective r) (s next : MockService)
    (token : String) (reply : Except ServiceError α) (log : List Log.Record) :
    (s.renamed r).guarded (r token) (reply, next.renamed r, log) =
      ((s.guarded token (reply, next, log)).1, (s.guarded token (reply, next, log)).2.1.renamed r,
        (s.guarded token (reply, next, log)).2.2) := by
  have hcheck : (s.renamed r).key.check (r token) = s.key.check token :=
    s.key.check_renamed hr token
  unfold guarded
  rw [hcheck]
  rcases s.key.check token with ⟨_ | _, records⟩ <;> rfl

/-- One operation: the renamed run gives the renamed result, goes on as the renamed service, and
writes the same records. -/
theorem perform_renamed (hr : Function.Injective r) (hempty : r "" = "") (s : MockService)
    (op : Operation) :
    (⟨op.renamed r, ((s.renamed r).perform (op.renamed r)).1⟩ : Event) =
      Event.renamed r ⟨op, (s.perform op).1⟩ ∧
    ((s.renamed r).perform (op.renamed r)).2.1 = (s.perform op).2.1.renamed r ∧
    ((s.renamed r).perform (op.renamed r)).2.2 = (s.perform op).2.2 := by
  cases op with
  | call c =>
    cases c with
    | auth name time | hello name | noop => exact ⟨rfl, rfl, rfl⟩
    | getServerTime key =>
      have h := guarded_renamed hr s s key (.ok Timestamp.zero) []
      refine ⟨?_, congrArg (·.2.1) h, congrArg (·.2.2) h⟩
      exact congrArg (fun p => Event.mk (.call (.getServerTime (r key))) p.1) h
    | postImage key image =>
      have h :=
        guarded_renamed hr s (s.accept image).2.1 key (s.accept image).1 (s.accept image).2.2
      refine ⟨?_, congrArg (·.2.1) h, congrArg (·.2.2) h⟩
      exact congrArg (fun p => Event.mk (.call (.postImage (r key) image)) p.1) h
    | getImage key id =>
      have h := guarded_renamed hr s s key (s.lookUp id).1 []
      refine ⟨?_, congrArg (·.2.1) h, congrArg (·.2.2) h⟩
      exact congrArg (fun p => Event.mk (.call (.getImage (r key) id)) p.1) h
    | reset =>
      refine ⟨rfl, ?_, rfl⟩
      simp only [Operation.renamed, Call.renamed, perform, answer, ServiceKey.clear, renamed,
        ServiceKey.renamed, ServiceKey.empty, hempty]
  | provision key =>
    refine ⟨rfl, rfl, ?_⟩
    have hkey : (ServiceKey.mk (r key)).isProvisioned = (ServiceKey.mk key).isProvisioned :=
      ServiceKey.isProvisioned_renamed hr hempty ⟨key⟩
    simp only [Operation.renamed, perform, ServiceKey.provision, hkey]
  | posted => exact ⟨rfl, rfl, rfl⟩
  | isProvisioned =>
    refine ⟨?_, rfl, rfl⟩
    exact congrArg (Event.mk .isProvisioned) (s.key.isProvisioned_renamed hr hempty)

/-- The same operations with other keys, at a service whose key is another one: as long as different
keys stay different and the empty one stays empty, nothing that is shown or logged tells the two
runs apart, and no result does but that of an auth. -/
theorem secret_never_shown (r : String → String) (hr : Function.Injective r) (hempty : r "" = "")
    (key : String) (ops : List Operation) :
    (new ⟨r key⟩).fieldText = (new ⟨key⟩).fieldText ∧
    (new ⟨r key⟩).moments (ops.map (Operation.renamed r)) =
      ((new ⟨key⟩).moments ops).map (Moment.renamed r) := by
  constructor
  · exact fieldText_renamed hr hempty (new ⟨key⟩)
  · have hnew : new ⟨r key⟩ = (new ⟨key⟩).renamed r := rfl
    rw [hnew]
    generalize new ⟨key⟩ = s
    -- The renaming of the service is the simulation that each operation keeps.
    induction ops generalizing s with
    | nil => rfl
    | cons op ops ih =>
      obtain ⟨hevent, hnext, hlog⟩ := perform_renamed hr hempty s op
      have hrest := ih (s.perform op).2.1
      simp only [moments, List.map_cons, Moment.renamed]
      rw [← hevent, hnext, hlog, hrest, fieldText_renamed hr hempty]

/-- Two keys change places: one run knows its key as `k` and the other as `t`. -/
theorem secret_never_shown_exchanged :
    let r : String → String := Equiv.swap "k" "t"
    let ops : List Operation := [.call (.auth "n" Timestamp.zero), .call (.getServerTime "k"),
      .call (.getImage "t" ⟨1⟩), .provision "", .call (.postImage "" Image.empty), .call .reset,
      .provision "t", .call (.getServerTime "t"), .isProvisioned]
    Function.Injective r ∧ r "" = "" ∧ (new ⟨"t"⟩).moments (ops.map (Operation.renamed r)) =
      ((new ⟨"k"⟩).moments ops).map (Moment.renamed r) := by
  intro r ops
  have hr : Function.Injective r := (Equiv.swap "k" "t").injective
  have hempty : r "" = "" := Equiv.swap_apply_of_ne_of_ne (by decide) (by decide)
  have hkey : r "k" = "t" := Equiv.swap_apply_left "k" "t"
  refine ⟨hr, hempty, ?_⟩
  rw [← hkey]
  exact (secret_never_shown r hr hempty "k" ops).2

end MockService

end KeyedImages
