import KeyedImages.Proofs.MockService.CurrentKey
import KeyedImages.Proofs.MockService.Renaming

/-! Histories without some of the operations that only ask or were refused: nothing else in them
changes. -/
namespace KeyedImages.MockService

variable {s : MockService} {op : Operation} {ops : List Operation} {kept : List Moment}

/-- An operation that only asks, or an upload that was refused for its key's sake. -/
def Event.isIdle : Event → Bool
  | ⟨.call (.hello _), _⟩ | ⟨.call .noop, _⟩ | ⟨.call (.auth ..), _⟩
  | ⟨.call (.getServerTime _), _⟩ | ⟨.call (.getImage ..), _⟩ => true
  | ⟨.posted, _⟩ | ⟨.isProvisioned, _⟩ => true
  | ⟨.call (.postImage ..), .error .invalidKey⟩ => true
  | ⟨.call (.postImage ..), _⟩ => false
  | ⟨.call .reset, _⟩ | ⟨.provision _, _⟩ => false

/-- A history from which some of the idle operations are left out. -/
inductive Thinned : List Moment → List Moment → Prop
  | nil : Thinned [] []
  | keep (m : Moment) {whole kept : List Moment} : Thinned whole kept →
      Thinned (m :: whole) (m :: kept)
  | leaveOut {m : Moment} {whole kept : List Moment} (idle : m.event.isIdle = true) :
      Thinned whole kept → Thinned (m :: whole) kept

/-- An idle operation sets no key, and no upload is accepted by it. -/
theorem Event.newKey?_of_isIdle {e : Event} (h : e.isIdle = true) :
    e.op.newKey? = none ∧ e.acceptedId? = none := by
  obtain ⟨op, result⟩ := e
  rcases op with (_ | _ | _ | _ | _ | _ | _) | key | _ | _
  case call.postImage =>
    rcases result with (_ | _) | id
    · exact ⟨rfl, rfl⟩
    · cases h
    · cases h
  case call.reset | provision => cases h
  all_goals exact ⟨rfl, rfl⟩

/-- An idle operation leaves the service as it is. -/
theorem perform_of_isIdle (h : (⟨op, (s.perform op).1⟩ : Event).isIdle = true) :
    (s.perform op).2.1 = s := by
  obtain ⟨hkey, haccepted⟩ := Event.newKey?_of_isIdle h
  have hsecret : (s.perform op).2.1.key.secret = s.key.secret := by
    rw [perform_secret, hkey]
    rfl
  have hlast : (s.perform op).2.1.lastId = s.lastId := by
    rcases perform_lastId (s := s) (e := ⟨op, (s.perform op).1⟩) rfl with ⟨-, h⟩ | ⟨hsome, -⟩
    · exact h
    · rw [haccepted] at hsome
      cases hsome
  revert hsecret hlast
  generalize (s.perform op).2.1 = t
  rcases s with ⟨⟨_⟩, _⟩
  rcases t with ⟨⟨_⟩, _⟩
  rintro rfl rfl
  rfl

theorem moments_cons (s : MockService) (op : Operation) (ops : List Operation) :
    s.moments (op :: ops) =
      ⟨⟨op, (s.perform op).1⟩, (s.perform op).2.1.fieldText, (s.perform op).2.2⟩ ::
        (s.perform op).2.1.moments ops := rfl

/-- Idle operations can be left out by any rule. -/
theorem thinned_filter {moments : List Moment} {p : Moment → Bool}
    (h : ∀ m, p m = false → m.event.isIdle = true) : Thinned moments (moments.filter p) := by
  induction moments with
  | nil => exact .nil
  | cons m moments ih =>
    cases hp : p m with
    | true =>
      rw [List.filter_cons_of_pos hp]
      exact .keep m ih
    | false =>
      rw [List.filter_cons_of_neg (Bool.not_eq_true _ ▸ hp)]
      exact .leaveOut (h m hp) ih

/-- Operations that only ask, and uploads that are refused for their key's sake, leave no trace.
Whichever of them are left out of a history, every other operation has the same result, shows and
logs the same, and the service ends with the same key and the same counter. -/
theorem idle_operations_traceless (key : String) (ops : List Operation) {kept : List Moment}
    (h : Thinned ((new ⟨key⟩).moments ops) kept) :
    let remaining := kept.map (·.event.op)
    (new ⟨key⟩).moments remaining = kept ∧
      (new ⟨key⟩).after remaining = (new ⟨key⟩).after ops := by
  dsimp only
  generalize new ⟨key⟩ = s at h ⊢
  -- An operation that is left out leaves the service to the next one as it found it.
  induction ops generalizing s kept with
  | nil =>
    cases h
    exact ⟨rfl, rfl⟩
  | cons op ops ih =>
    have hafter : s.after (op :: ops) = (s.perform op).2.1.after ops := rfl
    rw [moments_cons] at h
    rw [hafter]
    cases h with
    | keep m h =>
      obtain ⟨hmoments, hend⟩ := ih _ h
      refine ⟨?_, hend⟩
      rw [List.map_cons, moments_cons, hmoments]
    | leaveOut idle h =>
      rw [perform_of_isIdle idle] at h ⊢
      exact ih s h

/-- Of two refused uploads one is left out, and so are the calls that only ask but the auth. -/
theorem idle_operations_traceless_some :
    let auth : Operation := .call (.auth "n" Timestamp.zero)
    let post (token : String) : Operation := .call (.postImage token Image.empty)
    let ops := [auth, post "t", .posted, post "k", .call (.getImage "k" ⟨0⟩), .call .reset,
      post "k", .call (.getServerTime ""), post "", .isProvisioned]
    let remaining := [auth, post "k", .call .reset, post "k", post ""]
    ∃ kept, Thinned ((new ⟨"k"⟩).moments ops) kept ∧ kept.map (·.event.op) = remaining ∧
      (new ⟨"k"⟩).moments remaining = kept ∧
      (new ⟨"k"⟩).after remaining = (new ⟨"k"⟩).after ops := by
  intro auth post ops remaining
  let keeps (m : Moment) : Bool :=
    !m.event.isIdle || m.event.op == auth || m.event.op == post "k"
  have hthinned : Thinned ((new ⟨"k"⟩).moments ops) (((new ⟨"k"⟩).moments ops).filter keeps) :=
    thinned_filter fun m h => by simp_all [keeps]
  have hremaining : (((new ⟨"k"⟩).moments ops).filter keeps).map (·.event.op) = remaining := by
    decide +kernel
  have h := idle_operations_traceless "k" ops hthinned
  rw [hremaining] at h
  exact ⟨_, hthinned, hremaining, h⟩

end KeyedImages.MockService
