import KeyedImages.MockService

/-! Histories of operations on the stand-in service, and the ids that it gives out in them. -/
namespace KeyedImages.MockService

variable {s : MockService}

/-- An operation with its result. -/
structure Event where
  op : Operation
  result : op.Result

/-- The service after the operations of a history. -/
def replay (s : MockService) (events : List Event) : MockService :=
  events.foldl (fun s e => (s.perform e.op).2.1) s

/-- Every result in a history is the one that the service gives at that point. -/
def Performed : MockService → List Event → Prop
  | _, [] => True
  | s, e :: events => e.result = (s.perform e.op).1 ∧ Performed (s.perform e.op).2.1 events

theorem replay_append (s : MockService) (xs ys : List Event) :
    s.replay (xs ++ ys) = (s.replay xs).replay ys := List.foldl_append

theorem performed_append {xs ys : List Event} :
    s.Performed (xs ++ ys) ↔ s.Performed xs ∧ (s.replay xs).Performed ys := by
  induction xs generalizing s with
  | nil => simp [Performed, replay]
  | cons x xs ih => simp [Performed, replay, ih, and_assoc]

/-- A result in a history is that of the operation on the service as it then was. -/
theorem Performed.result_eq {before after : List Event} {e : Event}
    (h : s.Performed (before ++ e :: after)) : e.result = ((s.replay before).perform e.op).1 :=
  (performed_append.1 h).2.1

/-- The id of an accepted upload. -/
def Event.acceptedId? : Event → Option ImageId
  | ⟨.call (.postImage ..), .ok id⟩ => some id
  | _ => none

def acceptedIds (events : List Event) : List ImageId := events.filterMap Event.acceptedId?

/-- How many ids have been given out, by the service's own count. -/
def count (s : MockService) : Nat := s.lastId.toNat

theorem count_new (key : ServiceKey) : (new key).count = 0 := rfl

/-- An operation either accepts an upload, under the next id, or leaves the counter alone. -/
theorem perform_lastId {e : Event} (h : e.result = (s.perform e.op).1) :
    (e.acceptedId? = none ∧ (s.perform e.op).2.1.lastId = s.lastId) ∨
    (e.acceptedId? = some ⟨s.lastId + 1⟩ ∧ (s.perform e.op).2.1.lastId = s.lastId + 1) := by
  obtain ⟨op, result⟩ := e
  change result = (s.perform op).1 at h
  subst h
  cases op with
  | call c =>
    cases c with
    | postImage key image =>
      by_cases hk : key = s.key.secret
      · right
        simp [perform, answer, guarded, ServiceKey.check, hk, accept, Event.acceptedId?]
      · left
        simp [perform, answer, guarded, ServiceKey.check, hk, Event.acceptedId?]
    | getServerTime key =>
      by_cases hk : key = s.key.secret <;>
        simp [perform, answer, guarded, ServiceKey.check, hk, Event.acceptedId?]
    | getImage key id =>
      by_cases hk : key = s.key.secret <;>
        simp [perform, answer, guarded, ServiceKey.check, hk, lookUp, Event.acceptedId?]
    | _ => exact .inl ⟨rfl, rfl⟩
  | _ => exact .inl ⟨rfl, rfl⟩

theorem toNat_next {last : UInt64} (h : last.toNat + 1 < UInt64.size) :
    (last + 1).toNat = last.toNat + 1 := by
  simp only [UInt64.size] at h
  rw [UInt64.toNat_add, UInt64.toNat_one]
  omega

/-- As long as the counter does not run over, it counts the accepted uploads, and their ids are the
numbers that follow it. -/
theorem Performed.ids_eq {events : List Event} (h : s.Performed events)
    (hn : s.count + (acceptedIds events).length < UInt64.size) :
    (acceptedIds events).map (·.number.toNat) =
      List.range' (s.count + 1) (acceptedIds events).length ∧
    (s.replay events).count = s.count + (acceptedIds events).length := by
  induction events generalizing s with
  | nil => exact ⟨rfl, rfl⟩
  | cons e events ih =>
    obtain ⟨hresult, hrest⟩ := h
    have hreplay : s.replay (e :: events) = (s.perform e.op).2.1.replay events := rfl
    rw [hreplay]
    rcases perform_lastId hresult with ⟨hnone, hlast⟩ | ⟨hsome, hlast⟩
    · have hids : acceptedIds (e :: events) = acceptedIds events := List.filterMap_cons_none hnone
      have hcount : (s.perform e.op).2.1.count = s.count := congrArg UInt64.toNat hlast
      rw [hids, ← hcount] at hn ⊢
      exact ih hrest hn
    · have hids : acceptedIds (e :: events) = ⟨s.lastId + 1⟩ :: acceptedIds events :=
        List.filterMap_cons_some hsome
      rw [hids, List.length_cons] at hn ⊢
      have hnext : (s.lastId + 1).toNat = s.count + 1 := by
        apply toNat_next
        rw [← count]
        omega
      have hcount : (s.perform e.op).2.1.count = s.count + 1 := by rw [count, hlast, hnext]
      obtain ⟨hrange, hend⟩ := ih hrest (by omega)
      rw [hcount] at hrange hend
      refine ⟨?_, by omega⟩
      rw [List.map_cons, hrange, List.range'_succ, hnext]

theorem Performed.ids_increasing {events : List Event} (h : s.Performed events)
    (hn : s.count + (acceptedIds events).length < UInt64.size) :
    (acceptedIds events).Pairwise fun a b => a.number < b.number := by
  have := List.pairwise_lt_range' (s := s.count + 1) (n := (acceptedIds events).length)
  rw [← (h.ids_eq hn).1, List.pairwise_map] at this
  exact this

theorem Performed.ids_nodup {events : List Event} (h : s.Performed events)
    (hn : s.count + (acceptedIds events).length < UInt64.size) : (acceptedIds events).Nodup :=
  (h.ids_increasing hn).imp fun hlt heq => by simp [heq] at hlt

/-- The reserved id is not given out. -/
theorem Performed.none_not_mem {events : List Event} (h : s.Performed events)
    (hn : s.count + (acceptedIds events).length < UInt64.size) :
    ImageId.none ∉ acceptedIds events := by
  intro hmem
  have h0 : (0 : Nat) ∈ (acceptedIds events).map (·.number.toNat) := List.mem_map.2 ⟨_, hmem, rfl⟩
  rw [(h.ids_eq hn).1] at h0
  simp at h0

end KeyedImages.MockService
