import KeyedImages.Proofs.MockService.History
import Mathlib.Logic.Function.Basic

/-! One service shared by several clients. They take turns in any order, an operation a turn. -/
namespace KeyedImages.MockService

/-- What clients do next in each of their states: nothing more, or an operation whose result tells
them how to go on. -/
abbrev Behaviour (κ : Type) := κ → Option ((op : Operation) × (op.Result → κ))

/-- A service, the states of its clients, and all operations so far with the clients' names. -/
structure Shared (ι κ : Type) where
  service : MockService
  clients : ι → κ
  history : List (ι × Event)

namespace Shared

variable {ι κ : Type} [DecidableEq ι] {act : Behaviour κ} {w : Shared ι κ} {i : ι}

def start (s : MockService) (clients : ι → κ) : Shared ι κ := ⟨s, clients, []⟩

/-- The turn of a client. One that has nothing left to do lets it pass. -/
def turn (act : Behaviour κ) (w : Shared ι κ) (i : ι) : Shared ι κ :=
  match act (w.clients i) with
  | none => w
  | some ⟨op, next⟩ =>
    let (result, service, _) := w.service.perform op
    { service
      clients := Function.update w.clients i (next result)
      history := w.history ++ [(i, ⟨op, result⟩)] }

/-- The turns of clients in a given order. -/
def run (act : Behaviour κ) (w : Shared ι κ) (order : List ι) : Shared ι κ :=
  order.foldl (turn act) w

def events (w : Shared ι κ) : List Event := w.history.map (·.2)

theorem turn_cases (act : Behaviour κ) (w : Shared ι κ) (i : ι) :
    (act (w.clients i) = none ∧ w.turn act i = w) ∨
    ∃ op next, act (w.clients i) = some ⟨op, next⟩ ∧ w.turn act i =
      { service := (w.service.perform op).2.1
        clients := Function.update w.clients i (next (w.service.perform op).1)
        history := w.history ++ [(i, ⟨op, (w.service.perform op).1⟩)] } := by
  unfold turn
  cases act (w.clients i) with
  | none => exact .inl ⟨rfl, rfl⟩
  | some p => exact .inr ⟨p.1, p.2, rfl, rfl⟩

theorem run_induction {P : Shared ι κ → Prop} (hturn : ∀ w i, P w → P (w.turn act i)) (h : P w)
    (order : List ι) : P (w.run act order) := by
  induction order generalizing w with
  | nil => exact h
  | cons i order ih => exact ih (hturn w i h)

/-- The service is always what the operations so far have made of it, and gave their results. -/
theorem run_performed (act : Behaviour κ) (s : MockService) (clients : ι → κ) (order : List ι) :
    s.Performed ((start s clients).run act order).events ∧
    ((start s clients).run act order).service =
      s.replay ((start s clients).run act order).events := by
  have hstart : s.Performed (start s clients).events ∧
      (start s clients).service = s.replay (start s clients).events := ⟨trivial, rfl⟩
  refine run_induction (P := fun w => s.Performed w.events ∧ w.service = s.replay w.events)
    (fun w i ⟨hp, hs⟩ => ?_) hstart order
  rcases turn_cases act w i with ⟨-, heq⟩ | ⟨op, next, -, heq⟩
  · rw [heq]
    exact ⟨hp, hs⟩
  · rw [heq]
    simp only [events, List.map_append, List.map_singleton, performed_append, replay_append]
    rw [← events, ← hs]
    exact ⟨⟨hp, rfl, trivial⟩, rfl⟩

/-- What a client has done. -/
def eventsOf (i : ι) (history : List (ι × Event)) : List Event :=
  (history.filter (·.1 = i)).map (·.2)

theorem eventsOf_sublist (i : ι) (history : List (ι × Event)) :
    (eventsOf i history).Sublist (history.map (·.2)) := List.filter_sublist.map _

end Shared

/-- Tasks whose operations are settled from the start. -/
def inTurn : Behaviour (List Operation)
  | [] => none
  | op :: ops => some ⟨op, fun _ => ops⟩

open Shared

variable {ι κ : Type} [DecidableEq ι]

/-- At a new service the ids are the numbers from one on, up to the service's own count. -/
theorem run_ids {act : Behaviour κ} {tasks : ι → κ} {order : List ι} {key : ServiceKey}
    (h : (acceptedIds ((start (new key) tasks).run act order).events).length < UInt64.size) :
    let w := (start (new key) tasks).run act order
    (new key).count + (acceptedIds w.events).length < UInt64.size ∧
    (acceptedIds w.events).map (·.number.toNat) = List.range' 1 (acceptedIds w.events).length ∧
    (w.service.perform .posted).1.toNat = (acceptedIds w.events).length := by
  obtain ⟨hp, hs⟩ := run_performed act (new key) tasks order
  dsimp only
  have hn : (new key).count + (acceptedIds ((start (new key) tasks).run act order).events).length <
      UInt64.size := by rwa [count_new, Nat.zero_add]
  obtain ⟨hids, hcount⟩ := hp.ids_eq hn
  rw [count_new, Nat.zero_add] at hids hcount
  refine ⟨hn, hids, ?_⟩
  rw [← hcount, hs]
  rfl

/-- However tasks take turns at a new service, and whatever each of them does, accepted uploads get
the ids from one on in the order in which they are accepted, and the counter counts them at every
moment. Nothing but an accepted upload moves it. -/
theorem ids_in_order (act : Behaviour κ) (tasks : ι → κ) (order : List ι) (key : ServiceKey)
    (h : (acceptedIds ((start (new key) tasks).run act order).events).length < UInt64.size) :
    let w := (start (new key) tasks).run act order
    let ids := acceptedIds w.events
    ids.map (·.number.toNat) = List.range' 1 ids.length ∧ ids.Nodup ∧ ImageId.none ∉ ids ∧
    (∀ i, (acceptedIds (eventsOf i w.history)).Pairwise fun a b => a.number < b.number) ∧
    (w.service.perform .posted).1.toNat = ids.length ∧
    ∀ before e after, w.events = before ++ e :: after →
      (((new key).replay before).perform .posted).1.toNat = (acceptedIds before).length ∧
      (∀ n, e = ⟨.posted, n⟩ → n.toNat = (acceptedIds before).length) ∧
      (e.acceptedId? = none →
        ((new key).replay (before ++ [e])).lastId = ((new key).replay before).lastId) := by
  obtain ⟨hn, hids, hposted⟩ := run_ids h
  have hp := (run_performed act (new key) tasks order).1
  dsimp only
  generalize (start (new key) tasks).run act order = w at h hn hids hposted hp ⊢
  refine ⟨hids, hp.ids_nodup hn, hp.none_not_mem hn, fun i => ?_, hposted,
    fun before e after hsplit => ?_⟩
  · exact (hp.ids_increasing hn).sublist ((eventsOf_sublist i w.history).filterMap _)
  · rw [hsplit] at hp h
    have hbefore : (acceptedIds before).length ≤ (acceptedIds (before ++ e :: after)).length := by
      simp [acceptedIds, List.filterMap_append]
    have hmoment := ((performed_append.1 hp).1.ids_eq (by rw [count_new]; omega)).2
    rw [count_new, Nat.zero_add] at hmoment
    refine ⟨hmoment, fun n he => ?_, fun hnone => ?_⟩
    · subst he
      rw [← hmoment]
      exact congrArg UInt64.toNat hp.result_eq
    · rw [replay_append]
      rcases perform_lastId hp.result_eq with ⟨-, hlast⟩ | ⟨hsome, -⟩
      · exact hlast
      · exact nomatch hnone.symm.trans hsome

/-- One task's upload is refused because the other has reset the key. -/
theorem ids_in_order_reset_between :
    let tasks : Bool → List Operation := fun
      | true => [.call (.postImage "k" Image.empty), .call (.postImage "k" Image.empty), .posted]
      | false => [.call .reset, .call (.postImage "" Image.empty), .provision "k"]
    let w := (start (new ⟨"k"⟩) tasks).run inTurn [true, false, true, false, true, false, true]
    (acceptedIds w.events).length < UInt64.size ∧
      (acceptedIds w.events).map (·.number.toNat) = List.range' 1 2 := by
  intro tasks w
  have h : (acceptedIds w.events).length < UInt64.size := by decide
  exact ⟨h, (ids_in_order inTurn tasks _ ⟨"k"⟩ h).1⟩

end KeyedImages.MockService
