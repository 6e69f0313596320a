import KeyedImages.Proofs.MockService.History
import KeyedImages.Proofs.Session.Faithful

/-! The stand-in's key through a history, and its replies to the stages of a session. -/
namespace KeyedImages

/-- The stages that a session cannot pass unless its key is accepted. -/
def Session.Stage.needsKey : Session.Stage → Bool
  | .serverTime | .post | .reserved | .first => true
  | .hello | .auth | .noop | .reset | .revoked => false

theorem Session.auth_mem_of_needsKey {n : Nat} {stages more : List Session.Stage}
    {stage : Session.Stage} (hall : Session.plan n = stages ++ stage :: more)
    (hs : stage.needsKey = true) : .auth ∈ stages := by
  apply mem_before hall (by simp)
  cases stage <;> simp_all [Stage.needsKey, Stage.rank]

namespace MockService

open Session Exchange

variable {s : MockService} {request : Request} {now : Timestamp} {stage : Stage}
  {past : List Exchange} {x : Exchange}

/-- Only a reset and a new key change the key. -/
theorem perform_key (s : MockService) (op : Operation) :
    (s.perform op).2.1.key =
      match op with
      | .call .reset => ServiceKey.empty
      | .provision key => ⟨key⟩
      | _ => s.key := by
  cases op with
  | call c =>
    cases c with
    | getServerTime key | postImage key _ | getImage key _ =>
      by_cases hk : key = s.key.secret <;>
        simp [perform, answer, guarded, ServiceKey.check, hk, accept, lookUp]
    | _ => rfl
  | _ => rfl

/-- Whether an event is a call of a given method. -/
def Event.calls (method : Method) : Event → Bool
  | ⟨.call c, _⟩ => c.method == method
  | _ => false

/-- Where no new key is set, the key is the first one until a reset, and empty from then on. -/
theorem replay_secret {events : List Event} (h : ∀ e ∈ events, ∀ key, e.op ≠ .provision key) :
    (s.replay events).key.secret =
      if events.any (Event.calls .reset) then "" else s.key.secret := by
  induction events generalizing s with
  | nil => rfl
  | cons e events ih =>
    have hne := h e List.mem_cons_self
    have hrest := ih (s := (s.perform e.op).2.1) fun e he => h e (List.mem_cons_of_mem _ he)
    change ((s.perform e.op).2.1.replay events).key.secret = _
    rw [hrest, perform_key]
    obtain ⟨op, result⟩ := e
    rcases op with (_ | _ | _ | _ | _ | _ | _) | key | _ | _
    case provision => exact absurd rfl (hne key)
    all_goals simp [Event.calls, Call.method, ServiceKey.empty]

theorem guarded_reply {α : Type} (s : MockService) (token : String)
    (accept : Except ServiceError α × MockService × List Log.Record) :
    (s.guarded token accept).1 =
      if token = s.key.secret then accept.1 else .error .invalidKey := by
  by_cases h : token = s.key.secret <;> simp [guarded, ServiceKey.check, h]

theorem exchange_eq {call : Call} (hc : x.call = call) (hr : x.reply = (s.answer x.call).1) :
    x = ⟨call, (s.answer call).1⟩ := by
  obtain ⟨c, reply⟩ := x
  subst hc
  exact congrArg (Exchange.mk c) hr

/-- A session at the stand-in fails just where its key is needed and is not the current one. -/
theorem unexpected?_answer (hc : x.call = stage.next request now past)
    (hr : x.reply = (s.answer x.call).1)
    (hfirst : stage = .first → ∃ id, (postedIds past).head? = some id ∧ id ≠ ImageId.none) :
    stage.unexpected? x =
      if stage.needsKey = true ∧ (heldKey? past).getD "" ≠ s.key.secret then some .invalidKey
      else none := by
  obtain rfl := exchange_eq hc hr
  cases stage with
  | hello | auth | noop | reset => rfl
  | serverTime | post | reserved | revoked =>
    by_cases hk : (heldKey? past).getD "" = s.key.secret <;>
      simp [Stage.unexpected?, error?, Stage.next, Stage.call, answer, guarded_reply, hk,
        Call.error?, Stage.needsKey, Stage.expects, accept, lookUp, ImageId.isNone, ImageId.none]
  | first =>
    obtain ⟨id, hid, hne⟩ := hfirst rfl
    have hsome : id.isNone = false := by
      simp only [ImageId.isNone, beq_eq_false_iff_ne]
      exact fun h => hne (congrArg ImageId.mk h)
    by_cases hk : (heldKey? past).getD "" = s.key.secret <;>
      simp [Stage.unexpected?, error?, Stage.next, Stage.call, answer, guarded_reply, hk, hid,
        hsome, Call.error?, Stage.needsKey, Stage.expects, lookUp]

/-- With the current key the lookup of the reserved id finds no image. -/
theorem reservedMissing_answer (hc : x.call = Stage.reserved.next request now past)
    (hr : x.reply = (s.answer x.call).1) (hk : (heldKey? past).getD "" = s.key.secret) :
    x.reservedMissing = true := by
  obtain rfl := exchange_eq hc hr
  simp [reservedMissing, Stage.next, Stage.call, answer, guarded_reply, hk, lookUp,
    ImageId.isNone, ImageId.none]

/-- The last call of a session is refused just if its key is no longer the current one. -/
theorem timeRefused_answer (hc : x.call = Stage.revoked.next request now past)
    (hr : x.reply = (s.answer x.call).1) :
    x.timeRefused = true ↔ (heldKey? past).getD "" ≠ s.key.secret := by
  obtain rfl := exchange_eq hc hr
  by_cases hk : (heldKey? past).getD "" = s.key.secret <;>
    simp [timeRefused, Stage.next, Stage.call, answer, guarded_reply, hk]

end MockService

end KeyedImages
