import KeyedImages.Proofs.Session.Calls
import KeyedImages.ScriptedService
import Mathlib.Data.List.Induction

/-! Sessions at two services that give out different keys and are alike otherwise: apart from the
key itself, nothing tells the two sessions apart. -/
namespace KeyedImages

variable {σ τ α : Type} {service : Service σ} {service' : Service τ} {s : σ} {t : τ}

/-- A call without the key that it presents. -/
def Call.withoutKey : Call → Call
  | .getServerTime _ => .getServerTime ""
  | .postImage _ image => .postImage "" image
  | .getImage _ id => .getImage "" id
  | call => call

namespace Exchange

/-- An exchange without the key that is presented or issued in it. -/
def withoutKey : Exchange → Exchange
  | ⟨.auth name time, .ok _⟩ => ⟨.auth name time, .ok ""⟩
  | ⟨.getServerTime _, reply⟩ => ⟨.getServerTime "", reply⟩
  | ⟨.postImage _ image, reply⟩ => ⟨.postImage "" image, reply⟩
  | ⟨.getImage _ id, reply⟩ => ⟨.getImage "" id, reply⟩
  | x => x

/-- Of an exchange without its key, everything but the key can be told. -/
theorem withoutKey_facts (x : Exchange) : x.withoutKey.call = x.call.withoutKey ∧
    x.withoutKey.error? = x.error? ∧ x.withoutKey.postedId? = x.postedId? ∧
    x.withoutKey.toldTime? = x.toldTime? ∧ x.withoutKey.timeRefused = x.timeRefused ∧
    Session.stepOf x.withoutKey = Session.stepOf x := by
  obtain ⟨call, reply⟩ := x
  cases call with
  | auth | getServerTime | postImage | getImage =>
    rcases reply with (_ | _) | _ <;> exact ⟨rfl, rfl, rfl, rfl, rfl, rfl⟩
  | _ => exact ⟨rfl, rfl, rfl, rfl, rfl, rfl⟩

end Exchange

namespace Service

/-- What comes of calls that are made one after the other. -/
def exchanges (service : Service σ) (s : σ) : List Call → List Exchange
  | [] => []
  | call :: calls =>
    ⟨call, (service.answer s call).1⟩ :: service.exchanges (service.answer s call).2.1 calls

/-- Two services give the same replies to the same calls, whatever keys are presented in them. Only
the keys that they issue may be different. -/
def Alike (service : Service σ) (s : σ) (service' : Service τ) (t : τ) : Prop :=
  ∀ calls calls' : List Call, calls.map Call.withoutKey = calls'.map Call.withoutKey →
    (service.exchanges s calls).map Exchange.withoutKey =
      (service'.exchanges t calls').map Exchange.withoutKey

/-- A service that replies in the same way and logs nothing. -/
def muted (service : Service σ) : Service σ where
  answer s call := ((service.answer s call).1, (service.answer s call).2.1, [])

variable {call call' : Call}

theorem Alike.reply (h : service.Alike s service' t) (hc : call.withoutKey = call'.withoutKey) :
    (⟨call, (service.answer s call).1⟩ : Exchange).withoutKey =
      (⟨call', (service'.answer t call').1⟩ : Exchange).withoutKey := by
  have hone := h [call] [call'] (by simp [hc])
  exact (List.cons.inj hone).1

theorem Alike.next (h : service.Alike s service' t) (hc : call.withoutKey = call'.withoutKey) :
    service.Alike (service.answer s call).2.1 service' (service'.answer t call').2.1 := by
  intro calls calls' hcalls
  have hall := h (call :: calls) (call' :: calls') (by simp [hc, hcalls])
  exact (List.cons.inj hall).2

end Service

namespace Dialogue

/-- What a service logs has no bearing on what a dialogue comes to. -/
theorem run_muted (d : Dialogue α) (service : Service σ) (s : σ) :
    (d.run service.muted s).value = (d.run service s).value ∧
      (d.run service.muted s).state = (d.run service s).state ∧
      (d.run service.muted s).exchanges = (d.run service s).exchanges := by
  induction d generalizing s with
  | done value => exact ⟨rfl, rfl, rfl⟩
  | note record rest ih => exact ih s
  | ask call next ih =>
    obtain ⟨hvalue, hstate, hexchanges⟩ := ih (service.answer s call).1 (service.answer s call).2.1
    exact ⟨hvalue, hstate, congrArg (_ :: ·) hexchanges⟩

theorem log_run_notes (records : List Log.Record) (d : Dialogue α) :
    ((records.foldr .note d).run service s).log = records ++ (d.run service s).log := by
  induction records with
  | nil => rfl
  | cons record records ih => exact congrArg (record :: ·) ih

end Dialogue

namespace Session

open Exchange (withoutKey withoutKey_facts)

variable {request : Request} {now : Timestamp} {n : Nat} {stage : Stage} {stages : List Stage}
  {past past' xs : List Exchange} {x y : Exchange} {r : Except ServiceError Transcript}

theorem ofExchanges_withoutKey (past : List Exchange) :
    Transcript.ofExchanges (past.map withoutKey) = Transcript.ofExchanges past := by
  induction past using List.reverseRecOn with
  | nil => rfl
  | append_singleton past x ih =>
    obtain ⟨-, -, hid, htime, hrefused, hstep⟩ := withoutKey_facts x
    rw [List.map_append, List.map_singleton, ofExchanges_append, ofExchanges_append, ih,
      Transcript.extend, hid, htime, hrefused, hstep]
    rfl

theorem ofExchanges_congr (h : past.map withoutKey = past'.map withoutKey) :
    Transcript.ofExchanges past = Transcript.ofExchanges past' := by
  rw [← ofExchanges_withoutKey past, h, ofExchanges_withoutKey]

/-- The next call depends on what was exchanged, its key apart. -/
theorem next_withoutKey (request : Request) (now : Timestamp)
    (h : past.map withoutKey = past'.map withoutKey) (stage : Stage) :
    (stage.next request now past).withoutKey = (stage.next request now past').withoutKey := by
  have hids : postedIds past = postedIds past' :=
    congrArg Transcript.imageIds (ofExchanges_congr h)
  unfold Stage.next
  rw [hids]
  cases stage <;> rfl

/-- Whether a session goes on, and what it writes down, does not depend on the key. -/
theorem proceed_withoutKey (h : x.withoutKey = y.withoutKey) (stage : Stage) :
    stage.unexpected? x = stage.unexpected? y ∧ stage.notes x = stage.notes y := by
  obtain ⟨-, herror, -, -, -, hstep⟩ := withoutKey_facts x
  obtain ⟨-, herror', -, -, -, hstep'⟩ := withoutKey_facts y
  rw [h] at herror hstep
  have he : x.error? = y.error? := herror.symm.trans herror'
  have hs : stepOf x = stepOf y := hstep.symm.trans hstep'
  constructor
  · rw [Stage.unexpected?, he]
    rfl
  · rw [Stage.notes, Stage.warnings.eq_def, he, hs]
    rfl

/-- From any point of the plan on, two sessions that differ in their keys go on in the same way. -/
theorem follow_withoutKey (request : Request) (now : Timestamp) (stages : List Stage)
    (h : service.Alike s service' t) (hpast : past.map withoutKey = past'.map withoutKey) :
    ((follow request now stages past).run service.muted s).value =
        ((follow request now stages past').run service'.muted t).value ∧
      ((follow request now stages past).run service.muted s).log =
        ((follow request now stages past').run service'.muted t).log ∧
      ((follow request now stages past).run service.muted s).exchanges.map withoutKey =
        ((follow request now stages past').run service'.muted t).exchanges.map withoutKey := by
  induction stages generalizing past past' s t with
  | nil =>
    simp [follow, ofExchanges_congr hpast, Dialogue.run]
  | cons stage stages ih =>
    have hcall := next_withoutKey request now hpast stage
    have hreply := h.reply hcall
    obtain ⟨hunexpected, hnotes⟩ := proceed_withoutKey hreply stage
    simp only [follow, Dialogue.run, Service.muted, List.map_cons, hreply, List.nil_append,
      Stage.proceed, hunexpected, hnotes]
    split
    · exact ⟨rfl, rfl, rfl⟩
    · have hpast' := congrArg₂ (· ++ [·]) hpast hreply
      simp only [← List.map_singleton (f := withoutKey), ← List.map_append] at hpast'
      obtain ⟨hvalue, hlog, hexchanges⟩ := ih (h.next hcall) hpast'
      rw [(run_notes _ _).1, (run_notes _ _).1, (run_notes _ _).2, (run_notes _ _).2,
        Dialogue.log_run_notes, Dialogue.log_run_notes]
      exact ⟨hvalue, congrArg _ hlog, congrArg _ hexchanges⟩

/-- A session presents no key but the one it was given, also if it breaks off. -/
theorem Ended.keys_eq {key : String} (h : Ended request now (plan n) xs r) (hx : x ∈ xs)
    (hk : x.call.key? = some key) : heldKey? xs = some key := by
  cases h with
  | completed h => exact h.keys_eq (List.append_nil _).symm hx hk
  | broken h hall hc _ =>
    apply heldKey?_append
    rcases List.mem_append.1 hx with hx | hx
    · exact h.keys_eq hall hx hk
    · obtain rfl := List.mem_singleton.1 hx
      exact h.key_eq hall (hc ▸ hk)

/-- Two sessions for the same request, at the same time and at services that are alike but for the
keys they issue, have the same result and write the same records. Their exchanges are the same but
for the keys, and the keys that each presents are those that it was given. -/
theorem key_never_revealed (h : service.Alike s service' t) (request : Request)
    (now : Timestamp) :
    let c := (dialogue request now).run service s
    let c' := (dialogue request now).run service' t
    c.value = c'.value ∧
    ((dialogue request now).run service.muted s).log =
      ((dialogue request now).run service'.muted t).log ∧
    c.exchanges.map withoutKey = c'.exchanges.map withoutKey ∧
    (∀ x ∈ c.exchanges, ∀ k, x.call.key? = some k → heldKey? c.exchanges = some k) ∧
    ∀ x ∈ c'.exchanges, ∀ k, x.call.key? = some k → heldKey? c'.exchanges = some k := by
  dsimp only
  have hfirst := run_ended service s request now
  have hsecond := run_ended service' t request now
  have hnone : ([] : List Exchange).map withoutKey = ([] : List Exchange).map withoutKey := rfl
  obtain ⟨hvalue, hlog, hexchanges⟩ :=
    follow_withoutKey request now (plan request.images.toNat) h hnone
  refine ⟨?_, ?_, ?_, fun x hx k => hfirst.keys_eq hx, fun x hx k => hsecond.keys_eq hx⟩
  · rw [← (Dialogue.run_muted _ service s).1, ← (Dialogue.run_muted _ service' t).1,
      dialogue_eq_follow]
    exact hvalue
  · rw [dialogue_eq_follow]
    exact congrArg (startNote request :: ·) hlog
  · rw [← (Dialogue.run_muted _ service s).2.2, ← (Dialogue.run_muted _ service' t).2.2,
      dialogue_eq_follow]
    exact hexchanges

end Session

namespace ScriptedService

/-- Prepared replies do not depend on the keys that are presented. -/
theorem exchanges_withoutKey (s : ScriptedService) (calls : List Call) :
    (ScriptedService.service.exchanges s calls).map Exchange.withoutKey =
      (ScriptedService.service.exchanges s (calls.map Call.withoutKey)).map
        Exchange.withoutKey := by
  induction calls generalizing s with
  | nil => rfl
  | cons call calls ih =>
    have hrest := ih (s.answer call).2.1
    cases call <;> exact congrArg (_ :: ·) hrest

/-- Another key in the replies to auth shows in these replies only. -/
theorem exchanges_auth (s : ScriptedService) (key key' : String) (calls : List Call) :
    (ScriptedService.service.exchanges { s with auth := ⟨.ok key, []⟩ } calls).map
        Exchange.withoutKey =
      (ScriptedService.service.exchanges { s with auth := ⟨.ok key', []⟩ } calls).map
        Exchange.withoutKey := by
  induction calls generalizing s with
  | nil => rfl
  | cons call calls ih =>
    have hrest := ih (s.answer call).2.1
    cases call <;> exact congrArg (_ :: ·) hrest

theorem alike (s : ScriptedService) (key key' : String) :
    ScriptedService.service.Alike { s with auth := ⟨.ok key, []⟩ }
      ScriptedService.service { s with auth := ⟨.ok key', []⟩ } := by
  intro calls calls' h
  rw [exchanges_withoutKey, h, ← exchanges_withoutKey, exchanges_auth s key key']

end ScriptedService

namespace Session

/-- The first session is given one key and the second another; both find an image for the reserved
id, and break off when their last call is answered with an error that is not the key's. -/
theorem key_never_revealed_broken_off :
    let script (key : String) : ScriptedService :=
      { hello := ⟨.ok "hi", []⟩, auth := ⟨.ok key, []⟩
        getServerTime := ⟨.ok ⟨5, 0⟩, [.error (.imageNotFound ⟨7⟩)]⟩
        postImage := ⟨.ok ⟨41⟩, []⟩, getImage := ⟨.ok Image.empty, []⟩ }
    let run (key : String) :=
      (dialogue ⟨"n", 1⟩ Timestamp.zero).run ScriptedService.service (script key)
    ScriptedService.service.Alike (script "k") ScriptedService.service (script "t") ∧
      (run "k").value = .error (.imageNotFound ⟨7⟩) ∧
      (run "k").exchanges.filterMap (·.call.key?) = ["k", "k", "k", "k", "k"] ∧
      (run "t").exchanges.filterMap (·.call.key?) = ["t", "t", "t", "t", "t"] ∧
      (run "k").value = (run "t").value ∧
      (run "k").exchanges.map Exchange.withoutKey =
        (run "t").exchanges.map Exchange.withoutKey := by
  intro script run
  have halike := ScriptedService.alike (script "") "k" "t"
  obtain ⟨hvalue, -, hexchanges, -⟩ := key_never_revealed halike ⟨"n", 1⟩ Timestamp.zero
  exact ⟨halike, by decide +kernel, by decide +kernel, by decide +kernel, hvalue, hexchanges⟩

end Session

end KeyedImages
