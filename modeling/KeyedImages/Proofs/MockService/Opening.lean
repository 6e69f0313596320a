import KeyedImages.Proofs.MockService.Clients
import KeyedImages.Proofs.MockService.Replies

/-! Where the auth of a session stands in the history of all, and what its key is worth later on. -/
namespace KeyedImages

open MockService Session Exchange

namespace MockService.Shared

/-- Whether any client has reset the service. -/
def resetIn {ι : Type} (history : List (ι × Event)) : Bool := history.any (·.2.calls .reset)

/-- The service's key behind a history in which no new one is set. -/
def secretBehind {ι : Type} (key : String) (history : List (ι × Event)) : String :=
  if resetIn history then "" else key

/-- A history of clients that do no more than sessions do. -/
structure Orderly {ι : Type} (key : String) (history : List (ι × Event)) : Prop where
  performed : (new ⟨key⟩).Performed (history.map (·.2))
  unprovisioned : ∀ e ∈ history.map (·.2), ∀ key, e.op ≠ .provision key
  ids : ImageId.none ∉ acceptedIds (history.map (·.2))

/-- An auth that was answered with a key. -/
def authEvent (request : Request) (now : Timestamp) (token : String) : Event :=
  Exchange.event ⟨.auth request.name now, .ok token⟩

/-- A client's auth stands behind `opening`, with the key of that moment. -/
structure Opened {ι : Type} [DecidableEq ι] (key : String) (request : Request) (now : Timestamp)
    (i : ι) (history opening : List (ι × Event)) : Prop where
  orderly : Orderly key history
  split : ∃ rest, history =
    opening ++ (i, authEvent request now (secretBehind key opening)) :: rest
  second : (eventsOf i opening).length = 1

variable {ι : Type} {key : String} {request : Request} {now : Timestamp} {n : Nat} {i : ι}
  {a : Event} {history opening before after rest : List (ι × Event)} {past : List Exchange}
  {x : Exchange} {stages more : List Stage} {stage : Stage} {r : Except ServiceError Transcript}

theorem resetIn_append : resetIn (before ++ after) = (resetIn before || resetIn after) :=
  List.any_append

/-- A key stays the current one unless the first reset comes behind it. -/
theorem secretBehind_ne_iff (hkey : key ≠ "")
    (hmono : resetIn opening = true → resetIn before = true) :
    secretBehind key opening ≠ secretBehind key before ↔
      resetIn before = true ∧ resetIn opening = false := by
  unfold secretBehind
  cases ho : resetIn opening with
  | true => simp [hmono ho]
  | false => cases resetIn before <;> simp [hkey]

theorem Orderly.secret_eq (h : Orderly key (before ++ after)) :
    ((new ⟨key⟩).replay (before.map (·.2))).key.secret = secretBehind key before := by
  have hbefore : ∀ e ∈ before.map (·.2), ∀ key, e.op ≠ .provision key := by
    intro e he
    apply h.unprovisioned
    rw [List.map_append]
    exact List.mem_append_left _ he
  rw [replay_secret hbefore, List.any_map]
  rfl

theorem Orderly.reply_eq (h : Orderly key (before ++ (i, x.event) :: after)) :
    x.reply = (((new ⟨key⟩).replay (before.map (·.2))).answer x.call).1 := by
  have hp := h.performed
  rw [List.map_append, List.map_cons] at hp
  exact hp.result_eq

theorem acceptedId?_event (x : Exchange) : x.event.acceptedId? = x.postedId? := by
  obtain ⟨call, reply⟩ := x
  cases call with
  | postImage key image => cases reply <;> rfl
  | _ => rfl

theorem acceptedIds_event (past : List Exchange) :
    acceptedIds (past.map Exchange.event) = postedIds past := by
  have hids : Event.acceptedId? ∘ Exchange.event = Exchange.postedId? := funext acceptedId?_event
  rw [acceptedIds, postedIds, List.filterMap_map, hids]

variable [DecidableEq ι]

/-- The first id that a session is given is not the reserved one. -/
theorem Orderly.first_ne_none {id : ImageId} (h : Orderly key (before ++ after))
    (hown : eventsOf i before = past.map Exchange.event) (hid : (postedIds past).head? = some id) :
    id ≠ ImageId.none := by
  rintro rfl
  apply h.ids
  have hmem : ImageId.none ∈ acceptedIds (eventsOf i before) := by
    rw [hown, acceptedIds_event]
    exact List.mem_of_head? hid
  rw [List.map_append, acceptedIds, List.filterMap_append]
  exact List.mem_append_left _ (((eventsOf_sublist i before).filterMap _).subset hmem)

/-- A session breaks off just where it needs a key and holds one that is no longer the current. -/
theorem Orderly.unexpected?_eq (h : Orderly key (before ++ (i, x.event) :: after))
    (hown : eventsOf i before = past.map Exchange.event) (hp : Passed request now stages past)
    (hall : plan n = stages ++ stage :: more) (hc : x.call = stage.next request now past) :
    stage.unexpected? x =
      if stage.needsKey = true ∧ (heldKey? past).getD "" ≠ secretBehind key before then
        some .invalidKey
      else none := by
  rw [← h.secret_eq]
  refine unexpected?_answer hc h.reply_eq fun hs => ?_
  subst hs
  obtain ⟨id, hid⟩ := hp.id_of_first hall
  exact ⟨id, hid, h.first_ne_none hown hid⟩

/-- Of two moments of a client the one with less behind it comes first. -/
theorem exists_between (h : opening ++ (i, a) :: rest = before ++ after)
    (hlen : (eventsOf i opening).length < (eventsOf i before).length) :
    ∃ middle, before = opening ++ (i, a) :: middle := by
  rcases List.append_eq_append_iff.1 h with ⟨middle, rfl, hrest⟩ | ⟨middle, rfl, -⟩
  · rcases List.cons_eq_append_iff.1 hrest with ⟨rfl, -⟩ | ⟨middle, rfl, -⟩
    · simp at hlen
    · exact ⟨middle, rfl⟩
  · rw [eventsOf_append, List.length_append] at hlen
    omega

/-- A session's auth is its second call, and is answered with the service's key. -/
theorem Orderly.opened (h : Orderly key (opening ++ (i, a) :: rest))
    (hown : eventsOf i (opening ++ (i, a) :: rest) = past.map Exchange.event)
    (hend : Ended request now (plan n) past r) (ha : a.calls .auth = true) :
    Opened key request now i (opening ++ (i, a) :: rest) opening := by
  rw [eventsOf_append, eventsOf_cons_self] at hown
  obtain ⟨earlier, later, rfl, hopening, hlater⟩ := List.map_eq_append_iff.1 hown.symm
  obtain ⟨x, later, rfl, rfl, -⟩ := List.map_eq_cons_iff.1 hlater
  obtain ⟨stages, stage, more, hall, hp, hc, -⟩ := hend.moment
  obtain rfl : stage = .auth := by
    have hmethod : x.call.method = .auth := beq_iff_eq.1 ha
    rw [hc, next_method] at hmethod
    cases stage <;> first | rfl | cases hmethod
  have hx := exchange_eq hc h.reply_eq
  refine ⟨h, ⟨rest, ?_⟩, ?_⟩
  · rw [hx, authEvent, ← h.secret_eq]
    rfl
  · rw [← hopening, List.length_map, ← hp.length_eq, before_auth hall]
    rfl

/-- Behind its auth, a session holds the key of that moment. -/
theorem Opened.held (h : Opened key request now i (before ++ after) opening)
    (hown : eventsOf i before = past.map Exchange.event) (hp : Passed request now stages past)
    (hall : plan n = stages ++ more) (hm : .auth ∈ stages) :
    heldKey? past = some (secretBehind key opening) ∧ ∃ middle,
      before = opening ++ (i, authEvent request now (secretBehind key opening)) :: middle := by
  obtain ⟨first, token, later, rfl, hheld⟩ := hp.opening hall hm
  obtain ⟨rest, hsplit⟩ := h.split
  obtain ⟨middle, rfl⟩ := exists_between hsplit.symm (by rw [h.second, hown]; simp)
  refine ⟨?_, middle, rfl⟩
  obtain ⟨y, hy⟩ := List.length_eq_one_iff.1 h.second
  rw [eventsOf_append, eventsOf_cons_self, hy] at hown
  have hauth := (List.cons.inj (List.cons.inj hown).2).1
  rw [hheld]
  simpa [authEvent, Exchange.event] using hauth.symm

/-- A session's key is no longer the current one just if the first reset has come behind its
auth. -/
theorem Opened.stale_iff (hkey : key ≠ "")
    (h : Opened key request now i (before ++ after) opening)
    (hown : eventsOf i before = past.map Exchange.event) (hp : Passed request now stages past)
    (hall : plan n = stages ++ more) (hm : .auth ∈ stages) :
    (heldKey? past).getD "" ≠ secretBehind key before ↔
      resetIn before = true ∧ resetIn opening = false := by
  obtain ⟨hheld, middle, rfl⟩ := h.held hown hp hall hm
  rw [hheld]
  apply secretBehind_ne_iff hkey
  intro ho
  rw [resetIn_append, ho]
  rfl

end MockService.Shared

end KeyedImages
