import KeyedImages.Proofs.Session.Stage

/-! A session is its plan: the dialogue of a session goes through the stages of its plan. -/
namespace KeyedImages

namespace Dialogue

variable {α β γ : Type}

theorem bind_assoc (d : Dialogue α) (f : α → Dialogue β) (g : β → Dialogue γ) :
    (d.bind f).bind g = d.bind fun a => (f a).bind g := by
  induction d with
  | done a => rfl
  | note r d ih => simp only [bind, ih]
  | ask call next ih =>
    simp only [bind, Dialogue.ask.injEq, heq_eq_eq, true_and]
    funext reply
    exact ih reply

end Dialogue

namespace Session

open Progress Exchange

variable {α β : Type} {request : Request} {now : Timestamp} {key : String}
  {past : List Exchange} {stage : Stage} {stages : List Stage} {t : Transcript}

/-- What a part of a session leads to when `k` comes after it. -/
def Progress.onward (p : Progress α) (t : Transcript)
    (k : α → Transcript → Dialogue (Except ServiceError β)) : Dialogue (Except ServiceError β) :=
  Dialogue.bind (p t) fun
    | (.ok a, t) => k a t
    | (.error e, _) => .done (.error e)

theorem onward_bind {γ : Type} (p : Progress γ) (f : γ → Progress α)
    {k : α → Transcript → Dialogue (Except ServiceError β)} :
    (p >>= f).onward t k = p.onward t fun a t => (f a).onward t k := by
  refine (Dialogue.bind_assoc (p t) _ _).trans ?_
  unfold Progress.onward
  congr 1
  funext ⟨r, t⟩
  cases r <;> rfl

theorem get_onward (k : Transcript → Transcript → Dialogue (Except ServiceError β)) :
    (get : Progress Transcript).onward t k = k t t := rfl

theorem dialogue_eq_onward (request : Request) (now : Timestamp) :
    dialogue request now =
      (steps request now).onward Transcript.empty fun () t => .done (.ok t) := by
  unfold dialogue Progress.onward
  refine congrArg (Dialogue.bind _) ?_
  funext ⟨r, t⟩
  cases r <;> rfl

/-- A dialogue follows a stage if it makes the stage's call and proceeds as the stage does. -/
theorem ask_eq_follow {call : Call} {k : call.Reply → Dialogue (Except ServiceError Transcript)}
    (h : stage.next request now past = call)
    (hk : ∀ reply, k reply = stage.proceed ⟨call, reply⟩
      (follow request now stages (past ++ [⟨call, reply⟩]))) :
    .ask call k = follow request now (stage :: stages) past := by
  subst h
  exact congrArg (Dialogue.ask _) (funext hk)

/-- The key has been issued and the time told, as they are from the uploads on. -/
structure Started (key : String) (past : List Exchange) : Prop where
  key : heldKey? past = some key
  time : (Transcript.ofExchanges past).serverTime.isSome

theorem heldKey?_append (h : heldKey? past = some key) (xs : List Exchange) :
    heldKey? (past ++ xs) = some key := by
  unfold heldKey? at h ⊢
  rw [List.findSome?_append, h]
  rfl

theorem Started.append (h : Started key past) (x : Exchange) : Started key (past ++ [x]) where
  key := heldKey?_append h.key [x]
  time := by simp [ofExchanges_append, Transcript.extend, h.time]

theorem Started.next_eq (h : Started key past) (stage : Stage) :
    stage.next request now past =
      stage.call request now key ((postedIds past).head?.getD ImageId.none) := by
  simp [Stage.next, h.key]

/-- An exchange that brings no id and no word of the time adds its step and nothing else. -/
theorem extend_of_plain {x : Exchange} (hid : x.postedId? = none) (ht : x.toldTime? = none)
    (hr : x.timeRefused = false) : t.extend x = { t with steps := t.steps ++ [stepOf x] } := by
  simp [Transcript.extend, hid, ht, hr]

theorem postedIds_append_post (id : ImageId) :
    postedIds (past ++ [⟨.postImage key Image.empty, .ok id⟩]) = postedIds past ++ [id] := by
  rw [postedIds, List.filterMap_append]
  rfl

section

variable {k : Unit → Transcript → Dialogue (Except ServiceError Transcript)}

/-- The uploads are as many stages, after which the session holds as many more ids. -/
theorem postImages_onward (n : Nat) (h : Started key past)
    (hk : ∀ later, Started key later → (postedIds later).length = (postedIds past).length + n →
      k () (Transcript.ofExchanges later) = follow request now stages later) :
    (postImages key n).onward (Transcript.ofExchanges past) k =
      follow request now (List.replicate n .post ++ stages) past := by
  induction n generalizing past with
  | zero => exact hk past h rfl
  | succ n ih =>
    refine ask_eq_follow (h.next_eq _) fun reply => ?_
    cases reply with
    | error e => rfl
    | ok id =>
      have hlen (later : List Exchange) (hl : (postedIds later).length =
          (postedIds (past ++ [⟨.postImage key Image.empty, .ok id⟩])).length + n) :
          (postedIds later).length = (postedIds past).length + (n + 1) := by
        rw [hl, postedIds_append_post, List.length_append, List.length_singleton]
        omega
      refine congrArg (Dialogue.note _)
        (Eq.trans ?_ (ih (h.append _) fun later hl hn => hk later hl (hlen later hn)))
      rw [ofExchanges_append]
      simp only [Transcript.extend, postedId?, toldTime?, timeRefused, Option.toList_some,
        Option.or_none, Bool.or_false]
      rfl

theorem lookUpReserved_onward (h : Started key past)
    (hk : ∀ reply, k () (Transcript.ofExchanges (past ++ [⟨.getImage key ImageId.none, reply⟩])) =
      follow request now stages (past ++ [⟨.getImage key ImageId.none, reply⟩])) :
    (lookUpReserved key).onward (Transcript.ofExchanges past) k =
      follow request now (.reserved :: stages) past := by
  refine ask_eq_follow (h.next_eq _) fun reply => ?_
  rw [← hk, ofExchanges_append]
  rcases reply with (_ | id) | image
  · rfl
  all_goals
    rw [extend_of_plain rfl rfl rfl]
    rfl

theorem lookUpFirst_onward_nil (h : postedIds past = []) :
    (lookUpFirst key).onward (Transcript.ofExchanges past) k =
      k () (Transcript.ofExchanges past) := by
  have hnone : (Transcript.ofExchanges past).imageIds.head? = none := by
    simp [Transcript.ofExchanges, h]
  rw [lookUpFirst, onward_bind, get_onward, hnone]
  rfl

theorem lookUpFirst_onward {first : ImageId} (h : Started key past)
    (hf : (postedIds past).head? = some first)
    (hk : ∀ reply, k () (Transcript.ofExchanges (past ++ [⟨.getImage key first, reply⟩])) =
      follow request now stages (past ++ [⟨.getImage key first, reply⟩])) :
    (lookUpFirst key).onward (Transcript.ofExchanges past) k =
      follow request now (.first :: stages) past := by
  have hsome : (Transcript.ofExchanges past).imageIds.head? = some first := hf
  rw [lookUpFirst, onward_bind, get_onward, hsome]
  refine ask_eq_follow (by rw [h.next_eq, hf]; rfl) fun reply => ?_
  rw [← hk, ofExchanges_append]
  cases reply with
  | error e => rfl
  | ok image =>
    rw [extend_of_plain rfl rfl rfl]
    rfl

theorem tryRevoked_onward (h : Started key past) :
    (tryRevoked key).onward (Transcript.ofExchanges past)
      (fun () t => .note (endNote t) (.done (.ok t))) = follow request now [.revoked] past := by
  refine ask_eq_follow (h.next_eq _) fun reply => ?_
  obtain ⟨told, htold⟩ := Option.isSome_iff_exists.1 h.time
  rw [follow, ofExchanges_append]
  rcases reply with (_ | id) | time
  · simp only [Transcript.extend, postedId?, toldTime?, timeRefused, Option.toList_none,
      List.append_nil, Option.or_none, Bool.or_true]
    rfl
  · rfl
  · simp only [Transcript.extend, postedId?, toldTime?, timeRefused, Option.toList_none,
      List.append_nil, Bool.or_false]
    rw [show (Transcript.ofExchanges past).serverTime.or (some time) =
      (Transcript.ofExchanges past).serverTime by rw [htold]; rfl]
    rfl

end

/-- The end of a session, from the reset on. -/
def ending (key : String) : Progress Unit := do
  ask .reset
  recordOk .reset ""
  tryRevoked key
  note .info (finishedText (← get))

theorem ending_onward (h : Started key past) :
    (ending key).onward (Transcript.ofExchanges past) (fun () t => .done (.ok t)) =
      follow request now [.reset, .revoked] past := by
  refine ask_eq_follow (h.next_eq _) fun reply => congrArg (Dialogue.note _) ?_
  rw [← tryRevoked_onward (h.append _), ofExchanges_append, extend_of_plain rfl rfl rfl]
  simp only [endNote_eq]
  exact onward_bind _ _

/-- A session once it has its key and the time. -/
def transfers (key : String) (n : Nat) : Progress Unit := do
  postImages key n
  lookUpReserved key
  lookUpFirst key
  ending key

theorem transfers_onward (n : Nat) (h : Started key past) (hp : postedIds past = []) :
    (transfers key n).onward (Transcript.ofExchanges past) (fun () t => .done (.ok t)) =
      follow request now (List.replicate n .post ++
        .reserved :: ((if n = 0 then [] else [.first]) ++ [.reset, .revoked])) past := by
  rw [transfers, onward_bind]
  refine postImages_onward n h fun later hl hn => ?_
  rw [onward_bind]
  refine lookUpReserved_onward hl fun reply => ?_
  rw [onward_bind]
  have hl' := hl.append ⟨.getImage key ImageId.none, reply⟩
  have hids : postedIds (later ++ [⟨.getImage key ImageId.none, reply⟩]) = postedIds later := by
    simp [postedIds, postedId?]
  rw [hp, List.length_nil, Nat.zero_add] at hn
  cases n with
  | zero =>
    rw [lookUpFirst_onward_nil (hids.trans (List.eq_nil_of_length_eq_zero hn))]
    exact ending_onward hl'
  | succ n =>
    obtain ⟨first, rest, hfirst⟩ := List.exists_cons_of_length_eq_add_one hn
    have hhead : (postedIds (later ++ [⟨.getImage key ImageId.none, reply⟩])).head? =
        some first := by rw [hids, hfirst]; rfl
    exact lookUpFirst_onward hl' hhead fun reply => ending_onward (hl'.append _)

/-- The dialogue of a session is to follow its plan from the start. -/
theorem dialogue_eq_follow (request : Request) (now : Timestamp) : dialogue request now =
    .note (startNote request) (follow request now (plan request.images.toNat) []) := by
  rw [dialogue_eq_onward]
  refine congrArg (Dialogue.note _) (ask_eq_follow rfl fun reply => ?_)
  cases reply with
  | error e => rfl
  | ok greeting =>
    refine congrArg (Dialogue.note _) (ask_eq_follow rfl fun reply => ?_)
    cases reply with
    | error e => rfl
    | ok key =>
      refine congrArg (Dialogue.note _) (ask_eq_follow rfl fun reply => ?_)
      refine congrArg (Dialogue.note _) (ask_eq_follow rfl fun reply => ?_)
      cases reply with
      | error e => rfl
      | ok time =>
        have h : Started key [⟨.hello request.name, .ok greeting⟩,
            ⟨.auth request.name now, .ok key⟩, ⟨.noop, reply⟩,
            ⟨.getServerTime key, .ok time⟩] := ⟨rfl, rfl⟩
        exact congrArg (Dialogue.note _) (transfers_onward request.images.toNat h rfl)

end Session

end KeyedImages
