import KeyedImages.Proofs.MockService.Foreseen
import KeyedImages.Proofs.MockService.Replies

/-! A session that has the stand-in to itself: it always succeeds, and its transcript is the one
that was written down beforehand. -/
namespace KeyedImages.MockService

open Session Exchange

variable {α : Type} {s t : MockService} {request : Request} {now : Timestamp} {key : String}
  {stage : Stage} {stages : List Stage} {past : List Exchange} {n : Nat}
  {r : Except ServiceError Transcript}

/-- A dialogue that has the stand-in to itself comes to a value, and leaves the stand-in as it is
then. -/
def ComesTo (s : MockService) (d : Dialogue α) (value : α) (t : MockService) : Prop :=
  (d.run service s).value = value ∧ (d.run service s).state = t

theorem comesTo_notes {d : Dialogue α} {value : α} (records : List Log.Record)
    (h : s.ComesTo d value t) : s.ComesTo (records.foldr .note d) value t := by
  induction records with
  | nil => exact h
  | cons record records ih => exact ih

/-- A stage that gets an expected reply is followed by the rest. -/
theorem comesTo_stage (call : Call) {reply : call.Reply} {next : MockService}
    {records : List Log.Record} (hc : stage.next request now past = call)
    (ha : s.answer call = (reply, next, records)) (hx : stage.unexpected? ⟨call, reply⟩ = none)
    (h : next.ComesTo (follow request now stages (past ++ [⟨call, reply⟩])) r t) :
    s.ComesTo (follow request now (stage :: stages) past) r t := by
  subst hc
  have hrest : next.ComesTo (stage.proceed ⟨stage.next request now past, reply⟩
      (follow request now stages (past ++ [⟨stage.next request now past, reply⟩]))) r t := by
    simp only [Stage.proceed, hx]
    exact comesTo_notes _ h
  unfold ComesTo at hrest ⊢
  simp only [follow, Dialogue.run, service, ha]
  exact hrest

/-- With the current key a call is carried out. -/
theorem guarded_current (s : MockService)
    (accept : Except ServiceError α × MockService × List Log.Record) :
    s.guarded s.key.secret accept = (accept.1, accept.2.1, ServiceKey.accepted :: accept.2.2) := by
  simp [guarded, ServiceKey.check]

theorem started_opening (request : Request) (now : Timestamp) (key : String)
    (later : List Exchange) : Started key (openingOf request now key ++ later) where
  key := rfl
  time := rfl

theorem comesTo_opening
    (h : s.ComesTo (follow request now stages (openingOf request now s.key.secret)) r t) :
    s.ComesTo (follow request now (.hello :: .auth :: .noop :: .serverTime :: stages) []) r t := by
  apply comesTo_stage (.hello request.name) rfl rfl rfl
  apply comesTo_stage (.auth request.name now) rfl rfl rfl
  apply comesTo_stage .noop rfl rfl rfl
  apply comesTo_stage (.getServerTime s.key.secret) rfl (s.guarded_current _) rfl
  exact h

theorem comesTo_uploads (n : Nat) (hs : Started s.key.secret past)
    (h : ComesTo { s with lastId := s.lastId + .ofNat n } (follow request now stages
      (past ++ uploadsOf s.key.secret (nextIds s.lastId n))) r t) :
    s.ComesTo (follow request now (List.replicate n .post ++ stages) past) r t := by
  induction n generalizing s past with
  | zero => simpa [uploadsOf, nextIds] using h
  | succ n ih =>
    have hlast : s.lastId + .ofNat (n + 1) = s.lastId + 1 + .ofNat n := by
      rw [Nat.add_comm, UInt64.ofNat_add, UInt64.add_assoc]
      rfl
    rw [hlast, nextIds, uploadsOf, List.map_cons, List.append_cons] at h
    exact comesTo_stage _ (hs.next_eq .post) (s.guarded_current _) rfl (ih (hs.append _) h)

theorem answer_getImage_of_ne {id : ImageId} (s : MockService) (h : id ≠ ImageId.none) :
    s.answer (.getImage s.key.secret id) = (.ok Image.empty, s, [ServiceKey.accepted]) := by
  have hfound : s.lookUp id = (.ok Image.empty, s, []) := by
    simp [lookUp, ImageId.isNone_iff, h]
  change s.guarded s.key.secret (s.lookUp id) = _
  rw [hfound]
  exact s.guarded_current _

theorem comesTo_lookups {ids : List ImageId} (hs : Started s.key.secret past)
    (hids : postedIds past = ids) (hnone : ImageId.none ∉ ids) (hlen : ids.length = n)
    (h : s.ComesTo (follow request now stages (past ++ lookupsOf s.key.secret ids)) r t) :
    s.ComesTo (follow request now (.reserved :: ((if n = 0 then [] else [.first]) ++ stages)) past)
      r t := by
  have hreserved : s.answer (.getImage s.key.secret ImageId.none) =
      (.error (.imageNotFound ImageId.none), s, [ServiceKey.accepted]) := s.guarded_current _
  refine comesTo_stage _ (hs.next_eq .reserved) hreserved rfl ?_
  cases ids with
  | nil =>
    subst hlen
    exact h
  | cons first rest =>
    have hn : n ≠ 0 := by
      rw [← hlen, List.length_cons]
      omega
    rw [if_neg hn]
    have hfound := s.answer_getImage_of_ne fun heq : first = ImageId.none =>
      hnone (heq ▸ List.mem_cons_self)
    have hids' : postedIds (past ++ [⟨.getImage s.key.secret ImageId.none,
        .error (.imageNotFound ImageId.none)⟩]) = first :: rest := by
      rw [← hids, postedIds, List.filterMap_append]
      simp [postedIds, postedId?]
    have hcall : Stage.first.next request now (past ++ [⟨.getImage s.key.secret ImageId.none,
        .error (.imageNotFound ImageId.none)⟩]) = .getImage s.key.secret first := by
      rw [(hs.append _).next_eq, hids']
      rfl
    rw [lookupsOf, List.append_cons] at h
    exact comesTo_stage _ hcall hfound rfl h

/-- The reset leaves the session with its key and the stand-in with the empty one. -/
theorem comesTo_closing (hs : Started s.key.secret past) :
    s.ComesTo (follow request now [.reset, .revoked] past)
      (.ok (Transcript.ofExchanges (past ++ closingOf s.key.secret)))
      { s with key := ServiceKey.empty } := by
  refine comesTo_stage .reset rfl rfl rfl ?_
  have htime : ({ s with key := ServiceKey.empty } : MockService).answer
      (.getServerTime s.key.secret) =
      (if s.key.secret = "" then .ok Timestamp.zero else .error .invalidKey,
        { s with key := ServiceKey.empty },
        [if s.key.secret = "" then ServiceKey.accepted else ServiceKey.refused]) := by
    by_cases hk : s.key.secret = "" <;>
      simp [answer, guarded, ServiceKey.check, ServiceKey.empty, hk]
  refine comesTo_stage _ ((hs.append _).next_eq .revoked) htime ?_ ?_
  · split <;> rfl
  · rw [List.append_assoc]
    exact ⟨rfl, rfl⟩

/-- From any state of the stand-in, a session succeeds. It leaves the empty key behind. -/
theorem dialogue_comesTo (s : MockService) (request : Request) (now : Timestamp)
    (h : s.count + request.images.toNat < UInt64.size) :
    s.ComesTo (dialogue request now)
      (.ok (Transcript.atStandIn request.name (nextIds s.lastId request.images.toNat)
        s.key.isProvisioned))
      ⟨ServiceKey.empty, s.lastId + .ofNat request.images.toNat⟩ := by
  rw [dialogue_eq_follow]
  refine comesTo_notes [startNote request] ?_
  refine comesTo_opening ?_
  refine comesTo_uploads request.images.toNat (started_opening request now _ []) ?_
  refine comesTo_lookups (started_opening request now _ _) ?_ (none_not_mem_nextIds h)
    (length_nextIds _ _) ?_
  · rw [postedIds, List.filterMap_append, ← postedIds, ← postedIds, (postedIds_atStandIn _ _).1]
    rfl
  · rw [ServiceKey.isProvisioned, ← ofExchanges_atStandIn request now]
    rw [List.append_assoc (openingOf _ _ _)]
    exact comesTo_closing (started_opening request now _ _)

end KeyedImages.MockService
