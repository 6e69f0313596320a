import KeyedImages.Proofs.MockService.Opening

/-! What becomes of sessions that run at one service at the same time. -/
namespace KeyedImages

open MockService Session Exchange

namespace Session

variable {request : Request} {now : Timestamp} {n : Nat} {stage : Stage} {stages more : List Stage}
  {past : List Exchange}

theorem Passed.countP_calls (h : Passed request now stages past) (method : Method) :
    (past.map Exchange.event).countP (Event.calls method) =
      stages.countP (·.method == method) := by
  have hmethods := congrArg (List.countP (· == method)) h.methods
  rw [List.countP_map, List.countP_map] at hmethods
  rw [List.countP_map]
  exact hmethods

/-- How many lookups a session with `n` uploads makes. -/
def lookups (n : Nat) : Nat := if n = 0 then 1 else 2

theorem countP_lookups (n : Nat) : (plan n).countP (·.method == .getImage) = lookups n := by
  by_cases hn : n = 0 <;> simp [plan, lookups, Stage.method, hn, List.countP_replicate]

/-- No stage that needs the key comes behind the reset. -/
theorem countP_reset (hall : plan n = stages ++ stage :: more) (hs : stage.needsKey = true) :
    stages.countP (·.method == .reset) = 0 := by
  rw [List.countP_eq_zero]
  intro other hm hreset
  have hle := rank_le_of_mem_before hall hm
  cases other <;> cases stage <;> simp_all [Stage.method, Stage.needsKey, Stage.rank]

/-- A stage that needs the key has a lookup ahead, or is one. -/
theorem countP_lookups_lt (hall : plan n = stages ++ stage :: more) (hs : stage.needsKey = true) :
    stages.countP (·.method == .getImage) < lookups n := by
  have hahead : 0 < (stage :: more).countP (·.method == .getImage) := by
    rw [List.countP_pos_iff]
    by_cases hstage : stage.method = .getImage
    · exact ⟨stage, List.mem_cons_self, by rw [hstage]; rfl⟩
    · refine ⟨.reserved, List.mem_cons_of_mem _ (mem_after hall (by simp) ?_), rfl⟩
      cases stage <;> simp_all [Stage.method, Stage.needsKey, Stage.rank]
  rw [← countP_lookups, hall, List.countP_append]
  omega

end Session

namespace MockService.Shared

variable {ι : Type} [DecidableEq ι] {key : String} {request : Request} {now : Timestamp} {n : Nat}
  {i : ι} {history opening before after : List (ι × Event)} {past : List Exchange} {x : Exchange}
  {stages more : List Stage} {stage : Stage} {r : Except ServiceError Transcript} {e : ServiceError}

/-- Another client resets the service between a session's auth and its last lookup. -/
def Disturbed (n : Nat) (i : ι) (history : List (ι × Event)) : Prop :=
  ∃ before j d after, history = before ++ (j, d) :: after ∧ j ≠ i ∧ d.calls .reset = true ∧
    (eventsOf i before).any (Event.calls .auth) = true ∧
    (eventsOf i before).countP (Event.calls .getImage) < lookups n ∧ eventsOf i after ≠ []

/-- A session breaks off with a call that presents a key which is no longer the current one. -/
theorem Orderly.broken (h : Orderly key history)
    (hown : eventsOf i history = (past ++ [x]).map Exchange.event)
    (hp : Passed request now stages past) (hall : plan n = stages ++ stage :: more)
    (hc : x.call = stage.next request now past) (hx : stage.unexpected? x = some e) :
    stage.needsKey = true ∧ e = .invalidKey ∧
    ∃ before after, history = before ++ (i, x.event) :: after ∧
      eventsOf i before = past.map Exchange.event ∧
      (heldKey? past).getD "" ≠ secretBehind key before := by
  rw [List.map_append] at hown
  obtain ⟨before, after, rfl, hbefore, -⟩ := exists_moment hown
  have hcause := h.unexpected?_eq hbefore hp hall hc
  rw [hx] at hcause
  split at hcause
  case isTrue hcond =>
    exact ⟨hcond.1, Option.some.inj hcause, before, after, rfl, hbefore, hcond.2⟩
  case isFalse => cases hcause

/-- A session that breaks off does so for a key that another client's reset has taken from it. -/
theorem Opened.disturbed (hkey : key ≠ "") (h : Opened key request now i history opening)
    (hown : eventsOf i history = (past ++ [x]).map Exchange.event)
    (hp : Passed request now stages past) (hall : plan n = stages ++ stage :: more)
    (hc : x.call = stage.next request now past) (hx : stage.unexpected? x = some e) :
    resetIn opening = false ∧ Disturbed n i history := by
  obtain ⟨hneeds, -, before, after, rfl, hbefore, hstale⟩ := h.orderly.broken hown hp hall hc hx
  have hauth := auth_mem_of_needsKey hall hneeds
  obtain ⟨hreset, hopening⟩ := (h.stale_iff hkey hbefore hp hall hauth).1 hstale
  refine ⟨hopening, ?_⟩
  obtain ⟨-, middle, rfl⟩ := h.held hbefore hp hall hauth
  have hmiddle : resetIn middle = true := by
    rw [resetIn_append, hopening] at hreset
    exact hreset
  -- The reset that took the key stands between the auth and the refused call.
  obtain ⟨⟨j, d⟩, hmem, hd⟩ := List.any_eq_true.1 hmiddle
  obtain ⟨first, last, rfl⟩ := List.append_of_mem hmem
  -- It is not the session's own: that one comes when no key is needed any more.
  have hj : j ≠ i := by
    rintro rfl
    have hnone := hp.countP_calls .reset
    rw [countP_reset hall hneeds, ← hbefore, List.countP_eq_zero] at hnone
    exact hnone d (mem_eventsOf.2 (by simp)) hd
  have hlookups := hp.countP_calls .getImage
  rw [← hbefore] at hlookups
  refine ⟨opening ++ (i, authEvent request now (secretBehind key opening)) :: first, j, d,
    last ++ (i, x.event) :: after, by simp, hj, hd, ?_, ?_, ?_⟩
  · rw [eventsOf_append, eventsOf_cons_self, List.any_append, List.any_cons]
    simp [authEvent, Exchange.event, Event.calls, Call.method]
  · have hlt := countP_lookups_lt hall hneeds
    simp only [eventsOf_append, eventsOf_cons_self, List.countP_append, List.countP_cons]
      at hlookups ⊢
    omega
  · rw [eventsOf_append, eventsOf_cons_self]
    simp

theorem needsKey_of_lookup (h : stage.method = .getImage) : stage.needsKey = true := by
  cases stage <;> first | rfl | cases h

/-- A session that is disturbed after its auth has a lookup ahead that it does not pass. -/
theorem Opened.not_disturbed (hkey : key ≠ "") (h : Opened key request now i history opening)
    (hown : eventsOf i history = past.map Exchange.event) (hp : Passed request now (plan n) past)
    (ho : resetIn opening = false) : ¬Disturbed n i history := by
  rintro ⟨before, j, d, after, rfl, hj, hd, -, hlt, -⟩
  rw [eventsOf_append, eventsOf_cons_of_ne hj] at hown
  obtain ⟨earlier, later, rfl, hbefore, hafter⟩ := List.map_eq_append_iff.1 hown.symm
  -- The session has all its lookups, so one of them comes behind the other client's reset.
  have hahead : 0 < (later.map Exchange.event).countP (Event.calls .getImage) := by
    have hall := (hp.countP_calls .getImage).trans (countP_lookups n)
    rw [List.map_append, List.countP_append, hbefore] at hall
    omega
  obtain ⟨a, ha, hlookup⟩ := List.countP_pos_iff.1 hahead
  obtain ⟨x, hx, rfl⟩ := List.mem_map.1 ha
  obtain ⟨first, last, rfl⟩ := List.append_of_mem hx
  rw [← List.append_assoc] at hp
  obtain ⟨stages, stage, more, hall, hpast, hc, hexpected⟩ := hp.moment
  have hneeds : stage.needsKey = true := by
    apply needsKey_of_lookup
    rw [← next_method, ← hc]
    exact beq_iff_eq.1 hlookup
  rw [List.map_append] at hafter
  obtain ⟨middle, rest, rfl, hmiddle, -⟩ := exists_moment hafter.symm
  rw [← List.cons_append, ← List.append_assoc] at h
  have hmoment :
      eventsOf i (before ++ (j, d) :: middle) = (earlier ++ first).map Exchange.event := by
    rw [eventsOf_append, eventsOf_cons_of_ne hj, hmiddle, List.map_append, hbefore]
  have hreset : resetIn (before ++ (j, d) :: middle) = true := by
    rw [resetIn_append]
    simp [resetIn, hd]
  have hauth := auth_mem_of_needsKey hall hneeds
  have hstale := (h.stale_iff hkey hmoment hpast hall hauth).2 ⟨hreset, ho⟩
  have hbreak := h.orderly.unexpected?_eq hmoment hpast hall hc
  rw [hexpected, if_pos ⟨hneeds, hstale⟩] at hbreak
  cases hbreak

/-- A whole session finds its key revoked just if it had not been issued an empty one. -/
theorem Opened.keyRevoked_iff (hkey : key ≠ "") (h : Opened key request now i history opening)
    (hown : eventsOf i history = past.map Exchange.event) (hp : Passed request now (plan n) past) :
    (Transcript.ofExchanges past).keyRevoked = true ↔ resetIn opening = false := by
  rw [hp.keyRevoked_iff]
  obtain ⟨init, hinit⟩ : ∃ init, plan n = init ++ [.reset] ++ [.revoked] :=
    ⟨.hello :: .auth :: .noop :: .serverTime :: (List.replicate n .post ++
      .reserved :: (if n = 0 then [] else [.first])), by simp [plan]⟩
  rw [hinit] at hp
  obtain ⟨past, x, rfl, hpast, hc, -⟩ := passed_append_singleton hp
  obtain ⟨earlier, y, rfl, -, hy, -⟩ := passed_append_singleton hpast
  rw [List.map_append] at hown
  obtain ⟨before, after, rfl, hbefore, -⟩ := exists_moment hown
  have hreset : resetIn before = true := by
    have hmem : (i, y.event) ∈ before := by
      rw [← mem_eventsOf, hbefore]
      simp
    refine List.any_eq_true.2 ⟨_, hmem, ?_⟩
    change (y.call.method == .reset) = true
    rw [hy]
    rfl
  have hrefused := timeRefused_answer hc h.orderly.reply_eq
  have hauth : Stage.auth ∈ init ++ [.reset] := mem_before hinit (by simp) (by decide)
  rw [h.orderly.secret_eq, h.stale_iff hkey hbefore hpast hinit hauth] at hrefused
  rw [List.getLast?_concat]
  simp [← timeRefused_iff, hrefused, hreset]

/-- A whole session does not find the reserved image. -/
theorem Orderly.any_missing (h : Orderly key history)
    (hown : eventsOf i history = past.map Exchange.event) (hp : Passed request now (plan n) past) :
    past.any reservedMissing = true := by
  obtain ⟨stages, more, hall⟩ : ∃ stages more, plan n = stages ++ .reserved :: more :=
    List.append_of_mem (by simp)
  rw [hall] at hp
  obtain ⟨earlier, x, later, rfl, hpast, hc, hx⟩ := hp.exchange_of
  rw [List.map_append] at hown
  obtain ⟨before, after, rfl, hbefore, -⟩ := exists_moment hown
  have hkey := h.unexpected?_eq hbefore hpast hall hc
  rw [hx, ← h.secret_eq] at hkey
  have hmissing := reservedMissing_answer hc h.reply_eq (by simpa [Stage.needsKey] using hkey)
  simp [hmissing]

/-- Every session makes its auth. -/
theorem Orderly.exists_auth (h : Orderly key history)
    (hown : eventsOf i history = past.map Exchange.event)
    (hend : Ended request now (plan n) past r) :
    ∃ a, (i, a) ∈ history ∧ a.calls .auth = true := by
  have hpos : 0 < (eventsOf i history).countP (Event.calls .auth) := by
    rw [hown]
    cases hend with
    | completed hp =>
      rw [hp.countP_calls, List.countP_pos_iff]
      exact ⟨.auth, by simp, rfl⟩
    | broken hp hall hc hx =>
      have hneeds := (h.broken hown hp hall hc hx).1
      rw [List.map_append, List.countP_append, hp.countP_calls]
      apply Nat.add_pos_left
      rw [List.countP_pos_iff]
      exact ⟨.auth, auth_mem_of_needsKey hall hneeds, rfl⟩
  obtain ⟨a, ha, hauth⟩ := List.countP_pos_iff.1 hpos
  exact ⟨a, mem_eventsOf.1 ha, hauth⟩

/-- A session that gets to its own reset has nothing more to fear. -/
theorem Orderly.completes_of_reset {a : Event} (h : Orderly key history)
    (hown : eventsOf i history = past.map Exchange.event) (hend : Ended request now (plan n) past r)
    (hm : (i, a) ∈ history) (ha : a.calls .reset = true) : ∃ t, r = .ok t := by
  cases hend with
  | completed hp => exact ⟨_, rfl⟩
  | @broken stages more earlier stage x e hp hall hc hx =>
    have hneeds := (h.broken hown hp hall hc hx).1
    have hlast : x.event.calls .reset = false := by
      change (x.call.method == .reset) = false
      rw [hc, next_method]
      cases stage <;> first | rfl | cases hneeds
    rw [← mem_eventsOf, hown, List.map_append, List.mem_append] at hm
    rcases hm with hm | hm
    · have hnone := hp.countP_calls .reset
      rw [countP_reset hall hneeds, List.countP_eq_zero] at hnone
      exact absurd ha (hnone a hm)
    · obtain rfl := List.mem_singleton.1 hm
      exact nomatch hlast.symm.trans ha

/-- What becomes of a session whose auth stands behind `opening`. -/
theorem Opened.outcome (hkey : key ≠ "") (h : Opened key request now i history opening)
    (hown : eventsOf i history = past.map Exchange.event)
    (hend : Ended request now (plan n) past r) :
    (resetIn opening = true → ∃ t, r = .ok t ∧ t.keyRevoked = false ∧ t.failures = 1) ∧
    (resetIn opening = false → ((∃ t, r = .ok t) ↔ ¬Disturbed n i history) ∧
      ∀ t, r = .ok t → t.keyRevoked = true ∧ t.failures = 2) := by
  cases hend with
  | completed hp =>
    have hrevoked := h.keyRevoked_iff hkey hown hp
    have hfailures := hp.failures_plan
    rw [h.orderly.any_missing hown hp] at hfailures
    constructor
    · intro ho
      rw [ho, Bool.true_eq_false, iff_false, Bool.not_eq_true] at hrevoked
      rw [hrevoked] at hfailures
      exact ⟨_, rfl, hrevoked, hfailures⟩
    · intro ho
      have hrevoked := hrevoked.2 ho
      rw [hrevoked] at hfailures
      refine ⟨⟨fun _ => h.not_disturbed hkey hown hp ho, fun _ => ⟨_, rfl⟩⟩, fun t ht => ?_⟩
      obtain rfl := Except.ok.inj ht
      exact ⟨hrevoked, hfailures⟩
  | broken hp hall hc hx =>
    obtain ⟨hopening, hdisturbed⟩ := h.disturbed hkey hown hp hall hc hx
    constructor
    · intro ho
      exact nomatch ho.symm.trans hopening
    · intro _
      refine ⟨⟨?_, fun hnot => absurd hdisturbed hnot⟩, fun t ht => nomatch ht⟩
      rintro ⟨t, ht⟩
      cases ht

/-- Sessions at one new service with the key `key`, after turns in a given order. -/
def together (key : String) (requests : ι → Request) (clocks : ι → Timestamp) (order : List ι) :
    Shared ι (Dialogue (Except ServiceError Transcript)) :=
  (start (new ⟨key⟩) fun i => dialogue (requests i) (clocks i)).run Dialogue.act order

/-- Sessions never set a key. -/
theorem together_orderly {requests : ι → Request} {clocks : ι → Timestamp} {order : List ι}
    (hids : (acceptedIds (together key requests clocks order).events).length < UInt64.size) :
    Orderly key (together key requests clocks order).history where
  performed := (run_performed Dialogue.act (new ⟨key⟩) _ order).1
  unprovisioned := by
    intro e he secret hop
    obtain ⟨⟨j, _⟩, hmem, rfl⟩ := List.mem_map.1 he
    obtain ⟨past, hown, -⟩ := run_situation (new ⟨key⟩) requests clocks order j
    have hj := mem_eventsOf.2 hmem
    rw [together, hown] at hj
    obtain ⟨x, -, rfl⟩ := List.mem_map.1 hj
    cases hop
  ids := (run_performed Dialogue.act (new ⟨key⟩) _ order).1.none_not_mem (run_ids hids).1

/-- Sessions run to their ends at one new service with a key, in any order of turns. A session that
gets its key after the first reset completes, without its key being revoked. One that gets it
before completes unless it is disturbed. Whoever gets to the reset completes. And the ids that
all of them are given are the numbers from one on, each given once. -/
theorem sessions_together (requests : ι → Request) (clocks : ι → Timestamp) (key : String)
    (order : List ι) (hkey : key ≠ "")
    (hend : ∀ i, ((together key requests clocks order).clients i).act = none)
    (hids : (acceptedIds (together key requests clocks order).events).length < UInt64.size) :
    let w := together key requests clocks order
    (∀ i, ∃ result, (w.clients i).value? = some result ∧
      ((∃ t, result = .ok t) ∨ result = .error .invalidKey) ∧
      (∃ a, (i, a) ∈ w.history ∧ a.calls .auth = true) ∧
      (∀ opening a rest, w.history = opening ++ (i, a) :: rest → a.calls .auth = true →
        (resetIn opening = true → ∃ t, result = .ok t ∧ t.keyRevoked = false ∧ t.failures = 1) ∧
        (resetIn opening = false →
          ((∃ t, result = .ok t) ↔ ¬Disturbed (requests i).images.toNat i w.history) ∧
          ∀ t, result = .ok t → t.keyRevoked = true ∧ t.failures = 2)) ∧
      ((∃ a, (i, a) ∈ w.history ∧ a.calls .reset = true) → ∃ t, result = .ok t)) ∧
    (acceptedIds w.events).Nodup ∧
    (acceptedIds w.events).map (·.number.toNat) =
      List.range' 1 (w.service.perform .posted).1.toNat := by
  have horderly := together_orderly hids
  obtain ⟨hn, hrange, hposted⟩ := run_ids hids
  refine ⟨fun i => ?_, horderly.performed.ids_nodup hn, ?_⟩
  · obtain ⟨past, hown, hsit⟩ := run_situation (new ⟨key⟩) requests clocks order i
    obtain ⟨result, hvalue, hended⟩ := hsit.ended (hend i)
    refine ⟨result, hvalue, ?_, horderly.exists_auth hown hended,
      fun opening a rest hsplit ha => ?_,
      fun ⟨a, hm, ha⟩ => horderly.completes_of_reset hown hended hm ha⟩
    · cases hended with
      | completed hp => exact .inl ⟨_, rfl⟩
      | broken hp hall hc hx =>
        exact .inr (congrArg Except.error (horderly.broken hown hp hall hc hx).2.1)
    · have hopened : Opened key (requests i) (clocks i) i
          (together key requests clocks order).history opening := by
        rw [hsplit] at horderly ⊢
        exact horderly.opened (hsplit ▸ hown) hended ha
      exact hopened.outcome hkey hown hended
  · rw [together, hposted]
    exact hrange

/-- Two sessions, the second of which makes its last lookup behind the first one's reset. -/
def overtaken : Shared Bool (Dialogue (Except ServiceError Transcript)) :=
  together "k" (fun _ => ⟨"n", 1⟩) (fun _ => Timestamp.zero)
    (List.replicate 7 false ++ List.replicate 6 true ++ [false, false, true])

theorem sessions_together_overtaken :
    "k" ≠ "" ∧ (∀ i, (overtaken.clients i).act = none) ∧
      (acceptedIds overtaken.events).length < UInt64.size ∧
      (overtaken.clients true).value? = some (.error .invalidKey) ∧
      (acceptedIds overtaken.events).map (·.number.toNat) = List.range' 1 2 := by
  have hend : ∀ i, (overtaken.clients i).act = none := by
    intro i
    rw [← Option.isNone_iff_eq_none]
    revert i
    decide +kernel
  have hids : (acceptedIds overtaken.events).length < UInt64.size := by decide +kernel
  have hposted : (overtaken.service.perform .posted).1.toNat = 2 := by decide +kernel
  have hbroken : (overtaken.clients true).value?.map Except.toBool = some false := by decide +kernel
  obtain ⟨hsessions, -, hrange⟩ :=
    sessions_together (fun _ => ⟨"n", 1⟩) (fun _ => Timestamp.zero) "k" _ (by decide) hend hids
  obtain ⟨result, hvalue, hcases, -⟩ := hsessions true
  refine ⟨by decide, hend, hids, ?_, ?_⟩
  · have hresult : (overtaken.clients true).value? = some result := hvalue
    rw [hresult] at hbroken ⊢
    rcases hcases with ⟨t, rfl⟩ | rfl
    · cases hbroken
    · rfl
  · rw [← hposted]
    exact hrange

end MockService.Shared

end KeyedImages
