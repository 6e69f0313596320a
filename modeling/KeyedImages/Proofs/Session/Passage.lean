import KeyedImages.Proofs.Session.Plan

/-! How far a session has come through its plan, and how it ends: at the end of the plan, or with
the first reply that its stage does not expect. -/
namespace KeyedImages.Session

/-- Stages gone through, and their exchanges: each call is the stage's own, and no reply is
unexpected. -/
inductive Passed (request : Request) (now : Timestamp) : List Stage → List Exchange → Prop
  | start : Passed request now [] []
  | step {before : List Stage} {past : List Exchange} {stage : Stage} {x : Exchange}
      (h : Passed request now before past) (hc : x.call = stage.next request now past)
      (hx : stage.unexpected? x = none) : Passed request now (before ++ [stage]) (past ++ [x])

/-- The exchanges of a session that has ended, and its result. -/
inductive Ended (request : Request) (now : Timestamp) (all : List Stage) :
    List Exchange → Except ServiceError Transcript → Prop
  | completed {past : List Exchange} (h : Passed request now all past) :
      Ended request now all past (.ok (Transcript.ofExchanges past))
  | broken {before after : List Stage} {past : List Exchange} {stage : Stage} {x : Exchange}
      {e : ServiceError} (h : Passed request now before past)
      (hall : all = before ++ stage :: after) (hc : x.call = stage.next request now past)
      (hx : stage.unexpected? x = some e) :
      Ended request now all (past ++ [x]) (.error e)

variable {request : Request} {now : Timestamp} {n : Nat} {stage other : Stage}
  {before after stages all : List Stage} {past later xs : List Exchange} {x : Exchange}
  {e : ServiceError} {r : Except ServiceError Transcript}

theorem unexpected?_eq_some :
    stage.unexpected? x = some e ↔ x.error? = some e ∧ stage.expects e = false := by
  simp [Stage.unexpected?]

theorem unexpected?_eq_none :
    stage.unexpected? x = none ↔ ∀ e, x.error? = some e → stage.expects e = true := by
  simp [Stage.unexpected?]

section

variable {σ α : Type} {service : Service σ} {s : σ}

/-- Notes change neither what a dialogue comes to nor what it asks. -/
theorem run_notes (records : List Log.Record) (d : Dialogue α) :
    ((records.foldr .note d).run service s).value = (d.run service s).value ∧
    ((records.foldr .note d).run service s).exchanges = (d.run service s).exchanges := by
  induction records with
  | nil => exact ⟨rfl, rfl⟩
  | cons record records ih => exact ih

/-- From any point of the plan on, a session comes to one of its ends. -/
theorem follow_ended (h : Passed request now before past) :
    Ended request now (before ++ stages)
      (past ++ ((follow request now stages past).run service s).exchanges)
      ((follow request now stages past).run service s).value := by
  induction stages generalizing before past s with
  | nil => simpa [follow, Dialogue.run] using Ended.completed h
  | cons stage stages ih =>
    simp only [follow, Dialogue.run]
    cases hx : stage.unexpected? ⟨stage.next request now past, (service.answer s _).1⟩ with
    | some e =>
      simp only [Stage.proceed, hx]
      exact Ended.broken h rfl rfl hx
    | none =>
      simp only [Stage.proceed, hx, (run_notes _ _).1, (run_notes _ _).2]
      simpa using ih (h.step rfl hx)

theorem run_ended (service : Service σ) (s : σ) (request : Request) (now : Timestamp) :
    Ended request now (plan request.images.toNat)
      ((dialogue request now).run service s).exchanges
      ((dialogue request now).run service s).value := by
  rw [dialogue_eq_follow]
  exact follow_ended Passed.start

end

/-- A measure of the stages that no plan decreases. Only uploads repeat a value. -/
def Stage.rank : Stage → Nat
  | .hello => 0
  | .auth => 1
  | .noop => 2
  | .serverTime => 3
  | .post => 4
  | .reserved => 5
  | .first => 6
  | .reset => 7
  | .revoked => 8

@[simp] theorem mem_plan : stage ∈ plan n ↔ (stage = .post ∨ stage = .first → n ≠ 0) := by
  by_cases hn : n = 0 <;> cases stage <;> simp [plan, hn]

theorem plan_sorted (n : Nat) : (plan n).Pairwise fun a b => a.rank ≤ b.rank := by
  by_cases hn : n = 0 <;>
    simp +contextual [plan, hn, List.pairwise_append, List.pairwise_replicate,
      List.mem_replicate, or_imp, Stage.rank]

theorem rank_le_of_mem_before (h : plan n = before ++ stage :: after) (hm : other ∈ before) :
    other.rank ≤ stage.rank := by
  have hs := plan_sorted n
  rw [h, List.pairwise_append] at hs
  exact hs.2.2 other hm stage List.mem_cons_self

theorem rank_le_of_mem_after (h : plan n = before ++ stage :: after) (hm : other ∈ after) :
    stage.rank ≤ other.rank := by
  have hs := plan_sorted n
  rw [h, List.pairwise_append, List.pairwise_cons] at hs
  exact hs.2.1.1 other hm

/-- What comes earlier in the plan than a stage has been gone through before it. -/
theorem mem_before (h : plan n = before ++ stage :: after) (hm : other ∈ plan n)
    (hr : other.rank < stage.rank) : other ∈ before := by
  rw [h, List.mem_append, List.mem_cons] at hm
  rcases hm with hm | rfl | hm
  · exact hm
  · omega
  · have := rank_le_of_mem_after h hm
    omega

theorem mem_after (h : plan n = before ++ stage :: after) (hm : other ∈ plan n)
    (hr : stage.rank < other.rank) : other ∈ after := by
  rw [h, List.mem_append, List.mem_cons] at hm
  rcases hm with hm | rfl | hm
  · have := rank_le_of_mem_before h hm
    omega
  · omega
  · exact hm

theorem before_auth (h : plan n = before ++ .auth :: after) : before = [.hello] := by
  rcases before with _ | ⟨a, _ | ⟨b, rest⟩⟩
  · simp [plan] at h
  · rw [← (List.cons.inj h).1]
  · have hrest := (List.cons.inj (List.cons.inj h).2).2
    have hmem : Stage.auth ∈ rest.append (.auth :: after) := by simp
    rw [← hrest] at hmem
    by_cases hn : n = 0 <;> simp [hn] at hmem

def Stage.method : Stage → Method
  | .hello => .hello
  | .auth => .auth
  | .noop => .noop
  | .serverTime | .revoked => .getServerTime
  | .post => .postImage
  | .reserved | .first => .getImage
  | .reset => .reset

theorem next_method : (stage.next request now past).method = stage.method := by
  cases stage <;> rfl

theorem Passed.length_eq (h : Passed request now before past) : before.length = past.length := by
  induction h with
  | start => rfl
  | step _ _ _ ih => simp [ih]

theorem Passed.methods (h : Passed request now before past) :
    past.map (·.call.method) = before.map Stage.method := by
  induction h with
  | start => rfl
  | step _ hc _ ih => simp [ih, hc, next_method]

/-- The transcript of a session that succeeds has the methods of its plan. -/
theorem Ended.methods {t : Transcript} (h : Ended request now all xs (.ok t)) :
    t.steps.map (·.method) = all.map Stage.method := by
  cases h with
  | completed h =>
    rw [← h.methods]
    simp [Transcript.ofExchanges, stepOf]

/-- Behind the auth a session holds a key. -/
theorem Passed.exists_heldKey (h : Passed request now before past) (hm : .auth ∈ before) :
    ∃ key, heldKey? past = some key := by
  induction h with
  | start => simp at hm
  | @step before past stage x h hc hx ih =>
    rcases List.mem_append.1 hm with hm | hm
    · obtain ⟨key, hkey⟩ := ih hm
      exact ⟨key, heldKey?_append hkey [x]⟩
    · obtain rfl := List.mem_singleton.1 hm
      obtain ⟨call, reply⟩ := x
      subst hc
      cases reply with
      | error e => cases hx
      | ok key =>
        cases hpast : heldKey? past with
        | some k => exact ⟨k, heldKey?_append hpast _⟩
        | none =>
          refine ⟨key, ?_⟩
          rw [heldKey?, List.findSome?_append, ← heldKey?, hpast]
          rfl

/-- Behind an upload a session holds an id. -/
theorem Passed.postedIds_ne_nil (h : Passed request now before past) (hm : .post ∈ before) :
    postedIds past ≠ [] := by
  induction h with
  | start => simp at hm
  | @step before past stage x h hc hx ih =>
    rw [postedIds, List.filterMap_append]
    rcases List.mem_append.1 hm with hm | hm
    · exact List.append_ne_nil_of_left_ne_nil (ih hm) _
    · obtain rfl := List.mem_singleton.1 hm
      obtain ⟨call, reply⟩ := x
      subst hc
      cases reply with
      | error e => cases hx
      | ok id => simp [Exchange.postedId?, Stage.next, Stage.call]

/-- A first part of the stages gone through has the first exchanges. -/
theorem Passed.take (h : Passed request now all xs) (hall : all = before ++ after) :
    Passed request now before (xs.take before.length) := by
  induction h generalizing after with
  | start =>
    obtain ⟨rfl, rfl⟩ := List.append_eq_nil_iff.1 hall.symm
    exact .start
  | @step init past stage x h hc hx ih =>
    rcases List.eq_nil_or_concat after with rfl | ⟨after, last, rfl⟩
    · rw [List.append_nil] at hall
      have hlen : before.length = (past ++ [x]).length := by simp [← hall, h.length_eq]
      rw [hlen, List.take_length, ← hall]
      exact h.step hc hx
    · rw [List.concat_eq_append, ← List.append_assoc] at hall
      have hinit := (List.append_inj' hall rfl).1
      have hle : before.length ≤ past.length := by
        rw [← h.length_eq, hinit, List.length_append]
        omega
      rw [List.take_append_of_le_length hle]
      exact ih hinit

theorem passed_append_singleton (h : Passed request now (before ++ [stage]) xs) :
    ∃ past x, xs = past ++ [x] ∧ Passed request now before past ∧
      x.call = stage.next request now past ∧ stage.unexpected? x = none := by
  generalize hall : before ++ [stage] = all at h
  cases h with
  | start => simp at hall
  | @step init past last x h hc hx =>
    obtain ⟨rfl, hlast⟩ := List.append_inj' hall rfl
    obtain rfl := List.singleton_inj.1 hlast
    exact ⟨past, x, rfl, h, hc, hx⟩

/-- Each stage gone through has its exchange. -/
theorem Passed.exchange_of (h : Passed request now (before ++ stage :: after) xs) :
    ∃ past x later, xs = past ++ x :: later ∧ Passed request now before past ∧
      x.call = stage.next request now past ∧ stage.unexpected? x = none := by
  have htake : Passed request now (before ++ [stage]) (xs.take (before ++ [stage]).length) :=
    h.take (List.append_cons before stage after)
  obtain ⟨past, x, heq, hpast, hc, hx⟩ := passed_append_singleton htake
  refine ⟨past, x, xs.drop (before ++ [stage]).length, ?_, hpast, hc, hx⟩
  rw [List.append_cons, ← heq, List.take_append_drop]

/-- Each exchange of a session that has gone through its stages is an expected one of its stage. -/
theorem Passed.moment (h : Passed request now all (past ++ x :: later)) :
    ∃ before stage after, all = before ++ stage :: after ∧ Passed request now before past ∧
      x.call = stage.next request now past ∧ stage.unexpected? x = none := by
  generalize hxs : past ++ x :: later = xs at h
  induction h generalizing later with
  | start => simp at hxs
  | @step init earlier stage y h hc hx ih =>
    rcases List.eq_nil_or_concat later with rfl | ⟨later, last, rfl⟩
    · obtain ⟨rfl, hxy⟩ := List.append_inj' hxs rfl
      obtain rfl := List.singleton_inj.1 hxy
      exact ⟨init, stage, [], rfl, h, hc, hx⟩
    · rw [List.concat_eq_append, ← List.cons_append, ← List.append_assoc] at hxs
      obtain ⟨before, stage', after, hall, hpassed, hcall, hexp⟩ := ih (List.append_inj' hxs rfl).1
      exact ⟨before, stage', after ++ [stage], by simp [hall], hpassed, hcall, hexp⟩

/-- Only the last exchange of a session can be an unexpected one. -/
theorem Ended.moment (h : Ended request now all (past ++ x :: later) r) :
    ∃ before stage after, all = before ++ stage :: after ∧ Passed request now before past ∧
      x.call = stage.next request now past ∧
      (stage.unexpected? x = none ∨
        later = [] ∧ ∃ e, stage.unexpected? x = some e ∧ r = .error e) := by
  generalize hxs : past ++ x :: later = xs at h
  cases h with
  | completed h =>
    obtain ⟨before, stage, after, hall, hpassed, hcall, hexp⟩ := (hxs ▸ h).moment
    exact ⟨before, stage, after, hall, hpassed, hcall, .inl hexp⟩
  | @broken before after earlier stage y e h hall hc hx =>
    rcases List.eq_nil_or_concat later with rfl | ⟨later, last, rfl⟩
    · obtain ⟨rfl, hxy⟩ := List.append_inj' hxs rfl
      obtain rfl := List.singleton_inj.1 hxy
      exact ⟨before, stage, after, hall, h, hc, .inr ⟨rfl, e, hx, rfl⟩⟩
    · rw [List.concat_eq_append, ← List.cons_append, ← List.append_assoc] at hxs
      have hearlier := (List.append_inj' hxs rfl).1
      obtain ⟨before', stage', after', hall', hpassed, hcall, hexp⟩ := (hearlier ▸ h).moment
      exact ⟨before', stage', after' ++ stage :: after, by simp [hall, hall'], hpassed, hcall,
        .inl hexp⟩

/-- Behind the auth, a session's second exchange has given it its key. -/
theorem Passed.opening (h : Passed request now before past) (hall : plan n = before ++ after)
    (hm : .auth ∈ before) :
    ∃ x key later, past = x :: ⟨.auth request.name now, .ok key⟩ :: later ∧
      heldKey? past = some key := by
  obtain ⟨first, rest, rfl⟩ := List.append_of_mem hm
  rw [List.append_assoc] at hall
  obtain rfl := before_auth hall
  obtain ⟨earlier, x, later, rfl, hfirst, hc, hx⟩ := h.exchange_of
  obtain ⟨y, rfl⟩ : ∃ y, earlier = [y] := List.length_eq_one_iff.1 hfirst.length_eq.symm
  have hy : y.issuedKey? = none := by
    have hhello := (List.cons.inj hfirst.methods).1
    obtain ⟨call, reply⟩ := y
    cases call <;> first | rfl | cases hhello
  obtain ⟨call, reply⟩ := x
  subst hc
  cases reply with
  | error e => cases hx
  | ok key =>
    refine ⟨y, key, later, rfl, ?_⟩
    rw [heldKey?, List.cons_append, List.findSome?_cons, hy]
    rfl

/-- A stage that presents a key comes when the session holds one. -/
theorem Passed.key_of_requiresKey (h : Passed request now before past)
    (hall : plan n = before ++ stage :: after) (hs : stage.method.requiresKey = true) :
    ∃ key, heldKey? past = some key := by
  apply h.exists_heldKey
  apply mem_before hall (by simp)
  cases stage <;> simp_all [Stage.method, Stage.rank, Method.requiresKey]

/-- The lookup of the first image comes when the session holds its id. -/
theorem Passed.id_of_first (h : Passed request now before past)
    (hall : plan n = before ++ .first :: after) :
    ∃ first, (postedIds past).head? = some first := by
  have hn : n ≠ 0 := by
    have hm : Stage.first ∈ plan n := by simp [hall]
    simpa using hm
  have hpost : Stage.post ∈ before := mem_before hall (by simpa using hn) (by decide)
  cases hids : postedIds past with
  | nil => exact absurd hids (h.postedIds_ne_nil hpost)
  | cons first ids => exact ⟨first, rfl⟩

theorem next_eq_call {key : String} {first : ImageId}
    (hk : stage.method.requiresKey = true → heldKey? past = some key)
    (hf : stage = .first → (postedIds past).head? = some first) :
    stage.next request now past = stage.call request now key first := by
  cases stage <;> simp_all [Stage.next, Stage.call, Stage.method, Method.requiresKey]

theorem head?_postedIds_append {first : ImageId} (h : (postedIds past).head? = some first)
    (xs : List Exchange) : (postedIds (past ++ xs)).head? = some first := by
  rw [postedIds, List.filterMap_append, List.head?_append, ← postedIds, h]
  rfl

/-- A stage's call is made with any key and id that agree with those given so far. -/
theorem Passed.next_eq {key : String} {first : ImageId} (h : Passed request now before past)
    (hall : plan n = before ++ stage :: after) (hk : ∀ k, heldKey? past = some k → k = key)
    (hf : ∀ f, (postedIds past).head? = some f → f = first) :
    stage.next request now past = stage.call request now key first := by
  refine next_eq_call (fun hs => ?_) fun hs => ?_
  · obtain ⟨k, hsome⟩ := h.key_of_requiresKey hall hs
    rw [hsome, hk k hsome]
  · subst hs
    obtain ⟨f, hsome⟩ := h.id_of_first hall
    rw [hsome, hf f hsome]

theorem Passed.calls {key : String} {first : ImageId} (h : Passed request now before past)
    (hall : plan n = before ++ after) (hk : ∀ k, heldKey? past = some k → k = key)
    (hf : ∀ f, (postedIds past).head? = some f → f = first) :
    past.map (·.call) = before.map (Stage.call request now key first) := by
  induction h generalizing after with
  | start => rfl
  | @step before past stage x h hc hx ih =>
    rw [List.append_assoc] at hall
    have hheld (k : String) (hpast : heldKey? past = some k) : k = key :=
      hk k (heldKey?_append hpast [x])
    have hgiven (f : ImageId) (hpast : (postedIds past).head? = some f) : f = first :=
      hf f (head?_postedIds_append hpast [x])
    rw [List.map_append, List.map_append, ih hall hheld hgiven]
    exact congrArg (_ ++ [·]) (hc.trans (h.next_eq hall hheld hgiven))

end KeyedImages.Session
