import KeyedImages.Proofs.Session.Passage

/-! The calls of a session at any service. They are the first part of one list, which the session
leaves only at the first reply that is unexpected at its place. -/
namespace KeyedImages.Session

variable {request : Request} {now : Timestamp} {n : Nat} {before after : List Stage}
  {past xs : List Exchange} {r : Except ServiceError Transcript} {stage : Stage} {x : Exchange}

/-- All calls of a session, with the key it was given and the id of its first upload. -/
def allCalls (request : Request) (now : Timestamp) (key : String) (first : ImageId) : List Call :=
  [.hello request.name, .auth request.name now, .noop, .getServerTime key] ++
    List.replicate request.images.toNat (.postImage key Image.empty) ++
    [.getImage key ImageId.none] ++
    (if request.images = 0 then [] else [.getImage key first]) ++
    [.reset, .getServerTime key]

theorem allCalls_eq (key : String) (first : ImageId) : allCalls request now key first =
    (plan request.images.toNat).map (Stage.call request now key first) := by
  have hn : request.images.toNat = 0 ↔ request.images = 0 := UInt32.toNat_inj (b := 0)
  by_cases h : request.images = 0 <;>
    simp [allCalls, plan, hn, h, Stage.call]

/-- At each place of a session with `n` uploads the error that is unexpected there, if any. -/
def unexpectedErrors (n : Nat) (xs : List Exchange) : List (Option ServiceError) :=
  List.zipWith Stage.unexpected? (plan n) xs

theorem Passed.unexpected?_eq_none (h : Passed request now before past) :
    List.zipWith Stage.unexpected? before past = List.replicate past.length none := by
  induction h with
  | start => rfl
  | step h _ hx ih =>
    rw [List.zipWith_append h.length_eq, ih, List.length_append, List.length_singleton,
      List.replicate_succ']
    simp [hx]

theorem Passed.unexpectedErrors_eq (h : Passed request now before past)
    (hall : plan n = before ++ after) (xs : List Exchange) :
    unexpectedErrors n (past ++ xs) = List.replicate past.length none ++
      List.zipWith Stage.unexpected? after xs := by
  rw [unexpectedErrors, hall, List.zipWith_append h.length_eq, h.unexpected?_eq_none]

theorem key?_next {key : String} (hk : (stage.next request now past).key? = some key) :
    stage.method.requiresKey = true ∧ (heldKey? past).getD "" = key := by
  cases stage <;> simp_all [Stage.next, Stage.call, Stage.method, Call.key?, Method.requiresKey]

/-- A session presents no key but the one it was given. -/
theorem Passed.key_eq {key : String} (h : Passed request now before past)
    (hall : plan n = before ++ stage :: after)
    (hk : (stage.next request now past).key? = some key) : heldKey? past = some key := by
  obtain ⟨hs, hkey⟩ := key?_next hk
  obtain ⟨k, hsome⟩ := h.key_of_requiresKey hall hs
  rw [hsome] at hkey ⊢
  exact congrArg some hkey

theorem Passed.keys_eq {key : String} (h : Passed request now before past)
    (hall : plan n = before ++ after) (hx : x ∈ past) (hk : x.call.key? = some key) :
    heldKey? past = some key := by
  induction h generalizing after with
  | start => simp at hx
  | @step before past stage y h hc _ ih =>
    rw [List.append_assoc] at hall
    apply heldKey?_append
    rcases List.mem_append.1 hx with hx | hx
    · exact ih hall hx
    · obtain rfl := List.mem_singleton.1 hx
      exact h.key_eq hall (hc ▸ hk)

/-- The calls of a session are the first part of one list, in which only the key that auth gave and
the id of the first upload are open. The session succeeds just if it makes all these calls and no
reply is unexpected; otherwise it fails with the error of its last call, which is the first
unexpected one. -/
theorem session_calls {σ : Type} (service : Service σ) (s : σ) (request : Request)
    (now : Timestamp) (key : String) (first : ImageId) :
    let c := (dialogue request now).run service s
    let calls := c.exchanges.map (·.call)
    let whole := allCalls request now ((heldKey? c.exchanges).getD key)
      ((postedIds c.exchanges).head?.getD first)
    let errors := unexpectedErrors request.images.toNat c.exchanges
    calls <+: whole ∧
    (∀ x ∈ c.exchanges, ∀ k, x.call.key? = some k → heldKey? c.exchanges = some k) ∧
    ((∃ t, c.value = .ok t) ↔ calls = whole ∧ ∀ error ∈ errors, error = none) ∧
    ∀ e, c.value = .error e → ∃ earlier last, c.exchanges = earlier ++ [last] ∧
      last.error? = some e ∧ errors = List.replicate earlier.length none ++ [some e] := by
  have hend := run_ended service s request now
  dsimp only
  generalize ((dialogue request now).run service s).exchanges = xs at hend ⊢
  generalize ((dialogue request now).run service s).value = r at hend ⊢
  have hk (k : String) (h : heldKey? xs = some k) : k = (heldKey? xs).getD key := by rw [h]; rfl
  have hf (f : ImageId) (h : (postedIds xs).head? = some f) :
      f = (postedIds xs).head?.getD first := by rw [h]; rfl
  rw [allCalls_eq]
  cases hend with
  | completed h =>
    have hall : plan request.images.toNat = plan request.images.toNat ++ [] := by simp
    have hcalls := h.calls hall hk hf
    have herrors := h.unexpectedErrors_eq hall []
    rw [List.append_nil] at herrors
    refine ⟨hcalls ▸ List.prefix_rfl, fun x hx k => h.keys_eq hall hx, ?_, fun e he => nomatch he⟩
    refine ⟨fun _ => ⟨hcalls, ?_⟩, fun _ => ⟨_, rfl⟩⟩
    simp [herrors]
  | @broken before after past stage x e h hall hc hx =>
    have herrors := h.unexpectedErrors_eq hall [x]
    have hk' (k : String) (hs : heldKey? past = some k) := hk k (heldKey?_append hs [x])
    have hf' (f : ImageId) (hs : (postedIds past).head? = some f) :=
      hf f (head?_postedIds_append hs [x])
    have hcalls := h.calls hall hk' hf'
    have hlast := h.next_eq hall hk' hf'
    refine ⟨?_, fun y hy k hyk => ?_, ?_, fun e' he => ?_⟩
    · rw [List.map_append, hcalls, List.map_singleton, hc, hlast, hall, List.map_append]
      simp
    · apply heldKey?_append
      rcases List.mem_append.1 hy with hy | hy
      · exact h.keys_eq hall hy hyk
      · obtain rfl := List.mem_singleton.1 hy
        exact h.key_eq hall (hc ▸ hyk)
    · refine ⟨fun ⟨t, ht⟩ => (nomatch ht), fun ⟨_, hnone⟩ => ?_⟩
      have hsome : some e ∈ unexpectedErrors request.images.toNat (past ++ [x]) := by
        simp [herrors, hx]
      exact nomatch hnone _ hsome
    · obtain rfl := Except.error.inj he
      refine ⟨past, x, rfl, (unexpected?_eq_some.1 hx).1, ?_⟩
      simp [herrors, hx]

end KeyedImages.Session
