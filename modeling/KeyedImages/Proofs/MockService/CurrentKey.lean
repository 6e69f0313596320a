import KeyedImages.Proofs.MockService.Replies

/-! The key that operations leave in force, and what a token is worth at each moment. -/
namespace KeyedImages.MockService

variable {s : MockService} {key token : String} {op : Operation} {ops : List Operation}

/-- The service after operations. -/
def after (s : MockService) (ops : List Operation) : MockService :=
  ops.foldl (fun s op => (s.perform op).2.1) s

theorem after_append (s : MockService) (xs ys : List Operation) :
    s.after (xs ++ ys) = (s.after xs).after ys := List.foldl_append

/-- The key that an operation sets. A reset sets the empty one. -/
def Operation.newKey? : Operation → Option String
  | .provision key => some key
  | .call .reset => some ""
  | _ => none

/-- The last key that operations set, or the first one if they set none. -/
def currentKey (key : String) (ops : List Operation) : String :=
  (ops.filterMap Operation.newKey?).getLast?.getD key

theorem currentKey_append (key : String) (xs ys : List Operation) :
    currentKey key (xs ++ ys) = currentKey (currentKey key xs) ys := by
  unfold currentKey
  rw [List.filterMap_append, List.getLast?_append]
  cases (ys.filterMap Operation.newKey?).getLast? <;> rfl

theorem currentKey_singleton (key : String) (op : Operation) :
    currentKey key [op] = op.newKey?.getD key := by
  unfold currentKey
  cases h : op.newKey? <;> simp [h]

theorem perform_secret (s : MockService) (op : Operation) :
    (s.perform op).2.1.key.secret = op.newKey?.getD s.key.secret := by
  rw [perform_key]
  cases op with
  | call c => cases c <;> rfl
  | _ => rfl

/-- The stored key is always the one that the history leaves. -/
theorem after_secret (s : MockService) (ops : List Operation) :
    (s.after ops).key.secret = currentKey s.key.secret ops := by
  induction ops generalizing s with
  | nil => rfl
  | cons op ops ih =>
    have hrest := ih (s.perform op).2.1
    rw [perform_secret, ← currentKey_singleton, ← currentKey_append] at hrest
    exact hrest

/-- Operations that set no key but the current one leave it. -/
theorem currentKey_of_unchanged (h : ∀ op ∈ ops, ∀ k, op.newKey? = some k → k = key) :
    currentKey key ops = key := by
  induction ops with
  | nil => rfl
  | cons op ops ih =>
    have hop : currentKey key [op] = key := by
      rw [currentKey_singleton]
      cases hk : op.newKey? with
      | none => rfl
      | some k => exact h op List.mem_cons_self k hk
    have hsplit := currentKey_append key [op] ops
    rw [hop] at hsplit
    exact hsplit.trans (ih fun op hm => h op (List.mem_cons_of_mem _ hm))

/-- Every call that presents the token gets past the key. -/
def Accepts (s : MockService) (token : String) : Prop :=
  ∀ call : Call, call.key? = some token → call.error? (s.answer call).1 ≠ some .invalidKey

/-- No call that presents the token gets past the key. -/
def Refuses (s : MockService) (token : String) : Prop :=
  ∀ call : Call, call.key? = some token → call.error? (s.answer call).1 = some .invalidKey

/-- A call is refused for its key's sake just if that is not the stored one. -/
theorem error?_answer {call : Call} (hk : call.key? = some token) :
    call.error? (s.answer call).1 = some .invalidKey ↔ token ≠ s.key.secret := by
  cases call with
  | getServerTime k | postImage k image =>
    obtain rfl := Option.some.inj hk
    by_cases h : k = s.key.secret <;>
      simp [answer, guarded_reply, h, Call.error?, accept]
  | getImage k id =>
    obtain rfl := Option.some.inj hk
    by_cases h : k = s.key.secret
    · cases hid : id.isNone <;> simp [answer, guarded_reply, h, Call.error?, lookUp, hid]
    · simp [answer, guarded_reply, h, Call.error?]
  | _ => cases hk

theorem accepts_iff : s.Accepts token ↔ token = s.key.secret := by
  constructor
  · intro h
    apply Decidable.byContradiction
    intro hne
    exact h (.getServerTime token) rfl ((error?_answer rfl).2 hne)
  · intro h call hk he
    exact (error?_answer hk).1 he h

theorem refuses_iff : s.Refuses token ↔ token ≠ s.key.secret := by
  constructor
  · intro h
    exact (error?_answer rfl).1 (h (.getServerTime token) rfl)
  · intro h call hk
    exact (error?_answer hk).2 h

theorem getServerTime_reply (s : MockService) (token : String) :
    (s.perform (.call (.getServerTime token))).1 =
      if token = s.key.secret then .ok Timestamp.zero else .error .invalidKey :=
  guarded_reply s token _

theorem postImage_reply (s : MockService) (token : String) (image : Image) :
    (s.perform (.call (.postImage token image))).1 =
      if token = s.key.secret then .ok ⟨s.lastId + 1⟩ else .error .invalidKey :=
  guarded_reply s token _

theorem getImage_reply (s : MockService) (token : String) (id : ImageId) :
    (s.perform (.call (.getImage token id))).1 =
      if token = s.key.secret then
        if id = ImageId.none then .error (.imageNotFound id) else .ok Image.empty
      else .error .invalidKey := by
  simp only [perform, answer, guarded_reply, lookUp, ImageId.isNone_iff]

/-- A token that auth has given is good as long as the key is not changed. -/
theorem accepts_of_unchanged {name : String} {time : Timestamp}
    (hauth : (s.perform (.call (.auth name time))).1 = .ok token)
    (h : ∀ op ∈ ops, ∀ k, op.newKey? = some k → k = token) : (s.after ops).Accepts token := by
  have htoken : s.key.secret = token := Except.ok.inj hauth
  rw [accepts_iff, after_secret, htoken]
  exact (currentKey_of_unchanged h).symm

theorem refuses_of_changed (h : op.newKey? = some key) (hne : key ≠ token) :
    (s.after (ops ++ [op])).Refuses token := by
  rw [refuses_iff, after_secret, currentKey_append, currentKey_singleton, h]
  exact hne.symm

/-- At every point of every history, replies depend on the current key alone: auth gives it, and the
calls that present a key are refused for its sake just if they present another one, before anything
else is looked at. A token that auth has given is accepted until a reset or a new key changes the
key, and is refused then. The empty token is accepted just while the current key is empty. -/
theorem answered_by_current_key (key : String) (ops : List Operation) :
    let s := (new ⟨key⟩).after ops
    let current := currentKey key ops
    (∀ name time, (s.perform (.call (.auth name time))).1 = .ok current) ∧
    (∀ token, (s.perform (.call (.getServerTime token))).1 = .error .invalidKey ↔
      token ≠ current) ∧
    (∀ token image, (s.perform (.call (.postImage token image))).1 = .error .invalidKey ↔
      token ≠ current) ∧
    (∀ token id, (s.perform (.call (.getImage token id))).1 = .error .invalidKey ↔
      token ≠ current) ∧
    (s.perform (.call (.getServerTime current))).1 = .ok Timestamp.zero ∧
    (∀ image, ∃ id, (s.perform (.call (.postImage current image))).1 = .ok id) ∧
    (∀ id, ((s.perform (.call (.getImage current id))).1 = .error (.imageNotFound id) ↔
        id = ImageId.none) ∧
      (id ≠ ImageId.none → (s.perform (.call (.getImage current id))).1 = .ok Image.empty)) ∧
    ((s.perform .isProvisioned).1 = true ↔ current ≠ "") ∧
    (∀ before name time later token, ops = before ++ .call (.auth name time) :: later →
      (((new ⟨key⟩).after before).perform (.call (.auth name time))).1 = .ok token →
      ((∀ op ∈ later, ∀ k, op.newKey? = some k → k = token) → s.Accepts token) ∧
      (∀ quiet op k, later = quiet ++ [op] → op.newKey? = some k → k ≠ token →
        s.Refuses token)) ∧
    (s.Accepts "" ↔ current = "") := by
  have hkey : ((new ⟨key⟩).after ops).key.secret = currentKey key ops := after_secret _ ops
  dsimp only
  rw [← hkey]
  refine ⟨fun name time => rfl, ?_, ?_, ?_, ?_, ?_, ?_, ?_, ?_, ?_⟩
  · intro token
    rw [getServerTime_reply]
    split <;> simp_all
  · intro token image
    rw [postImage_reply]
    split <;> simp_all
  · intro token id
    rw [getImage_reply]
    split
    · split <;> simp_all
    · simp_all
  · rw [getServerTime_reply, if_pos rfl]
  · intro image
    rw [postImage_reply, if_pos rfl]
    exact ⟨_, rfl⟩
  · intro id
    rw [getImage_reply, if_pos rfl]
    constructor
    · split <;> simp_all
    · intro hid
      exact if_neg hid
  · exact bne_iff_ne
  · intro before name time later token hops hauth
    have hafter : (new ⟨key⟩).after ops = ((new ⟨key⟩).after before).after later := by
      rw [hops, after_append]
      rfl
    rw [hafter]
    constructor
    · intro hsame
      exact accepts_of_unchanged hauth hsame
    · intro quiet op k hlater hk hne
      rw [hlater]
      exact refuses_of_changed hk hne
  · rw [accepts_iff]
    exact eq_comm

end KeyedImages.MockService
