import KeyedImages.Proofs.Session.Passage
import KeyedImages.ScriptedService

/-! What the transcript of a finished session says of its exchanges, at any service. -/
namespace KeyedImages

namespace Exchange

/-- The reply of an upload, whatever it is. -/
def postReply? : Exchange → Option (Except ServiceError ImageId)
  | ⟨.postImage .., reply⟩ => some reply
  | _ => none

/-- Whether a lookup of the reserved id found no image. -/
def reservedMissing : Exchange → Bool
  | ⟨.getImage _ id, .error (.imageNotFound _)⟩ => id.isNone
  | _ => false

end Exchange

namespace Session

open Exchange

variable {request : Request} {now : Timestamp} {n : Nat} {stage : Stage}
  {before after all : List Stage} {past xs : List Exchange} {x : Exchange} {e : ServiceError}

theorem Passed.postReplies_eq (h : Passed request now before past) :
    past.filterMap postReply? = (postedIds past).map .ok ∧
      (postedIds past).length = before.count .post := by
  induction h with
  | start => exact ⟨rfl, rfl⟩
  | @step before past stage x h hc hx ih =>
    obtain ⟨call, reply⟩ := x
    subst hc
    simp only [postedIds, List.filterMap_append, List.map_append, ih.1, List.length_append,
      List.count_append] at ih ⊢
    rw [ih.2]
    cases stage with
    | post => cases reply with
      | error e => cases hx
      | ok id => exact ⟨rfl, rfl⟩
    | _ => exact ⟨rfl, rfl⟩

theorem eq_reserved_of_missing (hc : x.call.method = stage.method)
    (hx : stage.unexpected? x = none) (hm : x.reservedMissing = true) : stage = .reserved := by
  obtain ⟨call, reply⟩ := x
  cases call with
  | getImage key id =>
    rcases reply with (_ | _) | image
    · simp [reservedMissing] at hm
    · have he := unexpected?_eq_none.1 hx _ rfl
      cases stage <;> simp_all [Stage.expects]
    · simp [reservedMissing] at hm
  | _ => simp [reservedMissing] at hm

theorem eq_revoked_of_refused (hx : stage.unexpected? x = none) (hr : x.timeRefused = true) :
    stage = .revoked := by
  obtain ⟨call, reply⟩ := x
  cases call with
  | getServerTime key =>
    rcases reply with (_ | _) | time
    · have he := unexpected?_eq_none.1 hx _ rfl
      cases stage <;> simp_all [Stage.expects]
    · simp [timeRefused] at hr
    · simp [timeRefused] at hr
  | _ => simp [timeRefused] at hr

/-- An expected error is that of the reserved lookup or that of the revoked key. -/
theorem failed_iff (hc : x.call = stage.next request now past)
    (hx : stage.unexpected? x = none) :
    (outcome x).isFailed = (x.reservedMissing || x.timeRefused) := by
  obtain ⟨call, reply⟩ := x
  subst hc
  cases stage with
  | noop | reset => rfl
  | reserved | revoked => rcases reply with (_ | _) | _ <;> first | rfl | cases hx
  | _ => cases reply <;> first | rfl | cases hx

theorem timeRefused_iff : x.timeRefused = true ↔
    ∃ key, x = ⟨.getServerTime key, .error .invalidKey⟩ := by
  obtain ⟨call, reply⟩ := x
  cases call with
  | getServerTime key => rcases reply with (_ | _) | _ <;> simp [timeRefused]
  | _ => simp [timeRefused]

theorem missing_of_refused (hr : x.timeRefused = true) : x.reservedMissing = false := by
  obtain ⟨key, rfl⟩ := timeRefused_iff.1 hr
  rfl

theorem Passed.failures_eq (h : Passed request now before past) :
    (Transcript.ofExchanges past).failures =
      past.countP reservedMissing + past.countP timeRefused := by
  induction h with
  | start => rfl
  | @step before past stage x h hc hx ih =>
    simp only [Transcript.failures, Transcript.ofExchanges, List.countP_map] at ih ⊢
    rw [List.countP_append, ih, List.countP_append, List.countP_append]
    have hfailed : (stepOf x).outcome.isFailed = (x.reservedMissing || x.timeRefused) :=
      failed_iff hc hx
    cases hr : x.timeRefused with
    | true => simp [hfailed, hr, missing_of_refused hr]; omega
    | false => simp [hfailed, hr]; omega

theorem Passed.countP_missing_le (h : Passed request now before past) :
    past.countP reservedMissing ≤ before.count .reserved := by
  induction h with
  | start => exact Nat.le_refl _
  | @step before past stage x h hc hx ih =>
    rw [List.countP_append, List.count_append]
    cases hm : x.reservedMissing with
    | true =>
      obtain rfl := eq_reserved_of_missing (by rw [hc, next_method]) hx hm
      simpa [hm] using ih
    | false => simpa [hm] using Nat.le_add_right_of_le ih

theorem Passed.countP_refused_le (h : Passed request now before past) :
    past.countP timeRefused ≤ before.count .revoked := by
  induction h with
  | start => exact Nat.le_refl _
  | @step before past stage x h hc hx ih =>
    rw [List.countP_append, List.count_append]
    cases hr : x.timeRefused with
    | true =>
      obtain rfl := eq_revoked_of_refused hx hr
      simpa [hr] using ih
    | false => simpa [hr] using Nat.le_add_right_of_le ih

theorem countP_eq_ite {p : Exchange → Bool} (h : xs.countP p ≤ 1) :
    xs.countP p = if xs.any p then 1 else 0 := by
  cases hany : xs.any p with
  | true =>
    have := List.countP_pos_iff.2 (List.any_eq_true.1 hany)
    simp only [if_true]
    omega
  | false => simpa using hany

theorem Passed.keyRevoked_iff (h : Passed request now (plan n) xs) :
    (Transcript.ofExchanges xs).keyRevoked = true ↔
      ∃ key, xs.getLast? = some ⟨.getServerTime key, .error .invalidKey⟩ := by
  obtain ⟨init, hinit, hcount⟩ : ∃ init, plan n = init ++ [.revoked] ∧ init.count .revoked = 0 := by
    refine ⟨.hello :: .auth :: .noop :: .serverTime :: (List.replicate n .post ++
      .reserved :: ((if n = 0 then [] else [.first]) ++ [.reset])), by simp [plan], ?_⟩
    by_cases hn : n = 0 <;> simp [hn, List.count_replicate]
  rw [hinit] at h
  obtain ⟨past, x, rfl, hpast, -, -⟩ := passed_append_singleton h
  have hnone : past.any timeRefused = false := by
    have := hpast.countP_refused_le
    rw [hcount, Nat.le_zero, List.countP_eq_zero] at this
    simpa using this
  simp [Transcript.ofExchanges, hnone, timeRefused_iff]

theorem Passed.serverTime_eq (h : Passed request now (plan n) xs) :
    ∃ key time, xs.find? (·.call.method == .getServerTime) = some ⟨.getServerTime key, .ok time⟩ ∧
      (Transcript.ofExchanges xs).serverTime = some time := by
  have h4 : Passed request now ([.hello, .auth, .noop] ++ [.serverTime]) (xs.take 4) := h.take rfl
  obtain ⟨past, x, htake, hpast, hc, hx⟩ := passed_append_singleton h4
  have hmethods : ∀ y ∈ past, y.call.method ≠ .getServerTime := by
    intro y hy he
    have hm : y.call.method ∈ past.map (·.call.method) := List.mem_map.2 ⟨y, hy, rfl⟩
    rw [hpast.methods, he] at hm
    simp [Stage.method] at hm
  obtain ⟨call, reply⟩ := x
  subst hc
  cases reply with
  | error e => cases hx
  | ok time =>
    have hsplit := List.take_append_drop 4 xs
    rw [htake] at hsplit
    refine ⟨(heldKey? past).getD "", time, ?_, ?_⟩
    · have hfind : past.find? (·.call.method == .getServerTime) = none := by
        simpa using hmethods
      rw [← hsplit, List.append_assoc, List.find?_append, hfind]
      rfl
    · have htold : past.findSome? toldTime? = none := by
        simp only [List.findSome?_eq_none_iff]
        intro y hy
        have hne := hmethods y hy
        obtain ⟨call, reply⟩ := y
        cases call <;> first | rfl | exact absurd rfl hne
      rw [← hsplit]
      simp only [Transcript.ofExchanges, List.append_assoc, List.findSome?_append, htold]
      rfl

theorem length_plan (n : Nat) : (plan n).length = 7 + n + if n = 0 then 0 else 1 := by
  by_cases hn : n = 0 <;> simp [plan, hn]
  omega

theorem count_plan (n : Nat) (stage : Stage) : (plan n).count stage =
    match stage with
    | .post => n
    | .first => if n = 0 then 0 else 1
    | _ => 1 := by
  by_cases hn : n = 0 <;> cases stage <;> simp [plan, hn, List.count_replicate]

/-- A whole session fails at most at the reserved lookup and with the revoked key. -/
theorem Passed.failures_plan (h : Passed request now (plan n) xs) :
    (Transcript.ofExchanges xs).failures = (if xs.any reservedMissing then 1 else 0) +
      if (Transcript.ofExchanges xs).keyRevoked then 1 else 0 := by
  have hmissing : xs.countP reservedMissing ≤ 1 :=
    Nat.le_trans h.countP_missing_le (Nat.le_of_eq (count_plan _ .reserved))
  have hrefused : xs.countP timeRefused ≤ 1 :=
    Nat.le_trans h.countP_refused_le (Nat.le_of_eq (count_plan _ .revoked))
  rw [h.failures_eq, countP_eq_ite hmissing, countP_eq_ite hrefused]
  rfl

/-- The transcript of a session that succeeds is a faithful image of its exchanges. -/
theorem transcript_faithful {σ : Type} (service : Service σ) (s : σ) (request : Request)
    (now : Timestamp) (t : Transcript)
    (h : ((dialogue request now).run service s).value = .ok t) :
    let xs := ((dialogue request now).run service s).exchanges
    let n := request.images.toNat
    t.steps.map (·.method) = xs.map (·.call.method) ∧
    t.steps.length = (7 + n + if n = 0 then 0 else 1) ∧
    (∀ (i : Nat) step x, t.steps[i]? = some step → xs[i]? = some x →
      (∀ e, step.outcome = .failed e ↔ x.error? = some e) ∧
      (x.error? = none → step.outcome = .ok (detail x))) ∧
    xs.filterMap postReply? = t.imageIds.map .ok ∧ t.imageIds.length = n ∧
    (∃ key time, xs.find? (·.call.method == .getServerTime) =
      some ⟨.getServerTime key, .ok time⟩ ∧ t.serverTime = some time) ∧
    (t.keyRevoked = true ↔ ∃ key, xs.getLast? = some ⟨.getServerTime key, .error .invalidKey⟩) ∧
    t.failures = (if xs.any reservedMissing then 1 else 0) + (if t.keyRevoked then 1 else 0) ∧
    t.failures ≤ 2 := by
  have hend := run_ended service s request now
  dsimp only
  generalize ((dialogue request now).run service s).exchanges = xs at hend ⊢
  rw [h] at hend
  cases hend with
  | completed hp =>
    refine ⟨?_, ?_, fun i step x hs hx => ?_, hp.postReplies_eq.1, ?_, hp.serverTime_eq,
      hp.keyRevoked_iff, hp.failures_plan, ?_⟩
    · simp [Transcript.ofExchanges, stepOf]
    · simp [Transcript.ofExchanges, ← hp.length_eq, length_plan]
    · obtain rfl : stepOf x = step := by simpa [Transcript.ofExchanges, hx] using hs
      cases he : x.error? <;> simp [stepOf, outcome, he, eq_comm]
    · exact hp.postReplies_eq.2.trans (count_plan _ .post)
    · rw [hp.failures_plan]
      split <;> split <;> omega

/-- A service that gives one id twice, the reserved one, and honours its key after the reset. -/
theorem transcript_faithful_surviving_key :
    let script : ScriptedService :=
      { hello := ⟨.ok "hi", []⟩
        auth := ⟨.ok "k", []⟩
        getServerTime := ⟨.ok ⟨5, 0⟩, [.ok ⟨6, 0⟩]⟩
        postImage := ⟨.ok ⟨0⟩, []⟩
        getImage := ⟨.error (.imageNotFound ⟨9⟩), [.ok Image.empty]⟩ }
    ∃ t, ((dialogue ⟨"n", 2⟩ ⟨0, 0⟩).run ScriptedService.service script).value = .ok t ∧
      t.steps.length = 10 ∧ t.imageIds.length = 2 ∧ t.failures ≤ 2 := by
  intro script
  have h := transcript_faithful ScriptedService.service script ⟨"n", 2⟩ ⟨0, 0⟩ _ rfl
  exact ⟨_, rfl, h.2.1, h.2.2.2.2.1, h.2.2.2.2.2.2.2.2⟩

end Session

end KeyedImages
