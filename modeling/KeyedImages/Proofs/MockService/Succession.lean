import KeyedImages.Proofs.MockService.Alone

/-! Whole sessions one after another at one stand-in, with keys set and reset between them. -/
namespace KeyedImages.MockService

open Session

/-- What is done with the stand-in from outside: a new key, a reset, or a whole session. -/
inductive Action
  | provision (key : String)
  | reset
  | session (request : Request) (now : Timestamp)

namespace Action

/-- The number of images that are uploaded. -/
def images : Action → Nat
  | .session request _ => request.images.toNat
  | .provision _ | .reset => 0

/-- The key that an action leaves. A session ends with a reset. -/
def key : Action → String
  | .provision key => key
  | .reset | .session .. => ""

end Action

/-- Carries out an action: the result of a session, and what becomes of the stand-in. -/
def act (s : MockService) : Action → Option (Except ServiceError Transcript) × MockService
  | .provision key => (none, (s.perform (.provision key)).2.1)
  | .reset => (none, (s.perform (.call .reset)).2.1)
  | .session request now =>
    let c := (dialogue request now).run service s
    (some c.value, c.state)

/-- The stand-in after actions. -/
def actAll (s : MockService) (actions : List Action) : MockService :=
  actions.foldl (fun s a => (s.act a).2) s

/-- The results of the sessions among actions. -/
def results (s : MockService) : List Action → List (Except ServiceError Transcript)
  | [] => []
  | a :: actions => (s.act a).1.toList ++ (s.act a).2.results actions

def imagesIn : List Action → Nat
  | [] => 0
  | a :: actions => a.images + imagesIn actions

/-- The key in force behind actions: the one that the last of them leaves, and the first key if
there are none. -/
def keyBehind (key : String) (actions : List Action) : String :=
  (actions.getLast?.map Action.key).getD key

variable {s : MockService} {a : Action} {actions : List Action}

theorem imagesIn_append (xs ys : List Action) :
    imagesIn (xs ++ ys) = imagesIn xs + imagesIn ys := by
  induction xs with
  | nil => simp [imagesIn]
  | cons x xs ih =>
    rw [List.cons_append, imagesIn, imagesIn, ih]
    omega

theorem keyBehind_cons (key : String) (a : Action) (actions : List Action) :
    keyBehind key (a :: actions) = keyBehind a.key actions := by
  cases actions with
  | nil => rfl
  | cons b actions => simp [keyBehind, List.getLast?_cons]

/-- The transcript that an action brings: that of a session. -/
def transcript? (s : MockService) : Action → Option Transcript
  | .session request _ => some (Transcript.atStandIn request.name
      (nextIds s.lastId request.images.toNat) s.key.isProvisioned)
  | .provision _ | .reset => none

/-- An action leaves its key and counts its images; a session among them succeeds. -/
theorem act_eq (h : s.count + a.images < UInt64.size) :
    s.act a = ((s.transcript? a).map .ok, ⟨⟨a.key⟩, s.lastId + .ofNat a.images⟩) := by
  have hzero : s.lastId + .ofNat 0 = s.lastId := UInt64.add_zero s.lastId
  cases a with
  | provision key =>
    change (none, (⟨⟨key⟩, s.lastId⟩ : MockService)) = _
    rw [Action.images, hzero]
    rfl
  | reset =>
    change (none, (⟨ServiceKey.empty, s.lastId⟩ : MockService)) = _
    rw [Action.images, hzero]
    rfl
  | session request now =>
    obtain ⟨hvalue, hstate⟩ := s.dialogue_comesTo request now h
    rw [act, hvalue, hstate]
    rfl

theorem count_act (h : s.count + a.images < UInt64.size) :
    (s.act a).2.count = s.count + a.images := by
  rw [act_eq h]
  unfold count at h ⊢
  simp only [UInt64.size] at h
  rw [UInt64.toNat_add, UInt64.toNat_ofNat']
  omega

/-- As long as the counter does not run over, it counts the images, and the key is that of the last
action. -/
theorem actAll_eq (h : s.count + imagesIn actions < UInt64.size) :
    (s.actAll actions).count = s.count + imagesIn actions ∧
      (s.actAll actions).key.secret = keyBehind s.key.secret actions := by
  induction actions generalizing s with
  | nil => exact ⟨rfl, rfl⟩
  | cons a actions ih =>
    rw [imagesIn] at h
    have hcount : (s.act a).2.count = s.count + a.images := count_act (by omega)
    obtain ⟨hlast, hkey⟩ := ih (s := (s.act a).2) (by omega)
    have hnew : (s.act a).2.key.secret = a.key := by rw [act_eq (by omega)]
    rw [hcount] at hlast
    rw [hnew, ← keyBehind_cons s.key.secret] at hkey
    refine ⟨?_, hkey⟩
    rw [imagesIn, ← Nat.add_assoc]
    exact hlast

/-- The transcripts of the sessions among actions. -/
def transcripts (s : MockService) : List Action → List Transcript
  | [] => []
  | a :: actions => (s.transcript? a).toList ++ (s.act a).2.transcripts actions

theorem results_eq (h : s.count + imagesIn actions < UInt64.size) :
    s.results actions = (s.transcripts actions).map .ok := by
  induction actions generalizing s with
  | nil => rfl
  | cons a actions ih =>
    rw [imagesIn] at h
    have hcount : (s.act a).2.count = s.count + a.images := count_act (by omega)
    have hrest := ih (s := (s.act a).2) (by omega)
    have hfirst : (s.act a).1.toList = (s.transcript? a).toList.map .ok := by
      rw [act_eq (by omega)]
      cases s.transcript? a <;> rfl
    rw [results, transcripts, List.map_append, hfirst, hrest]

theorem ids_transcript? (h : s.count + a.images < UInt64.size) :
    (s.transcript? a).toList.flatMap (fun t => t.imageIds.map (·.number.toNat)) =
      List.range' (s.count + 1) a.images := by
  cases a with
  | session request now =>
    rw [transcript?, Option.toList_some, List.flatMap_singleton]
    exact nextIds_numbers h
  | provision key => rfl
  | reset => rfl

/-- The sessions share out the ids: each is given the next ones, as many as it uploads images. -/
theorem ids_transcripts (h : s.count + imagesIn actions < UInt64.size) :
    (s.transcripts actions).flatMap (fun t => t.imageIds.map (·.number.toNat)) =
      List.range' (s.count + 1) (imagesIn actions) := by
  induction actions generalizing s with
  | nil => rfl
  | cons a actions ih =>
    rw [imagesIn] at h
    have hcount : (s.act a).2.count = s.count + a.images := count_act (by omega)
    have hrest := ih (s := (s.act a).2) (by omega)
    have hnext : s.count + a.images + 1 = s.count + 1 + a.images := by omega
    rw [transcripts, List.flatMap_append, ids_transcript? (by omega), hrest, hcount, hnext,
      List.range'_append_1, imagesIn]

/-- Sessions one after another at one new stand-in, with any new keys and resets between them. Every
session succeeds; together they are given the ids from one on, each of them the next ones. A session
finds its key revoked just if there was a key when it began. It leaves the empty key. -/
theorem sessions_in_succession (key : String) (actions : List Action)
    (h : imagesIn actions < UInt64.size) :
    (∃ ts : List Transcript, (new ⟨key⟩).results actions = ts.map .ok ∧
      ts.flatMap (fun t => t.imageIds.map (·.number.toNat)) = List.range' 1 (imagesIn actions)) ∧
    ∀ before request now later, actions = before ++ .session request now :: later →
      let n := request.images.toNat
      let first := imagesIn before + 1
      ∃ t s, ((new ⟨key⟩).actAll before).act (.session request now) = (some (.ok t), s) ∧
        t.imageIds.map (·.number.toNat) = List.range' first n ∧
        t.serverTime = some Timestamp.zero ∧
        t.steps.head? = some ⟨.hello, .ok ("Good to go " ++ request.name)⟩ ∧
        t.steps[n + 4]? = some ⟨.getImage, .failed (.imageNotFound ImageId.none)⟩ ∧
        (n ≠ 0 → t.steps[n + 5]? =
          some ⟨.getImage, .ok ("id " ++ Text.Numeral.ofNat first ++ ": 0 bytes")⟩) ∧
        (t.keyRevoked = true ∧ t.failures = 2 ↔ keyBehind key before ≠ "") ∧
        (t.keyRevoked = false ∧ t.failures = 1 ↔ keyBehind key before = "") ∧
        s.key = ServiceKey.empty ∧ (s.perform .posted).1.toNat = imagesIn before + n := by
  have hnew : (new ⟨key⟩).count + imagesIn actions < UInt64.size := by
    rw [count_new, Nat.zero_add]
    exact h
  refine ⟨⟨_, results_eq hnew, ?_⟩, ?_⟩
  · rw [ids_transcripts hnew, count_new]
  · intro before request now later hsplit
    rw [hsplit, imagesIn_append, imagesIn] at hnew
    have himages : (Action.session request now).images = request.images.toNat := rfl
    have hbefore : (new ⟨key⟩).count + imagesIn before < UInt64.size := by omega
    obtain ⟨hcount, hkey⟩ := actAll_eq hbefore
    rw [count_new, Nat.zero_add] at hcount hnew
    generalize (new ⟨key⟩).actAll before = s at hcount hkey
    have hroom : s.count + (Action.session request now).images < UInt64.size := by omega
    have hprovisioned : s.key.isProvisioned = (keyBehind key before != "") := by
      rw [ServiceKey.isProvisioned, hkey]
      rfl
    refine ⟨_, _, act_eq hroom, ?_, rfl, rfl, Transcript.reserved_atStandIn (length_nextIds _ _),
      ?_, ?_, ?_, rfl, ?_⟩
    · rw [← hcount]
      exact nextIds_numbers hroom
    · intro hn
      have hfirst : (s.lastId + 1).toNat = imagesIn before + 1 := by
        rw [toNat_next (by rw [← count]; omega), ← count, hcount]
      have htext : (ImageId.mk (s.lastId + 1)).text = Text.Numeral.ofNat (imagesIn before + 1) := by
        rw [ImageId.text, hfirst]
      rw [← htext]
      exact Transcript.first_atStandIn (length_nextIds _ _) (head?_nextIds hn)
    · rw [← bne_iff_ne, ← hprovisioned]
      exact Transcript.ending_atStandIn true
    · have hempty : s.key.isProvisioned = false ↔ keyBehind key before = "" := by
        rw [hprovisioned, bne_eq_false_iff_eq]
      rw [← hempty]
      exact Transcript.ending_atStandIn false
    · have hposted := count_act hroom
      rw [act_eq hroom, hcount] at hposted
      exact hposted

/-- The first session has no key to lose; the second one has been given a key to lose. -/
theorem sessions_in_succession_key_set_between :
    let early : List Action := [.session ⟨"a", 2⟩ Timestamp.zero, .reset, .provision "k"]
    let actions := early ++ .session ⟨"b", 1⟩ ⟨7, 0⟩ :: [.session ⟨"c", 0⟩ ⟨8, 0⟩]
    imagesIn actions < UInt64.size ∧
    (∃ ts : List Transcript, (new ⟨""⟩).results actions = ts.map .ok ∧
      ts.flatMap (fun t => t.imageIds.map (·.number.toNat)) = List.range' 1 3) ∧
    ∃ t s, ((new ⟨""⟩).actAll early).act (.session ⟨"b", 1⟩ ⟨7, 0⟩) = (some (.ok t), s) ∧
      t.imageIds.map (·.number.toNat) = List.range' 3 1 ∧ t.keyRevoked = true ∧ t.failures = 2 := by
  intro early actions
  have h : imagesIn actions < UInt64.size := by decide
  obtain ⟨hresults, hsessions⟩ := sessions_in_succession "" actions h
  obtain ⟨t, s, hact, hids, -, -, -, -, hrevoked, -⟩ := hsessions early _ _ _ rfl
  exact ⟨h, hresults, t, s, hact, hids, hrevoked.2 (by decide)⟩

end KeyedImages.MockService
