import KeyedImages.Proofs.MockService.History
import KeyedImages.Proofs.Session.Stage

/-! What a session with the stand-in comes to, written down beforehand: the ids, the exchanges, and
their transcript. -/
namespace KeyedImages

namespace Session

/-- The transcript of a session with the stand-in, from the ids that it was given and whether its
key was revoked. -/
def Transcript.atStandIn (name : String) (ids : List ImageId) (revoked : Bool) : Transcript where
  steps :=
    [⟨.hello, .ok ("Good to go " ++ name)⟩, ⟨.auth, .ok "key issued"⟩, ⟨.noop, .ok ""⟩,
      ⟨.getServerTime, .ok Timestamp.zero.text⟩] ++
    ids.map (fun id => ⟨.postImage, .ok ("id " ++ id.text)⟩) ++
    [⟨.getImage, .failed (.imageNotFound ImageId.none)⟩] ++
    ids.head?.toList.map (fun id => ⟨.getImage, .ok ("id " ++ id.text ++ ": 0 bytes")⟩) ++
    [⟨.reset, .ok ""⟩,
      ⟨.getServerTime, if revoked then .failed .invalidKey else .ok Timestamp.zero.text⟩]
  imageIds := ids
  serverTime := some Timestamp.zero
  keyRevoked := revoked

namespace Transcript

variable {name : String} {ids : List ImageId} {revoked : Bool} {n : Nat}

theorem failures_atStandIn :
    (atStandIn name ids revoked).failures = 1 + if revoked then 1 else 0 := by
  cases revoked <;> simp [failures, atStandIn, List.countP_map, Function.comp_def, Outcome.isFailed]

/-- The number of failures tells whether the key was revoked. -/
theorem ending_atStandIn (revoked' : Bool) :
    (atStandIn name ids revoked).keyRevoked = revoked' ∧
      (atStandIn name ids revoked).failures = (if revoked' then 2 else 1) ↔ revoked = revoked' := by
  rw [failures_atStandIn]
  cases revoked <;> cases revoked' <;> simp [atStandIn]

theorem reserved_atStandIn (h : ids.length = n) : (atStandIn name ids revoked).steps[n + 4]? =
    some ⟨.getImage, .failed (.imageNotFound ImageId.none)⟩ := by
  subst h
  simp [atStandIn]

theorem first_atStandIn {first : ImageId} (h : ids.length = n) (hfirst : ids.head? = some first) :
    (atStandIn name ids revoked).steps[n + 5]? =
      some ⟨.getImage, .ok ("id " ++ first.text ++ ": 0 bytes")⟩ := by
  subst h
  simp [atStandIn, hfirst]

end Transcript

end Session

namespace MockService

open Session Exchange

variable {n : Nat} {last : UInt64}

/-- The ids that are given out next, with the last one so far. -/
def nextIds (last : UInt64) : Nat → List ImageId
  | 0 => []
  | n + 1 => ⟨last + 1⟩ :: nextIds (last + 1) n

theorem length_nextIds (last : UInt64) (n : Nat) : (nextIds last n).length = n := by
  induction n generalizing last with
  | zero => rfl
  | succ n ih => rw [nextIds, List.length_cons, ih]

/-- As long as the counter does not run over, the next ids are the numbers that follow it. -/
theorem nextIds_numbers (h : last.toNat + n < UInt64.size) :
    (nextIds last n).map (·.number.toNat) = List.range' (last.toNat + 1) n := by
  induction n generalizing last with
  | zero => rfl
  | succ n ih =>
    have hnext : (last + 1).toNat = last.toNat + 1 := toNat_next (by omega)
    have hroom : (last + 1).toNat + n < UInt64.size := by omega
    have hrest := ih hroom
    rw [nextIds, List.map_cons, hrest, hnext, List.range'_succ]

theorem head?_nextIds (h : n ≠ 0) : (nextIds last n).head? = some ⟨last + 1⟩ := by
  cases n with
  | zero => exact absurd rfl h
  | succ n => rfl

theorem none_not_mem_nextIds (h : last.toNat + n < UInt64.size) :
    ImageId.none ∉ nextIds last n := by
  intro hmem
  have hzero : (0 : Nat) ∈ (nextIds last n).map (·.number.toNat) :=
    List.mem_map.2 ⟨ImageId.none, hmem, rfl⟩
  rw [nextIds_numbers h, List.mem_range'] at hzero
  obtain ⟨i, -, hi⟩ := hzero
  omega

/-- The exchanges before the uploads. -/
def openingOf (request : Request) (now : Timestamp) (key : String) : List Exchange :=
  [⟨.hello request.name, .ok (greetingStart ++ request.name)⟩, ⟨.auth request.name now, .ok key⟩,
    ⟨.noop, ()⟩, ⟨.getServerTime key, .ok Timestamp.zero⟩]

def uploadsOf (key : String) (ids : List ImageId) : List Exchange :=
  ids.map fun id => ⟨.postImage key Image.empty, .ok id⟩

def lookupsOf (key : String) (ids : List ImageId) : List Exchange :=
  ⟨.getImage key ImageId.none, .error (.imageNotFound ImageId.none)⟩ ::
    ids.head?.toList.map fun id => ⟨.getImage key id, .ok Image.empty⟩

/-- The exchanges from the reset on. Only the empty key outlives it. -/
def closingOf (key : String) : List Exchange :=
  [⟨.reset, ()⟩, ⟨.getServerTime key, if key = "" then .ok Timestamp.zero else .error .invalidKey⟩]

/-- The stand-in's images have no bytes. -/
theorem detail_empty (key : String) (id : ImageId) :
    detail ⟨.getImage key id, .ok Image.empty⟩ = "id " ++ id.text ++ ": 0 bytes" := by
  have hsize : Text.Numeral.ofNat Image.empty.data.length = "0" := by decide +kernel
  have hend : ": " ++ ("0" ++ " bytes") = ": 0 bytes" := rfl
  rw [detail, hsize, String.append_assoc, String.append_assoc, hend, ImageId.text]

theorem map_stepOf_uploadsOf (key : String) (ids : List ImageId) :
    (uploadsOf key ids).map stepOf = ids.map fun id => ⟨.postImage, .ok ("id " ++ id.text)⟩ := by
  rw [uploadsOf, List.map_map]
  rfl

theorem map_stepOf_lookupsOf (key : String) (ids : List ImageId) :
    (lookupsOf key ids).map stepOf = ⟨.getImage, .failed (.imageNotFound ImageId.none)⟩ ::
      ids.head?.toList.map fun id => ⟨.getImage, .ok ("id " ++ id.text ++ ": 0 bytes")⟩ := by
  have hfound (id : ImageId) : stepOf ⟨.getImage key id, .ok Image.empty⟩ =
      ⟨.getImage, .ok ("id " ++ id.text ++ ": 0 bytes")⟩ := by
    rw [← detail_empty]
    rfl
  rw [lookupsOf, List.map_cons, List.map_map]
  simp only [Function.comp_def, hfound]
  rfl

theorem map_stepOf_closingOf (key : String) :
    (closingOf key).map stepOf = [⟨.reset, .ok ""⟩, ⟨.getServerTime,
      if (key != "") = true then .failed .invalidKey else .ok Timestamp.zero.text⟩] := by
  by_cases hk : key = ""
  · subst hk
    rfl
  · simp only [closingOf, if_neg hk, bne_iff_ne, if_pos hk]
    rfl

/-- Ids are given by the uploads alone. -/
theorem postedIds_atStandIn (key : String) (ids : List ImageId) :
    postedIds (uploadsOf key ids) = ids ∧ postedIds (lookupsOf key ids) = [] ∧
      postedIds (closingOf key) = [] := by
  refine ⟨?_, ?_, rfl⟩
  · simp [postedIds, uploadsOf, List.filterMap_map, postedId?, Function.comp_def]
  · cases ids <;> rfl

/-- The time is refused after the reset alone. -/
theorem any_timeRefused_atStandIn (key : String) (ids : List ImageId) :
    (uploadsOf key ids).any timeRefused = false ∧ (lookupsOf key ids).any timeRefused = false ∧
      (closingOf key).any timeRefused = (key != "") := by
  refine ⟨?_, ?_, ?_⟩
  · simp [uploadsOf, timeRefused]
  · cases ids <;> rfl
  · by_cases hk : key = ""
    · subst hk
      rfl
    · simp [closingOf, timeRefused, hk]

/-- The transcript of the exchanges is the one that was written down. -/
theorem ofExchanges_atStandIn (request : Request) (now : Timestamp) (key : String)
    (ids : List ImageId) :
    Transcript.ofExchanges (openingOf request now key ++ uploadsOf key ids ++
      lookupsOf key ids ++ closingOf key) =
      Transcript.atStandIn request.name ids (key != "") := by
  obtain ⟨huploads, hlookups, hclosing⟩ := postedIds_atStandIn key ids
  obtain ⟨hkept, hkept', hlost⟩ := any_timeRefused_atStandIn key ids
  unfold Transcript.ofExchanges Transcript.atStandIn
  congr 1
  · rw [List.map_append, List.map_append, List.map_append, map_stepOf_uploadsOf,
      map_stepOf_lookupsOf, map_stepOf_closingOf]
    simp [openingOf, stepOf, outcome, error?, Call.error?, detail, Call.method, greetingStart]
  · unfold postedIds at huploads hlookups hclosing ⊢
    rw [List.filterMap_append, List.filterMap_append, List.filterMap_append, huploads, hlookups,
      hclosing]
    simp [openingOf, postedId?]
  · rw [List.any_append, List.any_append, List.any_append, hkept, hkept', hlost]
    simp [openingOf, timeRefused]

end MockService

end KeyedImages
