import KeyedImages.Proofs.Json.Grammar

/-! Documents that are kept whole before their type is known: which of them can be kept, and what
they are decoded to afterwards. An outcome's members are kept until its status is met. -/
namespace KeyedImages

open Json Json.Document

variable {d : Document} {members : List (String × Document)} {opened : Nat}

namespace Json

namespace Document

mutual

/-- How many containers stand inside each other at most. -/
def nesting : Document → Nat
  | null | bool _ | number _ | string _ => 0
  | array items => itemNesting items + 1
  | object members => memberNesting members + 1

def itemNesting : List Document → Nat
  | [] => 0
  | d :: ds => max d.nesting (itemNesting ds)

def memberNesting : List (String × Document) → Nat
  | [] => 0
  | (_, d) :: ms => max d.nesting (memberNesting ms)

end

mutual

/-- All numbers, wherever they stand. -/
def numbers : Document → List Int
  | null | bool _ | string _ => []
  | number n => [n]
  | array items => itemNumbers items
  | object members => memberNumbers members

def itemNumbers : List Document → List Int
  | [] => []
  | d :: ds => d.numbers ++ itemNumbers ds

def memberNumbers : List (String × Document) → List Int
  | [] => []
  | (_, d) :: ms => d.numbers ++ memberNumbers ms

end

/-- Whether 64 bits hold a number, with a sign or without. -/
def Fits (n : Int) : Prop := Int64.minValue.toInt ≤ n ∧ n < UInt64.size

instance (n : Int) : Decidable (Fits n) := inferInstanceAs (Decidable (_ ∧ _))

mutual

/-- With few enough open containers, a document of numbers that 64 bits hold can be kept. -/
theorem canKeep_fragment (d : Document) {opened : Nat} (hn : ∀ n ∈ d.numbers, Fits n)
    (h : opened + d.nesting ≤ Fragment.depthLimit) : d.fragment.canKeep opened = true := by
  match d with
  | null | bool _ | string _ => rfl
  | number n =>
    have hheld : Int64.minValue.toInt ≤ n ∧ n < UInt64.size := hn n List.mem_cons_self
    rw [fragment, Fragment.canKeep, Number.quantity?_ofInt, if_pos hheld]
    rfl
  | array items =>
    rw [nesting] at h
    have hopened : opened < Fragment.depthLimit := by omega
    have hitems :=
      canKeepAll_itemFragments items hn (by omega : opened + 1 + _ ≤ Fragment.depthLimit)
    simp [fragment, Fragment.canKeep, hopened, hitems]
  | object members =>
    rw [nesting] at h
    have hopened : opened < Fragment.depthLimit := by omega
    have hmembers :=
      canKeepMembers_memberFragments members hn (by omega : opened + 1 + _ ≤ Fragment.depthLimit)
    simp [fragment, Fragment.canKeep, hopened, hmembers]

theorem canKeepAll_itemFragments (ds : List Document) {opened : Nat}
    (hn : ∀ n ∈ itemNumbers ds, Fits n) (h : opened + itemNesting ds ≤ Fragment.depthLimit) :
    Fragment.canKeepAll opened (itemFragments ds) = true := by
  match ds with
  | [] => rfl
  | d :: ds =>
    rw [itemNesting] at h
    rw [itemNumbers, List.forall_mem_append] at hn
    have hd := canKeep_fragment d hn.1 (by omega : opened + _ ≤ Fragment.depthLimit)
    have hds := canKeepAll_itemFragments ds hn.2 (by omega : opened + _ ≤ Fragment.depthLimit)
    simp [itemFragments, Fragment.canKeepAll, hd, hds]

theorem canKeepMembers_memberFragments (ms : List (String × Document)) {opened : Nat}
    (hn : ∀ n ∈ memberNumbers ms, Fits n) (h : opened + memberNesting ms ≤ Fragment.depthLimit) :
    Fragment.canKeepMembers opened (memberFragments ms) = true := by
  match ms with
  | [] => rfl
  | (k, d) :: ms =>
    rw [memberNesting] at h
    rw [memberNumbers, List.forall_mem_append] at hn
    have hd := canKeep_fragment d hn.1 (by omega : opened + _ ≤ Fragment.depthLimit)
    have hms := canKeepMembers_memberFragments ms hn.2 (by omega : opened + _ ≤ Fragment.depthLimit)
    simp [memberFragments, Fragment.canKeepMembers, hd, hms]

end

/-- Numbers that 64 bits hold, and less than 50 containers inside each other. -/
def Plain (d : Document) : Prop := (∀ n ∈ d.numbers, Fits n) ∧ d.nesting < 50

instance (d : Document) : Decidable d.Plain := inferInstanceAs (Decidable (_ ∧ _))

theorem Plain.canKeep (h : d.Plain) (hopened : opened + 50 ≤ Fragment.depthLimit) :
    d.fragment.canKeep opened = true :=
  canKeep_fragment d h.1 (by have := h.2; omega)

theorem valuesOf_filter {name : String} {p : String × Document → Bool}
    (h : ∀ d, p (name, d) = true) : valuesOf name (members.filter p) = valuesOf name members := by
  rw [valuesOf, List.filter_filter, valuesOf]
  congr 1
  apply List.filter_congr
  rintro ⟨k, d⟩ -
  by_cases hk : k = name
  · simp [hk, h]
  · simp [hk]

end Document

variable {α : Type} {expected name : String} {decode : Fragment → Decoded α} {a : α}

/-- The one field of a structure that was kept. -/
def fieldSlot (name : String) (decode : Fragment → Decoded α) : Slot (Option α) :=
  ⟨α, name, decode, id, fun a _ => some a, fun _ _ => rfl⟩

theorem independent_fieldSlot : Independent [fieldSlot name decode] where
  distinct := List.nodup_singleton _
  get_set_of_ne := by simp
  ext := by simp [fieldSlot]

/-- The field is decoded where it is met, if it was not met before. -/
theorem collected_once {old t : Option α} :
    (fieldSlot name decode).Collected ((name, d) :: members) old t ↔
      ∃ new, once name old decode d.fragment = .ok new ∧
        (fieldSlot name decode).Collected members new t := by
  cases old with
  | none =>
    have hself : (fieldSlot name decode).Collected ((name, d) :: members) none t ↔
        ∃ a, decode d.fragment = .ok a ∧ valuesOf name members = [] ∧ t = some a :=
      Slot.collected_cons_self rfl
    rw [once, Option.isSome_none, if_neg Bool.false_ne_true]
    simp only [map_eq_ok]
    constructor
    · intro h
      obtain ⟨a, hd, hnil, ht⟩ := hself.1 h
      exact ⟨some a, ⟨a, hd, rfl⟩, hnil, ht⟩
    · rintro ⟨_, ⟨a, hd, rfl⟩, hnil, ht⟩
      exact hself.2 ⟨a, hd, hnil, ht⟩
  | some a =>
    refine iff_of_false (Slot.not_collected_cons_self rfl) ?_
    rintro ⟨new, hnew, -⟩
    exact throw_ne_ok hnew

theorem collectMembers_congr {σ : Type} {collect collect' : Collect σ} {s : σ}
    (h : ∀ s name (d : Document), collect s name d.fragment = collect' s name d.fragment) :
    collectMembers collect s (memberFragments members) .closed =
      collectMembers collect' s (memberFragments members) .closed := by
  induction members generalizing s with
  | nil => rfl
  | cons m members ih =>
    obtain ⟨name, d⟩ := m
    simp only [memberFragments, collectMembers, h, ih]

/-- In a kept object the field must be there once; whatever else there is does not matter. -/
theorem keptField_object :
    keptField expected name decode (Document.object members).fragment = .ok a ↔
      Gives members name decode (some a) := by
  have hcollect : ∀ (old : Option α) k (d : Document),
      (if k = name then once name old decode d.fragment else pure old) =
        collectSlots [fieldSlot name decode] old k d.fragment := by
    intro old k d
    by_cases hk : k = name
    · simp only [hk, collectSlots, fieldSlot, if_true]
      rfl
    · simp only [hk, collectSlots, fieldSlot, if_false, ignore_fragment]
      rfl
  rw [fragment, keptField, bind_eq_ok, collectMembers_congr hcollect]
  simp only [independent_fieldSlot.collectMembers_eq_ok, needed_eq_ok, List.forall_mem_singleton]
  simp [fieldSlot, Slot.Collected]

theorem keptField_array {items : List Document} :
    keptField expected name decode (Document.array items).fragment = .ok a ↔
      ∃ d, items = [d] ∧ decode d.fragment = .ok a := by
  rcases items with _ | ⟨d, _ | ⟨d', items⟩⟩
  · simp [fragment, itemFragments, keptField, throw_ne_ok]
  · simp [fragment, itemFragments, keptField]
  · simp [fragment, itemFragments, keptField, bind_eq_ok, throw_ne_ok]

end Json

namespace ServiceError

theorem keptId_eq_ok {expected : String} {id : ImageId} :
    keptField expected "id" ImageId.decode d.fragment = .ok id ↔ IdRepresented id d := by
  cases d with
  | object members =>
    rw [keptField_object]
    simp only [IdRepresented, Represents, List.Forall, ← ImageId.decode_eq_ok, held_required]
  | array items =>
    rw [keptField_array]
    simp [IdRepresented, Represents, listed_cons, Part.Listed, ImageId.decode_eq_ok]
  | _ => exact iff_of_false Fragment.unexpected_ne_ok not_false

/-- The documents that an error can be kept as. An empty object is as good as no body. -/
def KeptAs (error : ServiceError) (d : Document) : Prop :=
  error.Represented d ∨ error = .invalidKey ∧ d = .object [("InvalidKey", .object [])]

theorem decodeKept_member {name : String} {body : Document} {error : ServiceError} :
    decodeKept (object [(name, body)]).fragment = .ok error ↔
      error.KeptAs (.object [(name, body)]) := by
  unfold decodeKept
  rw [fragment, memberFragments, memberFragments]
  dsimp only
  rw [bind_eq_ok]
  simp only [Kind.ofName_eq_ok]
  constructor
  · rintro ⟨_ | _, rfl, h⟩
    · have hnull (h : (do body.fragment.unit; pure invalidKey) = Except.ok error) :
          body = .null := by
        obtain ⟨_, hunit, -⟩ := bind_eq_ok.1 h
        exact Fragment.unit_eq_ok.1 hunit
      -- An empty object is accepted before it is asked whether there is a body.
      cases body with
      | null =>
        cases h
        exact .inl (.inr rfl)
      | object members =>
        cases members with
        | nil =>
          cases h
          exact .inr ⟨rfl, rfl⟩
        | cons m members => cases hnull h
      | _ => cases hnull h
    · obtain ⟨id, hid, rfl⟩ := map_eq_ok.1 h
      exact .inl ⟨body, rfl, keptId_eq_ok.1 hid⟩
  · rintro (h | ⟨rfl, h⟩)
    · cases error with
      | invalidKey =>
        rcases h with h | h <;> cases h
        exact ⟨.invalidKey, rfl, rfl⟩
      | imageNotFound id =>
        obtain ⟨_, h, hid⟩ := h
        cases h
        exact ⟨.imageNotFound, rfl, map_eq_ok.2 ⟨id, keptId_eq_ok.2 hid, rfl⟩⟩
    · cases h
      exact ⟨.invalidKey, rfl, rfl⟩

/-- What a kept error is decoded to agrees with what it is decoded to in its place. -/
theorem decodeKept_eq_ok {error : ServiceError} :
    decodeKept d.fragment = .ok error ↔ error.KeptAs d := by
  cases d with
  | string name =>
    rw [fragment, decodeKept, ofBareName_eq_ok]
    cases error <;> simp [KeptAs, Represented]
  | object members =>
    rcases members with _ | ⟨⟨name, body⟩, _ | ⟨m, members⟩⟩
    · cases error <;>
        simp [KeptAs, Represented, fragment, memberFragments, decodeKept, throw_ne_ok]
    · exact decodeKept_member
    · cases error <;>
        simp [KeptAs, Represented, fragment, memberFragments, decodeKept, throw_ne_ok]
  | _ =>
    cases error <;> simp [KeptAs, Represented, fragment, decodeKept, Fragment.unexpected_ne_ok]

end ServiceError

namespace Session.Outcome

def Status.name : Status → String
  | .ok => "ok"
  | .failed => "failed"

/-- The name of the one field that goes with a status. -/
def Status.field : Status → String
  | .ok => "detail"
  | .failed => "error"

def status : Outcome → Status
  | .ok _ => .ok
  | .failed _ => .failed

/-- The documents that the field of an outcome can be kept as. -/
def KeptAs : Outcome → Document → Prop
  | .ok detail, d => d = .string detail
  | .failed error, d => error.KeptAs d

theorem Status.decode_eq_ok {status : Status} :
    Status.decode d.fragment = .ok status ↔ d = .string status.name := by
  cases d with
  | string name =>
    rw [fragment, Status.decode, Document.string.injEq]
    unfold Status.ofName
    split
    · cases status <;> simp [Status.name, pure_eq_ok]
    · cases status <;> simp [Status.name, pure_eq_ok]
    · cases status <;> simp_all [Status.name, throw_ne_ok]
  | _ => simp [fragment, Status.decode, Fragment.unexpected_ne_ok]

theorem Status.name_inj {status status' : Status} (h : status.name = status'.name) :
    status = status' := by
  cases status <;> cases status' <;> simp [Status.name] at h ⊢

theorem Status.field_ne (status : Status) : status.field ≠ "status" := by
  cases status <;> decide

theorem ofKept_object {status : Status} {o : Outcome} :
    ofKept status (object members).fragment = .ok o ↔
      o.status = status ∧ ∃ d, valuesOf status.field members = [d] ∧ o.KeptAs d := by
  cases status <;> cases o <;>
    simp [ofKept, map_eq_ok, keptField_object, Gives, Outcome.status, Status.field, KeptAs,
      Fragment.textOf_eq_ok, ServiceError.decodeKept_eq_ok]

/-- A status is decoded, unless there was one before, and any other member is kept. -/
theorem collectMembers_eq_ok {status status' : Option Status}
    {others others' : List (Option String × Fragment)} :
    collectMembers (collect opened) (status, others) (memberFragments members) .closed =
        .ok (status', others') ↔
      (fieldSlot "status" Status.decode).Collected members status status' ∧
      (∀ m ∈ members, m.1 ≠ "status" → m.2.fragment.canKeep opened = true) ∧
      others' = others ++ memberFragments (members.filter fun m => m.1 ≠ "status") := by
  -- For any status so far: the slot of the status says whether another one may still be met.
  induction members generalizing status others with
  | nil =>
    rw [memberFragments, collectMembers, pure_eq_ok, Slot.collected_nil, Prod.mk.injEq]
    constructor
    · rintro ⟨rfl, rfl⟩
      exact ⟨rfl, by simp, (List.append_nil _).symm⟩
    · rintro ⟨rfl, -, rfl⟩
      exact ⟨rfl, (List.append_nil _).symm⟩
  | cons m members ih =>
    obtain ⟨name, d⟩ := m
    rw [memberFragments, collectMembers, bind_eq_ok]
    by_cases hname : name = "status"
    · subst hname
      have hcollect : collect opened (status, others) "status" d.fragment =
          once "status" status Status.decode d.fragment >>= fun new => pure (new, others) := rfl
      rw [hcollect, collected_once]
      simp only [bind_eq_ok, pure_eq_ok]
      constructor
      · rintro ⟨_, ⟨new, hnew, rfl⟩, hrest⟩
        obtain ⟨hstatus, hkeep, hothers⟩ := ih.1 hrest
        exact ⟨⟨new, hnew, hstatus⟩, by simpa using hkeep, by simpa using hothers⟩
      · rintro ⟨⟨new, hnew, hstatus⟩, hkeep, hothers⟩
        exact ⟨_, ⟨new, hnew, rfl⟩, ih.2 ⟨hstatus, by simpa using hkeep, by simpa using hothers⟩⟩
    · have hcollect : collect opened (status, others) name d.fragment =
          if d.fragment.canKeep opened then pure (status, others ++ [(some name, d.fragment)])
          else throw .malformed := if_neg hname
      rw [hcollect, Slot.collected_cons_of_ne hname (rfl : _ = Slot.get _ status)]
      by_cases hkeep : d.fragment.canKeep opened = true
      · simp [hkeep, pure_eq_ok, ih, hname, memberFragments]
      · simp [hkeep, throw_ne_ok, hname]

/-- An outcome is decoded from an object just if the status is there once, with the one field that
goes with it, and all members but the status can be kept. -/
theorem decode_object {o : Outcome} :
    decode opened (object members).fragment = .ok o ↔
      valuesOf "status" members = [.string o.status.name] ∧
      (∃ d, valuesOf o.status.field members = [d] ∧ o.KeptAs d) ∧
      ∀ m ∈ members, m.1 ≠ "status" → m.2.fragment.canKeep (opened + 1) = true := by
  have hstatus : ∀ status, (fieldSlot "status" Status.decode).Collected members none (some status) ↔
      valuesOf "status" members = [.string status.name] := by
    intro status
    simp [fieldSlot, Slot.Collected, Gives, Status.decode_eq_ok]
  have hfield : ∀ status : Status,
      valuesOf status.field (members.filter fun m => m.1 ≠ "status") =
        valuesOf status.field members :=
    fun status => valuesOf_filter fun _ => decide_eq_true status.field_ne
  rw [fragment, decode, bind_eq_ok]
  constructor
  · rintro ⟨⟨found, others⟩, hcollect, hrest⟩
    obtain ⟨status, hneeded, hkept⟩ := bind_eq_ok.1 hrest
    obtain rfl := needed_eq_ok.1 hneeded
    obtain ⟨hcollected, hkeep, rfl⟩ := collectMembers_eq_ok.1 hcollect
    obtain ⟨rfl, hvalue⟩ := ofKept_object.1 hkept
    rw [hfield] at hvalue
    exact ⟨(hstatus _).1 hcollected, hvalue, hkeep⟩
  · rintro ⟨hvalue, hkept, hkeep⟩
    refine ⟨(some o.status, _), collectMembers_eq_ok.2 ⟨(hstatus _).2 hvalue, hkeep, rfl⟩, ?_⟩
    refine bind_eq_ok.2 ⟨o.status, rfl, ofKept_object.2 ⟨rfl, ?_⟩⟩
    rw [hfield]
    exact hkept

end Session.Outcome

end KeyedImages
