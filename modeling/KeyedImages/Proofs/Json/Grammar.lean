import KeyedImages.Json.Session
import KeyedImages.Proofs.Json.Layout
import KeyedImages.Proofs.Json.Structures

/-! The documents that represent timestamps, images, errors, requests and settings: just these are
decoded. -/
namespace KeyedImages

open Json Json.Document

variable {d : Document} {members : List (String × Document)}

namespace Timestamp

/-- The documents that represent a timestamp. -/
def Represented (t : Timestamp) : Document → Prop :=
  Represents
    [{ name := "seconds", Value := (· = .number t.seconds.toInt) },
      { name := "nanos", Value := (· = .number t.nanos.toNat) }]

def Parts.slots : List (Slot Parts) :=
  [⟨_, "seconds", Fragment.int64, seconds, fun a p => { p with seconds := some a }, fun _ _ => rfl⟩,
    ⟨_, "nanos", Fragment.uint32, nanos, fun a p => { p with nanos := some a }, fun _ _ => rfl⟩]

theorem Parts.independent : Independent slots where
  distinct := by decide
  get_set_of_ne := by simp [slots]
  ext := by
    rintro ⟨_, _⟩ ⟨_, _⟩ h
    simpa [slots] using h

theorem decode_eq_ok {t : Timestamp} : decode d.fragment = .ok t ↔ t.Represented d := by
  refine (structureOf_pair (?collect : _ = collectSlots Parts.slots) Parts.independent
    ⟨rfl, rfl⟩).trans ?_
  case collect =>
    funext p name f
    split
    · exact once_bind
    · exact once_bind
    · simp_all [Parts.slots, collectSlots]
  simp only [Fragment.int64_eq_ok, Fragment.uint32_eq_ok]
  constructor
  · rintro ⟨seconds, nanos, rfl, h⟩
    exact h
  · intro h
    exact ⟨t.seconds, t.nanos, rfl, h⟩

end Timestamp

namespace Json

/-- The document of a text that there may be. -/
def Document.nullable (s : Option String) : Document := s.elim .null .string

/-- The document of bytes. -/
def Document.bytes (data : List UInt8) : Document := .array (data.map fun b => .number b.toNat)

namespace Fragment

theorem optional_textOf_eq_ok {s : Option String} :
    d.fragment.optional textOf = .ok s ↔ d = .nullable s := by
  rw [optional_eq_ok fun _ => unexpected_ne_ok]
  cases s with
  | none => rfl
  | some s => exact textOf_eq_ok

theorem list_uint8_eq_ok {data : List UInt8} :
    d.fragment.list uint8 = .ok data ↔ d = .bytes data := by
  have hitems : ∀ items : List Document,
      List.Forall₂ (fun item b => item = .number b.toNat) items data ↔
        items = data.map fun b => .number b.toNat := by
    intro items
    rw [← List.forall₂_map_right_iff, List.forall₂_eq_eq_eq]
  rw [list_eq_ok]
  simp only [uint8_eq_ok, hitems, exists_eq_right]
  rfl

theorem unit_eq_ok {u : Unit} : d.fragment.unit = .ok u ↔ d = .null := by
  cases d with
  | null => exact iff_of_true rfl rfl
  | _ => exact iff_of_false unexpected_ne_ok (by simp)

/-- A variant with a body is an object with no other member. -/
theorem variant_member {α : Type} {bare : String → Decoded α}
    {withBody : String → Fragment → Decoded α} {name : String} {body : Document} {a : α} :
    (Document.object ((name, body) :: members)).fragment.variant bare withBody = .ok a ↔
      members = [] ∧ withBody name body.fragment = .ok a := by
  rw [Document.fragment, memberFragments, variant, bind_eq_ok]
  cases members with
  | nil => simp [memberFragments, pure_eq_ok]
  | cons m more =>
    obtain ⟨k, d⟩ := m
    simp [memberFragments, throw_ne_ok]

end Fragment

end Json

namespace Image

/-- The documents that represent an image. Both parts may be left out. -/
def Represented (image : Image) : Document → Prop :=
  Represents
    [{ name := "data", Value := (· = .bytes image.data), absent := image.data = [],
        cut := image.data = [] },
      { name := "content_type", Value := (· = .nullable image.contentType),
        absent := image.contentType = none, cut := image.contentType = none }]

def Parts.slots : List (Slot Parts) :=
  [⟨_, "data", Fragment.list Fragment.uint8, data, fun a p => { p with data := some a },
      fun _ _ => rfl⟩,
    ⟨_, "content_type", Fragment.optional Fragment.textOf, contentType,
      fun a p => { p with contentType := some a }, fun _ _ => rfl⟩]

theorem Parts.independent : Independent slots where
  distinct := by decide
  get_set_of_ne := by simp [slots]
  ext := by
    rintro ⟨_, _⟩ ⟨_, _⟩ h
    simpa [slots] using h

theorem decode_object {image : Image} :
    decode (object members).fragment = .ok image ↔ image.Represented (.object members) := by
  refine (structureOf_object (?collect : _ = collectSlots Parts.slots) Parts.independent
    ?start).trans ?_
  case start => exact And.intro rfl rfl
  case collect =>
    funext p name f
    split
    · exact once_bind
    · exact once_bind
    · simp_all [Parts.slots, collectSlots]
  simp only [Parts.slots, List.Forall, pure_eq_ok, Represented, Represents,
    ← Fragment.list_uint8_eq_ok, ← Fragment.optional_textOf_eq_ok, held_default]
  constructor
  · rintro ⟨⟨data, contentType⟩, ⟨hd, hc⟩, rfl⟩
    exact ⟨⟨data, hd, rfl⟩, contentType, hc, rfl⟩
  · rintro ⟨⟨data, hd, hdata⟩, contentType, hc, hcontentType⟩
    exact ⟨⟨data, contentType⟩, ⟨hd, hc⟩, by rw [hdata, hcontentType]⟩

theorem decode_eq_ok {image : Image} : decode d.fragment = .ok image ↔ image.Represented d := by
  cases d with
  | object members => exact decode_object
  | array items =>
    rw [decode, structureOf_array]
    simp only [InOrder.all_fieldOr, InOrder.all_pure, Represented, Represents, listed_cons,
      Part.Listed, Fragment.list_uint8_eq_ok, Fragment.optional_textOf_eq_ok, true_and, and_true]
    constructor
    · rintro (⟨rfl, rfl | ⟨_, _, _, h, -⟩⟩ | ⟨_, _, _, rfl, rfl, h⟩)
      · exact .inl ⟨rfl, rfl, rfl⟩
      · cases h
      · rcases h with ⟨rfl, rfl⟩ | ⟨_, _, _, rfl, rfl, rfl, rfl⟩
        · exact .inr ⟨_, _, rfl, rfl, .inl ⟨rfl, rfl⟩⟩
        · exact .inr ⟨_, _, rfl, rfl, .inr ⟨_, _, rfl, rfl, rfl⟩⟩
    · rcases image with ⟨data, contentType⟩
      rintro (⟨rfl, rfl, rfl⟩ | ⟨_, _, rfl, rfl, ⟨rfl, rfl⟩ | ⟨_, _, rfl, rfl, rfl⟩⟩)
      · exact .inl ⟨rfl, .inl rfl⟩
      · exact .inr ⟨_, _, _, rfl, rfl, .inl ⟨rfl, rfl⟩⟩
      · exact .inr ⟨_, _, _, rfl, rfl, .inr ⟨_, _, _, rfl, rfl, rfl, rfl⟩⟩
  | _ => exact iff_of_false (not_structureOf (by simp) (by simp)) id

end Image

theorem ImageId.decode_eq_ok {id : ImageId} :
    ImageId.decode d.fragment = .ok id ↔ d = .number id.number.toNat := by
  rw [ImageId.decode, map_eq_ok]
  constructor
  · rintro ⟨n, hn, rfl⟩
    exact Fragment.uint64_eq_ok.1 hn
  · intro hd
    exact ⟨id.number, Fragment.uint64_eq_ok.2 hd, rfl⟩

namespace ServiceError

/-- The documents that represent what an image was not found under. -/
def IdRepresented (id : ImageId) : Document → Prop :=
  Represents [{ name := "id", Value := (· = .number id.number.toNat) }]

/-- The documents that represent an error. -/
def Represented : ServiceError → Document → Prop
  | .invalidKey, d => d = .string "InvalidKey" ∨ d = .object [("InvalidKey", .null)]
  | .imageNotFound id, d => ∃ body, d = .object [("ImageNotFound", body)] ∧ IdRepresented id body

def idSlots : List (Slot (Option ImageId)) :=
  [⟨_, "id", ImageId.decode, id, fun a _ => some a, fun _ _ => rfl⟩]

theorem independent_idSlots : Independent idSlots where
  distinct := by decide
  get_set_of_ne := by simp [idSlots]
  ext := by simp [idSlots]

theorem idDecode_eq_ok {expected : String} {id : ImageId} :
    structureOf expected idField collectId none (needed "id") d.fragment = .ok id ↔
      IdRepresented id d := by
  cases d with
  | object members =>
    refine (structureOf_object (?collect : _ = collectSlots idSlots) independent_idSlots
      ?start).trans ?_
    case start => rfl
    case collect =>
      funext old name f
      unfold collectId
      split
      next hname =>
        rw [idSlots, collectSlots, if_pos hname, once]
        rfl
      next hname => simp [idSlots, collectSlots, hname]
    simp only [idSlots, List.Forall, needed_eq_ok, exists_eq_right, id_eq, IdRepresented,
      Represents, ← ImageId.decode_eq_ok, held_required]
  | array items =>
    rw [structureOf_array, idField, ← bind_pure (InOrder.field _ _ _)]
    simp only [InOrder.all_field, InOrder.all_pure, IdRepresented, Represents, listed_cons,
      Part.Listed, ImageId.decode_eq_ok, false_and, and_false, false_or]
    constructor
    · rintro ⟨_, _, _, rfl, rfl, rfl, rfl⟩
      exact ⟨_, _, rfl, rfl, rfl⟩
    · rintro ⟨_, _, rfl, rfl, rfl⟩
      exact ⟨_, _, _, rfl, rfl, rfl, rfl⟩
  | _ => exact iff_of_false (not_structureOf (by simp) (by simp)) not_false

theorem Kind.ofName_eq_ok {name : String} {kind : Kind} :
    Kind.ofName name = .ok kind ↔
      name = match kind with
        | .invalidKey => "InvalidKey"
        | .imageNotFound => "ImageNotFound" := by
  unfold Kind.ofName
  split
  · cases kind <;> simp [pure_eq_ok]
  · cases kind <;> simp [pure_eq_ok]
  · cases kind <;> simp_all [throw_ne_ok]

theorem ofBareName_eq_ok {name : String} {error : ServiceError} :
    ofBareName name = .ok error ↔ name = "InvalidKey" ∧ error = .invalidKey := by
  rw [ofBareName, bind_eq_ok]
  simp only [Kind.ofName_eq_ok]
  constructor
  · rintro ⟨_ | _, rfl, h⟩
    · exact ⟨rfl, (pure_eq_ok.1 h).symm⟩
    · exact absurd h throw_ne_ok
  · rintro ⟨rfl, rfl⟩
    exact ⟨.invalidKey, rfl, rfl⟩

/-- An error in an object: its name, and what goes with the name. -/
theorem decode_member {name : String} {body : Document} {error : ServiceError} :
    decode (object ((name, body) :: members)).fragment = .ok error ↔
      members = [] ∧ error.Represented (.object [(name, body)]) := by
  rw [decode, Fragment.variant_member]
  refine and_congr_right fun _ => ?_
  simp only [bind_eq_ok, Kind.ofName_eq_ok]
  constructor
  · rintro ⟨_ | _, rfl, h⟩
    · obtain ⟨_, hunit, h⟩ := bind_eq_ok.1 h
      cases h
      exact .inr (by rw [Fragment.unit_eq_ok.1 hunit])
    · obtain ⟨id, hid, rfl⟩ := map_eq_ok.1 h
      exact ⟨body, rfl, idDecode_eq_ok.1 hid⟩
  · intro h
    cases error with
    | invalidKey =>
      rcases h with h | h <;> cases h
      exact ⟨.invalidKey, rfl, rfl⟩
    | imageNotFound id =>
      obtain ⟨_, h, hid⟩ := h
      cases h
      exact ⟨.imageNotFound, rfl, map_eq_ok.2 ⟨id, idDecode_eq_ok.2 hid, rfl⟩⟩

theorem decode_eq_ok {error : ServiceError} :
    decode d.fragment = .ok error ↔ error.Represented d := by
  cases d with
  | string name =>
    rw [fragment, decode, Fragment.variant, ofBareName_eq_ok]
    cases error <;> simp [Represented]
  | object members =>
    cases members with
    | nil =>
      have hnone : ¬ (throw .malformed : Decoded ServiceError) = .ok error := throw_ne_ok
      cases error <;> simp [Represented, fragment, decode, memberFragments, Fragment.variant, hnone]
    | cons m members =>
      obtain ⟨name, body⟩ := m
      rw [decode_member]
      cases error with
      | invalidKey => simp [Represented, and_comm]
      | imageNotFound id => simp [Represented, and_comm, and_assoc, and_left_comm]
  | _ => cases error <;> simp [Represented, fragment, decode, Fragment.variant, throw_ne_ok]

end ServiceError

namespace Session.Request

/-- The documents that represent a request. -/
def Represented (r : Request) : Document → Prop :=
  Represents
    [{ name := "name", Value := (· = .string r.name) },
      { name := "images", Value := (· = .number r.images.toNat) }]

def Parts.slots : List (Slot Parts) :=
  [⟨_, "name", Fragment.textOf, name, fun a p => { p with name := some a }, fun _ _ => rfl⟩,
    ⟨_, "images", Fragment.uint32, images, fun a p => { p with images := some a },
      fun _ _ => rfl⟩]

theorem Parts.independent : Independent slots where
  distinct := by decide
  get_set_of_ne := by simp [slots]
  ext := by
    rintro ⟨_, _⟩ ⟨_, _⟩ h
    simpa [slots] using h

theorem decode_eq_ok {r : Request} : decode d.fragment = .ok r ↔ r.Represented d := by
  refine (structureOf_pair (?collect : _ = collectSlots Parts.slots) Parts.independent
    ⟨rfl, rfl⟩).trans ?_
  case collect =>
    funext p name f
    split
    · exact once_bind
    · exact once_bind
    · simp_all [Parts.slots, collectSlots]
  simp only [Fragment.textOf_eq_ok, Fragment.uint32_eq_ok]
  constructor
  · rintro ⟨name, images, rfl, h⟩
    exact h
  · intro h
    exact ⟨r.name, r.images, rfl, h⟩

end Session.Request

namespace LogSettings

/-- The documents that represent settings of the log. -/
def Represented (s : LogSettings) : Document → Prop :=
  Represents [{ name := "level", Value := (· = .string s.level) }]

def Parts.slots : List (Slot Parts) :=
  [⟨_, "level", Fragment.textOf, level, fun a p => { p with level := some a }, fun _ _ => rfl⟩]

theorem Parts.independent : Independent slots where
  distinct := by decide
  get_set_of_ne := by simp [slots]
  ext := by
    rintro ⟨_⟩ ⟨_⟩ h
    simpa [slots] using h

theorem decode_eq_ok {s : LogSettings} : decode d.fragment = .ok s ↔ s.Represented d := by
  cases d with
  | object members =>
    refine (structureOf_object (?collect : _ = collectSlots Parts.slots) Parts.independent
      ?start).trans ?_
    case start => rfl
    case collect =>
      funext p name f
      split
      · exact once_bind
      · simp_all [Parts.slots, collectSlots]
    simp only [Parts.slots, List.Forall, bind_eq_ok, needed_eq_ok, pure_eq_ok, Represented,
      Represents, ← Fragment.textOf_eq_ok, held_required]
    constructor
    · rintro ⟨⟨_⟩, hl, _, rfl, rfl⟩
      exact hl
    · intro hl
      exact ⟨⟨some s.level⟩, hl, _, rfl, rfl⟩
  | array items =>
    rw [decode, structureOf_array, map_eq_pure_bind]
    simp only [InOrder.all_field, InOrder.all_pure, Represented, Represents, listed_cons,
      Part.Listed, Fragment.textOf_eq_ok, false_and, and_false, false_or]
    constructor
    · rintro ⟨_, _, _, rfl, rfl, rfl, rfl⟩
      exact ⟨_, _, rfl, rfl, rfl⟩
    · rintro ⟨_, _, rfl, rfl, rfl⟩
      exact ⟨_, _, _, rfl, rfl, rfl, rfl⟩
  | _ => exact iff_of_false (not_structureOf (by simp) (by simp)) id

end LogSettings

namespace ServiceSettings

/-- The documents that represent settings of the service. The key may be left out of an object. -/
def Represented (s : ServiceSettings) : Document → Prop :=
  Represents
    [{ name := "key", Value := (· = .nullable s.key), absent := s.key = none },
      { name := "client_name", Value := (· = .string s.clientName) },
      { name := "images", Value := (· = .number s.images.toNat) }]

def Parts.slots : List (Slot Parts) :=
  [⟨_, "key", Fragment.optional Fragment.textOf, key, fun a p => { p with key := some a },
      fun _ _ => rfl⟩,
    ⟨_, "client_name", Fragment.textOf, clientName, fun a p => { p with clientName := some a },
      fun _ _ => rfl⟩,
    ⟨_, "images", Fragment.uint32, images, fun a p => { p with images := some a },
      fun _ _ => rfl⟩]

theorem Parts.independent : Independent slots where
  distinct := by decide
  get_set_of_ne := by simp [slots]
  ext := by
    rintro ⟨_, _, _⟩ ⟨_, _, _⟩ h
    simpa [slots] using h

theorem decode_object {s : ServiceSettings} :
    decode (object members).fragment = .ok s ↔ s.Represented (.object members) := by
  unfold decode
  refine (structureOf_object (?collect : _ = collectSlots Parts.slots) Parts.independent
    ?start).trans ?_
  case start => exact And.intro rfl (And.intro rfl rfl)
  case collect =>
    funext p name f
    split
    · exact once_bind
    · exact once_bind
    · exact once_bind
    · simp_all [Parts.slots, collectSlots]
  simp only [Parts.slots, List.Forall, bind_eq_ok, needed_eq_ok, pure_eq_ok, Represented,
    Represents, ← Fragment.optional_textOf_eq_ok, ← Fragment.textOf_eq_ok, ← Fragment.uint32_eq_ok,
    held_required, held_default]
  constructor
  · rintro ⟨⟨key, _, _⟩, ⟨hk, hc, hi⟩, _, rfl, _, rfl, rfl⟩
    exact ⟨⟨key, hk, rfl⟩, hc, hi⟩
  · rintro ⟨⟨key, hk, hkey⟩, hc, hi⟩
    exact ⟨⟨key, some s.clientName, some s.images⟩, ⟨hk, hc, hi⟩, _, rfl, _, rfl, by rw [hkey]⟩

theorem decode_eq_ok {s : ServiceSettings} : decode d.fragment = .ok s ↔ s.Represented d := by
  cases d with
  | object members => exact decode_object
  | array items =>
    unfold decode
    rw [structureOf_array]
    simp only [InOrder.all_fieldOr, InOrder.all_field, InOrder.all_pure, Represented, Represents,
      listed_cons, Part.Listed, Fragment.optional_textOf_eq_ok, Fragment.textOf_eq_ok,
      Fragment.uint32_eq_ok, false_and, and_false, false_or]
    constructor
    · rintro (⟨rfl, _, _, _, h, -⟩ | ⟨_, _, _, rfl, rfl, h⟩)
      · cases h
      · obtain ⟨_, _, _, rfl, rfl, _, _, _, rfl, rfl, rfl, rfl⟩ := h
        exact ⟨_, _, rfl, rfl, _, _, rfl, rfl, _, _, rfl, rfl, rfl⟩
    · rintro ⟨_, _, rfl, rfl, _, _, rfl, rfl, _, _, rfl, rfl, rfl⟩
      exact .inr ⟨_, _, _, rfl, rfl, _, _, _, rfl, rfl, _, _, _, rfl, rfl, rfl, rfl⟩
  | _ =>
    unfold decode
    exact iff_of_false (not_structureOf (by simp) (by simp)) id

end ServiceSettings

namespace Settings

/-- The documents that represent settings. -/
def Represented (s : Settings) : Document → Prop :=
  Represents
    [{ name := "service", Value := s.service.Represented },
      { name := "log", Value := s.log.Represented }]

def Parts.slots : List (Slot Parts) :=
  [⟨_, "service", ServiceSettings.decode, service, fun a p => { p with service := some a },
      fun _ _ => rfl⟩,
    ⟨_, "log", LogSettings.decode, log, fun a p => { p with log := some a }, fun _ _ => rfl⟩]

theorem Parts.independent : Independent slots where
  distinct := by decide
  get_set_of_ne := by simp [slots]
  ext := by
    rintro ⟨_, _⟩ ⟨_, _⟩ h
    simpa [slots] using h

theorem decode_eq_ok {s : Settings} : decode d.fragment = .ok s ↔ s.Represented d := by
  refine (structureOf_pair (?collect : _ = collectSlots Parts.slots) Parts.independent
    ⟨rfl, rfl⟩).trans ?_
  case collect =>
    funext p name f
    split
    · exact once_bind
    · exact once_bind
    · simp_all [Parts.slots, collectSlots]
  simp only [ServiceSettings.decode_eq_ok, LogSettings.decode_eq_ok]
  constructor
  · rintro ⟨service, log, rfl, h⟩
    exact h
  · intro h
    exact ⟨s.service, s.log, rfl, h⟩

end Settings

/-- A text of a document decodes to a value just if the document represents the value, whatever
blanks stand between the tokens, however the strings are escaped, and whatever members of other
names hold. -/
theorem decoded_iff_represented (d : Document) {text : List Char} (h : Writes d.tokens text) :
    (∀ t, decodeText Timestamp.decode (String.ofList text) = .ok t ↔ t.Represented d) ∧
      (∀ image, decodeText Image.decode (String.ofList text) = .ok image ↔ image.Represented d) ∧
      (∀ error,
        decodeText ServiceError.decode (String.ofList text) = .ok error ↔ error.Represented d) ∧
      (∀ r, decodeText Session.Request.decode (String.ofList text) = .ok r ↔ r.Represented d) ∧
      ∀ s, decodeText Settings.decode (String.ofList text) = .ok s ↔ s.Represented d := by
  simp only [decodeText_of_writes _ h]
  exact ⟨fun _ => Timestamp.decode_eq_ok, fun _ => Image.decode_eq_ok,
    fun _ => ServiceError.decode_eq_ok, fun _ => Session.Request.decode_eq_ok,
    fun _ => Settings.decode_eq_ok⟩

/-- A timestamp with its parts out of order, and with another member between them. -/
def outOfOrder : Document :=
  .object [("nanos", .number 7), ("zone", .array [.null, .object []]), ("seconds", .number (-3))]

theorem decoded_iff_represented_out_of_order :
    Writes outOfOrder.tokens (outOfOrder.pretty 0) ∧
      String.ofList (outOfOrder.pretty 0) =
        "\x7b\n  \"nanos\": 7,\n  \"zone\": [\n    null,\n    \x7b\x7d\n  ],\n" ++
          "  \"seconds\": -3\n\x7d" ∧
      decodeText Timestamp.decode (String.ofList (outOfOrder.pretty 0)) = .ok ⟨-3, 7⟩ := by
  have hwrites := writes_pretty 0 outOfOrder
  have hrepresented : Timestamp.Represented ⟨-3, 7⟩ outOfOrder := by
    simp [Timestamp.Represented, outOfOrder, Represents, Part.Held, valuesOf]
  exact ⟨hwrites, by decide +kernel,
    ((decoded_iff_represented outOfOrder hwrites).1 ⟨-3, 7⟩).2 hrepresented⟩

end KeyedImages
