import KeyedImages.Json.Encode
import KeyedImages.Proofs.Json.Kept

/-! What is written of a value is decoded to the value itself. -/
namespace KeyedImages

open Json Json.Document

/-- The text of a document decodes as the document does. -/
theorem Json.decodeText_text {α : Type} (decode : Fragment → Decoded α) (d : Document) :
    decodeText decode d.text = decode d.fragment :=
  decodeText_of_writes decode (writes_compact d)

theorem Json.decodeText_prettyText {α : Type} (decode : Fragment → Decoded α) (d : Document) :
    decodeText decode d.prettyText = decode d.fragment :=
  decodeText_of_writes decode (writes_pretty 0 d)

/-- A line break may stand behind the document. -/
theorem Json.decodeText_prettyText_newline {α : Type} (decode : Fragment → Decoded α)
    (d : Document) : decodeText decode (d.prettyText ++ "\n") = decode d.fragment := by
  have hblank : ∀ b ∈ ['\n'], isBlank b = true := by simp [isBlank]
  have hwrites := (writes_pretty 0 d).append (.nil hblank)
  rw [List.append_nil] at hwrites
  have htext : d.prettyText ++ "\n" = String.ofList (d.pretty 0 ++ ['\n']) := by
    apply String.toList_injective
    simp [prettyText]
  rw [htext, decodeText_of_writes decode hwrites]

theorem Timestamp.represented_document (t : Timestamp) : t.Represented t.document := by
  simp [Represented, Represents, Part.Held, valuesOf, document]

/-- A time that may not have been told is null then. -/
theorem Timestamp.decode_optional (o : Option Timestamp) :
    (o.elim .null document).fragment.optional decode = .ok o := by
  rw [Fragment.optional_eq_ok fun _ => Fragment.unexpected_ne_ok]
  cases o with
  | none => rfl
  | some t => exact decode_eq_ok.2 t.represented_document

theorem Image.represented_document (image : Image) : image.Represented image.document := by
  cases h : image.contentType <;>
    simp [Represented, Represents, Part.Held, valuesOf, document, bytes, nullable, h]

theorem ServiceError.represented_document (error : ServiceError) :
    error.Represented error.document := by
  cases error with
  | invalidKey => exact .inl rfl
  | imageNotFound id =>
    exact ⟨_, rfl, by simp [IdRepresented, Represents, Part.Held, valuesOf, ImageId.document]⟩

theorem Session.Request.represented_document (r : Request) : r.Represented r.document := by
  simp [Represented, Represents, Part.Held, valuesOf, document]

theorem LogSettings.represented_document (s : LogSettings) : s.Represented s.document := by
  simp [Represented, Represents, Part.Held, valuesOf, document]

theorem ServiceSettings.represented_document (s : ServiceSettings) :
    s.Represented s.document := by
  simp [Represented, Represents, Part.Held, valuesOf, document, nullable]

theorem Settings.represented_document (s : Settings) : s.Represented s.document := by
  simp [Represented, Represents, Part.Held, valuesOf, document, s.service.represented_document,
    s.log.represented_document]

theorem Method.ofName?_name (m : Method) : ofName? m.name = some m := by
  cases m <;> decide

theorem Method.decode_document (m : Method) : decode m.document.fragment = .ok m := by
  simp only [document, fragment, decode, Fragment.variant, ofName, ofName?_name]
  rfl

theorem ImageId.decode_document (id : ImageId) : decode id.document.fragment = .ok id :=
  decode_eq_ok.2 rfl

namespace ServiceError

theorem fits_document (error : ServiceError) : ∀ n ∈ error.document.numbers, Fits n := by
  cases error with
  | invalidKey => simp [document, numbers]
  | imageNotFound id =>
    have hmin : Int64.minValue.toInt < 0 := by decide
    have hmax := id.number.toNat_lt_size
    simp only [document, ImageId.document, numbers, memberNumbers, List.append_nil,
      List.forall_mem_singleton]
    exact ⟨by omega, by omega⟩

theorem nesting_document (error : ServiceError) : error.document.nesting ≤ 2 := by
  cases error with
  | invalidKey => exact Nat.zero_le _
  | imageNotFound id => exact Nat.le_refl _

theorem keptAs_document (error : ServiceError) : error.KeptAs error.document :=
  .inl error.represented_document

end ServiceError

namespace Session

/-- The document of the field that goes with the status. -/
def Outcome.fieldDocument : Outcome → Document
  | .ok detail => .string detail
  | .failed error => error.document

theorem Outcome.document_eq (o : Outcome) : o.document =
    .object [("status", .string o.status.name), (o.status.field, o.fieldDocument)] := by
  cases o <;> rfl

theorem Outcome.keptAs_fieldDocument (o : Outcome) : o.KeptAs o.fieldDocument := by
  cases o with
  | ok detail => rfl
  | failed error => exact error.keptAs_document

theorem Outcome.fits_fieldDocument (o : Outcome) : ∀ n ∈ o.fieldDocument.numbers, Fits n := by
  cases o with
  | ok detail => simp [fieldDocument, numbers]
  | failed error => exact error.fits_document

theorem Outcome.nesting_fieldDocument (o : Outcome) : o.fieldDocument.nesting ≤ 2 := by
  cases o with
  | ok detail => exact Nat.zero_le _
  | failed error => exact error.nesting_document

theorem Outcome.decode_document (o : Outcome) {opened : Nat}
    (h : opened + 2 < Fragment.depthLimit) : decode opened o.document.fragment = .ok o := by
  have hnesting := o.nesting_fieldDocument
  have hkeep : o.fieldDocument.fragment.canKeep (opened + 1) = true :=
    canKeep_fragment _ o.fits_fieldDocument (by omega)
  rw [document_eq, decode_object]
  refine ⟨by simp [valuesOf, o.status.field_ne], ⟨o.fieldDocument, ?_, o.keptAs_fieldDocument⟩, ?_⟩
  · simp [valuesOf, o.status.field_ne.symm]
  · simp [hkeep]

/-- The slots of a step inside as many open containers as given. -/
def Step.Parts.slots (opened : Nat) : List (Slot Parts) :=
  [⟨_, "method", Method.decode, method, fun a p => { p with method := some a }, fun _ _ => rfl⟩,
    ⟨_, "outcome", Outcome.decode (opened + 1), outcome, fun a p => { p with outcome := some a },
      fun _ _ => rfl⟩]

theorem Step.Parts.independent (opened : Nat) : Independent (slots opened) where
  distinct := by simp [slots]
  get_set_of_ne := by simp [slots]
  ext := by
    rintro ⟨_, _⟩ ⟨_, _⟩ h
    simpa [slots] using h

/-- A step with any document in place of its outcome. -/
def Step.documentWith (s : Step) (outcome : Document) : Document :=
  .object [("method", s.method.document), ("outcome", outcome)]

/-- Only the outcome of a step can be decoded to something else. -/
theorem Step.decode_documentWith {s s' : Step} {outcome : Document} {opened : Nat} :
    decode opened (s.documentWith outcome).fragment = .ok s' ↔
      s'.method = s.method ∧ Outcome.decode (opened + 1) outcome.fragment = .ok s'.outcome := by
  refine (structureOf_pair (?collect : _ = collectSlots (Parts.slots opened))
    (Parts.independent opened) ⟨rfl, rfl⟩).trans ?_
  case collect =>
    funext p name f
    split
    · exact once_bind
    · exact once_bind
    · simp_all [Parts.slots, collectSlots]
  simp only [documentWith, Represents, List.Forall, held_required, Gives]
  constructor
  · rintro ⟨method, outcome', rfl, hmethod, houtcome⟩
    simp [valuesOf, s.method.decode_document] at hmethod houtcome
    exact ⟨hmethod.symm, houtcome⟩
  · rintro ⟨hmethod, houtcome⟩
    refine ⟨s'.method, s'.outcome, rfl, ⟨_, rfl, ?_⟩, ⟨_, rfl, houtcome⟩⟩
    rw [hmethod]
    exact s.method.decode_document

theorem Step.decode_document (s : Step) {opened : Nat}
    (h : opened + 3 < Fragment.depthLimit) : decode opened s.document.fragment = .ok s :=
  decode_documentWith.2
    ⟨rfl, s.outcome.decode_document (by omega : opened + 1 + 2 < Fragment.depthLimit)⟩

def Transcript.Parts.slots : List (Slot Parts) :=
  [⟨_, "steps", Fragment.list (Step.decode 2), steps, fun a p => { p with steps := some a },
      fun _ _ => rfl⟩,
    ⟨_, "image_ids", Fragment.list ImageId.decode, imageIds,
      fun a p => { p with imageIds := some a }, fun _ _ => rfl⟩,
    ⟨_, "server_time", Fragment.optional Timestamp.decode, serverTime,
      fun a p => { p with serverTime := some a }, fun _ _ => rfl⟩,
    ⟨_, "key_revoked", Fragment.boolean, keyRevoked, fun a p => { p with keyRevoked := some a },
      fun _ _ => rfl⟩]

theorem Transcript.Parts.independent : Independent slots where
  distinct := by decide
  get_set_of_ne := by simp [slots]
  ext := by
    rintro ⟨_, _, _, _⟩ ⟨_, _, _, _⟩ h
    simpa [slots] using h

/-- A transcript with any documents in place of its steps. -/
def Transcript.documentWith (t : Transcript) (steps : List Document) : Document :=
  .object [("steps", .array steps), ("image_ids", .array (t.imageIds.map ImageId.document)),
    ("server_time", t.serverTime.elim .null Timestamp.document),
    ("key_revoked", .bool t.keyRevoked)]

/-- Only the steps of a transcript can be decoded to something else. -/
theorem Transcript.decode_documentWith {t u : Transcript} {steps : List Document} :
    decode (t.documentWith steps).fragment = .ok u ↔
      u = { t with steps := u.steps } ∧
        List.Forall₂ (fun d s => Step.decode 2 d.fragment = .ok s) steps u.steps := by
  have hids := Fragment.list_map ImageId.decode_document t.imageIds
  have htime := Timestamp.decode_optional t.serverTime
  have hrevoked : (Document.bool t.keyRevoked).fragment.boolean = .ok t.keyRevoked := rfl
  unfold decode
  refine (structureOf_object (?collect : _ = collectSlots Parts.slots) Parts.independent
    ?start).trans ?_
  case start => exact And.intro rfl (And.intro rfl (And.intro rfl rfl))
  case collect =>
    funext p name f
    split
    · exact once_bind
    · exact once_bind
    · exact once_bind
    · exact once_bind
    · simp_all [Parts.slots, collectSlots]
  simp only [Parts.slots, List.Forall, bind_eq_ok, needed_eq_ok, pure_eq_ok]
  constructor
  · rintro ⟨⟨_, _, time, _⟩, ⟨hsteps, himages, hserver, hkey⟩, found, rfl, ids, rfl, key, rfl, rfl⟩
    simp [Gives, valuesOf, hids, hrevoked] at hsteps himages hkey
    cases time with
    | none => simp [Gives, valuesOf] at hserver
    | some time =>
      simp [Gives, valuesOf, htime] at hserver
      obtain ⟨_, hitems, hall⟩ := Fragment.list_eq_ok.1 hsteps
      cases hitems
      exact ⟨by simp [himages, hserver, hkey], hall⟩
  · rintro ⟨hu, hall⟩
    have hsteps : (Document.array steps).fragment.list (Step.decode 2) = .ok u.steps :=
      Fragment.list_eq_ok.2 ⟨steps, rfl, hall⟩
    refine ⟨⟨some u.steps, some t.imageIds, some t.serverTime, some t.keyRevoked⟩, ?_, _, rfl, _,
      rfl, _, rfl, hu.symm⟩
    simp [Gives, valuesOf, hsteps, hids, htime, hrevoked]

theorem Transcript.decode_document (t : Transcript) : decode t.document.fragment = .ok t := by
  have hdepth : 2 + 3 < Fragment.depthLimit := by decide
  refine decode_documentWith.2 ⟨rfl, List.forall₂_map_left_iff.2 (List.forall₂_same.2 ?_)⟩
  exact fun s _ => s.decode_document hdepth

end Session

/-- Whatever value is written, on one line or on several, the same value is read back. -/
theorem decoded_of_written :
    (∀ t : Timestamp, decodeText Timestamp.decode t.document.text = .ok t) ∧
      (∀ id : ImageId, decodeText ImageId.decode id.document.text = .ok id) ∧
      (∀ image : Image, decodeText Image.decode image.document.text = .ok image) ∧
      (∀ error : ServiceError, decodeText ServiceError.decode error.document.text = .ok error) ∧
      (∀ m : Method, decodeText Method.decode m.document.text = .ok m) ∧
      (∀ r : Session.Request, decodeText Session.Request.decode r.document.text = .ok r) ∧
      (∀ o : Session.Outcome, decodeText (Session.Outcome.decode 0) o.document.text = .ok o) ∧
      (∀ s : Session.Step, decodeText (Session.Step.decode 0) s.document.text = .ok s) ∧
      (∀ t : Session.Transcript, decodeText Session.Transcript.decode t.document.text = .ok t) ∧
      (∀ t : Session.Transcript,
        decodeText Session.Transcript.decode t.document.prettyText = .ok t) ∧
      ∀ s : Settings, decodeText Settings.decode s.document.text = .ok s := by
  simp only [decodeText_text, decodeText_prettyText]
  exact ⟨fun t => Timestamp.decode_eq_ok.2 t.represented_document,
    fun _ => ImageId.decode_eq_ok.2 rfl,
    fun image => Image.decode_eq_ok.2 image.represented_document,
    fun error => ServiceError.decode_eq_ok.2 error.represented_document,
    Method.decode_document,
    fun r => Session.Request.decode_eq_ok.2 r.represented_document,
    fun o => o.decode_document (by decide),
    fun s => s.decode_document (by decide),
    Session.Transcript.decode_document,
    Session.Transcript.decode_document,
    fun s => Settings.decode_eq_ok.2 s.represented_document⟩

end KeyedImages
