import KeyedImages.Json.Decode
import KeyedImages.Service.Method

/-! Decoding what a service deals in: timestamps, images, methods and errors. -/
namespace KeyedImages

open Json

/-- Seconds and nanoseconds, as far as they have been met. -/
structure Timestamp.Parts where
  seconds : Option Int64 := none
  nanos : Option UInt32 := none

def Timestamp.decode : Fragment → Decoded Timestamp :=
  structureOf "struct Timestamp"
    (do
      let expected := "struct Timestamp with 2 elements"
      let seconds ← InOrder.field 0 expected Fragment.int64
      let nanos ← InOrder.field 1 expected Fragment.uint32
      pure ⟨seconds, nanos⟩)
    (fun (p : Parts) name f => do
      match name with
      | "seconds" => pure { p with seconds := ← once name p.seconds Fragment.int64 f }
      | "nanos" => pure { p with nanos := ← once name p.nanos Fragment.uint32 f }
      | _ => f.ignore; pure p)
    {}
    (fun p => do
      let seconds ← needed "seconds" p.seconds
      let nanos ← needed "nanos" p.nanos
      pure ⟨seconds, nanos⟩)

def ImageId.decode (f : Fragment) : Decoded ImageId := ImageId.mk <$> f.uint64

structure Image.Parts where
  data : Option (List UInt8) := none
  contentType : Option (Option String) := none

/-- Both fields may be left out. -/
def Image.decode : Fragment → Decoded Image :=
  structureOf "struct Image"
    (do
      let data ← InOrder.fieldOr [] (Fragment.list Fragment.uint8)
      let contentType ← InOrder.fieldOr none (Fragment.optional Fragment.textOf)
      pure ⟨data, contentType⟩)
    (fun (p : Parts) name f => do
      match name with
      | "data" => pure { p with data := ← once name p.data (Fragment.list Fragment.uint8) f }
      | "content_type" =>
        let contentType ← once name p.contentType (Fragment.optional Fragment.textOf) f
        pure { p with contentType }
      | _ => f.ignore; pure p)
    {}
    (fun p => pure ⟨p.data.getD [], p.contentType.getD none⟩)

/-- What stands where the name of a variant should. -/
def Json.Token.unexpectedName {α : Type} (t : Token) : Decoded α :=
  match t with
  | .openArray => throw (.invalidType .sequence "variant identifier")
  | .openObject => throw (.invalidType .map "variant identifier")
  | t => ((Fragment.ofToken? t).getD .missing).unexpected "variant identifier"

/-- A variant: its name alone, or an object with one member, whose value is the body. -/
def Json.Fragment.variant {α : Type} (bare : String → Decoded α)
    (withBody : String → Fragment → Decoded α) : Fragment → Decoded α
  | .string (some name) => bare name
  | .object ((some name, body) :: more) ending => do
    let value ← withBody name body
    if more.isEmpty && ending == .closed then pure value else throw .malformed
  | .object [] (.strayKey t) => t.unexpectedName
  | _ => throw .malformed

/-- The body of a variant that has none. -/
def Json.Fragment.unit : Fragment → Decoded Unit
  | .null => pure ()
  | f => f.unexpected "unit"

def Method.ofName (name : String) : Decoded Method :=
  match Method.ofName? name with
  | some m => pure m
  | none => throw (.unknownVariant name (Method.all.map Method.name))

def Method.decode : Fragment → Decoded Method :=
  Fragment.variant Method.ofName fun name body => do
    let m ← Method.ofName name
    body.unit
    pure m

namespace ServiceError

/-- The kinds of errors, without what they carry. -/
inductive Kind
  | invalidKey
  | imageNotFound

def Kind.ofName : String → Decoded Kind
  | "InvalidKey" => pure .invalidKey
  | "ImageNotFound" => pure .imageNotFound
  | name => throw (.unknownVariant name ["InvalidKey", "ImageNotFound"])

/-- The error of a name without a body. -/
def ofBareName (name : String) : Decoded ServiceError := do
  match ← Kind.ofName name with
  | .invalidKey => pure .invalidKey
  | .imageNotFound => throw (.invalidType .unitVariant "struct variant")

def collectId : Collect (Option ImageId) := fun id name f =>
  if name = "id" then once name id ImageId.decode f else do f.ignore; pure id

/-- What an image was not found under. -/
def idField : InOrder ImageId :=
  InOrder.field 0 "struct variant ServiceError::ImageNotFound with 1 element" ImageId.decode

def decode : Fragment → Decoded ServiceError :=
  Fragment.variant ofBareName fun name body => do
    match ← Kind.ofName name with
    | .invalidKey => body.unit; pure .invalidKey
    | .imageNotFound =>
      .imageNotFound <$> structureOf "struct variant ServiceError::ImageNotFound" idField collectId
        none (needed "id") body

end ServiceError

end KeyedImages
