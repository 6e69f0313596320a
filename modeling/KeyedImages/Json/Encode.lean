import KeyedImages.Json.Document
import KeyedImages.Session.Dialogue
import KeyedImages.Settings.Basic

/-! How the values of the program are written as documents. -/
namespace KeyedImages

open Json (Document)

def Timestamp.document (t : Timestamp) : Document :=
  .object [("seconds", .number t.seconds.toInt), ("nanos", .number t.nanos.toNat)]

def ImageId.document (id : ImageId) : Document := .number id.number.toNat

/-- No type of content, no member. -/
def Image.document (image : Image) : Document :=
  .object <| ("data", .array (image.data.map fun b => .number b.toNat)) ::
    match image.contentType with
    | none => []
    | some t => [("content_type", .string t)]

def Method.document (m : Method) : Document := .string m.name

/-- The name alone, or an object whose one member has the name and holds the fields. -/
def ServiceError.document : ServiceError → Document
  | .invalidKey => .string "InvalidKey"
  | .imageNotFound id => .object [("ImageNotFound", .object [("id", id.document)])]

namespace Session

def Request.document (r : Request) : Document :=
  .object [("name", .string r.name), ("images", .number r.images.toNat)]

/-- The status in front of the one field that goes with it. -/
def Outcome.document : Outcome → Document
  | .ok detail => .object [("status", .string "ok"), ("detail", .string detail)]
  | .failed error => .object [("status", .string "failed"), ("error", error.document)]

def Step.document (s : Step) : Document :=
  .object [("method", s.method.document), ("outcome", s.outcome.document)]

def Transcript.document (t : Transcript) : Document :=
  .object [("steps", .array (t.steps.map Step.document)),
    ("image_ids", .array (t.imageIds.map ImageId.document)),
    ("server_time", t.serverTime.elim .null Timestamp.document),
    ("key_revoked", .bool t.keyRevoked)]

end Session

def LogSettings.document (s : LogSettings) : Document := .object [("level", .string s.level)]

def ServiceSettings.document (s : ServiceSettings) : Document :=
  .object [("key", s.key.elim .null .string), ("client_name", .string s.clientName),
    ("images", .number s.images.toNat)]

def Settings.document (s : Settings) : Document :=
  .object [("service", s.service.document), ("log", s.log.document)]

end KeyedImages
