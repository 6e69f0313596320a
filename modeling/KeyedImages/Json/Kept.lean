import KeyedImages.Json.Service

/-! Decoding values that were kept whole before their type was known. They are known to be whole,
and so nothing in them is malformed any more. -/
namespace KeyedImages

open Json

namespace Json

/-- A structure of one field, given in order or by name. -/
def keptField {α : Type} (expected name : String) (decode : Fragment → Decoded α) :
    Fragment → Decoded α
  | .array [] _ => throw (.invalidLength 0 (expected ++ " with 1 element"))
  | .array (f :: rest) _ => do
    let value ← decode f
    if rest.isEmpty then pure value
    else throw (.invalidLength (1 + rest.length) "1 element in sequence")
  | .object members ending => do
    let collect : Collect (Option α) := fun old k f =>
      if k = name then once name old decode f else pure old
    needed name (← collectMembers collect none members ending)
  | f => f.unexpected "struct variant"

end Json

namespace ServiceError

/-- The error of a kept value. An empty object is as good as no body. -/
def decodeKept : Fragment → Decoded ServiceError
  | .string (some name) => ofBareName name
  | .object [(some name, body)] _ => do
    match ← Kind.ofName name with
    | .invalidKey =>
      match body with
      | .object [] _ => pure .invalidKey
      | body => body.unit; pure .invalidKey
    | .imageNotFound =>
      .imageNotFound <$>
        keptField "struct variant ServiceError::ImageNotFound" "id" ImageId.decode body
  | .object .. => throw (.invalidValue .map "map with a single key")
  | f => f.unexpected "string or map"

end ServiceError

end KeyedImages
