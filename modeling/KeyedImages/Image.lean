import KeyedImages.Text.Numeral

/-! Images as opaque bytes, and the ids under which a service keeps them. -/
namespace KeyedImages

/-- Handle of an uploaded image. -/
structure ImageId where
  number : UInt64
  deriving DecidableEq, Repr, Inhabited

namespace ImageId

/-- The reserved id, which never names an image. -/
def none : ImageId := ⟨0⟩

def isNone (id : ImageId) : Bool := id.number == 0

theorem isNone_iff {id : ImageId} : id.isNone = true ↔ id = none := by
  cases id
  simp [isNone, none]

def compare (a b : ImageId) : Ordering := Ord.compare a.number b.number

def text (id : ImageId) : String := Text.Numeral.ofNat id.number.toNat

def fieldText (id : ImageId) : String := "ImageId(" ++ id.text ++ ")"

end ImageId

/-- Bytes, and the type of their content if it is known. -/
structure Image where
  data : List UInt8
  contentType : Option String
  deriving DecidableEq, Repr, Inhabited

namespace Image

/-- The image of no bytes and no known type. -/
def empty : Image := ⟨[], .none⟩

def isEmpty (image : Image) : Bool := image.data.isEmpty

def size (image : Image) : Nat := image.data.length

end Image

end KeyedImages
