import KeyedImages.Json.Failure

/-! Decoding fragments: plain values, and structures given by their members or by their fields in
order. -/
namespace KeyedImages.Json

namespace Fragment

/-- A whole number between two bounds. -/
def integer (least greatest : Int) (expected : String) : Fragment → Decoded Int
  | .number n =>
    match n.quantity? with
    | none => throw .malformed
    | some (.integer i) =>
      if least ≤ i ∧ i ≤ greatest then pure i else throw (.invalidValue (.integer i) expected)
    | some (.float f) => throw (.invalidType (.float f) expected)
  | f => f.unexpected expected

def int64 (f : Fragment) : Decoded Int64 :=
  Int64.ofInt <$> f.integer Int64.minValue.toInt Int64.maxValue.toInt "i64"

/-- A number below a bound. -/
def natural (bound : Nat) (expected : String) (f : Fragment) : Decoded Nat :=
  Int.toNat <$> f.integer 0 (bound - 1) expected

def uint8 (f : Fragment) : Decoded UInt8 :=
  UInt8.ofNat <$> f.natural UInt8.size "u8"

def uint32 (f : Fragment) : Decoded UInt32 :=
  UInt32.ofNat <$> f.natural UInt32.size "u32"

def uint64 (f : Fragment) : Decoded UInt64 :=
  UInt64.ofNat <$> f.natural UInt64.size "u64"

def boolean : Fragment → Decoded Bool
  | .bool b => pure b
  | f => f.unexpected "a boolean"

def textOf : Fragment → Decoded String
  | .string (some s) => pure s
  | f => f.unexpected "a string"

/-- Null stands for no value. -/
def optional {α : Type} (decode : Fragment → Decoded α) : Fragment → Decoded (Option α)
  | .null => pure none
  | f => some <$> decode f

/-- The items of an array, one after the other. -/
def list {α : Type} (decode : Fragment → Decoded α) : Fragment → Decoded (List α)
  | .array items closed => do
    let values ← items.mapM decode
    if closed then pure values else throw .malformed
  | f => f.unexpected "a sequence"

/-- A value that is read over. -/
def ignore (f : Fragment) : Decoded Unit :=
  if f.isWhole then pure () else throw .malformed

end Fragment

/-- The items of an array that are still to be decoded, and whether the array is closed behind
them. -/
structure Items where
  rest : List Fragment
  closed : Bool

/-- Decodes fields from items in order. -/
abbrev InOrder := StateT Items Decoded

namespace InOrder

/-- The next item, none behind the last. -/
def next : InOrder (Option Fragment) := fun items =>
  match items.rest with
  | f :: rest => pure (some f, { items with rest })
  | [] => if items.closed then pure (none, items) else throw .malformed

/-- A field that must be there, after as many others as `position` says. -/
def field {α : Type} (position : Nat) (expected : String) (decode : Fragment → Decoded α) :
    InOrder α := do
  match ← next with
  | some f => decode f
  | none => throw (.invalidLength position expected)

/-- A field that may be left out together with those behind it. -/
def fieldOr {α : Type} (default : α) (decode : Fragment → Decoded α) : InOrder α := do
  match ← next with
  | some f => decode f
  | none => pure default

/-- Decodes all fields of an array; nothing may be left. -/
def all {α : Type} (fields : InOrder α) (rest : List Fragment) (closed : Bool) : Decoded α := do
  let (value, items) ← fields.run ⟨rest, closed⟩
  if items.rest.isEmpty && items.closed then pure value else throw .malformed

end InOrder

/-- What to do with the member of a name: nothing is known of it, or it changes what was collected.
-/
abbrev Collect (σ : Type) := σ → String → Fragment → Decoded σ

/-- Goes through the members of an object in the order of the text. -/
def collectMembers {σ : Type} (collect : Collect σ) (s : σ) :
    List (Option String × Fragment) → Ending → Decoded σ
  | [], .closed => pure s
  | [], _ => throw .malformed
  | (none, _) :: _, _ => throw .malformed
  | (some name, f) :: members, ending => do
    let s ← collect s name f
    collectMembers collect s members ending

/-- Decodes a member that may occur once. -/
def once {α : Type} (name : String) (old : Option α) (decode : Fragment → Decoded α)
    (f : Fragment) : Decoded (Option α) :=
  if old.isSome then throw (.duplicateField name) else some <$> decode f

/-- A member that must have occurred. -/
def needed {α : Type} (name : String) : Option α → Decoded α
  | some value => pure value
  | none => throw (.missingField name)

/-- A structure: an array of its fields in order, or an object. -/
def structureOf {α σ : Type} (expected : String) (fields : InOrder α) (collect : Collect σ)
    (start : σ) (finish : σ → Decoded α) : Fragment → Decoded α
  | .array items closed => fields.all items closed
  | .object members ending => do finish (← collectMembers collect start members ending)
  | f => f.unexpected expected

/-- Decodes a text as a whole: behind the value there may be blanks only. -/
def decodeText {α : Type} (decode : Fragment → Decoded α) (text : String) : Decoded α := do
  let (f, more) := Fragment.read text.toList
  let value ← decode f
  if more then throw .malformed else pure value

end KeyedImages.Json
