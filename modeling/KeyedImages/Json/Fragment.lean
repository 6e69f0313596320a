import KeyedImages.Json.Token

/-! What can be read of a text that may break off: a tree with a mark wherever it is not whole. -/
namespace KeyedImages.Json

/-- How the members of an object end: with its brace, at a token that should have been a key, or in
some other way. -/
inductive Ending
  | closed
  | strayKey (t : Token)
  | broken
  deriving DecidableEq, Repr

/-- A value as far as it can be read. Nothing follows what is not whole: an array that is not closed
is the last item of its array, and so on. -/
inductive Fragment
  /-- Nothing that could start a value. -/
  | missing
  | null
  | bool (b : Bool)
  | number (n : Number)
  /-- A string, without its text when its escapes name no characters. -/
  | string (s : Option String)
  | array (items : List Fragment) (closed : Bool)
  | object (members : List (Option String × Fragment)) (ending : Ending)

namespace Fragment

/-- A container that is still open, with its items or members so far in reverse. -/
inductive Frame
  | items (before : List Fragment)
  | members (before : List (Option String × Fragment))
  /-- An object behind a key. -/
  | member (before : List (Option String × Fragment)) (key : Option String)

/-- What may come next. -/
inductive Place
  | value
  | valueOrEnd
  | key
  | keyOrEnd
  | colon
  | commaOrEnd
  deriving DecidableEq, Repr

/-- Leaves all open containers as they are, the innermost with one more value. -/
def breakOff : Fragment → List Frame → Fragment
  | f, [] => f
  | .missing, .items before :: frames => breakOff (.array before.reverse false) frames
  | f, .items before :: frames => breakOff (.array (f :: before).reverse false) frames
  | f, .member before key :: frames =>
    breakOff (.object ((key, f) :: before).reverse .broken) frames
  | _, .members before :: frames => breakOff (.object before.reverse .broken) frames

/-- The value of a token that is one by itself. -/
def ofToken? : Token → Option Fragment
  | .null => some .null
  | .bool b => some (.bool b)
  | .number n => some (.number n)
  | .string s => some (.string s)
  | _ => none

/-- The open containers after a value was completed. -/
def put (f : Fragment) : List Frame → List Frame
  | .items before :: frames => .items (f :: before) :: frames
  | .member before key :: frames => .members ((key, f) :: before) :: frames
  | frames => frames

/-- Goes through the tokens with the containers that are open, and gives the first value and the
tokens behind it. -/
def ofTokens : List Frame → Place → List Token → Fragment × List Token
  | frames, _, [] => (breakOff .missing frames, [])
  | frames, place, t :: ts =>
    let complete (f : Fragment) (frames : List Frame) : Fragment × List Token :=
      if frames.isEmpty then (f, ts) else ofTokens (put f frames) .commaOrEnd ts
    match place, t, frames with
    | .valueOrEnd, .closeArray, .items before :: frames
    | .commaOrEnd, .closeArray, .items before :: frames =>
      complete (.array before.reverse true) frames
    | .keyOrEnd, .closeObject, .members before :: frames
    | .commaOrEnd, .closeObject, .members before :: frames =>
      complete (.object before.reverse .closed) frames
    | .commaOrEnd, .comma, .items before :: frames => ofTokens (.items before :: frames) .value ts
    | .commaOrEnd, .comma, .members before :: frames =>
      ofTokens (.members before :: frames) .key ts
    | .key, .string s, .members before :: frames
    | .keyOrEnd, .string s, .members before :: frames =>
      ofTokens (.member before s :: frames) .colon ts
    | .key, t, .members before :: frames
    | .keyOrEnd, t, .members before :: frames =>
      (breakOff (.object before.reverse (.strayKey t)) frames, ts)
    | .colon, .colon, frames => ofTokens frames .value ts
    | .value, .openArray, frames
    | .valueOrEnd, .openArray, frames => ofTokens (.items [] :: frames) .valueOrEnd ts
    | .value, .openObject, frames
    | .valueOrEnd, .openObject, frames => ofTokens (.members [] :: frames) .keyOrEnd ts
    | .value, t, frames
    | .valueOrEnd, t, frames =>
      match ofToken? t with
      | some f => complete f frames
      | none => (breakOff .missing frames, ts)
    | _, _, frames => (breakOff .missing frames, ts)

/-- Reads a text: its first value, and whether anything follows it. -/
def read (cs : List Char) : Fragment × Bool :=
  let (f, rest) := ofTokens [] .value (tokens cs)
  (f, !rest.isEmpty)

mutual

/-- Whether everything is there that the value needs. -/
def isWhole : Fragment → Bool
  | .missing => false
  | .null | .bool _ | .number _ | .string _ => true
  | .array items closed => closed && areWhole items
  | .object members ending => ending == .closed && membersAreWhole members

def areWhole : List Fragment → Bool
  | [] => true
  | f :: fs => f.isWhole && areWhole fs

def membersAreWhole : List (Option String × Fragment) → Bool
  | [] => true
  | (_, f) :: ms => f.isWhole && membersAreWhole ms

end

/-- The number of containers that may be open at once in a value that is kept. -/
def depthLimit : Nat := 127

mutual

/-- Whether a value can be kept: it is whole, its strings and numbers have values, and with the
containers already open it is not nested beyond the limit. -/
def canKeep (opened : Nat) : Fragment → Bool
  | .missing => false
  | .null | .bool _ => true
  | .number n => n.quantity?.isSome
  | .string s => s.isSome
  | .array items closed => opened < depthLimit && closed && canKeepAll (opened + 1) items
  | .object members ending =>
    opened < depthLimit && ending == .closed && canKeepMembers (opened + 1) members

def canKeepAll (opened : Nat) : List Fragment → Bool
  | [] => true
  | f :: fs => f.canKeep opened && canKeepAll opened fs

def canKeepMembers (opened : Nat) : List (Option String × Fragment) → Bool
  | [] => true
  | (k, f) :: ms => k.isSome && f.canKeep opened && canKeepMembers opened ms

end

end Fragment

end KeyedImages.Json
