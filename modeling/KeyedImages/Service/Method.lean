import KeyedImages.Image
import KeyedImages.Timestamp

/-! The interface of a keyed image service: its methods, its errors, and calls with their replies.
-/
namespace KeyedImages

/-- The methods of a service. -/
inductive Method
  | auth
  | getServerTime
  | hello
  | noop
  | postImage
  | getImage
  | reset
  deriving DecidableEq, Repr

namespace Method

/-- All methods, in the order of the interface. -/
def all : List Method :=
  [.auth, .getServerTime, .hello, .noop, .postImage, .getImage, .reset]

def name : Method → String
  | .auth => "Auth"
  | .getServerTime => "GetServerTime"
  | .hello => "Hello"
  | .noop => "Noop"
  | .postImage => "PostImage"
  | .getImage => "GetImage"
  | .reset => "Reset"

/-- Whether a call of the method presents a key. -/
def requiresKey : Method → Bool
  | .getServerTime | .postImage | .getImage => true
  | .auth | .hello | .noop | .reset => false

def ofName? (s : String) : Option Method := all.find? (·.name == s)

end Method

/-- Why a service refuses a call. -/
inductive ServiceError
  | invalidKey
  | imageNotFound (id : ImageId)
  deriving DecidableEq, Repr

namespace ServiceError

def message : ServiceError → String
  | .invalidKey => "invalid service key"
  | .imageNotFound _ => "image not found"

/-- Whether the caller's key is at fault and not the request. -/
def isAuth : ServiceError → Bool
  | .invalidKey => true
  | .imageNotFound _ => false

def name : ServiceError → String
  | .invalidKey => "InvalidKey"
  | .imageNotFound _ => "ImageNotFound"

def fieldText : ServiceError → String
  | .invalidKey => "InvalidKey"
  | .imageNotFound id => "ImageNotFound \x7b id: " ++ id.fieldText ++ " \x7d"

end ServiceError

/-- A call of a service with its arguments. -/
inductive Call
  | auth (name : String) (time : Timestamp)
  | getServerTime (key : String)
  | hello (name : String)
  | noop
  | postImage (key : String) (image : Image)
  | getImage (key : String) (id : ImageId)
  | reset
  deriving DecidableEq, Repr

namespace Call

/-- What a call is answered with. Noop and reset cannot be refused. -/
@[reducible] def Reply : Call → Type
  | .auth .. => Except ServiceError String
  | .getServerTime _ => Except ServiceError Timestamp
  | .hello _ => Except ServiceError String
  | .noop => Unit
  | .postImage .. => Except ServiceError ImageId
  | .getImage .. => Except ServiceError Image
  | .reset => Unit

def method : Call → Method
  | .auth .. => .auth
  | .getServerTime _ => .getServerTime
  | .hello _ => .hello
  | .noop => .noop
  | .postImage .. => .postImage
  | .getImage .. => .getImage
  | .reset => .reset

/-- The key that a call presents. -/
def key? : Call → Option String
  | .getServerTime key | .postImage key _ | .getImage key _ => some key
  | .auth .. | .hello _ | .noop | .reset => none

theorem isSome_key? (c : Call) : c.key?.isSome = c.method.requiresKey := by
  cases c <;> rfl

/-- The error of a refused call. -/
def error? : (c : Call) → c.Reply → Option ServiceError
  | .auth .., .error e | .getServerTime _, .error e | .hello _, .error e
  | .postImage .., .error e | .getImage .., .error e => some e
  | .auth .., .ok _ | .getServerTime _, .ok _ | .hello _, .ok _
  | .postImage .., .ok _ | .getImage .., .ok _ | .noop, _ | .reset, _ => none

end Call

end KeyedImages
