import KeyedImages.Service.Dialogue
import KeyedImages.ServiceKey
import KeyedImages.Text.Quoted

/-! A service that stands in for a real one: it keeps a key and a counter, and no images. -/
namespace KeyedImages

/-- The current key, and the last id that was given out. -/
structure MockService where
  key : ServiceKey
  lastId : UInt64
  deriving DecidableEq

namespace MockService

def new (key : ServiceKey) : MockService := ⟨key, 0⟩

/-- What a greeting starts with. -/
def greetingStart : String := "Good to go "

/-- Goes on with a value if a token matches, and gives the refusal otherwise. -/
def guarded {α : Type} (s : MockService) (token : String)
    (accept : Except ServiceError α × MockService × List Log.Record) :
    Except ServiceError α × MockService × List Log.Record :=
  match s.key.check token with
  | (.ok (), records) => (accept.1, accept.2.1, records ++ accept.2.2)
  | (.error e, records) => (.error e, s, records)

/-- Gives out the next id. -/
def accept (s : MockService) (image : Image) :
    Except ServiceError ImageId × MockService × List Log.Record :=
  let id : ImageId := ⟨s.lastId + 1⟩
  (.ok id, { s with lastId := id.number },
    [⟨.debug, .mock, "Accepted image of " ++ Text.Numeral.ofNat image.size ++ " bytes as id " ++
      id.text⟩])

/-- Every image that was or was not uploaded is empty; only the reserved id names none. -/
def lookUp (s : MockService) (id : ImageId) :
    Except ServiceError Image × MockService × List Log.Record :=
  (if id.isNone then .error (.imageNotFound id) else .ok Image.empty, s, [])

/-- Answers a call. The key is checked before anything else is looked at. -/
def answer (s : MockService) : (call : Call) → call.Reply × MockService × List Log.Record
  | .auth name _ =>
    (.ok s.key.secret, s, [⟨.debug, .mock, "Auth requested by " ++ Text.quote name⟩])
  | .getServerTime key => s.guarded key (.ok Timestamp.zero, s, [])
  | .hello name => (.ok (greetingStart ++ name), s, [])
  | .noop => ((), s, [])
  | .postImage key image => s.guarded key (s.accept image)
  | .getImage key id => s.guarded key (s.lookUp id)
  | .reset =>
    let (key, records) := s.key.clear
    ((), { s with key }, records ++ [⟨.info, .mock, "Mock service reset"⟩])

def service : Service MockService := ⟨answer⟩

/-- What can be done with the stand-in: calls of the interface, a new key, and two questions. -/
inductive Operation
  | call (call : Call)
  | provision (key : String)
  | posted
  | isProvisioned
  deriving DecidableEq

@[reducible] def Operation.Result : Operation → Type
  | .call c => c.Reply
  | .provision _ => Unit
  | .posted => UInt64
  | .isProvisioned => Bool

/-- Performs an operation. A new key keeps the counter. -/
def perform (s : MockService) : (op : Operation) → op.Result × MockService × List Log.Record
  | .call c => s.answer c
  | .provision secret =>
    let (key, records) := s.key.provision secret
    ((), { s with key }, records)
  | .posted => (s.lastId, s, [])
  | .isProvisioned => (s.key.isProvisioned, s, [])

/-- Shows whether there is a key, and the counter. -/
def fieldText (s : MockService) : String :=
  "MockService \x7b state: Mutex \x7b data: MockState \x7b key: " ++ s.key.fieldText ++
    ", last_id: " ++ Text.Numeral.ofNat s.lastId.toNat ++ " \x7d \x7d \x7d"

end MockService

end KeyedImages
