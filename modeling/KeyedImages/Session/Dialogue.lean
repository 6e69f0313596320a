import KeyedImages.Service.Dialogue
import KeyedImages.Session.Transcript
import KeyedImages.Text.Quoted

/-! The session: greeting, key, uploads, two lookups, and a call with the key after a reset. The
lookup of the reserved id and the last call are expected to fail; any other failure ends it. -/
namespace KeyedImages.Session

/-- Who runs a session, and how many images are uploaded in it. -/
structure Request where
  name : String
  images : UInt32
  deriving DecidableEq, Repr

def Request.default : Request := ⟨"a-system", 2⟩

/-- A session under way: it may break off with an error, and keeps its transcript so far. -/
abbrev Progress := ExceptT ServiceError (StateT Transcript Dialogue)

namespace Progress

def note (level : Log.Level) (message : String) : Progress Unit :=
  fun t => .note ⟨level, .session, message⟩ (.done (.ok (), t))

/-- Makes a call and takes its reply as it is. -/
def ask (call : Call) : Progress call.Reply :=
  fun t => .ask call fun reply => .done (.ok reply, t)

/-- Breaks off with the error of a refused call. -/
def orBreak {α : Type} : Except ServiceError α → Progress α
  | .ok value => fun t => .done (.ok value, t)
  | .error e => fun t => .done (.error e, t)

def change (f : Transcript → Transcript) : Progress Unit :=
  fun t => .done (.ok (), f t)

end Progress

open Progress

/-- The name of a method in the log, marked if its calls present a key. -/
def marked (method : Method) : String :=
  method.name ++ if method.requiresKey then " (keyed)" else ""

def record (step : Step) : Progress Unit := do
  match step.outcome with
  | .ok detail => note .debug (marked step.method ++ " -> ok: " ++ detail)
  | .failed error => note .debug (marked step.method ++ " -> failed: " ++ error.message)
  change fun t => { t with steps := t.steps ++ [step] }

def recordOk (method : Method) (detail : String) : Progress Unit := record ⟨method, .ok detail⟩

def recordFailed (method : Method) (error : ServiceError) : Progress Unit :=
  record ⟨method, .failed error⟩

/-- What is recorded of an image that was found. -/
def imageDetail (id : ImageId) (image : Image) : String :=
  "id " ++ id.text ++ ": " ++ Text.Numeral.ofNat image.size ++ " bytes"

def postImages (key : String) : Nat → Progress Unit
  | 0 => pure ()
  | n + 1 => do
    let id ← orBreak (← ask (.postImage key Image.empty))
    change fun t => { t with imageIds := t.imageIds ++ [id] }
    recordOk .postImage ("id " ++ id.text)
    postImages key n

/-- The lookup that should find nothing. -/
def lookUpReserved (key : String) : Progress Unit := do
  match ← ask (.getImage key ImageId.none) with
  | .ok image =>
    note .warn "GetImage returned an image for the reserved id"
    recordOk .getImage (imageDetail ImageId.none image)
  | .error (.imageNotFound id) => recordFailed .getImage (.imageNotFound id)
  | .error e => orBreak (.error e)

/-- The lookup of the first uploaded image, if there is one. -/
def lookUpFirst (key : String) : Progress Unit := do
  match (← get).imageIds.head? with
  | none => pure ()
  | some first =>
    let image ← orBreak (← ask (.getImage key first))
    recordOk .getImage (imageDetail first image)

/-- The call with a key that the reset should have revoked. -/
def tryRevoked (key : String) : Progress Unit := do
  match ← ask (.getServerTime key) with
  | .ok time =>
    note .warn "Service key still accepted after Reset"
    recordOk .getServerTime time.text
  | .error e =>
    if e.isAuth then
      change fun t => { t with keyRevoked := true }
      recordFailed .getServerTime e
    else orBreak (.error e)

def finishedText (t : Transcript) : String :=
  "Session finished: " ++ Text.Numeral.ofNat t.steps.length ++ " calls, " ++
    Text.Numeral.ofNat t.imageIds.length ++ " images posted, " ++
    Text.Numeral.ofNat t.failures ++ " expected failures"

/-- The session from its first to its last call, at a clock that shows `now`. -/
def steps (request : Request) (now : Timestamp) : Progress Unit := do
  note .info ("Running service session for " ++ Text.quote request.name)
  let greeting ← orBreak (← ask (.hello request.name))
  recordOk .hello greeting
  let key ← orBreak (← ask (.auth request.name now))
  recordOk .auth "key issued"
  ask .noop
  recordOk .noop ""
  let time ← orBreak (← ask (.getServerTime key))
  change fun t => { t with serverTime := some time }
  recordOk .getServerTime time.text
  postImages key request.images.toNat
  lookUpReserved key
  lookUpFirst key
  ask .reset
  recordOk .reset ""
  tryRevoked key
  note .info (finishedText (← get))

/-- The session as a dialogue. The transcript is lost when the session breaks off. -/
def dialogue (request : Request) (now : Timestamp) : Dialogue (Except ServiceError Transcript) := do
  let (result, transcript) ← (steps request now).run Transcript.empty
  pure (result.map fun () => transcript)

end KeyedImages.Session
