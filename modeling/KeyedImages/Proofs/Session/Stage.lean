import KeyedImages.Proofs.Text.Numeral
import KeyedImages.Session.Dialogue

/-! The stages of a session, what each asks, and what each makes of the reply. A session is a list
of stages; all that it remembers is read off the exchanges behind it. -/
namespace KeyedImages

namespace Exchange

def error? (x : Exchange) : Option ServiceError := x.call.error? x.reply

/-- The key that an auth was answered with. -/
def issuedKey? : Exchange → Option String
  | ⟨.auth .., .ok key⟩ => some key
  | _ => none

/-- The id that an upload was answered with. -/
def postedId? : Exchange → Option ImageId
  | ⟨.postImage .., .ok id⟩ => some id
  | _ => none

/-- The time that was told. -/
def toldTime? : Exchange → Option Timestamp
  | ⟨.getServerTime _, .ok time⟩ => some time
  | _ => none

/-- Whether the time was refused for the key's sake. -/
def timeRefused : Exchange → Bool
  | ⟨.getServerTime _, .error .invalidKey⟩ => true
  | _ => false

end Exchange

namespace Session

/-- The detail that belongs to a reply. -/
def detail : Exchange → String
  | ⟨.hello _, .ok greeting⟩ => greeting
  | ⟨.auth .., .ok _⟩ => "key issued"
  | ⟨.getServerTime _, .ok time⟩ => time.text
  | ⟨.postImage .., .ok id⟩ => "id " ++ Text.Numeral.ofNat id.number.toNat
  | ⟨.getImage _ id, .ok image⟩ =>
    "id " ++ Text.Numeral.ofNat id.number.toNat ++ ": " ++
      Text.Numeral.ofNat image.data.length ++ " bytes"
  | _ => ""

def outcome (x : Exchange) : Outcome :=
  match x.error? with
  | some e => .failed e
  | none => .ok (detail x)

/-- The step that is recorded of an exchange. -/
def stepOf (x : Exchange) : Step := ⟨x.call.method, outcome x⟩

def heldKey? (past : List Exchange) : Option String := past.findSome? Exchange.issuedKey?

def postedIds (past : List Exchange) : List ImageId := past.filterMap Exchange.postedId?

/-- The transcript of a list of exchanges. Of several times told the first is kept. -/
def Transcript.ofExchanges (past : List Exchange) : Transcript where
  steps := past.map stepOf
  imageIds := postedIds past
  serverTime := past.findSome? Exchange.toldTime?
  keyRevoked := past.any Exchange.timeRefused

/-- A transcript with one more exchange. -/
def Transcript.extend (t : Transcript) (x : Exchange) : Transcript where
  steps := t.steps ++ [stepOf x]
  imageIds := t.imageIds ++ x.postedId?.toList
  serverTime := t.serverTime.or x.toldTime?
  keyRevoked := t.keyRevoked || x.timeRefused

theorem ofExchanges_append (past : List Exchange) (x : Exchange) :
    Transcript.ofExchanges (past ++ [x]) = (Transcript.ofExchanges past).extend x := by
  cases h : x.postedId? <;>
    simp [Transcript.ofExchanges, Transcript.extend, postedIds, List.findSome?_append, h]

inductive Stage
  | hello
  | auth
  | noop
  | serverTime
  | post
  | reserved
  | first
  | reset
  | revoked
  deriving DecidableEq

/-- The stages of a session with `n` uploads. The first image is looked up only if there is one. -/
def plan (n : Nat) : List Stage :=
  .hello :: .auth :: .noop :: .serverTime :: (List.replicate n .post ++
    .reserved :: ((if n = 0 then [] else [.first]) ++ [.reset, .revoked]))

namespace Stage

/-- The call of a stage, with the key in use and the id of the first upload. -/
def call (request : Request) (now : Timestamp) (key : String) (first : ImageId) : Stage → Call
  | .hello => .hello request.name
  | .auth => .auth request.name now
  | .noop => .noop
  | .serverTime | .revoked => .getServerTime key
  | .post => .postImage key Image.empty
  | .reserved => .getImage key ImageId.none
  | .first => .getImage key first
  | .reset => .reset

/-- The call of a stage that comes after `past`. -/
def next (request : Request) (now : Timestamp) (past : List Exchange) (stage : Stage) : Call :=
  stage.call request now ((heldKey? past).getD "") ((postedIds past).head?.getD ImageId.none)

/-- Only the lookup of the reserved id and the last call may fail, each in one way. -/
def expects : Stage → ServiceError → Bool
  | .reserved, .imageNotFound _ => true
  | .revoked, .invalidKey => true
  | _, _ => false

def unexpected? (stage : Stage) (x : Exchange) : Option ServiceError :=
  x.error?.filter fun e => !stage.expects e

/-- What is written when a call succeeds that should have failed. -/
def warnings (stage : Stage) (x : Exchange) : List Log.Record :=
  match stage, x.error? with
  | .reserved, none => [⟨.warn, .session, "GetImage returned an image for the reserved id"⟩]
  | .revoked, none => [⟨.warn, .session, "Service key still accepted after Reset"⟩]
  | _, _ => []

end Stage

/-- The record of a step. A mark behind the name of the method says that its calls present a key. -/
def Step.note (step : Step) : Log.Record :=
  let mark := if step.method.requiresKey then " (keyed)" else ""
  ⟨.debug, .session, match step.outcome with
    | .ok detail => step.method.name ++ mark ++ " -> ok: " ++ detail
    | .failed error => step.method.name ++ mark ++ " -> failed: " ++ error.message⟩

def Stage.notes (stage : Stage) (x : Exchange) : List Log.Record :=
  stage.warnings x ++ [(stepOf x).note]

def startNote (request : Request) : Log.Record :=
  ⟨.info, .session, "Running service session for " ++ Text.quote request.name⟩

/-- The record of a session that succeeds, with the numbers of its calls, images and failures. -/
def endNote (t : Transcript) : Log.Record :=
  ⟨.info, .session, "Session finished: " ++ toString t.steps.length ++ " calls, " ++
    toString t.imageIds.length ++ " images posted, " ++ toString t.failures ++
    " expected failures"⟩

theorem endNote_eq (t : Transcript) : endNote t = ⟨.info, .session, finishedText t⟩ := by
  unfold endNote finishedText
  simp only [Text.Numeral.ofNat_eq_toString]

/-- Breaks off if a reply is not what the stage expects, and otherwise notes it and goes on. -/
def Stage.proceed {α : Type} (stage : Stage) (x : Exchange)
    (rest : Dialogue (Except ServiceError α)) : Dialogue (Except ServiceError α) :=
  match stage.unexpected? x with
  | some e => .done (.error e)
  | none => (stage.notes x).foldr .note rest

/-- Goes through stages, with the exchanges that came before them. -/
def follow (request : Request) (now : Timestamp) :
    List Stage → List Exchange → Dialogue (Except ServiceError Transcript)
  | [], past =>
    let t := Transcript.ofExchanges past
    .note (endNote t) (.done (.ok t))
  | stage :: stages, past =>
    .ask (stage.next request now past) fun reply =>
      let x : Exchange := ⟨stage.next request now past, reply⟩
      stage.proceed x (follow request now stages (past ++ [x]))

end Session

end KeyedImages
