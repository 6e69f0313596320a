import KeyedImages.Service.Method

/-! What a session leaves behind: its steps, the ids it was given, and what became of its key. -/
namespace KeyedImages.Session

/-- How a call went. -/
inductive Outcome
  | ok (detail : String)
  | failed (error : ServiceError)
  deriving DecidableEq, Repr

structure Step where
  method : Method
  outcome : Outcome
  deriving DecidableEq, Repr

structure Transcript where
  steps : List Step
  imageIds : List ImageId
  serverTime : Option Timestamp
  keyRevoked : Bool
  deriving DecidableEq, Repr

def Outcome.isFailed : Outcome → Bool
  | .ok _ => false
  | .failed _ => true

/-- A line without its end: the method, the status filled up to eight characters, and the text. -/
def Step.line (s : Step) : List Char :=
  match s.outcome with
  | .ok detail => s.method.name.toList ++ " ok      ".toList ++ detail.toList
  | .failed error => s.method.name.toList ++ " failed  ".toList ++ error.message.toList

namespace Transcript

def empty : Transcript := ⟨[], [], none, false⟩

/-- The number of failed steps. -/
def failures (t : Transcript) : Nat := t.steps.countP (·.outcome.isFailed)

/-- The last line, which has no end. -/
def summary (t : Transcript) : List Char :=
  Text.Numeral.digits t.steps.length ++ " calls, ".toList ++
    Text.Numeral.digits t.imageIds.length ++ " images, key revoked: ".toList ++
    (if t.keyRevoked then "true" else "false").toList

def chars (t : Transcript) : List Char :=
  t.steps.flatMap (fun s => s.line ++ ['\n']) ++ t.summary

def text (t : Transcript) : String := String.ofList t.chars

end Transcript

end KeyedImages.Session
