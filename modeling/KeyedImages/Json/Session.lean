import KeyedImages.Json.Kept
import KeyedImages.Session.Dialogue
import KeyedImages.Settings.Basic

/-! Decoding requests, transcripts and settings. An outcome's status may stand behind its field. -/
namespace KeyedImages

open Json

namespace Session

structure Request.Parts where
  name : Option String := none
  images : Option UInt32 := none

def Request.decode : Fragment → Decoded Request :=
  structureOf "struct RunRequest"
    (do
      let expected := "struct RunRequest with 2 elements"
      let name ← InOrder.field 0 expected Fragment.textOf
      let images ← InOrder.field 1 expected Fragment.uint32
      pure ⟨name, images⟩)
    (fun (p : Parts) name f => do
      match name with
      | "name" => pure { p with name := ← once name p.name Fragment.textOf f }
      | "images" => pure { p with images := ← once name p.images Fragment.uint32 f }
      | _ => f.ignore; pure p)
    {}
    (fun p => do
      let name ← needed "name" p.name
      let images ← needed "images" p.images
      pure ⟨name, images⟩)

namespace Outcome

inductive Status
  | ok
  | failed
  deriving DecidableEq, Repr

def Status.ofName : String → Decoded Status
  | "ok" => pure .ok
  | "failed" => pure .failed
  | name => throw (.unknownVariant name ["ok", "failed"])

def Status.decode : Fragment → Decoded Status
  | .string (some name) => ofName name
  | f => f.unexpected "variant identifier"

/-- The outcome of a status, from all that was kept besides. -/
def ofKept (status : Status) (kept : Fragment) : Decoded Outcome :=
  match status with
  | .ok => .ok <$> keptField "struct variant Outcome::Ok" "detail" Fragment.textOf kept
  | .failed =>
    .failed <$> keptField "struct variant Outcome::Failed" "error" ServiceError.decodeKept kept

/-- The status that was met, and the other members in order. -/
abbrev Kept := Option Status × List (Option String × Fragment)

/-- Decodes a status on sight and keeps everything else, inside as many open containers as given. -/
def collect (opened : Nat) : Collect Kept := fun (status, others) name f =>
  if name = "status" then return (← once name status Status.decode f, others)
  else if f.canKeep opened then pure (status, others ++ [(some name, f)])
  else throw .malformed

/-- Decodes an outcome inside as many open containers as given. -/
def decode (opened : Nat) : Fragment → Decoded Outcome
  | .object members ending => do
    let (status, others) ← collectMembers (collect (opened + 1)) (none, []) members ending
    ofKept (← needed "status" status) (.object others .closed)
  | .array items closed => do
    match items with
    | [] => if closed then throw (.missingField "status") else throw .malformed
    | tag :: rest =>
      let status ← Status.decode tag
      if Fragment.canKeepAll (opened + 1) rest && closed then ofKept status (.array rest true)
      else throw .malformed
  | f => f.unexpected "internally tagged enum Outcome"

end Outcome

structure Step.Parts where
  method : Option Method := none
  outcome : Option Outcome := none

def Step.decode (opened : Nat) : Fragment → Decoded Step :=
  structureOf "struct Step"
    (do
      let expected := "struct Step with 2 elements"
      let method ← InOrder.field 0 expected Method.decode
      let outcome ← InOrder.field 1 expected (Outcome.decode (opened + 1))
      pure ⟨method, outcome⟩)
    (fun (p : Parts) name f => do
      match name with
      | "method" => pure { p with method := ← once name p.method Method.decode f }
      | "outcome" =>
        pure { p with outcome := ← once name p.outcome (Outcome.decode (opened + 1)) f }
      | _ => f.ignore; pure p)
    {}
    (fun p => do
      let method ← needed "method" p.method
      let outcome ← needed "outcome" p.outcome
      pure ⟨method, outcome⟩)

structure Transcript.Parts where
  steps : Option (List Step) := none
  imageIds : Option (List ImageId) := none
  serverTime : Option (Option Timestamp) := none
  keyRevoked : Option Bool := none

/-- The steps stand inside two containers. The server time may be left out of an object. -/
def Transcript.decode : Fragment → Decoded Transcript :=
  let steps := Fragment.list (Step.decode 2)
  let imageIds := Fragment.list ImageId.decode
  let serverTime := Fragment.optional Timestamp.decode
  structureOf "struct Transcript"
    (do
      let expected := "struct Transcript with 4 elements"
      let steps ← InOrder.field 0 expected steps
      let imageIds ← InOrder.field 1 expected imageIds
      let serverTime ← InOrder.field 2 expected serverTime
      let keyRevoked ← InOrder.field 3 expected Fragment.boolean
      pure ⟨steps, imageIds, serverTime, keyRevoked⟩)
    (fun (p : Parts) name f => do
      match name with
      | "steps" => pure { p with steps := ← once name p.steps steps f }
      | "image_ids" => pure { p with imageIds := ← once name p.imageIds imageIds f }
      | "server_time" => pure { p with serverTime := ← once name p.serverTime serverTime f }
      | "key_revoked" => pure { p with keyRevoked := ← once name p.keyRevoked Fragment.boolean f }
      | _ => f.ignore; pure p)
    {}
    (fun p => do
      let steps ← needed "steps" p.steps
      let imageIds ← needed "image_ids" p.imageIds
      let keyRevoked ← needed "key_revoked" p.keyRevoked
      pure ⟨steps, imageIds, p.serverTime.getD none, keyRevoked⟩)

end Session

structure LogSettings.Parts where
  level : Option String := none

def LogSettings.decode : Fragment → Decoded LogSettings :=
  structureOf "struct LogConfig"
    (LogSettings.mk <$> InOrder.field 0 "struct LogConfig with 1 element" Fragment.textOf)
    (fun (p : Parts) name f => do
      match name with
      | "level" => pure { p with level := ← once name p.level Fragment.textOf f }
      | _ => f.ignore; pure p)
    {}
    (fun p => do pure ⟨← needed "level" p.level⟩)

structure ServiceSettings.Parts where
  key : Option (Option String) := none
  clientName : Option String := none
  images : Option UInt32 := none

/-- The key may be left out. -/
def ServiceSettings.decode : Fragment → Decoded ServiceSettings :=
  let key := Fragment.optional Fragment.textOf
  structureOf "struct ServiceSettings"
    (do
      let expected := "struct ServiceSettings with 3 elements"
      let key ← InOrder.fieldOr none key
      let clientName ← InOrder.field 1 expected Fragment.textOf
      let images ← InOrder.field 2 expected Fragment.uint32
      pure ⟨key, clientName, images⟩)
    (fun (p : Parts) name f => do
      match name with
      | "key" => pure { p with key := ← once name p.key key f }
      | "client_name" => pure { p with clientName := ← once name p.clientName Fragment.textOf f }
      | "images" => pure { p with images := ← once name p.images Fragment.uint32 f }
      | _ => f.ignore; pure p)
    {}
    (fun p => do
      let clientName ← needed "client_name" p.clientName
      let images ← needed "images" p.images
      pure ⟨p.key.getD none, clientName, images⟩)

structure Settings.Parts where
  service : Option ServiceSettings := none
  log : Option LogSettings := none

def Settings.decode : Fragment → Decoded Settings :=
  structureOf "struct Settings"
    (do
      let expected := "struct Settings with 2 elements"
      let service ← InOrder.field 0 expected ServiceSettings.decode
      let log ← InOrder.field 1 expected LogSettings.decode
      pure ⟨service, log⟩)
    (fun (p : Parts) name f => do
      match name with
      | "service" => pure { p with service := ← once name p.service ServiceSettings.decode f }
      | "log" => pure { p with log := ← once name p.log LogSettings.decode f }
      | _ => f.ignore; pure p)
    {}
    (fun p => do
      let service ← needed "service" p.service
      let log ← needed "log" p.log
      pure ⟨service, log⟩)

end KeyedImages
