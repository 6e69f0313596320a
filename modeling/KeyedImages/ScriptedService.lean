import KeyedImages.Service.Dialogue

/-! A service that gives prepared replies, whatever keys and names it is called with. -/
namespace KeyedImages

/-- Prepared replies of one method. They are given in order, and the last one again and again. -/
structure Replies (α : Type) where
  next : α
  later : List α

namespace Replies

variable {α : Type}

def take (r : Replies α) : α × Replies α :=
  match r.later with
  | [] => (r.next, r)
  | next :: later => (r.next, ⟨next, later⟩)

def ofList? : List α → Option (Replies α)
  | [] => none
  | next :: later => some ⟨next, later⟩

end Replies

structure ScriptedService where
  hello : Replies (Except ServiceError String)
  auth : Replies (Except ServiceError String)
  getServerTime : Replies (Except ServiceError Timestamp)
  postImage : Replies (Except ServiceError ImageId)
  getImage : Replies (Except ServiceError Image)

namespace ScriptedService

def answer (s : ScriptedService) : (call : Call) → call.Reply × ScriptedService × List Log.Record
  | .auth .. => let (reply, auth) := s.auth.take; (reply, { s with auth }, [])
  | .getServerTime _ =>
    let (reply, getServerTime) := s.getServerTime.take; (reply, { s with getServerTime }, [])
  | .hello _ => let (reply, hello) := s.hello.take; (reply, { s with hello }, [])
  | .noop => ((), s, [])
  | .postImage .. => let (reply, postImage) := s.postImage.take; (reply, { s with postImage }, [])
  | .getImage .. => let (reply, getImage) := s.getImage.take; (reply, { s with getImage }, [])
  | .reset => ((), s, [])

def service : Service ScriptedService := ⟨answer⟩

end ScriptedService

end KeyedImages
