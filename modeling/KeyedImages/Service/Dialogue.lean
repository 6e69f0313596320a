import KeyedImages.Log
import KeyedImages.Service.Method

/-! A client's side of a conversation with a service, and what comes of it at a given service. -/
namespace KeyedImages

/-- A client: it ends with a value, writes a log record, or makes a call and goes on with the
reply. -/
inductive Dialogue (α : Type) : Type
  | done (value : α)
  | note (record : Log.Record) (rest : Dialogue α)
  | ask (call : Call) (next : call.Reply → Dialogue α)

/-- A service with states in `σ`: its reply to a call, its next state, and what it logs. -/
structure Service (σ : Type) where
  answer : σ → (call : Call) → call.Reply × σ × List Log.Record

/-- A call together with its reply. -/
structure Exchange where
  call : Call
  reply : call.Reply

/-- What a dialogue leads to: its value, the service's last state, the calls made with their
replies, and all records in the order in which they were written. -/
structure Conversation (σ α : Type) where
  value : α
  state : σ
  exchanges : List Exchange
  log : List Log.Record

namespace Dialogue

variable {σ α β : Type}

def bind : Dialogue α → (α → Dialogue β) → Dialogue β
  | .done value, f => f value
  | .note record rest, f => .note record (rest.bind f)
  | .ask call next, f => .ask call fun reply => (next reply).bind f

instance : Monad Dialogue where
  pure := .done
  bind := bind

/-- Carries a dialogue through at a service. -/
def run (service : Service σ) (state : σ) : Dialogue α → Conversation σ α
  | .done value => ⟨value, state, [], []⟩
  | .note record rest =>
    let c := rest.run service state
    { c with log := record :: c.log }
  | .ask call next =>
    let (reply, state, records) := service.answer state call
    let c := (next reply).run service state
    { c with exchanges := ⟨call, reply⟩ :: c.exchanges, log := records ++ c.log }

end Dialogue

end KeyedImages
