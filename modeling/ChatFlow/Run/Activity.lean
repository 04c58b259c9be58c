import ChatFlow.Conversation
import ChatFlow.Failure
import ChatFlow.Flow.Active
import ChatFlow.Http
import ChatFlow.Run.Lock
import ChatFlow.Suspension

namespace ChatFlow

inductive Call
  | now
  | freshId
  | getConversation (id : String)
  | append (id : String) (message : Message)
  | touch (id : String) (at_ : Instant)
  | setStatus (id : String) (status : Status) (at_ : Instant)
  | save (record : Suspension)
  | loadDue (now : Instant) (limit : Nat)
  | delete (id : Identifier)
  | cancel (botId conversationId : String)
  | pending (botId conversationId : String)
  /-- keep a request in a list instead of a store -/
  | collect (request : SuspendRequest)
  | send (request : Request)
  | activeFlow (botId : String)
  | takeTicket (key : String)
  /-- wait until the ticket holds its mutex -/
  | await (ticket : Ticket)
  | leave (ticket : Ticket)
  | forget (key : String)
  /-- enter the gate of the sweeps if nobody is inside -/
  | tryGate
  | leaveGate

abbrev Call.Answer : Call → Type
  | now => Instant
  | freshId => Identifier
  | getConversation _ => Except Failure (Option Conversation)
  | append _ _ | touch _ _ | setStatus _ _ _ | save _ | collect _ => Except Failure Unit
  | loadDue _ _ | pending _ _ => Except Failure (List Suspension)
  | delete _ => Except Failure Bool
  | cancel _ _ => Except Failure Nat
  | send _ => Reply
  | activeFlow _ => Option ActiveFlow
  | takeTicket _ => Ticket
  | await _ | leave _ | forget _ | leaveGate => Unit
  | tryGate => Bool

/-- What a run does to the world around it: a tree that says for every answer to a call what happens
next. -/
inductive Activity (α : Type) : Type
  | done (a : α)
  | call (c : Call) (next : c.Answer → Activity α)

namespace Activity

variable {α β γ : Type}

def bind : Activity α → (α → Activity β) → Activity β
  | done a, f => f a
  | call c next, f => call c fun answer => (next answer).bind f

def ask (c : Call) : Activity c.Answer := call c done

instance : Monad Activity where
  pure := done
  bind := bind

@[simp] theorem pure_eq (a : α) : (pure a : Activity α) = done a := rfl

@[simp] theorem bind_eq (x : Activity α) (f : α → Activity β) : x >>= f = x.bind f := rfl

@[simp] theorem done_bind (a : α) (f : α → Activity β) : (done a).bind f = f a := rfl

@[simp] theorem call_bind (c : Call) (next : c.Answer → Activity α) (f : α → Activity β) :
    (call c next).bind f = call c fun answer => (next answer).bind f := rfl

theorem bind_assoc (x : Activity α) (f : α → Activity β) (g : β → Activity γ) :
    (x.bind f).bind g = x.bind fun a => (f a).bind g := by
  induction x with
  | done a => rfl
  | call c next ih => simp only [call_bind, ih]

def locked (botId conversationId : String) (body : Activity α) : Activity α := do
  let ticket ← ask (.takeTicket (lockKey botId conversationId))
  ask (.await ticket)
  let a ← body
  ask (.leave ticket)
  ask (.forget ticket.key)
  return a

end Activity

abbrev Sink := SuspendRequest → Activity (Except Failure Unit)

namespace Sink

def collector : Sink := fun request => .ask (.collect request)

def writer (botId conversationId version : String) : Sink := fun request => do
  let now ← Activity.ask .now
  let id ← Activity.ask .freshId
  Activity.ask (.save (.ofRequest id botId conversationId version now request))

end Sink

end ChatFlow
