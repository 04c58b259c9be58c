import ChatFlow.Run.Activity
import ChatFlow.Store.Registry
import ChatFlow.Store.Suspensions

namespace ChatFlow

inductive Operation
  | append
  | touch
  | setStatus
  | get
  | save
  | loadDue
  | delete
  | cancel
  | pending
  | collect
  deriving DecidableEq, Repr

namespace Operation

def name : Operation → String
  | append => "append"
  | touch => "touch"
  | setStatus => "set_status"
  | get => "get"
  | save => "save"
  | loadDue => "load_due"
  | delete => "delete"
  | cancel => "cancel"
  | pending => "pending"
  | collect => "sink"

def all : List Operation :=
  [append, touch, setStatus, get, save, loadDue, delete, cancel, pending, collect]

def ofName? (name : String) : Option Operation := all.find? (·.name == name)

end Operation

/-- Everything that outlasts a run. Stores can be put out of service one operation at a time. -/
structure World where
  clock : Instant
  /-- the operations that are out of service -/
  failing : List Operation
  conversations : ConversationStore
  suspensions : SuspensionStore
  registry : Registry
  /-- the requests to suspend that were not saved but kept in a list -/
  collected : List SuspendRequest
  /-- what the next requests are answered with; when none is left, no service can be reached -/
  replies : List Reply
  /-- the requests that reached a service -/
  sent : List Request
  locks : LockTable
  /-- a sweep is under way -/
  sweeping : Bool
  /-- the identifier of the next new record -/
  nextId : Identifier

namespace World

/-- A world at a time in which nothing has happened, over the given stores. -/
def start (clock : Instant) (conversations : ConversationStore) (suspensions : SuspensionStore)
    (firstId : Identifier) : World where
  clock := clock
  failing := []
  conversations := conversations
  suspensions := suspensions
  registry := .empty
  collected := []
  replies := []
  sent := []
  locks := .empty
  sweeping := false
  nextId := firstId

def serve {α : Type} (w : World) (op : Operation) (act : Except Failure α × World) :
    Option (Except Failure α) × World :=
  if w.failing.contains op then (some (.error (.unavailable op.name)), w) else (some act.1, act.2)

/-- Sends a request: the next reply is what it is answered with. -/
def send (w : World) (request : Request) : Reply × World :=
  match w.replies with
  | [] => (.unreachable, w)
  | reply :: rest =>
    let reached := match reply with
      | .answered _ _ _ | .closed => true
      | .silent | .unreachable => false
    (reply, { w with replies := rest, sent := if reached then w.sent ++ [request] else w.sent })

/-- Answers a call; there is no answer while a ticket has to wait. -/
def answer (w : World) : (c : Call) → Option c.Answer × World
  | .now => (some w.clock, w)
  | .freshId => (some w.nextId, { w with nextId := ⟨w.nextId.value + 1⟩ })
  | .getConversation id => w.serve .get (w.conversations.get? id, w)
  | .append id m =>
    w.serve .append (.ok (), { w with conversations := w.conversations.append id m })
  | .touch id at_ =>
    w.serve .touch (.ok (), { w with conversations := w.conversations.touch id at_ })
  | .setStatus id status at_ =>
    w.serve .setStatus (.ok (), { w with conversations := w.conversations.setStatus id status at_ })
  | .save record => w.serve .save (.ok (), { w with suspensions := w.suspensions.save record })
  | .loadDue now limit =>
    let (due, suspensions) := w.suspensions.due now limit
    w.serve .loadDue (.ok due, { w with suspensions })
  | .delete id =>
    let (there, suspensions) := w.suspensions.delete id
    w.serve .delete (.ok there, { w with suspensions })
  | .cancel botId conversationId =>
    let (count, suspensions) := w.suspensions.cancel botId conversationId
    w.serve .cancel (.ok count, { w with suspensions })
  | .pending botId conversationId =>
    w.serve .pending (.ok (w.suspensions.pending botId conversationId), w)
  | .collect request => w.serve .collect (.ok (), { w with collected := w.collected ++ [request] })
  | .send request =>
    let (reply, w) := w.send request
    (some reply, w)
  | .activeFlow botId => (some (w.registry.active? botId), w)
  | .takeTicket key =>
    let (ticket, locks) := w.locks.take key
    (some ticket, { w with locks })
  | .await ticket =>
    let locks := w.locks.enqueue ticket
    (if locks.holds ticket then some () else none, { w with locks })
  | .leave ticket => (some (), { w with locks := w.locks.leave ticket })
  | .forget key => (some (), { w with locks := w.locks.forget key })
  | .tryGate => (some (!w.sweeping), { w with sweeping := true })
  | .leaveGate => (some (), { w with sweeping := false })

/-- How far an activity got: to its end, or to a call that has no answer yet. -/
inductive Progress (α : Type)
  | finished (a : α)
  | waiting (rest : Activity α)

def perform {α : Type} : Activity α → World → Progress α × World
  | .done a, w => (.finished a, w)
  | .call c next, w =>
    match w.answer c with
    | (some a, w) => perform (next a) w
    | (none, w) => (.waiting (.call c next), w)

/-- Gives up an activity that waits: its ticket leaves the queue. The table of locks is not looked
at, so the mutex stays there until a holder goes. -/
def abandon {α : Type} (w : World) (rest : Activity α) : World :=
  match rest with
  | .call (.await ticket) _ => { w with locks := w.locks.leave ticket }
  | _ => w

/-- Carries out an activity; it is given up if it has to wait. -/
def attempt {α : Type} (w : World) (activity : Activity α) : Option α × World :=
  match perform activity w with
  | (.finished a, w) => (some a, w)
  | (.waiting rest, w) => (none, w.abandon rest)

end World

end ChatFlow
