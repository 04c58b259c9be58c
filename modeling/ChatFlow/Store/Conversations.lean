import ChatFlow.Conversation
import ChatFlow.Failure
import ChatFlow.Json.Printer
import ChatFlow.Store.Column

namespace ChatFlow

abbrev ConversationTable := Keyed Conversation

namespace ConversationTable

/-- Changes a conversation, which is created if it is not there. -/
def change (table : ConversationTable) (id : String) (f : Conversation → Conversation) :
    ConversationTable :=
  Keyed.insert id (f ((Keyed.get? id table).getD (.fresh id))) table

def append (table : ConversationTable) (id : String) (m : Message) : ConversationTable :=
  table.change id fun c => { c with messages := c.messages ++ [m] }

def touch (table : ConversationTable) (id : String) (at_ : Instant) : ConversationTable :=
  table.change id fun c => { c with updatedAt? := some at_ }

def setStatus (table : ConversationTable) (id : String) (status : Status) (at_ : Instant) :
    ConversationTable :=
  table.change id fun c => { c with status? := some status, updatedAt? := some at_ }

end ConversationTable

/-- The row of a conversation; the status is a name, the instant in milliseconds. -/
structure ConversationRow where
  status? : Option String
  updatedAt? : Option Int
  deriving DecidableEq

structure MessageRow where
  conversation : String
  direction : String
  type : String
  text : String
  at_ : Int
  /-- JSON text -/
  extra? : Option String
  deriving DecidableEq

structure ConversationRows where
  conversations : Keyed ConversationRow
  /-- in the order in which they were inserted -/
  messages : List MessageRow
  deriving DecidableEq

def Instant.ofStored (ms : Int) : Except Failure Instant :=
  match Instant.ofMillis? ms with
  | some t => .ok t
  | none => .error (.other ("Invalid stored timestamp: " ++ toString ms))

def Json.Decoder.ofColumn {α : Type} (d : Json.Decoder α) (stored : String) : Except Failure α :=
  match Column.read? stored with
  | none => .error .database
  | some text => match d.ofText text with
    | .ok a => .ok a
    | .error _ => .error .undecodable

namespace MessageRow

def ofMessage (id : String) (m : Message) : MessageRow :=
  ⟨id, m.direction.name, m.type, m.text, m.at_.toMillis, m.extra.map Json.compact⟩

/-- The message of a row. Every direction that is not incoming counts as outgoing. -/
def toMessage (row : MessageRow) : Except Failure Message := do
  let at_ ← Instant.ofStored row.at_
  let extra ← match row.extra? with
    | none => pure none
    | some text => (Json.Decoder.json.ofColumn text).map some
  return ⟨(Direction.ofName? row.direction).getD .outgoing, row.type, row.text, at_, extra⟩

end MessageRow

namespace ConversationRows

def empty : ConversationRows := ⟨[], []⟩

/-- Changes the row of a conversation, which is inserted if it is not there. -/
def change (rows : ConversationRows) (id : String) (f : ConversationRow → ConversationRow) :
    ConversationRows :=
  { rows with
    conversations :=
      Keyed.insert id (f ((Keyed.get? id rows.conversations).getD ⟨none, none⟩))
        rows.conversations }

def append (rows : ConversationRows) (id : String) (m : Message) : ConversationRows :=
  let rows := rows.change id fun row => row
  { rows with messages := rows.messages ++ [.ofMessage id m] }

def touch (rows : ConversationRows) (id : String) (at_ : Instant) : ConversationRows :=
  rows.change id fun row => { row with updatedAt? := some at_.toMillis }

def setStatus (rows : ConversationRows) (id : String) (status : Status) (at_ : Instant) :
    ConversationRows :=
  rows.change id fun _ => ⟨some status.name, some at_.toMillis⟩

/-- Reads messages one after the other, up to the first that cannot be read. -/
def readMessages : List MessageRow → Except Failure (List Message)
  | [] => .ok []
  | row :: rest => do return (← row.toMessage) :: (← readMessages rest)

/-- Reads a conversation. A status that is no status counts as none. -/
def get? (rows : ConversationRows) (id : String) : Except Failure (Option Conversation) :=
  match Keyed.get? id rows.conversations with
  | none => .ok none
  | some row => do
    let messages ← readMessages (rows.messages.filter (·.conversation == id))
    let updatedAt? ← match row.updatedAt? with
      | none => pure none
      | some ms => (Instant.ofStored ms).map some
    return some ⟨id, row.status?.bind Status.ofName?, updatedAt?, messages⟩

/-- Inserts the row of a conversation as it is; there must be none of that id. -/
def insertRow (rows : ConversationRows) (id : String) (row : ConversationRow) :
    Except Failure ConversationRows :=
  if Keyed.contains id rows.conversations then .error .database
  else .ok { rows with conversations := Keyed.insert id row rows.conversations }

def insertMessage (rows : ConversationRows) (row : MessageRow) : ConversationRows :=
  { rows with messages := rows.messages ++ [row] }

end ConversationRows

inductive ConversationStore
  | memory (table : ConversationTable)
  | rows (rows : ConversationRows)

namespace ConversationStore

def append (id : String) (m : Message) : ConversationStore → ConversationStore
  | memory table => memory (table.append id m)
  | rows r => rows (r.append id m)

def touch (id : String) (at_ : Instant) : ConversationStore → ConversationStore
  | memory table => memory (table.touch id at_)
  | rows r => rows (r.touch id at_)

def setStatus (id : String) (status : Status) (at_ : Instant) : ConversationStore →
    ConversationStore
  | memory table => memory (table.setStatus id status at_)
  | rows r => rows (r.setStatus id status at_)

def get? (id : String) : ConversationStore → Except Failure (Option Conversation)
  | memory table => .ok (Keyed.get? id table)
  | rows r => r.get? id

def ids : ConversationStore → List String
  | memory table => Keyed.keys table
  | rows r => Keyed.keys r.conversations

/-- All conversations in the order of their ids, if all of them can be read. -/
def all (store : ConversationStore) : Except Failure (List Conversation) := do
  let found ← store.ids.mapM fun id => store.get? id
  return found.filterMap id

end ConversationStore

end ChatFlow
