import ChatFlow.Store.Conversations
import ChatFlow.Suspension

namespace ChatFlow

abbrev SuspensionTable := List Suspension

namespace SuspensionTable

/-- Whether a record comes before another or at the same time: by the time to go on, then by the
time when it was made. -/
def earlier (a b : Suspension) : Bool :=
  if a.resumeAt = b.resumeAt then a.createdAt.le b.createdAt else a.resumeAt.le b.resumeAt

def save (table : SuspensionTable) (record : Suspension) : SuspensionTable :=
  if table.any (·.id == record.id) then
    table.map fun old => if old.id = record.id then record else old
  else table ++ [record]

/-- The records whose time has come, earliest first, up to a number. -/
def due (table : SuspensionTable) (now : Instant) (limit : Nat) : List Suspension :=
  ((table.filter (·.isDue now)).mergeSort earlier).take limit

def delete (table : SuspensionTable) (id : Identifier) : Bool × SuspensionTable :=
  (table.any (·.id == id), table.filter (·.id != id))

def belongs (botId conversationId : String) (record : Suspension) : Bool :=
  record.botId == botId && record.conversationId == conversationId

/-- Removes the records of a bot's conversation and says how many there were. -/
def cancel (table : SuspensionTable) (botId conversationId : String) : Nat × SuspensionTable :=
  ((table.filter (belongs botId conversationId)).length,
    table.filter fun record => !belongs botId conversationId record)

def pending (table : SuspensionTable) (botId conversationId : String) : List Suspension :=
  (table.filter (belongs botId conversationId)).mergeSort earlier

end SuspensionTable

structure SuspensionRow where
  id : String
  botId : String
  conversationId : String
  version : String
  nodeId : String
  /-- JSON text -/
  context : String
  resumeAt : Int
  createdAt : Int
  deriving DecidableEq

namespace SuspensionRow

def ofSuspension (s : Suspension) : SuspensionRow :=
  ⟨s.id.text, s.botId, s.conversationId, s.version, s.nodeId, s.context.toJson.compact,
    s.resumeAt.toMillis, s.createdAt.toMillis⟩

def toSuspension? (row : SuspensionRow) : Option Suspension := do
  let id ← Identifier.ofText? row.id
  let context ← (Context.decoder.ofColumn row.context).toOption
  let resumeAt ← Instant.ofMillis? row.resumeAt
  let createdAt ← Instant.ofMillis? row.createdAt
  return ⟨id, row.botId, row.conversationId, row.version, row.nodeId, context, resumeAt, createdAt⟩

def earlier (a b : SuspensionRow) : Bool :=
  if a.resumeAt = b.resumeAt then a.createdAt ≤ b.createdAt else a.resumeAt ≤ b.resumeAt

end SuspensionRow

/-- Rows in the order in which they were inserted, each id at most once. -/
abbrev SuspensionRows := List SuspensionRow

namespace SuspensionRows

/-- Inserts the row of a record. If there is one with its id, that row gets the node, the context
and the time to go on, and keeps the rest. -/
def save (rows : SuspensionRows) (record : Suspension) : SuspensionRows :=
  let new := SuspensionRow.ofSuspension record
  if rows.any (·.id == new.id) then
    rows.map fun old =>
      if old.id = new.id then
        { old with nodeId := new.nodeId, context := new.context, resumeAt := new.resumeAt }
      else old
  else rows ++ [new]

/-- The records whose time has come, earliest first, up to a number of rows. Rows among those that
cannot be read are removed. -/
def due (rows : SuspensionRows) (now : Instant) (limit : Nat) : List Suspension × SuspensionRows :=
  let chosen :=
    ((rows.filter (·.resumeAt ≤ now.toMillis)).mergeSort SuspensionRow.earlier).take limit
  let broken := chosen.filter (·.toSuspension?.isNone)
  (chosen.filterMap (·.toSuspension?), rows.filter fun row => !broken.any (·.id == row.id))

def delete (rows : SuspensionRows) (id : Identifier) : Bool × SuspensionRows :=
  (rows.any (·.id == id.text), rows.filter (·.id != id.text))

def belongs (botId conversationId : String) (row : SuspensionRow) : Bool :=
  row.botId == botId && row.conversationId == conversationId

/-- Removes the rows of a bot's conversation and says how many there were. -/
def cancel (rows : SuspensionRows) (botId conversationId : String) : Nat × SuspensionRows :=
  ((rows.filter (belongs botId conversationId)).length,
    rows.filter fun row => !belongs botId conversationId row)

/-- The records of a bot's conversation, earliest first; rows that cannot be read are passed
over. -/
def pending (rows : SuspensionRows) (botId conversationId : String) : List Suspension :=
  ((rows.filter (belongs botId conversationId)).mergeSort SuspensionRow.earlier).filterMap
    (·.toSuspension?)

def insertRow (rows : SuspensionRows) (row : SuspensionRow) : Except Failure SuspensionRows :=
  if rows.any (·.id == row.id) then .error .database else .ok (rows ++ [row])

end SuspensionRows

inductive SuspensionStore
  | memory (table : SuspensionTable)
  | rows (rows : SuspensionRows)

namespace SuspensionStore

def save (record : Suspension) : SuspensionStore → SuspensionStore
  | memory table => memory (table.save record)
  | rows r => rows (r.save record)

/-- The records whose time has come, earliest first, up to a number. -/
def due (now : Instant) (limit : Nat) : SuspensionStore → List Suspension × SuspensionStore
  | memory table => (table.due now limit, memory table)
  | rows r => ((r.due now limit).1, rows (r.due now limit).2)

def delete (id : Identifier) : SuspensionStore → Bool × SuspensionStore
  | memory table => ((table.delete id).1, memory (table.delete id).2)
  | rows r => ((r.delete id).1, rows (r.delete id).2)

/-- Removes the records of a bot's conversation and says how many there were. -/
def cancel (botId conversationId : String) : SuspensionStore → Nat × SuspensionStore
  | memory table =>
    ((table.cancel botId conversationId).1, memory (table.cancel botId conversationId).2)
  | rows r => ((r.cancel botId conversationId).1, rows (r.cancel botId conversationId).2)

def pending (botId conversationId : String) : SuspensionStore → List Suspension
  | memory table => table.pending botId conversationId
  | rows r => r.pending botId conversationId

def size : SuspensionStore → Nat
  | memory table => table.length
  | rows r => r.length

def owners (store : SuspensionStore) : List (String × String) :=
  let all := match store with
    | memory table => table.map fun (s : Suspension) => (s.botId, s.conversationId)
    | rows r => r.map fun (s : SuspensionRow) => (s.botId, s.conversationId)
  let before (a b : String × String) : Bool :=
    if a.1 = b.1 then decide (a.2 ≤ b.2) else decide (a.1 ≤ b.1)
  all.eraseDups.mergeSort before

def all (store : SuspensionStore) : List Suspension :=
  store.owners.flatMap fun (botId, conversationId) => store.pending botId conversationId

end SuspensionStore

end ChatFlow
