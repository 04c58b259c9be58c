import ChatFlow.Keyed

namespace ChatFlow

structure Ticket where
  number : Nat
  key : String
  mutex : Nat
  deriving DecidableEq, Repr

/-- All locks, as a table from keys to mutexes. A mutex is forgotten when a holder goes and no
ticket refers to it. -/
structure LockTable where
  /-- the mutexes by key -/
  entries : Keyed Nat
  /-- the tickets that refer to their mutex -/
  referring : List Ticket
  /-- the tickets that wait for or hold their mutex, in the order in which they came -/
  queue : List Ticket
  /-- a number not used for a ticket or a mutex so far -/
  next : Nat
  deriving Repr

namespace LockTable

def empty : LockTable := ⟨[], [], [], 0⟩

def size (locks : LockTable) : Nat := locks.entries.length

def take (locks : LockTable) (key : String) : Ticket × LockTable :=
  match Keyed.get? key locks.entries with
  | some mutex =>
    let ticket : Ticket := ⟨locks.next, key, mutex⟩
    (ticket, { locks with referring := locks.referring ++ [ticket], next := locks.next + 1 })
  | none =>
    let ticket : Ticket := ⟨locks.next + 1, key, locks.next⟩
    (ticket, { locks with
      entries := Keyed.insert key locks.next locks.entries
      referring := locks.referring ++ [ticket]
      next := locks.next + 2 })

/-- Whether a ticket is the first of those that queue for its mutex. -/
def holds (locks : LockTable) (ticket : Ticket) : Bool :=
  (locks.queue.find? (·.mutex == ticket.mutex)) == some ticket

def enqueue (locks : LockTable) (ticket : Ticket) : LockTable :=
  if locks.queue.contains ticket then locks else { locks with queue := locks.queue ++ [ticket] }

def leave (locks : LockTable) (ticket : Ticket) : LockTable :=
  { locks with queue := locks.queue.erase ticket, referring := locks.referring.erase ticket }

def forget (locks : LockTable) (key : String) : LockTable :=
  match Keyed.get? key locks.entries with
  | some mutex =>
    if locks.referring.any (·.mutex == mutex) then locks
    else { locks with entries := Keyed.erase key locks.entries }
  | none => locks

end LockTable

def lockKey (botId conversationId : String) : String := botId ++ ":" ++ conversationId

end ChatFlow
