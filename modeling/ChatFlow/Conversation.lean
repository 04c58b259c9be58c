import ChatFlow.Json.Decoder
import ChatFlow.Time.Stamp

namespace ChatFlow

open Json.Decoder (required defaulted nullable)

inductive Status
  /-- the bot -/
  | active
  /-- a human agent; the bot keeps quiet -/
  | humanTakeover
  deriving DecidableEq, Repr

namespace Status

def name : Status → String
  | active => "active"
  | humanTakeover => "human_takeover"

def ofName? (name : String) : Option Status := [active, humanTakeover].find? (·.name == name)

def decoder : Json.Decoder Status := .variant ofName?

def toJson (status : Status) : Json := .text status.name

@[simp] theorem ofName?_name (status : Status) : ofName? status.name = some status := by
  cases status <;> decide

end Status

inductive Direction
  | incoming
  | outgoing
  deriving DecidableEq, Repr, Inhabited

namespace Direction

def name : Direction → String
  | incoming => "incoming"
  | outgoing => "outgoing"

def ofName? (name : String) : Option Direction := [incoming, outgoing].find? (·.name == name)

def decoder : Json.Decoder Direction := .variant ofName?

def toJson (direction : Direction) : Json := .text direction.name

@[simp] theorem ofName?_name (direction : Direction) : ofName? direction.name = some direction := by
  cases direction <;> decide

end Direction

structure Message where
  direction : Direction
  /-- what kind of message it is; `text` unless the flow says otherwise -/
  type : String
  text : String
  at_ : Instant
  /-- what came along with it -/
  extra : Option Json
  deriving DecidableEq, Inhabited

namespace Message

def incoming (text : String) (at_ : Instant) (extra : Option Json) : Message :=
  ⟨.incoming, "text", text, at_, extra⟩

def outgoing (type text : String) (at_ : Instant) : Message := ⟨.outgoing, type, text, at_, none⟩

/-- A message; `null` that comes along is as good as nothing. -/
def decoder : Json.Decoder Message :=
  .record
    [required "direction" Direction.decoder fun direction m => { m with direction },
      required "type" .text fun type m => { m with type },
      required "text" .text fun text m => { m with text },
      required "timestamp" Instant.decoder fun at_ m => { m with at_ },
      defaulted "meta" (.optional .json) fun extra m => { m with extra }]
    default

/-- A message; the member `meta` is there only if something came along. -/
def toJson (m : Message) : Json :=
  .ofMembers <|
    [("direction", m.direction.toJson), ("type", .text m.type), ("text", .text m.text),
      ("timestamp", m.at_.toJson)] ++ (m.extra.map fun extra => ("meta", extra)).toList

end Message

structure Conversation where
  id : String
  status? : Option Status
  /-- when something last happened -/
  updatedAt? : Option Instant
  messages : List Message
  deriving DecidableEq

namespace Conversation

def fresh (id : String) : Conversation := ⟨id, none, none, []⟩

def decoder : Json.Decoder Conversation :=
  .record
    [required "id" .text fun id c => { c with id },
      nullable "status" (.optional Status.decoder) fun status? c => { c with status? },
      nullable "updatedAt" (.optional Instant.decoder) fun updatedAt? c => { c with updatedAt? },
      required "messages" (.list Message.decoder) fun messages c => { c with messages }]
    (fresh "")

def toJson (c : Conversation) : Json :=
  .ofMembers
    [("id", .text c.id), ("status", (c.status?.map Status.toJson).getD .null),
      ("updatedAt", (c.updatedAt?.map Instant.toJson).getD .null),
      ("messages", .list (c.messages.map Message.toJson))]

end Conversation

end ChatFlow
