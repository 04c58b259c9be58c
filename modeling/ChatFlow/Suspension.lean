import ChatFlow.Context
import ChatFlow.Identifier
import ChatFlow.Time.Stamp

namespace ChatFlow

open Json.Decoder (required)

structure SuspendRequest where
  /-- the delay; the run goes on behind it -/
  nodeId : String
  resumeAt : Instant
  context : Context
  deriving DecidableEq

namespace SuspendRequest

def reason : String := "DELAY"

def decoder : Json.Decoder SuspendRequest :=
  .record
    [required "type" (.variant fun name => if name = reason then some () else none) fun _ r => r,
      required "nodeId" .text fun nodeId r => { r with nodeId },
      required "resumeAt" Instant.decoder fun resumeAt r => { r with resumeAt },
      required "context" Context.decoder fun context r => { r with context }]
    ⟨"", default, .empty⟩

def toJson (r : SuspendRequest) : Json :=
  .ofMembers
    [("type", .text reason), ("nodeId", .text r.nodeId), ("resumeAt", r.resumeAt.toJson),
      ("context", r.context.toJson)]

end SuspendRequest

structure Suspension where
  id : Identifier
  botId : String
  conversationId : String
  /-- the version of the flow that was running -/
  version : String
  /-- the delay -/
  nodeId : String
  context : Context
  resumeAt : Instant
  createdAt : Instant
  deriving DecidableEq

namespace Suspension

def ofRequest (id : Identifier) (botId conversationId version : String) (createdAt : Instant)
    (r : SuspendRequest) : Suspension :=
  ⟨id, botId, conversationId, version, r.nodeId, r.context, r.resumeAt, createdAt⟩

def isDue (s : Suspension) (now : Instant) : Bool := s.resumeAt.le now

def decoder : Json.Decoder Suspension :=
  .record
    [required "id" Identifier.decoder fun id s => { s with id },
      required "botId" .text fun botId s => { s with botId },
      required "conversationId" .text fun conversationId s => { s with conversationId },
      required "flowVersionId" .text fun version s => { s with version },
      required "nodeId" .text fun nodeId s => { s with nodeId },
      required "context" Context.decoder fun context s => { s with context },
      required "resumeAt" Instant.decoder fun resumeAt s => { s with resumeAt },
      required "createdAt" Instant.decoder fun createdAt s => { s with createdAt }]
    ⟨default, "", "", "", "", .empty, default, default⟩

def toJson (s : Suspension) : Json :=
  .ofMembers
    [("id", .text s.id.text), ("botId", .text s.botId), ("conversationId", .text s.conversationId),
      ("flowVersionId", .text s.version), ("nodeId", .text s.nodeId), ("context", s.context.toJson),
      ("resumeAt", s.resumeAt.toJson), ("createdAt", s.createdAt.toJson)]

end Suspension

end ChatFlow
