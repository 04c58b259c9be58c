import ChatFlow.Flow.Codec
import ChatFlow.Store.Conversations

namespace ChatFlow

structure Archive where
  /-- the definitions by bot and version -/
  definitions : Keyed (Keyed String)
  /-- the active versions by bot -/
  active : Keyed String
  deriving DecidableEq

structure StoredFlow where
  botId : String
  version : String
  flow : Flow
  deriving DecidableEq

namespace Archive

def empty : Archive := ⟨[], []⟩

def versionsOf (archive : Archive) (botId : String) : Keyed String :=
  (Keyed.get? botId archive.definitions).getD []

def definition? (archive : Archive) (botId version : String) : Option String :=
  Keyed.get? version (archive.versionsOf botId)

def define (archive : Archive) (botId version definition : String) : Archive :=
  { archive with
    definitions :=
      Keyed.insert botId (Keyed.insert version definition (archive.versionsOf botId))
        archive.definitions }

def saveVersion (archive : Archive) (botId version : String) (flow : Flow) : Archive :=
  archive.define botId version flow.toJson.compact

def version? (archive : Archive) (botId version : String) : Except Failure (Option Flow) :=
  match archive.definition? botId version with
  | none => .ok none
  | some definition => (Flow.decoder.ofColumn definition).map some

def notFound (botId version : String) : Failure :=
  .other ("Flow version not found: " ++ botId ++ "/" ++ version)

def requireVersion (archive : Archive) (botId version : String) : Except Failure Flow := do
  match ← archive.version? botId version with
  | some flow => return flow
  | none => throw (notFound botId version)

/-- Makes a version the active one; it has to be there and to be readable. -/
def setActive (archive : Archive) (botId version : String) : Except Failure Archive := do
  let _ ← archive.requireVersion botId version
  return { archive with active := Keyed.insert botId version archive.active }

def active? (archive : Archive) (botId : String) : Option String := Keyed.get? botId archive.active

def clearActive (archive : Archive) (botId : String) : Bool × Archive :=
  ((archive.active? botId).isSome, { archive with active := Keyed.erase botId archive.active })

/-- Reads the active flows of bots, up to the first that cannot be read. -/
def readActive (archive : Archive) : Keyed String → Except Failure (List StoredFlow)
  | [] => .ok []
  | (botId, version) :: rest => do
    match archive.definition? botId version with
    | none => readActive archive rest
    | some definition =>
      let flow ← Flow.decoder.ofColumn definition
      return ⟨botId, version, flow⟩ :: (← readActive archive rest)

def activeFlows (archive : Archive) : Except Failure (List StoredFlow) :=
  archive.readActive archive.active

/-- The versions of a bot in order, each with whether it is the active one. -/
def listVersions (archive : Archive) (botId : String) : List (String × Bool) :=
  (Keyed.keys (archive.versionsOf botId)).map fun version =>
    (version, archive.active? botId == some version)

/-- Deletes a version and says whether it was there. The active one cannot be deleted. -/
def deleteVersion (archive : Archive) (botId version : String) : Except Failure (Bool × Archive) :=
  if archive.active? botId = some version then
    .error (.other ("Cannot delete active flow version " ++ botId ++ "/" ++ version))
  else
    .ok ((archive.definition? botId version).isSome,
      { archive with
        definitions :=
          Keyed.insert botId (Keyed.erase version (archive.versionsOf botId)) archive.definitions })

/-- Inserts a definition as it is; there must be none of that version. -/
def insertDefinition (archive : Archive) (botId version definition : String) :
    Except Failure Archive :=
  if (archive.definition? botId version).isSome then .error .database
  else .ok (archive.define botId version definition)

end Archive

end ChatFlow
