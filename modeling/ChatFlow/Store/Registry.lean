import ChatFlow.Flow.Active
import ChatFlow.Policy
import ChatFlow.Store.Archive

namespace ChatFlow

structure Registry where
  archive : Archive
  flows : Keyed ActiveFlow
  deriving DecidableEq

namespace Registry

def empty : Registry := ⟨.empty, []⟩

def active? (registry : Registry) (botId : String) : Option ActiveFlow :=
  Keyed.get? botId registry.flows

def botIds (registry : Registry) : List String := Keyed.keys registry.flows

/-- Checks a flow before it is put to use. Under the strict policy it must have no issues. -/
def compile (policy : Policy) (botId version : String) (flow : Flow) : Except Failure ActiveFlow :=
  let active := ActiveFlow.ofFlow version flow
  if policy = .strict ∧ !active.issues.isEmpty then
    .error (.other ("Flow " ++ botId ++ "/" ++ version ++ " failed validation: " ++
      "; ".intercalate (active.issues.map Issue.message)))
  else .ok active

def install (registry : Registry) (botId : String) (active : ActiveFlow) : Registry :=
  { registry with flows := Keyed.insert botId active registry.flows }

def switchTo (registry : Registry) (botId version : String) (active : ActiveFlow) :
    Except Failure ActiveFlow × Registry :=
  match registry.archive.setActive botId version with
  | .error failure => (.error failure, registry)
  | .ok archive => (.ok active, { registry with archive }.install botId active)

/-- Stores a version of a flow, makes it the active one and puts it to use. -/
def publish (policy : Policy) (registry : Registry) (botId version : String) (flow : Flow) :
    Except Failure ActiveFlow × Registry :=
  match compile policy botId version flow with
  | .error failure => (.error failure, registry)
  | .ok active =>
    { registry with archive := registry.archive.saveVersion botId version flow }.switchTo
      botId version active

def activate (policy : Policy) (registry : Registry) (botId version : String) :
    Except Failure ActiveFlow × Registry :=
  match registry.archive.requireVersion botId version with
  | .error failure => (.error failure, registry)
  | .ok flow =>
    match compile policy botId version flow with
    | .error failure => (.error failure, registry)
    | .ok active => registry.switchTo botId version active

def deactivate (registry : Registry) (botId : String) : Registry :=
  ⟨(registry.archive.clearActive botId).2, Keyed.erase botId registry.flows⟩

/-- Puts the active flows of the archive to use in place of all others; those that do not pass are
left out. -/
def load (policy : Policy) (registry : Registry) : Except Failure Registry := do
  let stored ← registry.archive.activeFlows
  let passed := stored.filterMap fun s =>
    (compile policy s.botId s.version s.flow).toOption.map fun active => (s.botId, active)
  return { registry with flows := Keyed.ofList passed }

end Registry

end ChatFlow
