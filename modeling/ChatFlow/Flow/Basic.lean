import ChatFlow.Json.Basic

namespace ChatFlow

/-- The outcome of a node, by which its edges are told apart. -/
abbrev Handle := String

def Handle.out : Handle := "out"

def Handle.yes : Handle := "true"

def Handle.no : Handle := "false"

inductive NodeKind
  /-- entry point of an inbound message -/
  | newMessage
  /-- entry point of a schedule -/
  | scheduled
  /-- appends an outgoing message to the conversation -/
  | sendMessage
  /-- calls an HTTP service and takes values from its reply -/
  | apiRequest
  /-- writes a field of `contact` or `vars` -/
  | setVariable
  /-- chooses between two outcomes -/
  | branch
  /-- suspends the flow for a while -/
  | delay
  /-- hands the conversation to a human agent -/
  | humanTakeover
  /-- a kind that is not known, by its name -/
  | unknown (name : String)
  deriving DecidableEq, Repr

namespace NodeKind

def name : NodeKind → String
  | newMessage => "trigger:newMessage"
  | scheduled => "trigger:scheduled"
  | sendMessage => "action:sendMessage"
  | apiRequest => "action:apiRequest"
  | setVariable => "action:setVariable"
  | branch => "logic:branch"
  | delay => "logic:delay"
  | humanTakeover => "logic:humanTakeover"
  | unknown name => name

def known : List NodeKind :=
  [newMessage, scheduled, sendMessage, apiRequest, setVariable, branch, delay, humanTakeover]

def ofName (name : String) : NodeKind := (known.find? (·.name == name)).getD (unknown name)

@[simp] theorem name_ofName (name : String) : (ofName name).name = name := by
  unfold ofName
  cases h : known.find? (·.name == name) with
  | none => rfl
  | some kind => simpa using List.find?_some h

end NodeKind

structure Node where
  id : String
  kind : NodeKind
  /-- the authored fields -/
  config : Keyed Json
  deriving DecidableEq

namespace Node

def field? (node : Node) (key : String) : Option Json := Keyed.get? key node.config

def textField? (node : Node) (key : String) : Option String := (node.field? key).bind Json.asText?

end Node

structure Edge where
  id? : Option String
  source : String
  target : String
  /-- the outcome of the source that takes this edge -/
  handle? : Option Handle
  deriving DecidableEq, Repr

/-- A flow as authored: the order of nodes and of edges counts. -/
structure Flow where
  nodes : List Node
  edges : List Edge
  deriving DecidableEq

def Flow.node? (flow : Flow) (id : String) : Option Node := flow.nodes.find? (·.id == id)

end ChatFlow
