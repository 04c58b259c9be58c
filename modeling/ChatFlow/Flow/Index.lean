import ChatFlow.Flow.Basic

namespace ChatFlow.Flow

structure Index where
  flow : Flow
  /-- the first node of each id -/
  nodes : Keyed Node
  /-- the edges by their source, in the order of the flow -/
  outgoing : Keyed (List Edge)
  /-- the edges by their target, in the order of the flow -/
  incoming : Keyed (List Edge)

namespace Index

def addNode (table : Keyed Node) (node : Node) : Keyed Node :=
  if Keyed.contains node.id table then table else Keyed.insert node.id node table

def addEdge (id : String) (table : Keyed (List Edge)) (edge : Edge) : Keyed (List Edge) :=
  Keyed.insert id ((Keyed.get? id table).getD [] ++ [edge]) table

def ofFlow (flow : Flow) : Index where
  flow := flow
  nodes := flow.nodes.foldl addNode []
  outgoing := flow.edges.foldl (fun table e => addEdge e.source table e) []
  incoming := flow.edges.foldl (fun table e => addEdge e.target table e) []

def node? (index : Index) (id : String) : Option Node := Keyed.get? id index.nodes

def contains (index : Index) (id : String) : Bool := Keyed.contains id index.nodes

def outgoingOf (index : Index) (id : String) : List Edge := (Keyed.get? id index.outgoing).getD []

def incomingOf (index : Index) (id : String) : List Edge := (Keyed.get? id index.incoming).getD []

/-- The nodes whose id is not among `seen`, of several with one id the first. -/
def firstOfEachId : (seen : List String) → List Node → List Node
  | _, [] => []
  | seen, node :: rest =>
    if seen.contains node.id then firstOfEachId seen rest
    else node :: firstOfEachId (node.id :: seen) rest

/-- The nodes that no edge leads to, in the order of the flow and each id once. -/
def starts (index : Index) : List Node :=
  firstOfEachId [] (index.flow.nodes.filter fun node => (index.incomingOf node.id).isEmpty)

/-- The edge that a handle takes: the first with that label, and for `out` failing that the first
without a label. -/
def select (index : Index) (id : String) (handle : Handle) : Option Edge :=
  let edges := index.outgoingOf id
  (edges.find? (·.handle? == some handle)).or
    (if handle = Handle.out then edges.find? (·.handle?.isNone) else none)

def dangling (index : Index) : List Edge :=
  index.flow.edges.filter fun e => !index.contains e.source || !index.contains e.target

end Index

end ChatFlow.Flow
