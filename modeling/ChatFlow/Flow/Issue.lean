import ChatFlow.Condition
import ChatFlow.Flow.Component
import ChatFlow.Flow.Index
import ChatFlow.Flow.Palette
import ChatFlow.Text.Quoted

namespace ChatFlow

inductive Issue
  | noStart
  | duplicateNode (id : String)
  | unknownKind (id name : String)
  | missingField (id field : String)
  | unknownOperator (id op : String)
  | danglingEdge (source target : String)
  | cycle (ids : List String)
  deriving DecidableEq, Repr

def Issue.message : Issue → String
  | noStart => "graph has no start node"
  | duplicateNode id => "node id '" ++ id ++ "' is declared more than once"
  | unknownKind id name => "node '" ++ id ++ "' has unknown type '" ++ name ++ "'"
  | missingField id field => "node '" ++ id ++ "' is missing required field '" ++ field ++ "'"
  | unknownOperator id op => "node '" ++ id ++ "' uses unknown condition operator '" ++ op ++ "'"
  | danglingEdge source target =>
    "edge '" ++ source ++ "' -> '" ++ target ++ "' references a missing node"
  | cycle ids => "nodes " ++ Text.quotedList ids ++ " form a cycle"

/-- The issues of one node. Nothing further is said of a node of unknown kind. -/
def Node.issues (node : Node) : List Issue :=
  match node.kind with
  | .unknown name => [.unknownKind node.id name]
  | kind =>
    (node.missingField?.map (.missingField node.id)).toList ++
      if kind = .branch then
        ((Condition.ofBlock (node.field? "conditions")).filter (·.operator?.isNone)).map
          fun c => .unknownOperator node.id c.op
      else []

namespace Flow

def duplicates : (seen : List String) → List Node → List Issue
  | _, [] => []
  | seen, node :: rest =>
    (if seen.contains node.id then [.duplicateNode node.id] else []) ++
      duplicates (node.id :: seen) rest

def issues (flow : Flow) : List Issue :=
  let index := Index.ofFlow flow
  (if !flow.nodes.isEmpty && index.starts.isEmpty then [.noStart] else []) ++
    duplicates [] flow.nodes ++
    flow.nodes.flatMap Node.issues ++
    index.dangling.map (fun e => .danglingEdge e.source e.target) ++
    flow.cycles.map .cycle

end Flow

end ChatFlow
