import ChatFlow.Failure
import ChatFlow.Url.Host

namespace ChatFlow

/-- Why a run stopped before its end; `node` is the id of the node at fault. -/
inductive FlowError
  | invalidUrl (node url : String) (defect : UrlDefect)
  | invalidMethod (node method : String)
  | timeout (node : String) (milliseconds : Nat)
  | http (node : String)
  | invalidResponse (node : String)
  /-- what a delay asked for could not be kept -/
  | suspend (node : String) (failure : Failure)
  | store (node : String) (failure : Failure)
  | unknownKind (node name : String)
  | invalidConfig (node kind field : String)
  | unknownOperator (node op : String)
  | danglingEdge (source target : String)
  | stepLimit (start : String) (limit : Nat)
  deriving DecidableEq, Repr

namespace FlowError

def node? : FlowError → Option String
  | invalidUrl node _ _ | invalidMethod node _ | timeout node _ | http node | invalidResponse node
  | suspend node _ | store node _ | unknownKind node _ | invalidConfig node _ _
  | unknownOperator node _ => some node
  | danglingEdge _ _ | stepLimit _ _ => none

def message : FlowError → String
  | invalidUrl node url defect =>
    "node '" ++ node ++ "': invalid url '" ++ url ++ "': " ++ defect.message
  | invalidMethod node method => "node '" ++ node ++ "': invalid HTTP method '" ++ method ++ "'"
  | timeout node milliseconds =>
    "node '" ++ node ++ "': request timed out after " ++ toString milliseconds ++ "ms"
  | http node => "node '" ++ node ++ "': request failed"
  | invalidResponse node => "node '" ++ node ++ "': response body is not valid JSON"
  | suspend node failure =>
    "node '" ++ node ++ "': failed to persist suspension: " ++ failure.message
  | store node failure => "node '" ++ node ++ "': conversation store error: " ++ failure.message
  | unknownKind node name => "node '" ++ node ++ "' has unknown type '" ++ name ++ "'"
  | invalidConfig node kind field =>
    "node '" ++ node ++ "' (" ++ kind ++ ") is missing required field '" ++ field ++ "'"
  | unknownOperator node op => "node '" ++ node ++ "': unknown condition operator '" ++ op ++ "'"
  | danglingEdge source target =>
    "edge '" ++ source ++ "' -> '" ++ target ++ "' points at a node that does not exist"
  | stepLimit start limit =>
    "traversal from '" ++ start ++ "' exceeded " ++ toString limit ++ " steps"

end FlowError

end ChatFlow
