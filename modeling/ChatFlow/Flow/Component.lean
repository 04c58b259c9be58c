import ChatFlow.Flow.Basic
import ChatFlow.Text.Blank

namespace ChatFlow.Flow

def ids (flow : Flow) : List String :=
  flow.nodes.foldl (fun ids node => if ids.contains node.id then ids else ids ++ [node.id]) []

def declares (flow : Flow) (id : String) : Bool := flow.nodes.any (·.id == id)

/-- The declared targets of the edges from a declared id, those of later edges first. -/
def successors (flow : Flow) (id : String) : List String :=
  ((flow.edges.filter fun e => e.source == id && flow.declares id && flow.declares e.target).map
    (·.target)).reverse

def spread (flow : Flow) : Nat → List String → List String
  | 0, reached => reached
  | rounds + 1, reached =>
    spread flow rounds ((reached.flatMap flow.successors).foldl
      (fun reached id => if reached.contains id then reached else reached ++ [id]) reached)

def reachable (flow : Flow) (id : String) : List String := flow.spread flow.nodes.length [id]

def together (flow : Flow) (a b : String) : Bool :=
  (flow.reachable a).contains b && (flow.reachable b).contains a

/-- A depth-first walk: the ids entered so far, and those left for good in the order of leaving. -/
structure Walk where
  entered : List String
  left : List String

/-- Enters an id unless that was done before, and everything behind it, down to so many levels. -/
def visit (flow : Flow) : (room : Nat) → Walk → String → Walk
  | 0, walk, _ => walk
  | room + 1, walk, id =>
    if walk.entered.contains id then walk
    else
      let walk :=
        (flow.successors id).foldl (visit flow room) { walk with entered := id :: walk.entered }
      { walk with left := walk.left ++ [id] }

/-- The declared ids in the order in which a depth-first walk leaves them. -/
def leavingOrder (flow : Flow) : List String :=
  (flow.ids.foldl (flow.visit (flow.nodes.length + 1)) ⟨[], []⟩).left

/-- Of ids in the order of leaving, those that are the last of their component. -/
def lastOfComponents (flow : Flow) : List String → List String
  | [] => []
  | id :: rest =>
    if rest.any (flow.together id) then lastOfComponents flow rest
      else id :: lastOfComponents flow rest

/-- The components of more than one node, each in the order of the ids. They are listed in the order
in which a depth-first walk leaves them for good. -/
def components (flow : Flow) : List (List String) :=
  ((flow.lastOfComponents flow.leavingOrder).map fun id =>
    (flow.ids.filter (flow.together id)).mergeSort Text.le).filter fun ids => 1 < ids.length

def selfLoops (flow : Flow) : List String :=
  (flow.ids.filter fun id => flow.edges.any fun e => e.source == id &&
    e.target == id).mergeSort Text.le

def cycles (flow : Flow) : List (List String) := flow.components ++ flow.selfLoops.map ([·])

end ChatFlow.Flow
