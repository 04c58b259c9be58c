import ChatFlow.Run.Handler

namespace ChatFlow

inductive Event
  | newMessage (text : String)
  | scheduled
  /-- go on behind a delay -/
  | resume (node : String)
  deriving DecidableEq, Repr

inductive Ending
  | completed
  | suspended (node : String) (resumeAt : Instant)
  deriving DecidableEq, Repr

structure Traversal where
  start : String
  /-- the nodes visited, in order -/
  path : List String
  ending : Ending
  deriving DecidableEq, Repr

def Traversal.isSuspended (t : Traversal) : Bool :=
  match t.ending with
  | .suspended _ _ => true
  | .completed => false

structure FlowRun where
  context : Context
  traversals : List Traversal
  deriving DecidableEq

namespace FlowRun

def suspended (run : FlowRun) : List Traversal := run.traversals.filter (·.isSuspended)

def isSuspended (run : FlowRun) : Bool := run.traversals.any (·.isSuspended)

def visited (run : FlowRun) : List String := run.traversals.flatMap (·.path)

end FlowRun

namespace Settings

/-- The greatest number of steps of a traversal, at least one. -/
def limit (settings : Settings) : Nat := max settings.maxSteps 1

end Settings

namespace Flow

/-- Where a traversal goes behind a node that took a handle. -/
inductive Next
  | node (id : String)
  | nowhere
  | failure (e : FlowError)

/-- Where a handle leads. An edge to an undeclared node ends a permissive run and fails a strict
one. -/
def next (policy : Policy) (index : Index) (id : String) (handle : Handle) : Next :=
  match index.select id handle with
  | none => .nowhere
  | some edge =>
    if index.contains edge.target then .node edge.target
    else match policy with
      | .strict => .failure (.danglingEdge edge.source edge.target)
      | .permissive => .nowhere

/-- Goes on from a node with so much room for further steps; `path` holds the steps so far. A delay
that is being resumed is over and passes. -/
def traverse (settings : Settings) (sink : Sink) (index : Index) (start : String) :
    (room : Nat) → (resuming : Bool) → (path : List String) → Context → (id : String) →
      Activity (Context × Except FlowError Traversal)
  | 0, _, path, context, id =>
    if index.contains id then return (context, .error (.stepLimit start settings.limit))
    else return (context, .ok ⟨start, path, .completed⟩)
  | room + 1, resuming, path, context, id =>
    match index.node? id with
    | none => return (context, .ok ⟨start, path, .completed⟩)
    | some node => do
      let path := path ++ [id]
      let step := if resuming && node.kind == .delay then .done (Node.pass context)
        else node.run settings sink context
      match ← step with
      | .error e => return (context, .error e)
      | .ok (.suspend resumeAt, context) =>
        return (context, .ok ⟨start, path, .suspended node.id resumeAt⟩)
      | .ok (.proceed handle, context) =>
        match next settings.policy index node.id handle with
        | .nowhere => return (context, .ok ⟨start, path, .completed⟩)
        | .failure e => return (context, .error e)
        | .node target => traverse settings sink index start room false path context target

def traverseFrom (settings : Settings) (sink : Sink) (index : Index) (resuming : Bool)
    (context : Context) (start : String) : Activity (Context × Except FlowError Traversal) :=
  traverse settings sink index start settings.limit resuming [] context start

/-- Traversals from several nodes on one context; the first that fails ends them all. -/
def traverseAll (settings : Settings) (sink : Sink) (index : Index) :
    Context → List Node → Activity (Context × Except FlowError (List Traversal))
  | context, [] => return (context, .ok [])
  | context, node :: rest => do
    let (context, first) ← traverseFrom settings sink index false context node.id
    match first with
    | .error e => return (context, .error e)
    | .ok first => do
      let (context, others) ← traverseAll settings sink index context rest
      return (context, others.map (first :: ·))

/-- Runs a flow for an event. The context comes back also from a run that failed, as the nodes
before the failure left it. -/
def run (settings : Settings) (sink : Sink) (flow : Flow) (event : Event) (context : Context) :
    Activity (Context × Except FlowError (List Traversal)) :=
  let index := Index.ofFlow flow
  match event with
  | .resume node => do
    let (context, traversal) ← traverseFrom settings sink index true context node
    return (context, traversal.map ([·]))
  | .newMessage _ | .scheduled => traverseAll settings sink index context index.starts

/-- Runs a flow for an event; a run that failed leaves no context. -/
def execute (settings : Settings) (sink : Sink) (flow : Flow) (event : Event) (context : Context) :
    Activity (Except FlowError FlowRun) := do
  let (context, traversals) ← run settings sink flow event context
  return traversals.map fun traversals => ⟨context, traversals⟩

end Flow

end ChatFlow
