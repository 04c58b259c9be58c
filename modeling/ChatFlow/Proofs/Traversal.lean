import ChatFlow.Proofs.Handler
import ChatFlow.Proofs.Index
import ChatFlow.Run.Engine

namespace ChatFlow

def Node.visit (settings : Settings) (sink : Sink) (resuming : Bool) (node : Node)
    (context : Context) :
    Activity NodeResult :=
  if resuming && node.kind == .delay then .done (Node.pass context)
    else node.run settings sink context

namespace Flow

def goOn (settings : Settings) (sink : Sink) (index : Index) (start : String) (room : Nat)
    (path : List String) (node : Node) (context : Context) :
    NodeResult → Activity (Context × Except FlowError Traversal)
  | .error e => .done (context, .error e)
  | .ok (.suspend resumeAt, context) =>
    .done (context, .ok ⟨start, path, .suspended node.id resumeAt⟩)
  | .ok (.proceed handle, context) =>
    match next settings.policy index node.id handle with
    | .nowhere => .done (context, .ok ⟨start, path, .completed⟩)
    | .failure e => .done (context, .error e)
    | .node target => traverse settings sink index start room false path context target

variable {settings : Settings} {sink : Sink} {index : Index} {start id : String} {room : Nat}
  {resuming : Bool} {path : List String} {context : Context}

theorem traverse_of_node? {node : Node} (h : index.node? id = some node) :
    traverse settings sink index start (room + 1) resuming path context id =
      (node.visit settings sink resuming context).bind
        (goOn settings sink index start room (path ++ [id]) node context) := by
  rw [traverse, h]
  show Activity.bind (node.visit settings sink resuming context) _ = _
  refine congrArg (Activity.bind _) (funext fun result => ?_)
  rcases result with e | ⟨handle | resumeAt, context'⟩
  · rfl
  · simp only [goOn]
    cases next settings.policy index node.id handle <;> rfl
  · rfl

theorem traverse_of_node?_eq_none (h : index.node? id = none) :
    traverse settings sink index start (room + 1) resuming path context id =
      .done (context, .ok ⟨start, path, .completed⟩) := by
  rw [traverse, h]
  rfl

theorem traverse_of_not_contains (h : index.contains id = false) (room : Nat) :
    traverse settings sink index start room resuming path context id =
      .done (context, .ok ⟨start, path, .completed⟩) := by
  cases room with
  | zero => rw [traverse, h]; rfl
  | succ room =>
    refine traverse_of_node?_eq_none ?_
    rw [← Option.not_isSome_iff_eq_none]
    exact Bool.not_eq_true _ ▸ h

theorem traverse_zero_of_contains (h : index.contains id = true) :
    traverse settings sink index start 0 resuming path context id =
      .done (context, .error (.stepLimit start settings.limit)) := by
  rw [traverse, h]
  rfl

theorem next_eq_node {policy : Policy} {handle : Handle} {target : String}
    (h : next policy index id handle = .node target) :
    ∃ edge, index.select id handle = some edge ∧ edge.target = target ∧
      index.contains target = true := by
  unfold next at h
  cases hselect : index.select id handle with
  | none => simp [hselect] at h
  | some edge =>
    rw [hselect] at h
    dsimp only at h
    split at h
    · next hcontains =>
      cases h
      exact ⟨edge, rfl, rfl, hcontains⟩
    · cases policy <;> cases h

theorem execute_resume (settings : Settings) (sink : Sink) (flow : Flow) (node : String)
    (context : Context) :
    flow.execute settings sink (.resume node) context =
      (traverseFrom settings sink (Index.ofFlow flow) true context node).bind fun r =>
        .done (r.2.map fun t => ⟨r.1, [t]⟩) := by
  show Activity.bind (Activity.bind _ _) _ = _
  rw [Activity.bind_assoc]
  refine congrArg (Activity.bind _) (funext fun r => ?_)
  rcases r with ⟨context', e | t⟩ <;> rfl

end Flow

end ChatFlow
