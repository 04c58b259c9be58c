import ChatFlow.Proofs.Traversal

namespace ChatFlow

/-- Work on a context in place, which may fail; the context stays as it is then. -/
abbrev InPlace (α : Type) := ExceptT FlowError (StateT Context Activity) α

namespace Activity

theorem call_congr {α : Type} {c : Call} {f g : c.Answer → Activity α}
    (h : ∀ answer, f answer = g answer) :
    call c f = call c g :=
  congrArg (call c) (funext h)

theorem bind_congr {α β : Type} {x : Activity α} {f g : α → Activity β} (h : ∀ a, f a = g a) :
    x.bind f = x.bind g :=
  congrArg (bind x) (funext h)

end Activity

namespace InPlace

variable {α β : Type}

def on (x : InPlace α) (context : Context) : Activity (Except FlowError α × Context) :=
  (ExceptT.run x).run context

def ask (c : Call) : InPlace c.Answer := ExceptT.lift (StateT.lift (.ask c))

def lift (x : Activity α) : InPlace α := ExceptT.lift (StateT.lift x)

def demand : Except FlowError α → InPlace α
  | .ok a => pure a
  | .error e => throw e

def write (path : String) (value : Json) : InPlace Unit :=
  modify fun context => context.set path value

@[simp] theorem on_get (context : Context) : on get context = .done (.ok context, context) := rfl

@[simp] theorem on_write (path : String) (value : Json) (context : Context) :
    on (write path value) context = .done (.ok (), context.set path value) :=
  rfl

@[simp] theorem on_lift (x : Activity α) (context : Context) :
    on (lift x) context = x.bind fun a => .done (.ok a, context) := by
  show Activity.bind (Activity.bind x _) _ = _
  rw [Activity.bind_assoc]
  rfl

@[simp] theorem on_ask (c : Call) (context : Context) :
    on (ask c) context = .call c fun answer => .done (.ok answer, context) :=
  rfl

@[simp] theorem on_demand_ok (a : α) (context : Context) :
    on (demand (.ok a)) context = .done (.ok a, context) := rfl

/-- What follows is done on the context as it was left, unless there was a failure. -/
def after (f : α → InPlace β) : Except FlowError α × Context →
    Activity (Except FlowError β × Context)
  | (.ok a, context) => (f a).on context
  | (.error e, context) => .done (.error e, context)

@[simp] theorem on_bind (x : InPlace α) (f : α → InPlace β) (context : Context) :
    on (x >>= f) context = (x.on context).bind (after f) := by
  refine congrArg (Activity.bind (x.on context)) (funext fun r => ?_)
  rcases r with ⟨e | a, context'⟩ <;> rfl

@[simp] theorem after_ok (f : α → InPlace β) (a : α) (context : Context) :
    after f (.ok a, context) = (f a).on context :=
  rfl

end InPlace

def NodeResult.settle (context : Context) : NodeResult → Except FlowError Outcome × Context
  | .ok (outcome, context') => (.ok outcome, context')
  | .error e => (.error e, context)

namespace Node

open InPlace (ask demand write)

def sendMessageInPlace (node : Node) : InPlace Outcome := do
  let context ← get
  match context.channel? with
  | none => return .proceed Handle.out
  | some channel => do
    let text := Template.applyValue context (node.field? "text")
    let now ← ask .now
    let appended ← ask (.append channel (.outgoing (node.wordOr "type" "text") text now))
    demand (appended.mapError (.store node.id))
    let touched ← ask (.touch channel now)
    demand (touched.mapError (.store node.id))
    return .proceed Handle.out

def takeOverInPlace (node : Node) : InPlace Outcome := do
  match (← get).channel? with
  | none => return .proceed Handle.out
  | some channel => do
    let now ← ask .now
    let written ← ask (.setStatus channel .humanTakeover now)
    demand (written.mapError (.store node.id))
    return .proceed Handle.out

def setVariableInPlace (node : Node) : InPlace Outcome := do
  let value := Template.applyValue (← get) (node.field? "value")
  write node.variablePath (.text value)
  return .proceed Handle.out

def branchInPlace (policy : Policy) (node : Node) : InPlace Outcome := do
  let conditions := Condition.ofBlock (node.field? "conditions")
  match policy, conditions.find? (·.operator?.isNone) with
  | .strict, some c => throw (.unknownOperator node.id c.op)
  | _, _ =>
    let holds := Condition.holdTogether conditions (.ofName (node.textField? "mode")) (← get)
    return .proceed (if holds then Handle.yes else Handle.no)

def delayInPlace (sink : Sink) (node : Node) : InPlace Outcome := do
  let now ← ask .now
  let resumeAt := now.after node.delayMillis
  let kept ← InPlace.lift (sink ⟨node.id, resumeAt, ← get⟩)
  demand (kept.mapError (.suspend node.id))
  return .suspend resumeAt

def writeReply (view : Json) : List Template.Mapping → InPlace Unit
  | [] => return ()
  | m :: rest => do
    write m.target ((Path.get? view m.source).getD .null)
    writeReply view rest

def apiRequestInPlace (settings : Settings) (node : Node) : InPlace Outcome := do
  let request ← demand (node.request settings (← get))
  if !request.isSendable then throw (.http node.id)
  match ← ask (.send request) with
  | .closed | .unreachable => throw (.http node.id)
  | .silent => throw (.timeout node.id request.timeout)
  | .answered status headers body => do
    let data ← demand (node.replyData headers body)
    writeReply (replyView status data) (Template.mappings (node.field? "mapResponse"))
    return .proceed Handle.out

def handleInPlace (settings : Settings) (sink : Sink) (node : Node) : InPlace Outcome :=
  match node.kind with
  | .newMessage | .scheduled | .unknown _ => return .proceed Handle.out
  | .sendMessage => node.sendMessageInPlace
  | .apiRequest => node.apiRequestInPlace settings
  | .setVariable => node.setVariableInPlace
  | .branch => node.branchInPlace settings.policy
  | .delay => node.delayInPlace sink
  | .humanTakeover => node.takeOverInPlace

def runInPlace (settings : Settings) (sink : Sink) (node : Node) : InPlace Outcome :=
  match node.refusal?, settings.policy with
  | none, _ => node.handleInPlace settings sink
  | some e, .strict => throw e
  | some _, .permissive => return .proceed Handle.out

variable {settings : Settings} {sink : Sink} {node : Node} {context : Context}

theorem on_sendMessageInPlace :
    node.sendMessageInPlace.on context =
      (node.sendMessage context).bind (.done ∘ NodeResult.settle context) := by
  unfold sendMessageInPlace sendMessage
  simp only [InPlace.on_bind, InPlace.on_get, Activity.done_bind, InPlace.after_ok]
  cases context.channel? with
  | none => rfl
  | some channel =>
    apply Activity.call_congr
    intro now
    apply Activity.call_congr
    intro appended
    cases appended with
    | error failure => rfl
    | ok _ =>
      apply Activity.call_congr
      intro touched
      cases touched <;> rfl

theorem on_takeOverInPlace :
    node.takeOverInPlace.on context =
      (node.takeOver context).bind (.done ∘ NodeResult.settle context) := by
  unfold takeOverInPlace takeOver
  simp only [InPlace.on_bind, InPlace.on_get, Activity.done_bind, InPlace.after_ok]
  cases context.channel? with
  | none => rfl
  | some channel =>
    apply Activity.call_congr
    intro now
    apply Activity.call_congr
    intro written
    cases written <;> rfl

theorem on_setVariableInPlace :
    node.setVariableInPlace.on context =
      .done (NodeResult.settle context (node.setVariable context)) :=
  rfl

theorem on_branchInPlace (policy : Policy) :
    (node.branchInPlace policy).on context =
      .done (NodeResult.settle context (node.branch policy context)) := by
  unfold branchInPlace branch
  dsimp only
  cases (Condition.ofBlock (node.field? "conditions")).find? (·.operator?.isNone)
    <;> cases policy <;> rfl

theorem on_delayInPlace :
    (node.delayInPlace sink).on context =
      (node.delay sink context).bind (.done ∘ NodeResult.settle context) := by
  unfold delayInPlace delay
  rw [InPlace.on_bind, InPlace.on_ask, Activity.call_bind, Activity.bind_eq, Activity.ask_bind,
    Activity.call_bind]
  apply Activity.call_congr
  intro now
  simp only [Activity.done_bind, InPlace.after_ok, InPlace.on_bind, InPlace.on_get, InPlace.on_lift,
    Activity.bind_eq, Activity.bind_assoc]
  apply Activity.bind_congr
  intro kept
  cases kept <;> rfl

theorem on_writeReply (view : Json) (mappings : List Template.Mapping) (context : Context) :
    (writeReply view mappings).on context =
      .done (.ok (), mappings.foldl
        (fun context m => context.set m.target ((Path.get? view m.source).getD .null))
          context) := by
  induction mappings generalizing context with
  | nil => rfl
  | cons m rest ih =>
    rw [writeReply, InPlace.on_bind, InPlace.on_write, Activity.done_bind, InPlace.after_ok, ih]
    rfl

theorem on_apiRequestInPlace :
    (node.apiRequestInPlace settings).on context =
      (node.apiRequest settings context).bind (.done ∘ NodeResult.settle context) := by
  unfold apiRequestInPlace apiRequest
  simp only [InPlace.on_bind, InPlace.on_get, Activity.done_bind, InPlace.after_ok]
  cases node.request settings context with
  | error e => rfl
  | ok request =>
    simp only [InPlace.on_demand_ok, Activity.done_bind, InPlace.after_ok]
    split
    · rfl
    · rw [InPlace.on_bind, InPlace.on_ask, Activity.call_bind, Activity.bind_eq, Activity.ask_bind,
        Activity.call_bind]
      apply Activity.call_congr
      intro reply
      rw [Activity.done_bind, InPlace.after_ok]
      cases reply with
      | closed => rfl
      | unreachable => rfl
      | silent => rfl
      | answered status headers body =>
        simp only [InPlace.on_bind]
        cases node.replyData headers body with
        | error e => rfl
        | ok data =>
          simp only [InPlace.on_demand_ok, Activity.done_bind, InPlace.after_ok, InPlace.on_bind,
            on_writeReply]
          rfl

/-- Running a node in place is running it, and the context stays as it was if that fails. -/
theorem on_runInPlace (settings : Settings) (sink : Sink) (node : Node) (context : Context) :
    (node.runInPlace settings sink).on context =
      (node.run settings sink context).bind (.done ∘ NodeResult.settle context) := by
  unfold runInPlace run
  cases node.refusal? with
  | some e => cases settings.policy <;> rfl
  | none =>
    unfold handleInPlace handle
    dsimp only
    cases node.kind with
    | sendMessage => exact on_sendMessageInPlace
    | apiRequest => exact on_apiRequestInPlace
    | branch => exact on_branchInPlace settings.policy
    | delay => exact on_delayInPlace
    | humanTakeover => exact on_takeOverInPlace
    | setVariable => exact on_setVariableInPlace
    | newMessage => rfl
    | scheduled => rfl
    | unknown name => rfl

def visitInPlace (settings : Settings) (sink : Sink) (resuming : Bool) (node : Node) :
    InPlace Outcome :=
  if resuming && node.kind == .delay then return .proceed Handle.out
    else node.runInPlace settings sink

theorem on_visitInPlace (resuming : Bool) :
    (node.visitInPlace settings sink resuming).on context =
      (node.visit settings sink resuming context).bind (.done ∘ NodeResult.settle context) := by
  unfold visitInPlace visit
  split
  · rfl
  · exact on_runInPlace settings sink node context

end Node

namespace Flow

def traverseInPlace (settings : Settings) (sink : Sink) (index : Index) (start : String) :
    (room : Nat) → (resuming : Bool) → (path : List String) → (id : String) → InPlace Traversal
  | 0, _, path, id =>
    if index.contains id then throw (.stepLimit start settings.limit)
      else return ⟨start, path, .completed⟩
  | room + 1, resuming, path, id =>
    match index.node? id with
    | none => return ⟨start, path, .completed⟩
    | some node => do
      let path := path ++ [id]
      match ← node.visitInPlace settings sink resuming with
      | .suspend resumeAt => return ⟨start, path, .suspended node.id resumeAt⟩
      | .proceed handle =>
        match next settings.policy index node.id handle with
        | .nowhere => return ⟨start, path, .completed⟩
        | .failure e => throw e
        | .node target => traverseInPlace settings sink index start room false path target

def traverseAllInPlace (settings : Settings) (sink : Sink) (index : Index) :
    List Node → InPlace (List Traversal)
  | [] => return []
  | node :: rest => do
    let first ← traverseInPlace settings sink index node.id settings.limit false [] node.id
    let others ← traverseAllInPlace settings sink index rest
    return first :: others

def runInPlace (settings : Settings) (sink : Sink) (flow : Flow) (event : Event) :
    InPlace (List Traversal) :=
  let index := Index.ofFlow flow
  match event with
  | .resume node => do
    let traversal ← traverseInPlace settings sink index node settings.limit true [] node
    return [traversal]
  | .newMessage _ | .scheduled => traverseAllInPlace settings sink index index.starts

variable {settings : Settings} {sink : Sink} {index : Index} {start : String}

def turned {α : Type} (r : Context × Except FlowError α) :
    Activity (Except FlowError α × Context) := .done (r.2, r.1)

theorem on_traverseInPlace (room : Nat) (resuming : Bool) (path : List String) (id : String)
    (context : Context) :
    (traverseInPlace settings sink index start room resuming path id).on context =
      (traverse settings sink index start room resuming path context id).bind turned := by
  -- by induction on the room for steps; what a visit leaves of the context is where the next one
  -- starts
  induction room generalizing resuming path id context with
  | zero =>
    rw [traverseInPlace]
    cases hid : index.contains id with
    | true =>
      rw [traverse_zero_of_contains hid]
      rfl
    | false =>
      rw [traverse_of_not_contains hid]
      rfl
  | succ room ih =>
    rw [traverseInPlace]
    cases hnode : index.node? id with
    | none =>
      rw [traverse_of_node?_eq_none hnode]
      rfl
    | some node =>
      rw [traverse_of_node? hnode, Activity.bind_assoc]
      dsimp only
      rw [InPlace.on_bind, Node.on_visitInPlace, Activity.bind_assoc]
      apply Activity.bind_congr
      intro result
      rcases result with e | ⟨handle | resumeAt, context'⟩
      · rfl
      · -- only here the traversal goes on
        show InPlace.on _ context' = Activity.bind (goOn _ _ _ _ _ _ _ _ _) _
        unfold goOn
        dsimp only
        cases next settings.policy index node.id handle with
        | node target => exact ih false (path ++ [id]) target context'
        | nowhere => rfl
        | failure e => rfl
      · rfl

theorem on_traverseAllInPlace (nodes : List Node) (context : Context) :
    (traverseAllInPlace settings sink index nodes).on context =
      (traverseAll settings sink index context nodes).bind turned := by
  induction nodes generalizing context with
  | nil => rfl
  | cons node rest ih =>
    rw [traverseAllInPlace, InPlace.on_bind, on_traverseInPlace, traverseAll, Activity.bind_eq,
      Activity.bind_assoc, Activity.bind_assoc]
    apply Activity.bind_congr
    intro first
    rcases first with ⟨context', e | t⟩
    · rfl
    · show InPlace.on (traverseAllInPlace settings sink index rest >>= fun others =>
          pure (t :: others)) context' =
        Activity.bind (Activity.bind _ _) _
      rw [InPlace.on_bind, ih, Activity.bind_assoc, Activity.bind_assoc]
      apply Activity.bind_congr
      intro others
      rcases others with ⟨context', e | ts⟩ <;> rfl

/-- A run that writes to one context in place leaves of it what a run hands on, also where it
fails. -/
theorem on_runInPlace (settings : Settings) (sink : Sink) (flow : Flow) (event : Event)
    (context : Context) :
    (flow.runInPlace settings sink event).on context =
      (flow.run settings sink event context).bind turned := by
  unfold runInPlace run
  cases event with
  | newMessage text => exact on_traverseAllInPlace _ context
  | scheduled => exact on_traverseAllInPlace _ context
  | resume node =>
    dsimp only
    rw [InPlace.on_bind, on_traverseInPlace, Activity.bind_eq, Activity.bind_assoc,
      Activity.bind_assoc]
    apply Activity.bind_congr
    intro first
    rcases first with ⟨context', e | t⟩ <;> rfl

end Flow

end ChatFlow
