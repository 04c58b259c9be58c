import ChatFlow.Proofs.Traversal
import Mathlib.Control.Monad.Basic

namespace ChatFlow

def Node.withoutDelay (node : Node) : Node :=
  if node.kind = .delay then { node with kind := .scheduled } else node

def Flow.withoutDelays (flow : Flow) : Flow :=
  { flow with nodes := flow.nodes.map Node.withoutDelay }

namespace Node

theorem withoutDelay_id (node : Node) : node.withoutDelay.id = node.id := by
  unfold withoutDelay
  split <;> rfl

theorem visit_withoutDelay_of_delay {node : Node} (h : node.kind = .delay) (settings : Settings)
    (sink : Sink) (context : Context) :
    node.withoutDelay.visit settings sink false context = .done (pass context) := by
  have hrefusal : ({ node with kind := .scheduled } : Node).refusal? = none := rfl
  rw [withoutDelay, if_pos h]
  show Node.run settings sink { node with kind := .scheduled } context = _
  rw [run, hrefusal]
  rfl

theorem visit_withoutDelay_of_ne {node : Node} (h : node.kind ≠ .delay) (settings : Settings)
    (sink sink' : Sink) (resuming : Bool) (context : Context) :
    node.withoutDelay.visit settings sink' false context =
      node.visit settings sink resuming context := by
  have hsuspends : ¬ node.Suspends := fun hs => h hs.1
  have hkind : (resuming && node.kind == .delay) = false := by simp [h]
  unfold visit
  rw [withoutDelay, if_neg h, hkind]
  exact run_sink hsuspends settings sink' sink context

end Node

namespace Flow

variable (flow : Flow)

theorem node?_withoutDelays (id : String) :
    (Index.ofFlow flow.withoutDelays).node? id =
      ((Index.ofFlow flow).node? id).map Node.withoutDelay := by
  rw [Index.node?_ofFlow, Index.node?_ofFlow]
  unfold node? withoutDelays
  rw [List.find?_map]
  congr 2
  funext node
  exact congrArg (· == id) node.withoutDelay_id

theorem contains_withoutDelays (id : String) :
    (Index.ofFlow flow.withoutDelays).contains id = (Index.ofFlow flow).contains id := by
  show ((Index.ofFlow flow.withoutDelays).node? id).isSome = ((Index.ofFlow flow).node? id).isSome
  rw [node?_withoutDelays, Option.isSome_map]

theorem next_withoutDelays (policy : Policy) (id : String) (handle : Handle) :
    next policy (Index.ofFlow flow.withoutDelays) id handle =
      next policy (Index.ofFlow flow) id handle := by
  have hselect : (Index.ofFlow flow.withoutDelays).select id handle =
      (Index.ofFlow flow).select id handle := rfl
  unfold next
  rw [hselect]
  cases (Index.ofFlow flow).select id handle with
  | none => rfl
  | some edge =>
    dsimp only
    rw [contains_withoutDelays]

end Flow

namespace World

def keeping (w : World) (requests : List SuspendRequest) : World := { w with collected := requests }

theorem answer_keeping {c : Call} (hc : c.IsTalk) (w : World) (requests : List SuspendRequest) :
    (w.keeping requests).answer c = ((w.answer c).1, (w.answer c).2.keeping requests) := by
  have hserve {α : Type} (op : Operation) (act : Except Failure α × World) :
      (w.keeping requests).serve op (act.1, act.2.keeping requests) =
        ((w.serve op act).1, (w.serve op act).2.keeping requests) := by
    unfold serve
    show (if w.failing.contains op then _ else _) = _
    split <;> rfl
  have hsend (request : Request) : (w.keeping requests).send request =
      ((w.send request).1, (w.send request).2.keeping requests) := by
    unfold send
    rw [show (w.keeping requests).replies = w.replies from rfl]
    cases w.replies <;> rfl
  cases c with
  | now => rfl
  | append id m =>
    exact hserve .append (.ok (), { w with conversations := w.conversations.append id m })
  | touch id at_ =>
    exact hserve .touch (.ok (), { w with conversations := w.conversations.touch id at_ })
  | setStatus id status at_ =>
    exact hserve .setStatus
      (.ok (), { w with conversations := w.conversations.setStatus id status at_ })
  | send request =>
    show (some ((w.keeping requests).send request).1, ((w.keeping requests).send request).2) = _
    rw [hsend]
    rfl
  | _ => exact hc.elim

theorem Runs.keeping {α : Type} {Q : α → Prop} {x : Activity α} (hx : x.Only Call.IsTalk Q)
    {w w₁ : World} {a : α} (h : w.Runs x a w₁) (requests : List SuspendRequest) :
    (w.keeping requests).Runs x a (w₁.keeping requests) := by
  induction x generalizing w with
  | done b =>
    obtain ⟨rfl, rfl⟩ := h.of_done
    rfl
  | call c next ih =>
    obtain ⟨answer, w₂, hanswer, hnext⟩ := h.of_call
    have hkeeping := answer_keeping hx.1 w requests
    rw [hanswer] at hkeeping
    exact runs_call hkeeping (ih answer (hx.2 answer) hnext)

end World

namespace Node

variable {node : Node} {settings : Settings} {resuming : Bool} {context : Context} {w w₁ : World}

theorem runs_delay_collector {r : NodeResult} (h : w.Runs (node.delay .collector context) r w₁) :
    (∃ e, r = .error e) ∨ ∃ resumeAt, r = .ok (.suspend resumeAt, context) ∧
      w₁ = w.keeping (w.collected ++ [⟨node.id, resumeAt, context⟩]) := by
  obtain ⟨now, w₂, hnow, h⟩ := h.of_call
  cases hnow
  obtain ⟨kept, w₂, hkept, h⟩ := h.of_call
  have hserve : w.serve .collect (.ok (), w.keeping (w.collected ++
      [⟨node.id, w.clock.after node.delayMillis, context⟩])) = (some kept, w₂) := hkept
  unfold World.serve at hserve
  split at hserve
  · cases hserve
    exact .inl ⟨_, h.of_done.1⟩
  · cases hserve
    exact .inr ⟨_, h.of_done.1, h.of_done.2⟩

/-- A delay that is not resumed either suspends or passes. -/
theorem runs_visit_of_delay (hkind : node.kind = .delay) {r : NodeResult}
    (h : w.Runs (node.visit settings .collector resuming context) r w₁) :
    (∃ e, r = .error e) ∨ (r = pass context ∧ w₁ = w) ∨
      ∃ resumeAt, r = .ok (.suspend resumeAt, context) ∧
        w₁ = w.keeping (w.collected ++ [⟨node.id, resumeAt, context⟩]) := by
  unfold visit at h
  split at h
  · exact .inr (.inl h.of_done)
  · cases hrefusal : node.refusal? with
    | none =>
      rw [run_of_suspends ⟨hkind, hrefusal⟩] at h
      exact (runs_delay_collector h).imp_right .inr
    | some e =>
      rw [run_of_refused hrefusal] at h
      cases hpolicy : settings.policy with
      | strict =>
        rw [hpolicy] at h
        exact .inl ⟨e, h.of_done.1⟩
      | permissive =>
        rw [hpolicy] at h
        exact .inr (.inl h.of_done)

theorem visit_only_of_ne (hkind : node.kind ≠ .delay) :
    (node.visit settings .collector resuming context).Only Call.IsTalk
      (node.Yields settings.policy context) := by
  have hsuspends : ¬ node.Suspends := fun hs => hkind hs.1
  have hresuming : (resuming && node.kind == .delay) = false := by simp [hkind]
  unfold visit
  rw [hresuming]
  exact (run_only hsuspends settings .collector context).mono (fun _ h => h.isTalk) fun _ h => h

/-- Where a node goes on, so does the node that does not stop, and in the same way. -/
theorem runs_withoutDelay {handle : Handle} {context' : Context}
    (h : w.Runs (node.visit settings .collector resuming context)
      (.ok (.proceed handle, context')) w₁)
    (sink : Sink) (requests : List SuspendRequest) :
    (w.keeping requests).Runs (node.withoutDelay.visit settings sink false context)
      (.ok (.proceed handle, context')) (w₁.keeping requests) := by
  by_cases hkind : node.kind = .delay
  · rcases runs_visit_of_delay hkind h with ⟨e, he⟩ | ⟨hpass, rfl⟩ | ⟨resumeAt, hsuspend, -⟩
    · cases he
    · rw [visit_withoutDelay_of_delay hkind, hpass]
      exact World.runs_done _ _
    · cases hsuspend
  · rw [visit_withoutDelay_of_ne hkind settings .collector sink resuming context]
    exact h.keeping (visit_only_of_ne hkind) requests

theorem collected_of_suspend {resumeAt : Instant} {context' : Context}
    (h : w.Runs (node.visit settings .collector resuming context)
      (.ok (.suspend resumeAt, context')) w₁) :
    context' = context ∧ w₁ = w.keeping (w.collected ++ [⟨node.id, resumeAt, context⟩]) := by
  by_cases hkind : node.kind = .delay
  · rcases runs_visit_of_delay hkind h with ⟨e, he⟩ | ⟨hpass, -⟩ | ⟨at_, hsuspend, hw⟩
    · cases he
    · cases hpass
    · cases hsuspend
      exact ⟨rfl, hw⟩
  · obtain ⟨r, w₂, hruns, hr⟩ := World.exists_runs (fun _ => World.answer_isSome_of_isTalk)
      (@visit_only_of_ne node settings resuming context hkind) w
    obtain ⟨rfl, -⟩ := h.unique hruns
    exact hr.elim

end Node

namespace Flow

variable {settings : Settings} {flow : Flow}

/-- Whatever the flow without delays does from `id'` on, it does from `id` on after some steps. -/
def PassesTo (settings : Settings) (flow : Flow) (w : World) (context : Context) (id : String)
    (steps : List String) (w' : World) (context' : Context) (id' : String) : Prop :=
  ∀ (sink : Sink) (start : String) (room : Nat) (path : List String)
    (requests : List SuspendRequest) (r : Context × Except FlowError Traversal) (w'' : World),
    (w'.keeping requests).Runs
      (traverse settings sink (Index.ofFlow flow.withoutDelays) start room false
      (path ++ steps) context' id') r w'' →
    (w.keeping requests).Runs (traverse settings sink (Index.ofFlow flow.withoutDelays) start
      (steps.length + room) false path context id) r w''

def PassesOut (settings : Settings) (flow : Flow) (w : World) (context : Context) (id : String)
    (steps : List String) (w' : World) (context' : Context) : Prop :=
  ∀ (sink : Sink) (start : String) (room : Nat) (path : List String)
    (requests : List SuspendRequest),
    (w.keeping requests).Runs (traverse settings sink (Index.ofFlow flow.withoutDelays) start
      (steps.length + room) false path context id)
      (context', .ok ⟨start, path ++ steps, .completed⟩) (w'.keeping requests)

theorem PassesTo.refl (w : World) (context : Context) (id : String) :
    PassesTo settings flow w context id [] w context id := by
  intro sink start room path requests r w'' h
  simpa using h

variable {w w₁ : World} {node : Node} {resuming : Bool} {context context₁ : Context} {id : String}
  {handle : Handle}

theorem visit_withoutDelays {result : Context × Except FlowError Traversal} {w' : World}
    (hnode : (Index.ofFlow flow).node? id = some node)
    (hvisit : w.Runs (node.visit settings .collector resuming context)
      (.ok (.proceed handle, context₁)) w₁)
    {sink : Sink} {start : String} {room : Nat} {path : List String}
    {requests : List SuspendRequest}
    (h : (w₁.keeping requests).Runs (goOn settings sink (Index.ofFlow flow.withoutDelays) start room
      (path ++ [id]) node.withoutDelay context (.ok (.proceed handle, context₁))) result w') :
    (w.keeping requests).Runs
      (traverse settings sink (Index.ofFlow flow.withoutDelays) start (room + 1)
      false path context id) result w' := by
  have hnode' : (Index.ofFlow flow.withoutDelays).node? id = some node.withoutDelay := by
    rw [node?_withoutDelays, hnode, Option.map_some]
  rw [traverse_of_node? hnode']
  exact (Node.runs_withoutDelay hvisit sink requests).bind h

/-- How the flow without delays follows a traversal that did not fail: to the delay at which it was
suspended, or to its end. -/
def Follows (settings : Settings) (flow : Flow) (w : World) (context : Context) (id : String)
    (steps : List String) (w' : World) (context' : Context) : Ending → Prop
  | .completed => PassesOut settings flow w context id steps w' context'
  | .suspended node resumeAt =>
    w'.collected = w.collected ++ [⟨node, resumeAt, context'⟩] ∧
      (Index.ofFlow flow).contains node = true ∧
      ∃ before, steps = before ++ [node] ∧
        PassesTo settings flow w context id before w' context' node

theorem PassesOut.of_not_contains (h : (Index.ofFlow flow).contains id = false) :
    PassesOut settings flow w context id [] w context := by
  intro sink start room path requests
  rw [traverse_of_not_contains ((contains_withoutDelays flow id).trans h), List.append_nil]
  exact World.runs_done _ _

theorem PassesOut.of_nowhere (hnode : (Index.ofFlow flow).node? id = some node)
    (hvisit : w.Runs (node.visit settings .collector resuming context)
      (.ok (.proceed handle, context₁)) w₁)
    (hnext : next settings.policy (Index.ofFlow flow) node.id handle = .nowhere) :
    PassesOut settings flow w context id [id] w₁ context₁ := by
  intro sink start room path requests
  rw [List.length_singleton, Nat.add_comm]
  refine visit_withoutDelays hnode hvisit ?_
  rw [goOn, Node.withoutDelay_id, next_withoutDelays, hnext]
  exact World.runs_done _ _

/-- The flow without delays stands at the delay, before it, with the same context. -/
theorem Follows.of_suspend {resumeAt : Instant} (hnode : (Index.ofFlow flow).node? id = some node)
    (hvisit : w.Runs (node.visit settings .collector resuming context)
      (.ok (.suspend resumeAt, context₁)) w₁) :
    Follows settings flow w context id [id] w₁ context₁ (.suspended id resumeAt) := by
  obtain ⟨rfl, hw₁⟩ := Node.collected_of_suspend hvisit
  obtain ⟨-, rfl⟩ := Index.mem_nodes_of_node? hnode
  refine ⟨?_, Index.contains_of_node? hnode, [], rfl, ?_⟩
  · rw [hw₁]
    rfl
  · rw [hw₁]
    exact PassesTo.refl _ _ _

theorem Follows.cons {target : String} {steps : List String} {w' : World} {context' : Context}
    {ending : Ending} (hnode : (Index.ofFlow flow).node? id = some node)
    (hvisit : w.Runs (node.visit settings .collector resuming context)
      (.ok (.proceed handle, context₁)) w₁)
    (hcollected : w₁.collected = w.collected)
    (hnext : next settings.policy (Index.ofFlow flow) node.id handle = .node target)
    (h : Follows settings flow w₁ context₁ target steps w' context' ending) :
    Follows settings flow w context id (id :: steps) w' context' ending := by
  have hgoOn (sink : Sink) (start : String) (room : Nat) (path : List String) :
      goOn settings sink (Index.ofFlow flow.withoutDelays) start room
        (path ++ [id]) node.withoutDelay context
        (.ok (.proceed handle, context₁)) =
      traverse settings sink (Index.ofFlow flow.withoutDelays) start room false
        (path ++ [id]) context₁
        target := by
    rw [goOn, Node.withoutDelay_id, next_withoutDelays, hnext]
  cases ending with
  | completed =>
    intro sink start room path requests
    have hrest := h sink start room (path ++ [id]) requests
    rw [← hgoOn, List.append_assoc, List.singleton_append] at hrest
    rw [List.length_cons, Nat.add_right_comm]
    exact visit_withoutDelays hnode hvisit hrest
  | suspended stop resumeAt =>
    obtain ⟨hrequest, hstop, before, rfl, hpasses⟩ := h
    refine ⟨hcollected ▸ hrequest, hstop, id :: before, rfl, ?_⟩
    intro sink start room path requests r w'' hrest
    rw [← List.singleton_append, ← List.append_assoc] at hrest
    have hfirst := hpasses sink start room (path ++ [id]) requests r w'' hrest
    rw [← hgoOn] at hfirst
    rw [List.length_cons, Nat.add_right_comm]
    exact visit_withoutDelays hnode hvisit hfirst

theorem collected_of_proceed
    (h : w.Runs (node.visit settings .collector resuming context)
      (.ok (.proceed handle, context₁)) w₁) :
    w₁.collected = w.collected := by
  by_cases hkind : node.kind = .delay
  · rcases Node.runs_visit_of_delay hkind h with ⟨e, he⟩ | ⟨-, rfl⟩ | ⟨resumeAt, hsuspend, -⟩
    · cases he
    · rfl
    · cases hsuspend
  · have htalked : w.Talked w₁ :=
      h.rel World.Talked.refl World.Talked.trans (fun _ => World.talked_answer)
      (Node.visit_only_of_ne hkind)
    exact htalked.collected

theorem follows_traverse {start : String} {room : Nat} {path : List String} {context' : Context}
    {t : Traversal} {w' : World}
    (h : w.Runs
      (traverse settings .collector (Index.ofFlow flow) start room resuming path context id)
      (context', .ok t) w') :
    ∃ steps, t.path = path ++ steps ∧
      ((Index.ofFlow flow).contains id = true → ∃ rest, steps = id :: rest) ∧
      Follows settings flow w context id steps w' context' t.ending := by
  induction room generalizing resuming path context id w with
  | zero =>
    cases hid : (Index.ofFlow flow).contains id with
    | true =>
      rw [traverse_zero_of_contains hid] at h
      cases h.of_done.1
    | false =>
      rw [traverse_of_not_contains hid] at h
      obtain ⟨hresult, rfl⟩ := h.of_done
      cases hresult
      exact ⟨[], (List.append_nil _).symm, nofun, PassesOut.of_not_contains hid⟩
  | succ room ih =>
    cases hnode : (Index.ofFlow flow).node? id with
    | none =>
      have hid := Index.contains_of_node?_eq_none hnode
      rw [traverse_of_node?_eq_none hnode] at h
      obtain ⟨hresult, rfl⟩ := h.of_done
      cases hresult
      exact ⟨[], (List.append_nil _).symm, by simp [hid], PassesOut.of_not_contains hid⟩
    | some node =>
      rw [traverse_of_node? hnode] at h
      obtain ⟨result, w₁, hvisit, h⟩ := h.of_bind
      rcases result with e | ⟨handle | resumeAt, context₁⟩
      · cases h.of_done.1
      · rw [goOn] at h
        cases hnext : next settings.policy (Index.ofFlow flow) node.id handle with
        | failure e =>
          rw [hnext] at h
          cases h.of_done.1
        | nowhere =>
          rw [hnext] at h
          obtain ⟨hresult, rfl⟩ := h.of_done
          cases hresult
          exact ⟨[id], rfl, fun _ => ⟨[], rfl⟩, PassesOut.of_nowhere hnode hvisit hnext⟩
        | node target =>
          rw [hnext] at h
          obtain ⟨steps, hpath, -, hfollows⟩ := ih h
          rw [List.append_assoc] at hpath
          exact ⟨id :: steps, hpath, fun _ => ⟨steps, rfl⟩,
            hfollows.cons hnode hvisit (collected_of_proceed hvisit) hnext⟩
      · have hfollows := Follows.of_suspend hnode hvisit
        obtain ⟨-, rfl⟩ := Index.mem_nodes_of_node? hnode
        obtain ⟨hresult, rfl⟩ := h.of_done
        cases hresult
        exact ⟨[node.id], rfl, fun _ => ⟨[], rfl⟩, hfollows⟩

/-- What follows a traversal that has ended in a world with some context. If it was suspended, the
flow is resumed behind the delay, with the context that the sink was given last, and so on until
nothing is suspended any more. `legs` are the paths of the resumed traversals. -/
inductive Journey (settings : Settings) (flow : Flow) : World → Context → Ending →
    (legs : List (List String)) → World → Context → Prop
  | completed {w : World} {context : Context} :
    Journey settings flow w context .completed [] w context
  | resumed {w w₁ w' : World} {context context₁ context' : Context} {node : String}
    {resumeAt : Instant} {request : SuspendRequest} {t : Traversal} {legs : List (List String)} :
    w.collected.getLast? = some request →
    w.Runs (flow.execute settings .collector (.resume node) request.context)
      (.ok ⟨context₁, [t]⟩) w₁ →
    Journey settings flow w₁ context₁ t.ending legs w' context' →
    Journey settings flow w context (.suspended node resumeAt) (t.path :: legs) w' context'

/-- The paths of traversals as one path: each but the first begins with the delay at which the one
before has stopped. -/
def joined : List (List String) → List String
  | [] => []
  | path :: legs => path ++ legs.flatMap (·.drop 1)

theorem joined_append_cons (before rest : List String) (node : String) (legs : List (List String)) :
    joined ((before ++ [node]) :: (node :: rest) :: legs) =
      before ++ joined ((node :: rest) :: legs) := by
  simp [joined]

theorem runs_traverseFrom_of_execute {sink : Sink} {t : Traversal}
    (h : w.Runs (flow.execute settings sink (.resume id) context) (.ok ⟨context₁, [t]⟩) w₁) :
    w.Runs (traverseFrom settings sink (Index.ofFlow flow) true context id)
      (context₁, .ok t) w₁ := by
  rw [execute_resume] at h
  obtain ⟨⟨context₂, result⟩, w₂, hruns, h⟩ := h.of_bind
  obtain ⟨hrun, rfl⟩ := h.of_done
  cases result with
  | error e => cases hrun
  | ok t' =>
    cases hrun
    exact hruns

theorem Journey.passesOut {ending : Ending} {legs : List (List String)} {w' : World}
    {context' : Context} (h : Journey settings flow w₁ context₁ ending legs w' context')
    {t : Traversal} (hending : t.ending = ending)
    (hfirst : w.Runs (traverseFrom settings .collector (Index.ofFlow flow) resuming context id)
      (context₁, .ok t) w₁) :
    PassesOut settings flow w context id (joined (t.path :: legs)) w' context' := by
  induction h generalizing w context id t resuming with
  | completed =>
    obtain ⟨steps, hpath, -, hfollows⟩ := follows_traverse hfirst
    rw [hending] at hfollows
    rw [joined, List.flatMap_nil, List.append_nil, hpath]
    exact hfollows
  | resumed hrequest hruns hlater ih =>
    have hleg := runs_traverseFrom_of_execute hruns
    obtain ⟨steps, hpath, -, hfollows⟩ := follows_traverse hfirst
    obtain ⟨steps', hpath', hhead, -⟩ := follows_traverse hleg
    rw [hending] at hfollows
    obtain ⟨hcollected, hstop, before, rfl, hpasses⟩ := hfollows
    obtain ⟨rest, rfl⟩ := hhead hstop
    -- what the sink was given last is the request of the delay at which this leg begins
    rw [hcollected, List.getLast?_concat] at hrequest
    cases hrequest
    intro sink start room path requests
    have hwhole := hpasses sink start _ path requests _ _
      (ih rfl hleg sink start room (path ++ before) requests)
    rw [hpath, hpath', List.nil_append, List.nil_append, joined_append_cons, List.length_append,
      Nat.add_assoc, ← List.append_assoc]
    rw [hpath', List.nil_append] at hwhole
    exact hwhole

/-- Whoever is resumed until nothing is suspended any more, however often, has done what a run does
that does not stop at delays: it ends with the same context in the same world but for the requests
that were kept, so with the same conversations and after the same requests to services, and it has
visited the nodes of all traversals, each delay once. -/
theorem runs_withoutDelays_of_journey (settings : Settings) (flow : Flow) (sink : Sink)
    (context : Context) (start : String) (w : World) (t : Traversal) (context₁ : Context)
    (w₁ : World) (legs : List (List String)) (context' : Context) (w' : World)
    (hfirst : w.Runs (traverseFrom settings .collector (Index.ofFlow flow) false context start)
      (context₁, .ok t) w₁)
    (hlater : Journey settings flow w₁ context₁ t.ending legs w' context')
    (hsteps : (joined (t.path :: legs)).length ≤ settings.limit) :
    w.Runs (traverseFrom settings sink (Index.ofFlow flow.withoutDelays) false context start)
      (context', .ok ⟨start, joined (t.path :: legs), .completed⟩)
        { w' with collected := w.collected } := by
  have hruns := hlater.passesOut rfl hfirst sink start
    (settings.limit - (joined (t.path :: legs)).length) [] w.collected
  rw [Nat.add_sub_cancel' hsteps, List.nil_append] at hruns
  exact hruns

def followUp : Flow where
  nodes :=
    [⟨"start", .newMessage, []⟩, ⟨"wait", .delay, [("ms", .ofNat 1)]⟩,
      ⟨"again", .delay, [("ms", .ofNat 2)]⟩, ⟨"agent", .humanTakeover, []⟩]
  edges :=
    [⟨none, "start", "wait", none⟩, ⟨none, "wait", "again", none⟩, ⟨none, "again", "agent", none⟩]

def morning : World := .start ⟨1893488400, 0⟩ (.memory []) (.memory []) ⟨1⟩

def waitingOnce : World :=
  (morning.attempt (traverseFrom ⟨.strict, 10, 15000⟩ .collector (Index.ofFlow followUp) false
    (.ofChannel "ana") "start")).2

def waitingTwice : World :=
  (waitingOnce.attempt (followUp.execute ⟨.strict, 10, 15000⟩ .collector (.resume "wait")
    (.ofChannel "ana"))).2

def arrived : World :=
  (waitingTwice.attempt (followUp.execute ⟨.strict, 10, 15000⟩ .collector (.resume "again")
    (.ofChannel "ana"))).2

theorem runs_withoutDelays_followUp :
    morning.Runs (traverseFrom ⟨.strict, 10, 15000⟩ .collector (Index.ofFlow followUp) false
        (.ofChannel "ana") "start")
      (.ofChannel "ana", .ok ⟨"start", ["start", "wait"], .suspended "wait" ⟨1893488401, 0⟩⟩)
        waitingOnce ∧
    Journey ⟨.strict, 10, 15000⟩ followUp waitingOnce (.ofChannel "ana")
      (.suspended "wait" ⟨1893488401, 0⟩) [["wait", "again"], ["again", "agent"]] arrived
      (.ofChannel "ana") ∧
    morning.Runs
      (traverseFrom ⟨.strict, 10, 15000⟩ .collector (Index.ofFlow followUp.withoutDelays) false
        (.ofChannel "ana") "start")
      (.ofChannel "ana", .ok ⟨"start", ["start", "wait", "again", "agent"], .completed⟩)
      { arrived with collected := morning.collected } := by
  have hfirst :
      morning.Runs (traverseFrom ⟨.strict, 10, 15000⟩ .collector (Index.ofFlow followUp) false
      (.ofChannel "ana") "start")
      (.ofChannel "ana", .ok ⟨"start", ["start", "wait"], .suspended "wait" ⟨1893488401, 0⟩⟩)
      waitingOnce := World.runs_of_attempt (by decide +kernel)
  have hsecond : waitingOnce.Runs (followUp.execute ⟨.strict, 10, 15000⟩ .collector (.resume "wait")
      (.ofChannel "ana"))
      (.ok ⟨.ofChannel "ana", [⟨"wait", ["wait", "again"], .suspended "again" ⟨1893488402, 0⟩⟩]⟩)
      waitingTwice := World.runs_of_attempt (by decide +kernel)
  have hthird :
      waitingTwice.Runs (followUp.execute ⟨.strict, 10, 15000⟩ .collector (.resume "again")
      (.ofChannel "ana"))
      (.ok ⟨.ofChannel "ana", [⟨"again", ["again", "agent"], .completed⟩]⟩) arrived :=
    World.runs_of_attempt (by decide +kernel)
  have hlater : Journey ⟨.strict, 10, 15000⟩ followUp waitingOnce (.ofChannel "ana")
      (.suspended "wait" ⟨1893488401, 0⟩) [["wait", "again"], ["again", "agent"]] arrived
      (.ofChannel "ana") :=
    .resumed (show _ = some ⟨"wait", ⟨1893488401, 0⟩, .ofChannel "ana"⟩ by decide +kernel) hsecond
      (.resumed
        (show _ = some ⟨"again", ⟨1893488402, 0⟩, .ofChannel "ana"⟩ by decide +kernel) hthird
        .completed)
  exact ⟨hfirst, hlater,
    runs_withoutDelays_of_journey ⟨.strict, 10, 15000⟩ followUp .collector
      (.ofChannel "ana") "start" morning
      _ _ _ _ _ _ hfirst hlater (by decide)⟩

end Flow

end ChatFlow
