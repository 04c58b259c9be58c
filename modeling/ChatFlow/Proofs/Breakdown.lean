import ChatFlow.Proofs.InPlace
import ChatFlow.Proofs.Walks

namespace ChatFlow

open ChatFlow.Flow (Index)

/-- What the sinks were given: the requests in the list, and the records in the store. -/
def World.kept (w : World) : List SuspendRequest × SuspensionStore := (w.collected, w.suspensions)

theorem World.Talked.kept {w w' : World} (h : w.Talked w') : w'.kept = w.kept := by
  unfold World.kept
  rw [h.collected, h.suspensions]

namespace Sink

def Careful (sink : Sink) : Prop :=
  ∀ {w w' : World} {r : SuspendRequest} {failure : Failure}, w.Runs (sink r) (.error failure) w' →
    w'.kept = w.kept

theorem runs_collector {w w' : World} {r : SuspendRequest} {result : Except Failure Unit}
    (h : w.Runs (collector r) result w') :
    w'.suspensions = w.suspensions ∧
      w'.collected = match result with
        | .ok _ => w.collected ++ [r]
        | .error _ => w.collected := by
  obtain ⟨answer, w₁, hanswer, h⟩ := h.of_call
  obtain ⟨rfl, rfl⟩ := h.of_done
  by_cases hfailing : w.failing.contains .collect = true
  · cases (if_pos hfailing).symm.trans hanswer
    exact ⟨rfl, rfl⟩
  · cases (if_neg hfailing).symm.trans hanswer
    exact ⟨rfl, rfl⟩

theorem runs_writer {botId conversationId version : String} {w w' : World} {r : SuspendRequest}
    {result : Except Failure Unit} (h : w.Runs (writer botId conversationId version r) result w') :
    w'.collected = w.collected ∧
      w'.suspensions = match result with
        | .ok _ => w.suspensions.save (.ofRequest w.nextId botId conversationId version w.clock r)
        | .error _ => w.suspensions := by
  obtain ⟨now, w₁, hnow, h⟩ := h.of_call
  cases hnow
  obtain ⟨id, w₁, hid, h⟩ := h.of_call
  cases hid
  obtain ⟨answer, w₂, hanswer, h⟩ := h.of_call
  obtain ⟨rfl, rfl⟩ := h.of_done
  by_cases hfailing : w.failing.contains .save = true
  · cases (if_pos hfailing).symm.trans hanswer
    exact ⟨rfl, rfl⟩
  · cases (if_neg hfailing).symm.trans hanswer
    exact ⟨rfl, rfl⟩

theorem careful_collector : Careful collector := by
  intro w w' r failure h
  obtain ⟨hsuspensions, hcollected⟩ := runs_collector h
  exact Prod.ext hcollected hsuspensions

theorem careful_writer (botId conversationId version : String) :
    Careful (writer botId conversationId version) := by
  intro w w' r failure h
  obtain ⟨hcollected, hsuspensions⟩ := runs_writer h
  exact Prod.ext hcollected hsuspensions

end Sink

namespace Node

variable {settings : Settings} {sink : Sink} {node : Node} {context : Context} {w w' : World}

theorem kept_of_not_suspends (h : ¬ node.Suspends) {r : NodeResult}
    (hruns : w.Runs (node.run settings sink context) r w') :
    w'.kept = w.kept := by
  have honly := (run_only h settings sink context).mono (fun _ h => h.isTalk) fun _ h => h
  exact (hruns.rel World.Talked.refl World.Talked.trans (fun _ => World.talked_answer) honly).kept

theorem kept_of_run_error (hsink : sink.Careful) {e : FlowError}
    (h : w.Runs (node.run settings sink context) (.error e) w') :
    w'.kept = w.kept := by
  by_cases hs : node.Suspends
  · rw [run_of_suspends hs] at h
    obtain ⟨now, w₁, hnow, h⟩ := h.of_call
    cases hnow
    rw [Activity.done_bind] at h
    obtain ⟨kept, w₁, hkept, h⟩ := h.of_bind
    cases kept with
    | ok _ => cases h.of_done.1
    | error failure =>
      obtain ⟨-, rfl⟩ := h.of_done
      exact hsink hkept
  · exact kept_of_not_suspends hs h

theorem kept_of_visit_error (hsink : sink.Careful) {resuming : Bool} {e : FlowError}
    (h : w.Runs (node.visit settings sink resuming context) (.error e) w') : w'.kept = w.kept := by
  unfold visit at h
  split at h
  · cases h.of_done.1
  · exact kept_of_run_error hsink h

/-- A node that fails leaves the context that it works on and what its sink was given. -/
theorem unchanged_of_runInPlace_error (hsink : sink.Careful) {e : FlowError} {context' : Context}
    (h : w.Runs ((node.runInPlace settings sink).on context) (.error e, context') w') :
    context' = context ∧ w'.kept = w.kept := by
  rw [on_runInPlace] at h
  obtain ⟨r, w₁, hruns, h⟩ := h.of_bind
  obtain ⟨hresult, rfl⟩ := h.of_done
  rcases r with e' | ⟨outcome, context₁⟩
  · cases hresult
    exact ⟨rfl, kept_of_run_error hsink hruns⟩
  · cases hresult

end Node

namespace Visit

variable {settings : Settings} {sink : Sink} {v : Visit}

/-- A visit that asks the sink for nothing has given it nothing. -/
theorem TookPlace.kept (h : v.TookPlace settings sink) (hdelays : ¬ v.Delays) :
    v.after.kept = v.before.kept := by
  unfold TookPlace Node.visit at h
  split at h
  · rw [h.of_done.2]
  · next hresumed =>
    apply Node.kept_of_not_suspends (fun hs => hdelays ⟨hs, ?_⟩) h
    simpa [hs.1] using hresumed

theorem TookPlace.asks (h : v.TookPlace settings sink) {r : SuspendRequest}
    (hr : v.request? = some r) :
    v.before.Runs (sink r) (.ok ()) v.after := by
  by_cases hdelays : v.Delays
  · rw [request?_of_delays hdelays] at hr
    cases hr
    exact (h.suspends hdelays).2.2
  · rw [request?_of_not_delays hdelays] at hr
    cases hr

theorem not_delays_of_request? (h : v.request? = none) : ¬ v.Delays := by
  intro hdelays
  rw [request?_of_delays hdelays] at h
  cases h

def record? (botId conversationId version : String) (v : Visit) : Option Suspension :=
  v.request?.map (.ofRequest v.before.nextId botId conversationId version v.before.clock)

end Visit

/-- Visits of a traversal from a node, up to a failure: what comes next is the visit of a node that
fails, the edge to an undeclared node, or a step for which there is no room. -/
inductive Stuck (settings : Settings) (sink : Sink) (index : Index) (start : String) :
    (room : Nat) → (resuming : Bool) → (id : String) → List Visit → World → Context → FlowError →
      World → Prop
  | limit {resuming : Bool} {id : String} {w : World} {context : Context} :
    index.contains id = true →
    Stuck settings sink index start 0 resuming id [] w context (.stepLimit start settings.limit) w
  | node {room : Nat} {resuming : Bool} {node : Node} {w w' : World} {context : Context}
    {e : FlowError} :
    index.node? node.id = some node →
      w.Runs (node.visit settings sink resuming context) (.error e) w' →
    Stuck settings sink index start (room + 1) resuming node.id [] w context e w'
  | edge {room : Nat} {v : Visit} {handle : Handle} {e : FlowError} :
    index.node? v.node.id = some v.node → v.TookPlace settings sink → v.outcome = .proceed handle →
    Flow.next settings.policy index v.node.id handle = .failure e →
    Stuck settings sink index start (room + 1) v.resuming v.node.id [v] v.after v.left e v.after
  | step {room : Nat} {v : Visit} {handle : Handle} {target : String} {vs : List Visit}
    {w w' : World} {context : Context} {e : FlowError} :
    index.node? v.node.id = some v.node → v.TookPlace settings sink → v.outcome = .proceed handle →
    Flow.next settings.policy index v.node.id handle = .node target →
    Stuck settings sink index start room false target vs w context e w' →
    Stuck settings sink index start (room + 1) v.resuming v.node.id (v :: vs) w context e w'

/-- Only an edge to a node that is not there makes a step fail, and only under the strict policy. -/
theorem Flow.next_eq_failure {policy : Policy} {index : Index} {id : String} {handle : Handle}
    {e : FlowError} (h : next policy index id handle = .failure e) :
    ∃ edge, index.select id handle = some edge ∧ index.contains edge.target = false ∧
      policy = .strict ∧
      e = .danglingEdge edge.source edge.target := by
  unfold next at h
  cases hselect : index.select id handle with
  | none => simp [hselect] at h
  | some edge =>
    rw [hselect] at h
    dsimp only at h
    split at h
    · cases h
    · next hcontains =>
      cases policy with
      | permissive => cases h
      | strict =>
        cases h
        exact ⟨edge, rfl, Bool.not_eq_true _ ▸ hcontains, rfl, rfl⟩

/-- The node that a traversal comes to after some visits: the one at which it starts if there were
none, and otherwise the one to which the edge of the last one leads. -/
def Visit.Ahead (index : Index) (origin : String) (vs : List Visit) (id : String) : Prop :=
  match vs.getLast? with
  | none => id = origin
  | some v =>
    ∃ handle edge, v.outcome = .proceed handle ∧ index.select v.node.id handle = some edge ∧
      edge.target = id

theorem getLast?_cons_of {α : Type} {a b : α} {l : List α} (h : l.getLast? = some a) :
    (b :: l).getLast? = some a := by
  cases l with
  | nil => cases h
  | cons c l => rwa [List.getLast?_cons_cons]

theorem Visit.Ahead.cons {index : Index} {origin id : String} {v : Visit} {vs : List Visit}
    {handle : Handle} {edge : Edge} (h : Ahead index edge.target vs id)
    (houtcome : v.outcome = .proceed handle) (hselect : index.select v.node.id handle = some edge) :
    Ahead index origin (v :: vs) id := by
  unfold Ahead at *
  cases hlast : vs.getLast? with
  | none =>
    rw [List.getLast?_eq_none_iff.mp hlast] at h ⊢
    exact ⟨handle, edge, houtcome, hselect, Eq.symm h⟩
  | some u =>
    rw [hlast] at h
    rwa [getLast?_cons_of hlast]

/-- Why a traversal fails after some visits, in which world and on which context, and the world
behind the failure. -/
inductive Cause (settings : Settings) (sink : Sink) (index : Index) (start : String) (room : Nat)
    (resuming : Bool) (origin : String) (vs : List Visit) (w : World) (context : Context) :
    FlowError → World → Prop
  /-- the next node fails -/
  | node {node : Node} {e : FlowError} {w' : World} :
    Visit.Ahead index origin vs node.id → index.node? node.id = some node →
    w.Runs (node.visit settings sink (resuming && vs.isEmpty) context) (.error e) w' →
    Cause settings sink index start room resuming origin vs w context e w'
  /-- the edge that the last visit takes leads to a node that is not there -/
  | edge {v : Visit} {handle : Handle} {edge : Edge} :
    vs.getLast? = some v → v.outcome = .proceed handle → index.select v.node.id handle = some edge →
    index.contains edge.target = false → settings.policy = .strict →
    Cause settings sink index start room resuming origin vs w context
      (.danglingEdge edge.source edge.target) w
  /-- there is a next node, and no room for it -/
  | limit {id : String} :
    Visit.Ahead index origin vs id → index.contains id = true → vs.length = room →
    Cause settings sink index start room resuming origin vs w context
      (.stepLimit start settings.limit) w

namespace Stuck

variable {settings : Settings} {sink : Sink} {index : Index} {start id : String} {room : Nat}
    {resuming : Bool}
  {vs : List Visit} {w w' : World} {context : Context} {e : FlowError}

theorem visited (h : Stuck settings sink index start room resuming id vs w context e w') :
    ∀ v ∈ vs, index.node? v.node.id = some v.node ∧ v.TookPlace settings sink := by
  induction h with
  | limit => exact List.forall_mem_nil _
  | node => exact List.forall_mem_nil _
  | edge hnode htook => exact List.forall_mem_singleton.mpr ⟨hnode, htook⟩
  | step hnode htook _ _ _ ih => exact List.forall_mem_cons.mpr ⟨⟨hnode, htook⟩, ih⟩

theorem request?_eq_none (h : Stuck settings sink index start room resuming id vs w context e w') :
    ∀ v ∈ vs, v.request? = none := by
  induction h with
  | limit => exact List.forall_mem_nil _
  | node => exact List.forall_mem_nil _
  | edge _ htook houtcome =>
    exact List.forall_mem_singleton.mpr (Visit.request?_of_not_delays (htook.not_delays houtcome))
  | step _ htook houtcome _ _ ih =>
    exact List.forall_mem_cons.mpr ⟨Visit.request?_of_not_delays (htook.not_delays houtcome), ih⟩

theorem head (h : Stuck settings sink index start room resuming id vs w context e w') {v : Visit}
    {rest : List Visit} (hvs : vs = v :: rest) : v.node.id = id ∧ v.resuming = resuming ∧
      ∀ u ∈ rest, u.resuming = false := by
  induction h generalizing v rest with
  | limit => cases hvs
  | node => cases hvs
  | edge =>
    cases hvs
    exact ⟨rfl, rfl, List.forall_mem_nil _⟩
  | @step _ _ _ _ vs _ _ _ _ _ _ _ _ _ ih =>
    cases hvs
    refine ⟨rfl, rfl, ?_⟩
    cases vs with
    | nil => exact List.forall_mem_nil _
    | cons u rest => exact List.forall_mem_cons.mpr (ih rfl).2

theorem isChain (h : Stuck settings sink index start room resuming id vs w context e w') :
    vs.IsChain (Trail.Joined index) := by
  induction h with
  | limit => exact .nil
  | node => exact .nil
  | edge => exact .singleton _
  | @step _ _ _ _ vs _ _ _ _ _ _ houtcome hnext hstuck ih =>
    obtain ⟨edge, hselect, htarget, -⟩ := Flow.next_eq_node hnext
    cases vs with
    | nil => exact .singleton _
    | cons u rest =>
      exact .cons_cons ⟨_, edge, houtcome, hselect, htarget.trans (hstuck.head rfl).1.symm⟩ ih

theorem cause (h : Stuck settings sink index start room resuming id vs w context e w') :
    Cause settings sink index start room resuming id vs w context e w' := by
  induction h with
  | limit hid => exact .limit rfl hid rfl
  | node hnode hruns => exact .node rfl hnode (by simpa using hruns)
  | edge _ _ houtcome hnext =>
    obtain ⟨edge, hselect, hmissing, hstrict, rfl⟩ := Flow.next_eq_failure hnext
    exact .edge rfl houtcome hselect hmissing hstrict
  | @step room v handle target vs w w' context e _ _ houtcome hnext hstuck ih =>
    obtain ⟨edge, hselect, rfl, -⟩ := Flow.next_eq_node hnext
    cases ih with
    | node hahead hnode hruns =>
      exact .node (hahead.cons houtcome hselect) hnode (by simpa using hruns)
    | edge hlast hproceed hedge hmissing hstrict =>
      exact .edge (getLast?_cons_of hlast) hproceed hedge hmissing hstrict
    | limit hahead hid hlength =>
      exact .limit (hahead.cons houtcome hselect) hid (by simp [hlength])

end Stuck

namespace Flow

variable {settings : Settings} {sink : Sink} {flow : Flow}

theorem exists_stuck_of_halted {start id : String} {room : Nat} {resuming : Bool}
    {visited : List String} {context context' : Context} {e : FlowError} {w w' : World}
    (h : Halted World.answer settings sink (Index.ofFlow flow) start room resuming id w context
      visited e w' context') :
    ∃ vs w₁, Stuck settings sink (Index.ofFlow flow) start room resuming id vs w₁ context' e w' ∧
      Visit.Lead w context vs w₁ context' := by
  induction h with
  | limit hid => exact ⟨[], _, .limit hid, rfl, rfl⟩
  | node hnode hvisit =>
    obtain ⟨-, rfl⟩ := Index.mem_nodes_of_node? hnode
    exact ⟨[], _, .node hnode (World.runs_iff.mpr hvisit), rfl, rfl⟩
  | @edge room resuming id node w w' context context' handle e hnode hvisit hnext =>
    obtain ⟨-, rfl⟩ := Index.mem_nodes_of_node? hnode
    let v : Visit := ⟨node, resuming, w, context, .proceed handle, w', context'⟩
    have htook : v.TookPlace settings sink := World.runs_iff.mpr hvisit
    exact ⟨[v], w', .edge hnode htook rfl hnext, rfl, rfl, rfl, rfl⟩
  | @step room resuming id target node w w₁ w' context context₁ context' handle visited e hnode
    hvisit hnext _ ih =>
    obtain ⟨-, rfl⟩ := Index.mem_nodes_of_node? hnode
    obtain ⟨vs, w₂, hstuck, hlead⟩ := ih
    let v : Visit := ⟨node, resuming, w, context, .proceed handle, w₁, context₁⟩
    have htook : v.TookPlace settings sink := World.runs_iff.mpr hvisit
    exact ⟨v :: vs, w₂, .step hnode htook rfl hnext hstuck, rfl, rfl, hlead⟩

/-- A traversal that failed comes from visits up to a failure, and its context is the one that they
have left. -/
theorem exists_stuck_of_traverse {start id : String} {room : Nat} {resuming : Bool}
    {path : List String} {context context' : Context} {e : FlowError} {w w' : World}
    (h : w.Runs (traverse settings sink (Index.ofFlow flow) start room resuming path context id)
      (context', .error e) w') :
    ∃ vs w₁, Stuck settings sink (Index.ofFlow flow) start room resuming id vs w₁ context' e w' ∧
      Visit.Lead w context vs w₁ context' := by
  obtain ⟨visited, hhalted⟩ := exists_halted (World.runs_iff.mp h)
  exact exists_stuck_of_halted hhalted

/-- Traversals up to one that failed: those before it have come to their end. -/
theorem exists_stuck_of_traverseAll {nodes : List Node} {context context' : Context} {e : FlowError}
    {w w' : World} (h : w.Runs (traverseAll settings sink (Index.ofFlow flow) context nodes)
      (context', .error e) w') :
    ∃ ts walks start last w₁, ts.map (·.start) ++ [start] <+: nodes.map (·.id) ∧
      List.Forall₂ (Traversal.Recorded settings sink (Index.ofFlow flow) false) ts walks ∧
      Stuck settings sink (Index.ofFlow flow) start settings.limit false start last w₁
        context' e w' ∧
      Visit.Lead w context (walks.flatten ++ last) w₁ context' := by
  induction nodes generalizing context w with
  | nil => cases h.of_done.1
  | cons node rest ih =>
    obtain ⟨⟨context₁, first⟩, w₁, hfirst, h⟩ := h.of_bind
    cases first with
    | error e' =>
      obtain ⟨hresult, rfl⟩ := h.of_done
      cases hresult
      obtain ⟨last, w₁, hstuck, hlead⟩ := exists_stuck_of_traverse hfirst
      exact ⟨[], [], node.id, last, w₁, ⟨rest.map (·.id), rfl⟩, .nil, hstuck, hlead⟩
    | ok t =>
      obtain ⟨⟨context₂, others⟩, w₂, hothers, h⟩ := h.of_bind
      obtain ⟨hresult, rfl⟩ := h.of_done
      cases others with
      | ok others => cases hresult
      | error e' =>
        cases hresult
        obtain ⟨vs, hstart, hpath, hlength, htrail, hlead⟩ := exists_trail_of_traverse hfirst
        obtain ⟨ts, walks, start, last, w₃, hstarts, hwalks, hstuck, hleads⟩ := ih hothers
        rw [← hstart] at htrail
        refine ⟨t :: ts, vs :: walks, start, last, w₃, ?_, .cons ⟨htrail, hpath, hlength⟩ hwalks,
          hstuck, ?_⟩
        · rw [List.map_cons, List.map_cons, hstart]
          exact List.cons_prefix_cons.mpr ⟨rfl, hstarts⟩
        · rw [List.flatten_cons, List.append_assoc]
          exact hlead.append hleads

theorem exists_stuck_of_run {event : Event} {context context' : Context} {e : FlowError}
    {w w' : World} (h : w.Runs (flow.run settings sink event context) (context', .error e) w') :
    ∃ ts walks start last w₁, ts.map (·.start) ++ [start] <+: event.starts flow ∧
      List.Forall₂ (Traversal.Recorded settings sink (Index.ofFlow flow) event.isResume) ts walks ∧
      Stuck settings sink (Index.ofFlow flow) start settings.limit event.isResume start last w₁
        context' e w' ∧
      Visit.Lead w context (walks.flatten ++ last) w₁ context' := by
  cases event with
  | newMessage text => exact exists_stuck_of_traverseAll h
  | scheduled => exact exists_stuck_of_traverseAll h
  | resume node =>
    obtain ⟨⟨context₁, result⟩, w₁, hfirst, h⟩ := h.of_bind
    obtain ⟨hresult, rfl⟩ := h.of_done
    cases result with
    | ok t => cases hresult
    | error e' =>
      cases hresult
      obtain ⟨last, w₁, hstuck, hlead⟩ := exists_stuck_of_traverse hfirst
      exact ⟨[], [], node, last, w₁, List.prefix_refl _, .nil, hstuck, hlead⟩

end Flow

def SuspensionStore.saveAll (store : SuspensionStore) (records : List Suspension) :
    SuspensionStore :=
  records.foldl (fun store record => store.save record) store

namespace Visit

variable {settings : Settings} {vs : List Visit} {w w' : World} {context context' : Context}

/-- A list of requests holds what the visits asked for, in their order. -/
theorem Lead.kept_collector (htook : ∀ v ∈ vs, v.TookPlace settings .collector)
    (h : Lead w context vs w' context') :
    w'.kept = (w.collected ++ vs.filterMap request?, w.suspensions) := by
  induction vs generalizing w context with
  | nil =>
    obtain ⟨rfl, rfl⟩ := h
    simp [World.kept]
  | cons v vs ih =>
    obtain ⟨hfirst, hrest⟩ := List.forall_mem_cons.mp htook
    obtain ⟨rfl, rfl, h⟩ := h
    rw [ih hrest h]
    cases hr : v.request? with
    | none =>
      obtain ⟨hcollected, hsuspensions⟩ := Prod.mk.inj (hfirst.kept (not_delays_of_request? hr))
      rw [List.filterMap_cons_none hr, hcollected, hsuspensions]
    | some r =>
      obtain ⟨hsuspensions, hcollected⟩ := Sink.runs_collector (hfirst.asks hr)
      rw [List.filterMap_cons_some hr, hcollected, hsuspensions]
      simp

/-- A store holds a record of each thing that the visits asked for. -/
theorem Lead.kept_writer {botId conversationId version : String}
    (htook : ∀ v ∈ vs, v.TookPlace settings (.writer botId conversationId version))
    (h : Lead w context vs w' context') :
    w'.kept = (w.collected,
      w.suspensions.saveAll (vs.filterMap (record? botId conversationId version))) := by
  induction vs generalizing w context with
  | nil =>
    obtain ⟨rfl, rfl⟩ := h
    rfl
  | cons v vs ih =>
    obtain ⟨hfirst, hrest⟩ := List.forall_mem_cons.mp htook
    obtain ⟨rfl, rfl, h⟩ := h
    rw [ih hrest h]
    cases hr : v.request? with
    | none =>
      have hrecord : v.record? botId conversationId version = none := by
        rw [record?, hr, Option.map_none]
      obtain ⟨hcollected, hsuspensions⟩ := Prod.mk.inj (hfirst.kept (not_delays_of_request? hr))
      rw [List.filterMap_cons_none hrecord, hcollected, hsuspensions]
    | some r =>
      have hrecord : v.record? botId conversationId version =
          some (.ofRequest v.before.nextId botId conversationId version v.before.clock r) := by
        rw [record?, hr, Option.map_some]
      obtain ⟨hcollected, hsuspensions⟩ := Sink.runs_writer (hfirst.asks hr)
      rw [List.filterMap_cons_some hrecord, hcollected, hsuspensions]
      rfl

end Visit

/-- How a run fails: the traversals `ts` before the failure came to their end, and the visits of the
one that fails are `last`. All these visits, one after the other, lead to the context that is left;
the failure itself takes place in the world `w₁` on that context, and neither writes to it nor gives
anything to the sink. -/
structure Flow.Breakdown (settings : Settings) (sink : Sink) (flow : Flow) (event : Event)
    (w : World) (context : Context) (e : FlowError) (w' : World) (context' : Context)
    (ts : List Traversal) (walks : List (List Visit)) (start : String) (last : List Visit)
    (w₁ : World) : Prop where
  starts : ts.map (·.start) ++ [start] <+: event.starts flow
  traversals :
    List.Forall₂ (Traversal.Shape settings sink (Index.ofFlow flow) event.isResume) ts walks
  visits : ∀ v ∈ last, (Index.ofFlow flow).node? v.node.id = some v.node ∧ v.TookPlace settings sink
  edges : last.IsChain (Trail.Joined (Index.ofFlow flow))
  head : ∀ v rest, last = v :: rest →
    v.node.id = start ∧ v.resuming = event.isResume ∧ ∀ u ∈ rest, u.resuming = false
  lead : Visit.Lead w context (walks.flatten ++ last) w₁ context'
  cause : Cause settings sink (Index.ofFlow flow) start settings.limit event.isResume start last w₁
    context' e w'
  /-- the sink was asked once by each traversal that suspended, and by no other -/
  requests : ((walks.flatten ++ last).filterMap Visit.request?).map SuspendRequest.ending =
    (ts.filter (·.isSuspended)).map (·.ending)
  asks : ∀ v ∈ walks.flatten ++ last, ∀ r, v.request? = some r →
    v.before.Runs (sink r) (.ok ()) v.after
  /-- nothing else gives the sink anything, the failure included -/
  keeps : ∀ v ∈ walks.flatten ++ last, v.request? = none → v.after.kept = v.before.kept
  failure : sink.Careful → w'.kept = w₁.kept
  collected : sink = .collector →
    w'.kept = (w.collected ++ (walks.flatten ++ last).filterMap Visit.request?, w.suspensions)
  saved : ∀ botId conversationId version, sink = .writer botId conversationId version →
    w'.kept = (w.collected,
      w.suspensions.saveAll
        ((walks.flatten ++ last).filterMap (Visit.record? botId conversationId version)))

theorem Cause.kept {settings : Settings} {sink : Sink} {index : Index} {start origin : String}
    {room : Nat} {resuming : Bool} {vs : List Visit} {w w' : World} {context : Context}
    {e : FlowError} (h : Cause settings sink index start room resuming origin vs w context e w')
    (hsink : sink.Careful) :
    w'.kept = w.kept := by
  cases h with
  | node _ _ hruns => exact Node.kept_of_visit_error hsink hruns
  | edge => rfl
  | limit => rfl

namespace Flow

variable {settings : Settings} {sink : Sink} {flow : Flow} {event : Event} {w w' : World}
    {context context' : Context}
  {e : FlowError}

theorem exists_breakdown_of_run
    (h : w.Runs (flow.run settings sink event context) (context', .error e) w') :
    ∃ ts walks start last w₁,
    flow.Breakdown settings sink event w context e w' context' ts walks start last w₁ := by
  obtain ⟨ts, walks, start, last, w₁, hstarts, hwalks, hstuck, hlead⟩ := exists_stuck_of_run h
  have htook : ∀ v ∈ walks.flatten ++ last, v.TookPlace settings sink :=
    List.forall_mem_append.mpr
      ⟨Traversal.Recorded.tookPlace hwalks, fun v hv => (hstuck.visited v hv).2⟩
  have hnone : last.filterMap Visit.request? = [] :=
    List.filterMap_eq_nil_iff.mpr hstuck.request?_eq_none
  have hdeclared : ∀ t ∈ ts, event.isResume = false → (Index.ofFlow flow).contains t.start =
      true := by
    intro t ht hevent
    apply contains_of_mem_starts hevent
    exact hstarts.subset (List.mem_append_left _ (List.mem_map_of_mem ht))
  refine ⟨ts, walks, start, last, w₁, hstarts, ?_, hstuck.visited, hstuck.isChain,
    fun _ _ => hstuck.head, hlead, hstuck.cause, ?_, fun v hv _ => (htook v hv).asks, ?_,
      hstuck.cause.kept, ?_, ?_⟩
  · exact List.forall₂_iff_zip.mpr ⟨hwalks.length_eq, fun {t vs} hmem =>
      (List.forall₂_zip hwalks hmem).shape (hdeclared t (List.of_mem_zip hmem).1)⟩
  · rw [List.filterMap_append, hnone, List.append_nil]
    exact Traversal.Recorded.requests hwalks
  · intro v hv hr
    exact (htook v hv).kept (Visit.not_delays_of_request? hr)
  · rintro rfl
    rw [hstuck.cause.kept Sink.careful_collector]
    exact hlead.kept_collector htook
  · rintro botId conversationId version rfl
    rw [hstuck.cause.kept (Sink.careful_writer botId conversationId version)]
    exact hlead.kept_writer htook

/-- Whatever makes a node fail, be it its own fields, a store, a service or the sink, the context
that it works on and what the sinks were given stay as they are. So a run that fails leaves the
context as the nodes before the failure have left it, one after the other, and the sink has been
given what the traversals before the failure were suspended with. -/
theorem failures_leave_what_was_done (settings : Settings) {sink : Sink} (hsink : sink.Careful) :
    (∀ (node : Node) (context context' : Context) (e : FlowError) (w w' : World),
      w.Runs ((node.runInPlace settings sink).on context) (.error e, context') w' →
        context' = context ∧ w'.kept = w.kept) ∧
    ∀ (flow : Flow) (event : Event) (context context' : Context) (e : FlowError) (w w' : World),
      w.Runs ((flow.runInPlace settings sink event).on context) (.error e, context') w' →
        ∃ ts walks start last w₁,
          flow.Breakdown settings sink event w context e w' context' ts walks start last w₁ := by
  constructor
  · intro node context context' e w w' h
    exact Node.unchanged_of_runInPlace_error hsink h
  · intro flow event context context' e w w' h
    rw [on_runInPlace] at h
    obtain ⟨⟨context₁, result⟩, w₁, hruns, h⟩ := h.of_bind
    obtain ⟨hresult, rfl⟩ := h.of_done
    cases hresult
    exact exists_breakdown_of_run hruns

/-- Two starts: one waits, and the other notes something and then asks a service whose answer cannot
be read. -/
def inquiry : Flow where
  nodes :=
    [⟨"start", .newMessage, []⟩, ⟨"wait", .delay, [("ms", .ofNat 60)]⟩, ⟨"also", .newMessage, []⟩,
      ⟨"note", .setVariable, [("name", .text "step"), ("value", .text "before")]⟩,
      ⟨"ask", .apiRequest,
        [("mapResponse", .text "status->vars.step"), ("url", .text "http://shop/stock")]⟩]
  edges :=
    [⟨none, "start", "wait", none⟩, ⟨none, "also", "note", none⟩, ⟨none, "note", "ask", none⟩]

/-- A morning on which the service answers with half a list. -/
def halfAnswered : World :=
  { morning with replies := [.answered 200 [("content-type", "application/json")] "["] }

def noted : Context := (Context.ofChannel "ana").set "vars.step" (.text "before")

def asked : World :=
  (halfAnswered.attempt
    ((inquiry.runInPlace ⟨.strict, 10, 15000⟩ (.writer "bot" "ana" "v1") (.newMessage "hi")).on
    (.ofChannel "ana"))).2

theorem failures_leave_what_was_done_inquiry :
    halfAnswered.Runs
      ((inquiry.runInPlace ⟨.strict, 10, 15000⟩ (.writer "bot" "ana" "v1") (.newMessage "hi")).on
        (.ofChannel "ana")) (.error (.invalidResponse "ask"), noted) asked ∧
      (∃ ts walks start last w₁,
        inquiry.Breakdown ⟨.strict, 10, 15000⟩ (.writer "bot" "ana" "v1") (.newMessage "hi")
        halfAnswered (.ofChannel "ana") (.invalidResponse "ask") asked noted ts walks start
          last w₁) ∧
      asked.suspensions.pending "bot" "ana" =
        [⟨⟨1⟩, "bot", "ana", "v1", "wait", .ofChannel "ana", ⟨1893488460, 0⟩,
          ⟨1893488400, 0⟩⟩] := by
  have hruns :
      halfAnswered.Runs ((inquiry.runInPlace ⟨.strict, 10, 15000⟩ (.writer "bot" "ana" "v1")
      (.newMessage "hi")).on (.ofChannel "ana")) (.error (.invalidResponse "ask"), noted) asked :=
    World.runs_of_attempt (by decide +kernel)
  obtain ⟨-, hrun⟩ :=
    failures_leave_what_was_done ⟨.strict, 10, 15000⟩ (Sink.careful_writer "bot" "ana" "v1")
  exact ⟨hruns, hrun inquiry (.newMessage "hi") _ _ _ _ _ hruns, by decide +kernel⟩

end Flow

end ChatFlow
