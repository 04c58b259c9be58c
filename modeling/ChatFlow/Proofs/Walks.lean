import ChatFlow.Proofs.Journey
import ChatFlow.Proofs.Passage
import Mathlib.Data.List.Chain

namespace ChatFlow

open ChatFlow.Flow (Index)

structure Visit where
  node : Node
  /-- the visit is where a run goes on behind a delay -/
  resuming : Bool
  before : World
  context : Context
  outcome : Outcome
  after : World
  left : Context

namespace Visit

def TookPlace (settings : Settings) (sink : Sink) (v : Visit) : Prop :=
  v.before.Runs (v.node.visit settings sink v.resuming v.context) (.ok (v.outcome, v.left)) v.after

/-- The handler of a delay was run: the node is a delay, it was not passed by for a missing field,
and it is not the one behind which the run goes on. -/
def Delays (v : Visit) : Prop := v.node.Suspends ∧ v.resuming = false

instance (v : Visit) : Decidable v.Delays := inferInstanceAs (Decidable (_ ∧ _))

def resumeAt (v : Visit) : Instant := v.before.clock.after v.node.delayMillis

def request? (v : Visit) : Option SuspendRequest :=
  if v.Delays then some ⟨v.node.id, v.resumeAt, v.context⟩ else none

variable {settings : Settings} {sink : Sink} {v : Visit}

theorem request?_of_delays (h : v.Delays) : v.request? = some ⟨v.node.id, v.resumeAt, v.context⟩ :=
  if_pos h

theorem request?_of_not_delays (h : ¬ v.Delays) : v.request? = none := if_neg h

theorem visit_of_delays (h : v.Delays) (settings : Settings) (sink : Sink) :
    v.node.visit settings sink v.resuming v.context = v.node.delay sink v.context := by
  rw [Node.visit, h.2, Bool.false_and]
  exact Node.run_of_suspends h.1 settings sink v.context

theorem visit_sink (h : ¬ v.Delays) (settings : Settings) (sink sink' : Sink) :
    v.node.visit settings sink v.resuming v.context =
      v.node.visit settings sink' v.resuming v.context := by
  unfold Node.visit
  by_cases hresumed : (v.resuming && v.node.kind == .delay) = true
  · rw [if_pos hresumed, if_pos hresumed]
  · rw [if_neg hresumed, if_neg hresumed]
    refine Node.run_sink (fun hs => ?_) settings sink sink' v.context
    have hresuming : v.resuming = false := by simpa [hs.1] using hresumed
    exact h ⟨hs, hresuming⟩

theorem TookPlace.proceeds (h : v.TookPlace settings sink) (hdelays : ¬ v.Delays) :
    ∃ handle, v.outcome = .proceed handle := by
  unfold TookPlace Node.visit at h
  split at h
  · have hresult : Except.ok (v.outcome, v.left) = Node.pass v.context := h.of_done.1
    exact ⟨.out, congrArg Prod.fst (Except.ok.inj hresult)⟩
  · next hresumed =>
    have hsuspends : ¬ v.node.Suspends := by
      intro hs
      have hresuming : v.resuming = false := by simpa [hs.1] using hresumed
      exact hdelays ⟨hs, hresuming⟩
    have hyields := (World.runs_iff.mp h).result (Node.run_only hsuspends settings sink v.context)
    cases houtcome : v.outcome with
    | proceed handle => exact ⟨handle, rfl⟩
    | suspend resumeAt =>
      rw [houtcome] at hyields
      exact hyields.elim

theorem TookPlace.suspends (h : v.TookPlace settings sink) (hdelays : v.Delays) :
    v.outcome = .suspend v.resumeAt ∧ v.left = v.context ∧
      v.before.Runs (sink ⟨v.node.id, v.resumeAt, v.context⟩) (.ok ()) v.after := by
  unfold TookPlace at h
  rw [visit_of_delays hdelays] at h
  obtain ⟨now, w, hnow, h⟩ := h.of_call
  cases hnow
  rw [Activity.done_bind] at h
  obtain ⟨kept, w, hkept, h⟩ := World.Runs.of_bind h
  cases kept with
  | error failure => cases h.of_done.1
  | ok _ =>
    obtain ⟨hresult, hafter⟩ := h.of_done
    obtain ⟨houtcome, hleft⟩ := Prod.mk.inj (Except.ok.inj hresult)
    exact ⟨houtcome, hleft, hafter ▸ hkept⟩

theorem TookPlace.not_delays (h : v.TookPlace settings sink) {handle : Handle}
    (houtcome : v.outcome = .proceed handle) : ¬ v.Delays := by
  intro hdelays
  rw [(h.suspends hdelays).1] at houtcome
  cases houtcome

theorem TookPlace.delays (h : v.TookPlace settings sink) {resumeAt : Instant}
    (houtcome : v.outcome = .suspend resumeAt) : v.Delays := by
  by_contra hdelays
  obtain ⟨handle, hhandle⟩ := h.proceeds hdelays
  rw [hhandle] at houtcome
  cases houtcome

/-- Visits one after the other: from a world and a context to another world and another context. -/
def Lead : World → Context → List Visit → World → Context → Prop
  | w, context, [], w', context' => w' = w ∧ context' = context
  | w, context, v :: vs, w', context' =>
    v.before = w ∧ v.context = context ∧ Lead v.after v.left vs w' context'

theorem Lead.append {w w₁ w' : World} {context context₁ context' : Context} {vs vs' : List Visit}
    (h : Lead w context vs w₁ context₁) (h' : Lead w₁ context₁ vs' w' context') :
    Lead w context (vs ++ vs') w' context' := by
  induction vs generalizing w context with
  | nil =>
    obtain ⟨rfl, rfl⟩ := h
    exact h'
  | cons v vs ih => exact ⟨h.1, h.2.1, ih h.2.2⟩

end Visit

/-- How a traversal ends that suspends with such a request. -/
def SuspendRequest.ending (r : SuspendRequest) : Ending := .suspended r.nodeId r.resumeAt

/-- The suspension that a traversal ends with, if it ends with one. -/
def Ending.suspensions : Ending → List Ending
  | .suspended node resumeAt => [.suspended node resumeAt]
  | .completed => []

inductive Trail (settings : Settings) (sink : Sink) (index : Index) :
    (resuming : Bool) → (id : String) → List Visit → Ending → Prop
  | missing {resuming : Bool} {id : String} :
    index.contains id = false → Trail settings sink index resuming id [] .completed
  | suspended {v : Visit} {resumeAt : Instant} :
    index.node? v.node.id = some v.node → v.TookPlace settings sink →
      v.outcome = .suspend resumeAt →
    Trail settings sink index v.resuming v.node.id [v] (.suspended v.node.id resumeAt)
  | stopped {v : Visit} {handle : Handle} :
    index.node? v.node.id = some v.node → v.TookPlace settings sink → v.outcome = .proceed handle →
    Flow.next settings.policy index v.node.id handle = .nowhere →
    Trail settings sink index v.resuming v.node.id [v] .completed
  | step {v : Visit} {handle : Handle} {target : String} {vs : List Visit} {ending : Ending} :
    index.node? v.node.id = some v.node → v.TookPlace settings sink → v.outcome = .proceed handle →
    Flow.next settings.policy index v.node.id handle = .node target →
    Trail settings sink index false target vs ending →
    Trail settings sink index v.resuming v.node.id (v :: vs) ending

namespace Flow

variable {settings : Settings} {sink : Sink} {flow : Flow}

theorem next_eq_nowhere {policy : Policy} {index : Index} {id : String} {handle : Handle}
    (h : next policy index id handle = .nowhere) :
    index.select id handle = none ∨
      policy = .permissive ∧
        ∃ edge, index.select id handle = some edge ∧ index.contains edge.target = false := by
  unfold next at h
  cases hselect : index.select id handle with
  | none => exact .inl rfl
  | some edge =>
    rw [hselect] at h
    dsimp only at h
    split at h
    · cases h
    · next hcontains =>
      cases policy with
      | strict => cases h
      | permissive => exact .inr ⟨rfl, edge, rfl, Bool.not_eq_true _ ▸ hcontains⟩

/-- The visits of a passage through the world are a walk. -/
theorem exists_trail_of_passage {id : String} {resuming : Bool} {context context' : Context}
    {visited : List String} {ending : Ending} {w w' : World}
    (h : Passage World.answer settings sink (Index.ofFlow flow) w context resuming id visited
      ending context' w') :
    ∃ vs, visited = vs.map (·.node.id) ∧
      Trail settings sink (Index.ofFlow flow) resuming id vs ending ∧
      Visit.Lead w context vs w' context' := by
  induction h with
  | missing hid => exact ⟨[], rfl, .missing hid, rfl, rfl⟩
  | @suspended w w' context context' resuming id node resumeAt hnode hvisit =>
    obtain ⟨-, rfl⟩ := Index.mem_nodes_of_node? hnode
    let v : Visit := ⟨node, resuming, w, context, .suspend resumeAt, w', context'⟩
    have htook : v.TookPlace settings sink := World.runs_iff.mpr hvisit
    exact ⟨[v], rfl, .suspended hnode htook rfl, rfl, rfl, rfl, rfl⟩
  | @stopped w w' context context' resuming id node handle hnode hvisit hnext =>
    obtain ⟨-, rfl⟩ := Index.mem_nodes_of_node? hnode
    let v : Visit := ⟨node, resuming, w, context, .proceed handle, w', context'⟩
    have htook : v.TookPlace settings sink := World.runs_iff.mpr hvisit
    exact ⟨[v], rfl, .stopped hnode htook rfl hnext, rfl, rfl, rfl, rfl⟩
  | @step w w₁ w' context context₁ context' resuming id target node handle visited ending hnode
    hvisit hnext _ ih =>
    obtain ⟨-, rfl⟩ := Index.mem_nodes_of_node? hnode
    obtain ⟨vs, rfl, htrail, hlead⟩ := ih
    let v : Visit := ⟨node, resuming, w, context, .proceed handle, w₁, context₁⟩
    have htook : v.TookPlace settings sink := World.runs_iff.mpr hvisit
    exact ⟨v :: vs, rfl, .step hnode htook rfl hnext htrail, rfl, rfl, hlead⟩

/-- A traversal that succeeded comes from a walk through the room it had. -/
theorem exists_trail_of_traverse {start id : String} {room : Nat} {resuming : Bool}
    {path : List String} {context context' : Context} {t : Traversal} {w w' : World}
    (h : w.Runs (traverse settings sink (Index.ofFlow flow) start room resuming path context id)
      (context', .ok t) w') :
    ∃ vs, t.start = start ∧ t.path = path ++ vs.map (·.node.id) ∧ vs.length ≤ room ∧
      Trail settings sink (Index.ofFlow flow) resuming id vs t.ending ∧
        Visit.Lead w context vs w' context' := by
  obtain ⟨visited, hstart, hpath, hlength, hpassage⟩ := exists_passage (World.runs_iff.mp h)
  obtain ⟨vs, rfl, htrail, hlead⟩ := exists_trail_of_passage hpassage
  rw [List.length_map] at hlength
  exact ⟨vs, hstart, hpath, hlength, htrail, hlead⟩

end Flow

namespace Trail

variable {settings : Settings} {sink : Sink} {index : Index} {resuming : Bool} {id : String}
  {vs : List Visit} {ending : Ending}

/-- A walk visits nothing only if it starts at an undeclared node. -/
theorem head_cases (h : Trail settings sink index resuming id vs ending) :
    (index.contains id = false ∧ vs = [] ∧ ending = .completed) ∨
      (index.contains id = true ∧ ∃ v rest, vs = v :: rest ∧ v.node.id = id) := by
  cases h with
  | missing hmissing => exact .inl ⟨hmissing, rfl, rfl⟩
  | suspended hnode => exact .inr ⟨Index.contains_of_node? hnode, _, [], rfl, rfl⟩
  | stopped hnode => exact .inr ⟨Index.contains_of_node? hnode, _, [], rfl, rfl⟩
  | step hnode => exact .inr ⟨Index.contains_of_node? hnode, _, _, rfl, rfl⟩

theorem head? (h : Trail settings sink index resuming id vs ending)
    (hid : index.contains id = true) :
    ∃ v rest, vs = v :: rest ∧ v.node.id = id := by
  rcases h.head_cases with ⟨hmissing, -⟩ | ⟨-, hvs⟩
  · rw [hid] at hmissing
    cases hmissing
  · exact hvs

theorem visited (h : Trail settings sink index resuming id vs ending) :
    ∀ v ∈ vs, index.node? v.node.id = some v.node ∧ v.TookPlace settings sink := by
  induction h with
  | missing => exact List.forall_mem_nil _
  | suspended hnode htook => exact List.forall_mem_singleton.mpr ⟨hnode, htook⟩
  | stopped hnode htook => exact List.forall_mem_singleton.mpr ⟨hnode, htook⟩
  | step hnode htook _ _ _ ih => exact List.forall_mem_cons.mpr ⟨⟨hnode, htook⟩, ih⟩

theorem resuming_eq (h : Trail settings sink index resuming id vs ending) {v : Visit}
    {rest : List Visit} (hvs : vs = v :: rest) : v.resuming = resuming ∧
      ∀ u ∈ rest, u.resuming = false := by
  induction h generalizing v rest with
  | missing => cases hvs
  | suspended =>
    cases hvs
    exact ⟨rfl, List.forall_mem_nil _⟩
  | stopped =>
    cases hvs
    exact ⟨rfl, List.forall_mem_nil _⟩
  | @step u handle target vs ending _ _ _ _ _ ih =>
    cases hvs
    refine ⟨rfl, ?_⟩
    cases vs with
    | nil => exact List.forall_mem_nil _
    | cons u rest => exact List.forall_mem_cons.mpr (ih rfl)

/-- One visit leads to the next along the edge that its handle takes. -/
def Joined (index : Index) (u v : Visit) : Prop :=
  ∃ handle edge, u.outcome = .proceed handle ∧ index.select u.node.id handle = some edge ∧
    edge.target = v.node.id

theorem isChain (h : Trail settings sink index resuming id vs ending) :
    vs.IsChain (Joined index) := by
  induction h with
  | missing => exact .nil
  | suspended => exact .singleton _
  | stopped => exact .singleton _
  | step hnode htook houtcome hnext htrail ih =>
    obtain ⟨edge, hselect, htarget, hcontains⟩ := Flow.next_eq_node hnext
    obtain ⟨u, rest, rfl, hu⟩ := htrail.head? hcontains
    exact .cons_cons ⟨_, edge, houtcome, hselect, htarget.trans hu.symm⟩ ih

/-- How a visit is the last one: it suspends, or no edge leads on from it, or only one to an
undeclared node, which a permissive run passes over. -/
def Last (settings : Settings) (index : Index) (v : Visit) : Ending → Prop
  | .suspended node resumeAt => v.Delays ∧ node = v.node.id ∧ resumeAt = v.resumeAt
  | .completed => ∃ handle, v.outcome = .proceed handle ∧
      (index.select v.node.id handle = none ∨
        settings.policy = .permissive ∧
          ∃ edge, index.select v.node.id handle = some edge ∧ index.contains edge.target = false)

theorem last (h : Trail settings sink index resuming id vs ending) {v : Visit}
    (hv : vs.getLast? = some v) : Last settings index v ending := by
  induction h with
  | missing => cases hv
  | suspended _ htook houtcome =>
    cases hv
    have hdelays := htook.delays houtcome
    have hresumeAt : Outcome.suspend _ = .suspend _ :=
      houtcome.symm.trans (htook.suspends hdelays).1
    exact ⟨hdelays, rfl, Outcome.suspend.inj hresumeAt⟩
  | stopped _ _ houtcome hnext =>
    cases hv
    exact ⟨_, houtcome, Flow.next_eq_nowhere hnext⟩
  | step _ _ _ hnext htrail ih =>
    obtain ⟨edge, -, -, hcontains⟩ := Flow.next_eq_node hnext
    obtain ⟨u, rest, rfl, -⟩ := htrail.head? hcontains
    exact ih (by rwa [List.getLast?_cons_cons] at hv)

/-- A walk asks the sink for nothing but the suspension it ends with. -/
theorem requests (h : Trail settings sink index resuming id vs ending) :
    (vs.filterMap Visit.request?).map SuspendRequest.ending = ending.suspensions := by
  induction h with
  | missing => rfl
  | suspended _ htook houtcome =>
    have hdelays := htook.delays houtcome
    have hresumeAt : Outcome.suspend _ = .suspend _ :=
      houtcome.symm.trans (htook.suspends hdelays).1
    have hrequest := Visit.request?_of_delays hdelays
    rw [List.filterMap_cons_some hrequest, Outcome.suspend.inj hresumeAt]
    rfl
  | stopped _ htook houtcome =>
    have hrequest := Visit.request?_of_not_delays (htook.not_delays houtcome)
    rw [List.filterMap_cons_none hrequest]
    rfl
  | step _ htook houtcome _ _ ih =>
    have hrequest := Visit.request?_of_not_delays (htook.not_delays houtcome)
    rw [List.filterMap_cons_none hrequest]
    exact ih

end Trail

def Event.isResume : Event → Bool
  | .resume _ => true
  | .newMessage _ | .scheduled => false

def Event.starts (flow : Flow) : Event → List String
  | .resume node => [node]
  | .newMessage _ | .scheduled => (Index.ofFlow flow).starts.map (·.id)

structure Traversal.Shape (settings : Settings) (sink : Sink) (index : Index) (resuming : Bool)
    (t : Traversal) (vs : List Visit) : Prop where
  path : t.path = vs.map (·.node.id)
  visits : ∀ v ∈ vs, index.node? v.node.id = some v.node ∧ v.TookPlace settings sink
  resumes : ∀ v rest, vs = v :: rest → v.resuming = resuming ∧ ∀ u ∈ rest, u.resuming = false
  start : t.path.head? = some t.start ∨ resuming = true ∧ index.contains t.start = false ∧
    t.path = []
  length_le : t.path.length ≤ settings.limit
  edges : vs.IsChain (Trail.Joined index)
  suspended_iff : ∀ node resumeAt, t.ending = .suspended node resumeAt ↔
    ∃ v, vs.getLast? = some v ∧ v.Delays ∧ node = v.node.id ∧ resumeAt = v.resumeAt
  completed : t.ending = .completed → ∀ v, vs.getLast? = some v →
    Trail.Last settings index v .completed

/-- The shape of a run: one traversal for each start, and one request to the sink for each that
suspended. The visits lead from the world and the context before the run to those behind it. -/
structure FlowRun.Shape (settings : Settings) (sink : Sink) (flow : Flow) (event : Event)
    (w : World) (context : Context) (run : FlowRun) (w' : World) (walks : List (List Visit)) :
    Prop where
  starts : run.traversals.map (·.start) = event.starts flow
  traversals : List.Forall₂ (Traversal.Shape settings sink (Index.ofFlow flow) event.isResume)
    run.traversals walks
  lead : Visit.Lead w context walks.flatten w' run.context
  requests : (walks.flatten.filterMap Visit.request?).map SuspendRequest.ending =
    run.suspended.map (·.ending)
  /-- what a visit asks of the sink, the sink does -/
  asks : ∀ v ∈ walks.flatten, ∀ r, v.request? = some r → v.before.Runs (sink r) (.ok ()) v.after
  /-- and nothing else is asked of it -/
  asksNot : ∀ v ∈ walks.flatten, v.request? = none → ∀ sink' : Sink,
    v.node.visit settings sink v.resuming v.context =
      v.node.visit settings sink' v.resuming v.context
  collected : sink = .collector →
    w'.collected = w.collected ++ walks.flatten.filterMap Visit.request?

variable {settings : Settings} {sink : Sink} {flow : Flow}

structure Traversal.Recorded (settings : Settings) (sink : Sink) (index : Index) (resuming : Bool)
    (t : Traversal) (vs : List Visit) : Prop where
  trail : Trail settings sink index resuming t.start vs t.ending
  path : t.path = vs.map (·.node.id)
  length_le : vs.length ≤ settings.limit

theorem Traversal.Recorded.shape {index : Index} {resuming : Bool} {t : Traversal} {vs : List Visit}
    (h : t.Recorded settings sink index resuming vs)
    (hstart : resuming = false → index.contains t.start = true) :
    t.Shape settings sink index resuming vs where
  path := h.path
  visits := h.trail.visited
  resumes _ _ := h.trail.resuming_eq
  start := by
    rcases h.trail.head_cases with ⟨hmissing, rfl, -⟩ | ⟨-, v, rest, rfl, hv⟩
    · refine .inr ⟨?_, hmissing, h.path⟩
      by_contra hresuming
      rw [hstart (Bool.not_eq_true _ ▸ hresuming)] at hmissing
      cases hmissing
    · rw [h.path, ← hv]
      exact .inl rfl
  length_le := by
    rw [h.path, List.length_map]
    exact h.length_le
  edges := h.trail.isChain
  suspended_iff node resumeAt := by
    constructor
    · intro hending
      rcases h.trail.head_cases with ⟨-, -, hcompleted⟩ | ⟨-, v, rest, rfl, -⟩
      · rw [hending] at hcompleted
        cases hcompleted
      · have hlast := List.getLast?_eq_some_getLast (List.cons_ne_nil v rest)
        have hsuspends := h.trail.last hlast
        rw [hending] at hsuspends
        exact ⟨_, hlast, hsuspends⟩
    · rintro ⟨v, hlast, hdelays, rfl, rfl⟩
      have hends := h.trail.last hlast
      have htook := (h.trail.visited v (List.mem_of_getLast? hlast)).2
      cases hending : t.ending with
      | completed =>
        rw [hending] at hends
        obtain ⟨handle, houtcome, -⟩ := hends
        exact absurd hdelays (htook.not_delays houtcome)
      | suspended node resumeAt =>
        rw [hending] at hends
        obtain ⟨-, rfl, rfl⟩ := hends
        rfl
  completed hcompleted v hv := hcompleted ▸ h.trail.last hv

theorem Traversal.Recorded.requests {index : Index} {resuming : Bool} {ts : List Traversal}
    {walks : List (List Visit)}
    (h : List.Forall₂ (Traversal.Recorded settings sink index resuming) ts walks) :
    (walks.flatten.filterMap Visit.request?).map SuspendRequest.ending =
      (ts.filter (·.isSuspended)).map (·.ending) := by
  induction h with
  | nil => rfl
  | @cons t vs ts walks hfirst _ ih =>
    have hrequests := hfirst.trail.requests
    rw [List.flatten_cons, List.filterMap_append, List.map_append, ih, hrequests, List.filter_cons]
    cases hending : t.ending with
    | completed =>
      have hwaits : t.isSuspended = false := by rw [isSuspended, hending]
      rw [hwaits]
      rfl
    | suspended node resumeAt =>
      have hwaits : t.isSuspended = true := by rw [isSuspended, hending]
      rw [hwaits, if_pos rfl, List.map_cons, hending]
      rfl

theorem Traversal.Recorded.tookPlace {index : Index} {resuming : Bool} {ts : List Traversal}
    {walks : List (List Visit)}
    (h : List.Forall₂ (Traversal.Recorded settings sink index resuming) ts walks) :
    ∀ v ∈ walks.flatten, v.TookPlace settings sink := by
  induction h with
  | nil => exact List.forall_mem_nil _
  | cons hfirst _ ih =>
    exact List.forall_mem_append.mpr ⟨fun v hv => (hfirst.trail.visited v hv).2, ih⟩

namespace Flow

theorem mem_nodes_of_mem_starts {node : Node} (h : node ∈ (Index.ofFlow flow).starts) :
    node ∈ flow.nodes := by
  rw [Index.starts_ofFlow] at h
  obtain ⟨placed, hplaced, rfl⟩ := List.mem_map.mp h
  exact List.fst_mem_of_mem_zipIdx (List.mem_of_mem_filter hplaced)

theorem contains_of_mem_starts {event : Event} (hevent : event.isResume = false) {id : String}
    (hid : id ∈ event.starts flow) : (Index.ofFlow flow).contains id = true := by
  have hstarts : event.starts flow = (Index.ofFlow flow).starts.map (·.id) := by
    cases event with
    | resume node => cases hevent
    | newMessage text => rfl
    | scheduled => rfl
  rw [hstarts] at hid
  obtain ⟨node, hnode, rfl⟩ := List.mem_map.mp hid
  rw [Index.contains_ofFlow]
  exact List.any_eq_true.mpr ⟨node, mem_nodes_of_mem_starts hnode, beq_self_eq_true _⟩

theorem exists_walks_of_traverseAll {nodes : List Node} {context context' : Context}
    {ts : List Traversal} {w w' : World}
    (h : w.Runs (traverseAll settings sink (Index.ofFlow flow) context nodes)
      (context', .ok ts) w') :
    ts.map (·.start) = nodes.map (·.id) ∧
      ∃ walks, List.Forall₂ (Traversal.Recorded settings sink (Index.ofFlow flow) false) ts walks ∧
        Visit.Lead w context walks.flatten w' context' := by
  induction nodes generalizing context ts w with
  | nil =>
    obtain ⟨hresult, rfl⟩ := h.of_done
    cases hresult
    exact ⟨rfl, [], .nil, rfl, rfl⟩
  | cons node rest ih =>
    obtain ⟨⟨context₁, first⟩, w₁, hfirst, h⟩ := h.of_bind
    cases first with
    | error e => cases h.of_done.1
    | ok t =>
      obtain ⟨⟨context₂, others⟩, w₂, hothers, h⟩ := h.of_bind
      obtain ⟨hresult, rfl⟩ := h.of_done
      cases others with
      | error e => cases hresult
      | ok others =>
        cases hresult
        obtain ⟨vs, hstart, hpath, hlength, htrail, hlead⟩ := exists_trail_of_traverse hfirst
        obtain ⟨hstarts, walks, hwalks, hleads⟩ := ih hothers
        rw [← hstart] at htrail
        refine ⟨?_, vs :: walks, .cons ⟨htrail, hpath, hlength⟩ hwalks, hlead.append hleads⟩
        rw [List.map_cons, List.map_cons, hstart, hstarts]

theorem exists_walks_of_run {event : Event} {context context' : Context} {ts : List Traversal}
    {w w' : World} (h : w.Runs (flow.run settings sink event context) (context', .ok ts) w') :
    ts.map (·.start) = event.starts flow ∧
      ∃ walks,
      List.Forall₂ (Traversal.Recorded settings sink (Index.ofFlow flow) event.isResume) ts walks ∧
        Visit.Lead w context walks.flatten w' context' := by
  cases event with
  | newMessage text => exact exists_walks_of_traverseAll h
  | scheduled => exact exists_walks_of_traverseAll h
  | resume node =>
    obtain ⟨⟨context₁, result⟩, w₁, hfirst, h⟩ := h.of_bind
    obtain ⟨hresult, rfl⟩ := h.of_done
    cases result with
    | error e => cases hresult
    | ok t =>
      cases hresult
      obtain ⟨vs, rfl, hpath, hlength, htrail, hlead⟩ := exists_trail_of_traverse hfirst
      refine ⟨rfl, [vs], .cons ⟨htrail, hpath, hlength⟩ .nil, ?_⟩
      rwa [List.flatten_singleton]

theorem collected_of_lead {w w' : World} {context context' : Context} {vs : List Visit}
    (htook : ∀ v ∈ vs, v.TookPlace settings .collector) (h : Visit.Lead w context vs w' context') :
    w'.collected = w.collected ++ vs.filterMap Visit.request? := by
  induction vs generalizing w context with
  | nil =>
    obtain ⟨rfl, rfl⟩ := h
    exact (List.append_nil _).symm
  | cons v vs ih =>
    obtain ⟨hfirst, hrest⟩ := List.forall_mem_cons.mp htook
    obtain ⟨rfl, rfl, h⟩ := h
    rw [ih hrest h]
    by_cases hdelays : v.Delays
    · have hsuspends : v.before.Runs (v.node.visit settings .collector v.resuming v.context)
          (.ok (.suspend v.resumeAt, v.left)) v.after := (hfirst.suspends hdelays).1 ▸ hfirst
      obtain ⟨-, hafter⟩ := Node.collected_of_suspend hsuspends
      rw [List.filterMap_cons_some (Visit.request?_of_delays hdelays), hafter]
      exact (List.append_assoc _ _ _)
    · obtain ⟨handle, houtcome⟩ := hfirst.proceeds hdelays
      have hproceeds : v.before.Runs (v.node.visit settings .collector v.resuming v.context)
          (.ok (.proceed handle, v.left)) v.after := houtcome ▸ hfirst
      rw [List.filterMap_cons_none (Visit.request?_of_not_delays hdelays),
        collected_of_proceed hproceeds]

/-- Every run that succeeds has that shape. -/
theorem exists_shape_of_execute (settings : Settings) (sink : Sink) (flow : Flow) (event : Event)
    (context : Context) (w w' : World) (run : FlowRun)
    (h : w.Runs (flow.execute settings sink event context) (.ok run) w') :
    ∃ walks, run.Shape settings sink flow event w context w' walks := by
  obtain ⟨⟨context', result⟩, w₁, hrun, h⟩ := h.of_bind
  obtain ⟨hresult, rfl⟩ := h.of_done
  cases result with
  | error e => cases hresult
  | ok ts =>
    cases hresult
    obtain ⟨hstarts, walks, hwalks, hlead⟩ := exists_walks_of_run hrun
    have htook := Traversal.Recorded.tookPlace hwalks
    have hdeclared : ∀ t ∈ ts, event.isResume = false →
        (Index.ofFlow flow).contains t.start = true :=
      fun t ht hevent => contains_of_mem_starts hevent (hstarts ▸ List.mem_map_of_mem ht)
    have hshapes :
        List.Forall₂ (Traversal.Shape settings sink (Index.ofFlow flow) event.isResume) ts walks :=
      List.forall₂_iff_zip.mpr ⟨hwalks.length_eq, fun {t vs} hmem =>
        (List.forall₂_zip hwalks hmem).shape (hdeclared t (List.of_mem_zip hmem).1)⟩
    refine ⟨walks, hstarts, hshapes, hlead, Traversal.Recorded.requests hwalks, ?_, ?_, ?_⟩
    · intro v hv r hr
      by_cases hdelays : v.Delays
      · rw [Visit.request?_of_delays hdelays] at hr
        cases hr
        exact ((htook v hv).suspends hdelays).2.2
      · rw [Visit.request?_of_not_delays hdelays] at hr
        cases hr
    · intro v hv hr sink'
      refine Visit.visit_sink (fun hdelays => ?_) settings sink sink'
      rw [Visit.request?_of_delays hdelays] at hr
      cases hr
    · rintro rfl
      exact collected_of_lead htook hlead

/-- The first run of the flow with two pauses: one traversal, suspended at the first of them. -/
theorem exists_shape_followUp :
    let run : FlowRun :=
      ⟨.ofChannel "ana", [⟨"start", ["start", "wait"], .suspended "wait" ⟨1893488401, 0⟩⟩]⟩
    let w' := (morning.attempt (followUp.execute ⟨.strict, 10, 15000⟩ .collector (.newMessage "hi")
      (.ofChannel "ana"))).2
    morning.Runs
      (followUp.execute ⟨.strict, 10, 15000⟩ .collector (.newMessage "hi") (.ofChannel "ana"))
        (.ok run) w' ∧
      ∃ walks, run.Shape ⟨.strict, 10, 15000⟩ .collector followUp (.newMessage "hi") morning
        (.ofChannel "ana") w' walks := by
  intro run w'
  have hruns : morning.Runs (followUp.execute ⟨.strict, 10, 15000⟩ .collector (.newMessage "hi")
      (.ofChannel "ana")) (.ok run) w' := World.runs_of_attempt (by decide +kernel)
  exact ⟨hruns, exists_shape_of_execute ⟨.strict, 10, 15000⟩ .collector followUp (.newMessage "hi")
    (.ofChannel "ana") morning w' run hruns⟩

end Flow

end ChatFlow
