import ChatFlow.Proofs.Passage
import Mathlib.Data.List.Basic

namespace ChatFlow

open ChatFlow.Flow (Index)

variable {σ α β : Type}

def Settings.within (settings : Settings) (steps : Nat) : Settings :=
  { settings with maxSteps := steps }

theorem Node.visit_within (settings : Settings) (steps : Nat) (sink : Sink) (resuming : Bool)
    (node : Node) (context : Context) :
    node.visit (settings.within steps) sink resuming context =
      node.visit settings sink resuming context := by
  have hrequest :
      node.apiRequest (settings.within steps) context = node.apiRequest settings context :=
    apiRequest_congr rfl
  unfold visit run handle
  rw [hrequest]
  rfl

variable {env : Environment σ} {settings : Settings} {sink : Sink} {index : Index} {s s' : σ}
  {context context' : Context} {resuming : Bool} {id start : String} {visited path : List String}
    {ending : Ending}

namespace Passage

open ChatFlow.Flow (traverse goOn)

theorem runs (h : Passage env settings sink index s context resuming id visited ending context' s')
    (steps : Nat) {room : Nat} (hroom : visited.length ≤ room) :
    env.Runs s (traverse (settings.within steps) sink index start room resuming path context id)
      (context', .ok ⟨start, path ++ visited, ending⟩) s' := by
  induction h generalizing path room with
  | missing hid =>
    rw [Flow.traverse_of_not_contains hid, List.append_nil]
    exact .done _ _
  | suspended hnode hvisit =>
    obtain ⟨room, rfl⟩ := Nat.exists_eq_add_of_le' (show 1 ≤ room from hroom)
    rw [Flow.traverse_of_node? hnode, Node.visit_within]
    exact hvisit.bind (.done _ _)
  | stopped hnode hvisit hnext =>
    obtain ⟨room, rfl⟩ := Nat.exists_eq_add_of_le' (show 1 ≤ room from hroom)
    rw [Flow.traverse_of_node? hnode, Node.visit_within]
    refine hvisit.bind ?_
    rw [goOn, Settings.within, hnext]
    exact .done _ _
  | @step s s₁ s' context context₁ context' resuming id target node handle visited ending hnode
    hvisit hnext _ ih =>
    obtain ⟨room, rfl⟩ :=
      Nat.exists_eq_add_of_le' (Nat.le_trans (Nat.le_add_left 1 visited.length) hroom)
    rw [Flow.traverse_of_node? hnode, Node.visit_within]
    refine hvisit.bind ?_
    rw [goOn, Settings.within, hnext]
    have hrest := @ih (path ++ [id]) room (Nat.le_of_succ_le_succ hroom)
    rwa [List.append_assoc] at hrest

theorem runs_stepLimit
    (h : Passage env settings sink index s context resuming id visited ending context' s')
    (steps : Nat) {room : Nat} (hroom : room < visited.length) :
    ∃ context' s',
    env.Runs s (traverse (settings.within steps) sink index start room resuming path context id)
      (context', .error (.stepLimit start (settings.within steps).limit)) s' := by
  have hzero {s : σ} {context : Context} {resuming : Bool} {path : List String} {id : String}
      {node : Node}
      (hnode : index.node? id = some node) :
      env.Runs s (traverse (settings.within steps) sink index start 0 resuming path context id)
        (context, .error (.stepLimit start (settings.within steps).limit)) s := by
    rw [Flow.traverse_zero_of_contains (Index.contains_of_node? hnode)]
    exact .done _ _
  induction h generalizing path room with
  | missing => cases hroom
  | suspended hnode =>
    obtain rfl := Nat.lt_one_iff.mp hroom
    exact ⟨_, _, hzero hnode⟩
  | stopped hnode =>
    obtain rfl := Nat.lt_one_iff.mp hroom
    exact ⟨_, _, hzero hnode⟩
  | @step s s₁ s' context context₁ context' resuming id target node handle visited ending hnode
    hvisit hnext _ ih =>
    cases room with
    | zero => exact ⟨_, _, hzero hnode⟩
    | succ room =>
      obtain ⟨context'', s'', hrest⟩ := @ih (path ++ [id]) room (Nat.lt_of_succ_lt_succ hroom)
      refine ⟨context'', s'', ?_⟩
      rw [Flow.traverse_of_node? hnode, Node.visit_within]
      refine hvisit.bind ?_
      rw [goOn, Settings.within, hnext]
      exact hrest

end Passage

/-- What a limit on steps makes of a run that without it returns `a` and ends in the state `s'`: the
same as long as no traversal is too long for it, and otherwise a failure at the first that is. -/
def DecidedBy (env : Environment σ) (limit : Nat) (s : σ)
    (x : Activity (Context × Except FlowError α)) (context : Context) (a : α) (s' : σ) :
    Option Traversal → Prop
  | none => env.Runs s x (context, .ok a) s'
  | some t => ∃ context s', env.Runs s x (context, .error (.stepLimit t.start limit)) s'

namespace DecidedBy

variable {limit : Nat} {s₁ : σ} {a : α} {b : β} {late? : Option Traversal}

theorem after {x : Activity α} {f : α → Activity (Context × Except FlowError β)}
    (hx : env.Runs s x a s₁) (h : DecidedBy env limit s₁ (f a) context b s' late?) :
    DecidedBy env limit s (x.bind f) context b s' late? := by
  cases late? with
  | none => exact Environment.Runs.bind hx h
  | some t =>
    obtain ⟨context', s'', hfails⟩ := h
    exact ⟨context', s'', hx.bind hfails⟩

theorem bind {x : Activity (Context × Except FlowError α)}
    {f : Context × Except FlowError α → Activity (Context × Except FlowError β)}
    (h : DecidedBy env limit s x context a s₁ late?)
    (herror : ∀ context e, f (context, .error e) = .done (context, .error e))
    (hok : env.Runs s₁ (f (context, .ok a)) (context', .ok b) s') :
    DecidedBy env limit s (x.bind f) context' b s' late? := by
  cases late? with
  | none => exact Environment.Runs.bind h hok
  | some t =>
    obtain ⟨context'', s'', hfails⟩ := h
    refine ⟨context'', s'', hfails.bind ?_⟩
    rw [herror]
    exact .done _ _

end DecidedBy

def Traversal.exceeds (limit : Nat) (t : Traversal) : Bool := limit < t.path.length

namespace Flow

variable {flow : Flow}

theorem traverseFrom_decided {t : Traversal}
    (h : env.Runs s (traverseFrom settings sink index resuming context id) (context', .ok t) s')
    (steps : Nat) :
    DecidedBy env (settings.within steps).limit s
      (traverseFrom (settings.within steps) sink index resuming context id) context' t s'
      ([t].find? (·.exceeds (settings.within steps).limit)) := by
  obtain ⟨visited, hstart, hpath, -, hpassage⟩ := exists_passage h
  rw [List.nil_append] at hpath
  obtain ⟨start, path, ending⟩ := t
  subst hstart hpath
  by_cases hlong : (settings.within steps).limit < path.length
  · have hexceeds : Traversal.exceeds (settings.within steps).limit ⟨start, path, ending⟩ = true :=
      decide_eq_true hlong
    rw [List.find?_cons_of_pos hexceeds]
    exact hpassage.runs_stepLimit steps hlong
  · have hexceeds : ¬ Traversal.exceeds (settings.within steps).limit ⟨start, path, ending⟩ =
        true := by
      simpa [Traversal.exceeds] using hlong
    rw [List.find?_cons_of_neg hexceeds]
    exact hpassage.runs steps (Nat.le_of_not_lt hlong)

theorem traverseAll_decided {nodes : List Node} {ts : List Traversal}
    (h : env.Runs s (traverseAll settings sink index context nodes) (context', .ok ts) s')
    (steps : Nat) :
    DecidedBy env (settings.within steps).limit s
      (traverseAll (settings.within steps) sink index context nodes) context' ts s'
      (ts.find? (·.exceeds (settings.within steps).limit)) := by
  induction nodes generalizing s context ts with
  | nil =>
    obtain ⟨hresult, rfl⟩ := h.of_done
    cases hresult
    exact .done _ _
  | cons node rest ih =>
    obtain ⟨⟨context₁, first⟩, s₁, hfirst, h⟩ := h.of_bind
    cases first with
    | error e => cases h.of_done.1
    | ok t =>
      obtain ⟨⟨context₂, others⟩, s₂, hothers, h⟩ := h.of_bind
      obtain ⟨hresult, rfl⟩ := h.of_done
      cases others with
      | error e => cases hresult
      | ok others =>
        cases hresult
        have hdecided := traverseFrom_decided hfirst steps
        by_cases hexceeds : t.exceeds (settings.within steps).limit = true
        · rw [List.find?_cons_of_pos hexceeds] at hdecided ⊢
          obtain ⟨context'', s'', hfails⟩ := hdecided
          exact ⟨context'', s'', hfails.bind (.done _ _)⟩
        · rw [List.find?_cons_of_neg hexceeds] at hdecided ⊢
          exact .after hdecided ((ih hothers).bind (fun _ _ => rfl) (.done _ _))

theorem run_decided {event : Event} {ts : List Traversal}
    (h : env.Runs s (flow.run settings sink event context) (context', .ok ts) s') (steps : Nat) :
    DecidedBy env (settings.within steps).limit s
      (flow.run (settings.within steps) sink event context) context' ts s'
      (ts.find? (·.exceeds (settings.within steps).limit)) := by
  cases event with
  | newMessage text => exact traverseAll_decided h steps
  | scheduled => exact traverseAll_decided h steps
  | resume node =>
    obtain ⟨⟨context₁, result⟩, s₁, hfirst, h⟩ := h.of_bind
    obtain ⟨hresult, rfl⟩ := h.of_done
    cases result with
    | error e => cases hresult
    | ok t =>
      cases hresult
      exact (traverseFrom_decided hfirst steps).bind (fun _ _ => rfl) (.done _ _)

/-- A run that succeeds is under another limit the same run, or fails at its first traversal that is
too long. -/
theorem execute_decided {event : Event} {run : FlowRun}
    (h : env.Runs s (flow.execute settings sink event context) (.ok run) s') {steps : Nat}
    (hsteps : 1 ≤ steps) :
    match run.traversals.find? (·.exceeds steps) with
    | none => env.Runs s (flow.execute (settings.within steps) sink event context) (.ok run) s'
    | some t => ∃ s', env.Runs s (flow.execute (settings.within steps) sink event context)
        (.error (.stepLimit t.start steps)) s' := by
  have hlimit : (settings.within steps).limit = steps := Nat.max_eq_left hsteps
  obtain ⟨⟨context', result⟩, s₁, hrun, h⟩ := h.of_bind
  obtain ⟨hresult, rfl⟩ := h.of_done
  cases result with
  | error e => cases hresult
  | ok ts =>
    cases hresult
    have hdecided := run_decided hrun steps
    rw [hlimit] at hdecided
    cases hfind : ts.find? (·.exceeds steps) with
    | none =>
      rw [hfind] at hdecided
      exact Environment.Runs.bind hdecided (.done _ _)
    | some t =>
      rw [hfind] at hdecided
      obtain ⟨context'', s'', hfails⟩ := hdecided
      exact ⟨s'', hfails.bind (.done _ _)⟩

end Flow

namespace FlowRun

def longest (run : FlowRun) : Nat := (run.traversals.map (·.path.length)).foldr max 0

theorem longest_le_iff {run : FlowRun} {n : Nat} : run.longest ≤ n ↔
    ∀ t ∈ run.traversals, t.path.length ≤ n := by
  unfold longest
  induction run.traversals with
  | nil => simp
  | cons t rest ih => rw [List.map_cons, List.foldr_cons, Nat.max_le, ih, List.forall_mem_cons]

end FlowRun

namespace Flow

/-- A run that succeeds with paths of at most so many nodes is the same run, with the same result
and the same effects on whatever it is carried out in, under every limit on steps that is not below
that; and under a lower limit it fails, saying which limit and the start of its first path that is
longer. -/
theorem limit_only_cuts_off (env : Environment σ) (settings : Settings) (sink : Sink) (flow : Flow)
    (event : Event) (context : Context) (run : FlowRun) (s s' : σ)
    (h : env.Runs s (flow.execute settings sink event context) (.ok run) s') :
    (∀ steps, max run.longest 1 ≤ steps →
      env.Runs s (flow.execute (settings.within steps) sink event context) (.ok run) s') ∧
    ∀ steps, 1 ≤ steps → steps < run.longest →
      ∃ t, run.traversals.find? (fun t => steps < t.path.length) = some t ∧
        ∃ s', env.Runs s (flow.execute (settings.within steps) sink event context)
          (.error (.stepLimit t.start steps)) s' := by
  constructor
  · intro steps hsteps
    obtain ⟨hlong, hpositive⟩ := Nat.max_le.mp hsteps
    have hnone : run.traversals.find? (·.exceeds steps) = none := by
      rw [List.find?_eq_none]
      intro t ht
      simpa [Traversal.exceeds] using FlowRun.longest_le_iff.mp hlong t ht
    have hdecided := execute_decided h hpositive
    rwa [hnone] at hdecided
  · intro steps hpositive hlong
    have hdecided := execute_decided h hpositive
    cases hfind : run.traversals.find? (·.exceeds steps) with
    | none =>
      rw [List.find?_eq_none] at hfind
      refine absurd (FlowRun.longest_le_iff.mpr fun t ht => ?_) (Nat.not_le_of_lt hlong)
      simpa [Traversal.exceeds] using hfind t ht
    | some t =>
      rw [hfind] at hdecided
      exact ⟨t, hfind, hdecided⟩

/-- A flow of two traversals: one that says hello, and one that takes an order to an agent. -/
def reception : Flow where
  nodes :=
    [⟨"hello", .sendMessage, [("text", .text "Welcome")]⟩, ⟨"order", .newMessage, []⟩,
      ⟨"note", .setVariable, [("name", .text "open"), ("value", .text "yes")]⟩,
      ⟨"agent", .humanTakeover, []⟩]
  edges := [⟨none, "order", "note", none⟩, ⟨none, "note", "agent", none⟩]

/-- Three steps are enough for both traversals, two only for the first. -/
theorem limit_only_cuts_off_reception :
    let settings : Settings := ⟨.strict, 10, 15000⟩
    let w := World.start ⟨1893488400, 0⟩ (.memory []) (.memory []) ⟨1⟩
    let context := Context.ofChannel "5511"
    let run : FlowRun := ⟨context.set "vars.open" (.text "yes"),
      [⟨"hello", ["hello"], .completed⟩, ⟨"order", ["order", "note", "agent"], .completed⟩]⟩
    ∃ w', (Environment.Runs World.answer w
      (reception.execute settings .collector (.newMessage "hi") context)
        (.ok run) w' ∧ max run.longest 1 ≤ 3 ∧ 1 ≤ 2 ∧ 2 < run.longest) ∧
      Environment.Runs World.answer w
        (reception.execute (settings.within 3) .collector (.newMessage "hi") context) (.ok run) w' ∧
      ∃ t, run.traversals.find? (fun t => 2 < t.path.length) = some t ∧
        ∃ w', Environment.Runs World.answer w
          (reception.execute (settings.within 2) .collector (.newMessage "hi") context)
          (.error (.stepLimit t.start 2)) w' := by
  intro settings w context run
  have hruns : Environment.Runs World.answer w
      (reception.execute settings .collector (.newMessage "hi") context) (.ok run) _ :=
    World.runs_iff.mp (World.runs_of_attempt (by decide +kernel))
  have hlongest : run.longest = 3 := by decide
  have hcuts := limit_only_cuts_off World.answer settings .collector reception
    (.newMessage "hi") context run _ _ hruns
  exact ⟨_, ⟨hruns, by omega, by omega, by omega⟩, hcuts.1 3 (by omega),
    hcuts.2 2 (by omega) (by omega)⟩

end Flow

end ChatFlow
