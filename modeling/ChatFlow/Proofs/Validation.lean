import ChatFlow.Proofs.Loops
import ChatFlow.Proofs.Traversal
import Mathlib.Data.List.Chain

namespace ChatFlow

open Relation

theorem Activity.only_true {α : Type} (x : Activity α) : x.Only (fun _ => True) fun _ => True := by
  induction x with
  | done a => trivial
  | call c next ih => exact ⟨trivial, ih⟩

def NodeResult.Blameless (r : NodeResult) : Prop := ∀ e, r = .error e → ¬ e.IsMistake

namespace Node

variable {node : Node}

theorem delay_only_blameless (sink : Sink) (context : Context) :
    (node.delay sink context).Only (fun _ => True) NodeResult.Blameless := by
  refine ⟨trivial, fun now => (Activity.only_true (sink _)).bind fun kept _ => ?_⟩
  cases kept with
  | error failure =>
    rintro e ⟨⟩
    exact fun h => h
  | ok _ => exact nofun

theorem visit_only_blameless (h : node.issues = []) (settings : Settings) (sink : Sink)
    (resuming : Bool) (context : Context) :
    (node.visit settings sink resuming context).Only (fun _ => True) NodeResult.Blameless := by
  unfold visit
  split
  · exact nofun
  · by_cases hs : node.Suspends
    · rw [run_of_suspends hs]
      exact delay_only_blameless sink context
    · refine (run_only hs settings sink context).mono (fun _ _ => trivial) ?_
      rintro r hr e rfl hmistake
      exact (hr hmistake).2 h

end Node

namespace Flow

/-- A handle takes an edge from one id to another that is declared. -/
def Index.Follows (index : Index) (a b : String) : Prop :=
  ∃ handle edge, index.select a handle = some edge ∧ edge.target = b ∧ index.contains b = true

variable {flow : Flow}

theorem issues_of_mem (h : flow.issues = []) {node : Node} (hnode : node ∈ flow.nodes) :
    node.issues = [] := by
  simp only [issues, List.append_eq_nil_iff] at h
  exact List.flatMap_eq_nil_iff.mp h.1.1.2 node hnode

theorem cycles_of_issues (h : flow.issues = []) : flow.cycles = [] := by
  simp only [issues, List.append_eq_nil_iff] at h
  exact List.map_eq_nil_iff.mp h.2

theorem declares_of_mem_edges (h : flow.issues = []) {edge : Edge} (hedge : edge ∈ flow.edges) :
    flow.declares edge.source = true ∧ flow.declares edge.target = true := by
  simp only [issues, List.append_eq_nil_iff, List.map_eq_nil_iff] at h
  have hends := List.filter_eq_nil_iff.mp h.1.2 edge hedge
  simpa [Index.contains_ofFlow] using hends

theorem leads_of_follows (h : flow.issues = []) {a b : String}
    (hab : (Index.ofFlow flow).Follows a b) :
    flow.Leads a b := by
  obtain ⟨handle, edge, hselect, rfl, -⟩ := hab
  obtain ⟨hedge, rfl⟩ := Index.mem_edges_of_select hselect
  obtain ⟨hs, ht⟩ := declares_of_mem_edges h hedge
  exact leads_iff.mpr ⟨hs, ht, edge, hedge, rfl, rfl⟩

/-- Behind every id of a walk comes no id that was passed. -/
theorem nodup_of_isChain (h : flow.issues = []) {path : List String}
    (hpath : List.IsChain (Index.ofFlow flow).Follows path) : path.Nodup := by
  have hleads : List.IsChain (TransGen flow.Leads) path :=
    hpath.imp fun _ _ hab => .single (leads_of_follows h hab)
  refine (List.isChain_iff_pairwise.mp hleads).imp fun {a b} hab => ?_
  rintro rfl
  exact not_transGen_self (cycles_of_issues h) _ hab

theorem length_le_of_isChain (h : flow.issues = []) {path : List String}
    (hpath : List.IsChain (Index.ofFlow flow).Follows path)
    (hdeclared : ∀ id ∈ path, (Index.ofFlow flow).contains id = true) :
    path.length ≤ flow.nodes.length := by
  have hsub : path ⊆ flow.ids := by
    intro id hid
    rw [mem_ids, ← Index.contains_ofFlow]
    exact hdeclared id hid
  exact Nat.le_trans ((nodup_of_isChain h hpath).length_le_of_subset hsub) (length_ids_le flow)

/-- A path together with the id where the traversal stands, if it is declared, is a walk. -/
structure OnWalk (index : Index) (path : List String) (id : String) : Prop where
  declared : ∀ x ∈ path, index.contains x = true
  walk : List.IsChain index.Follows path
  last : ∀ x ∈ path.getLast?, index.Follows x id

theorem OnWalk.nil (index : Index) (id : String) : OnWalk index [] id := ⟨by simp, .nil, by simp⟩

theorem OnWalk.isChain {index : Index} {path : List String} {id : String}
    (h : OnWalk index path id) :
    List.IsChain index.Follows (path ++ [id]) := by
  rw [List.isChain_append]
  exact ⟨h.walk, .singleton id, fun x hx y hy => by
    rw [List.head?_cons, Option.mem_some_iff] at hy
    exact hy ▸ h.last x hx⟩

theorem OnWalk.step {index : Index} {path : List String} {id target : String}
    (h : OnWalk index path id) (hid : index.contains id = true) (hnext : index.Follows id target) :
    OnWalk index (path ++ [id]) target := by
  refine ⟨fun x hx => ?_, h.isChain, fun x hx => ?_⟩
  · rcases List.mem_append.mp hx with hx | hx
    · exact h.declared x hx
    · rwa [List.mem_singleton.mp hx]
  · rw [List.getLast?_concat, Option.mem_some_iff] at hx
    exact hx ▸ hnext

variable {settings : Settings} {sink : Sink}

theorem next_ne_failure (h : flow.issues = []) (policy : Policy) (id : String) (handle : Handle)
    (e : FlowError) : next policy (Index.ofFlow flow) id handle ≠ .failure e := by
  unfold next
  cases hselect : (Index.ofFlow flow).select id handle with
  | none => exact nofun
  | some edge =>
    have htarget := (declares_of_mem_edges h (Index.mem_edges_of_select hselect).1).2
    rw [← Index.contains_ofFlow] at htarget
    simp [htarget]

/-- A traversal that ended passed no node twice, and one that failed does not blame the author. -/
def Sound : Except FlowError Traversal → Prop
  | .error e => ¬ e.IsMistake
  | .ok t => t.path.Nodup

/-- The room that is left is what the steps so far have left of it. -/
theorem traverse_only_sound (h : flow.issues = []) (hlimit : flow.nodes.length ≤ settings.limit)
    (start : String) {room : Nat} {resuming : Bool} {path : List String} {context : Context}
    {id : String} (hroom : path.length + room = settings.limit)
    (hpath : OnWalk (Index.ofFlow flow) path id) :
    (traverse settings sink (Index.ofFlow flow) start room resuming path context id).Only
      (fun _ => True)
      fun r => Sound r.2 := by
  induction room generalizing resuming path context id with
  | zero =>
    cases hid : (Index.ofFlow flow).contains id with
    | false =>
      rw [traverse_of_not_contains hid]
      exact nodup_of_isChain h hpath.walk
    | true =>
      -- a walk that has used up the room is longer than the list of nodes
      have hdeclared : ∀ x ∈ path ++ [id], (Index.ofFlow flow).contains x = true := by
        simpa [or_imp, forall_and, hid] using hpath.declared
      have hlong := length_le_of_isChain h hpath.isChain hdeclared
      rw [List.length_append, List.length_singleton] at hlong
      omega
  | succ room ih =>
    cases hnode : (Index.ofFlow flow).node? id with
    | none =>
      rw [traverse_of_node?_eq_none hnode]
      exact nodup_of_isChain h hpath.walk
    | some node =>
      obtain ⟨hmem, rfl⟩ := Index.mem_nodes_of_node? hnode
      have hid := Index.contains_of_node? hnode
      rw [traverse_of_node? hnode]
      refine (Node.visit_only_blameless (issues_of_mem h hmem) settings sink resuming
        context).bind ?_
      rintro (e | ⟨handle | resumeAt, context'⟩) hresult
      · exact hresult e rfl
      · rw [goOn]
        cases hnext : next settings.policy (Index.ofFlow flow) node.id handle with
        | nowhere => exact nodup_of_isChain h hpath.isChain
        | failure e => exact absurd hnext (next_ne_failure h _ _ _ _)
        | node target =>
          obtain ⟨edge, hselect, htarget, hcontains⟩ := next_eq_node hnext
          refine ih ?_ (hpath.step hid ⟨handle, edge, hselect, htarget, hcontains⟩)
          rw [List.length_append, List.length_singleton]
          omega
      · exact nodup_of_isChain h hpath.isChain

theorem traverseFrom_only_sound (h : flow.issues = []) (hlimit : flow.nodes.length ≤ settings.limit)
    (resuming : Bool) (context : Context) (start : String) :
    (traverseFrom settings sink (Index.ofFlow flow) resuming context start).Only (fun _ => True)
      fun r => Sound r.2 :=
  traverse_only_sound h hlimit start (by simp) (.nil _ _)

def AllSound : Except FlowError (List Traversal) → Prop
  | .error e => ¬ e.IsMistake
  | .ok ts => ∀ t ∈ ts, t.path.Nodup

theorem traverseAll_only_sound (h : flow.issues = []) (hlimit : flow.nodes.length ≤ settings.limit)
    (context : Context) (starts : List Node) :
    (traverseAll settings sink (Index.ofFlow flow) context starts).Only (fun _ => True)
      fun r => AllSound r.2 := by
  induction starts generalizing context with
  | nil => exact fun t ht => absurd ht List.not_mem_nil
  | cons node rest ih =>
    refine (traverseFrom_only_sound h hlimit false context node.id).bind ?_
    rintro ⟨context', e | first⟩ hfirst
    · exact hfirst
    · refine (ih context').bind ?_
      rintro ⟨context'', e | others⟩ hothers
      · exact hothers
      · intro t ht
        rcases List.mem_cons.mp ht with rfl | ht
        · exact hfirst
        · exact hothers t ht

theorem run_only_sound (h : flow.issues = []) (hlimit : flow.nodes.length ≤ settings.limit)
    (event : Event) (context : Context) :
    (flow.run settings sink event context).Only (fun _ => True) fun r => AllSound r.2 := by
  cases event with
  | resume node =>
    refine (traverseFrom_only_sound h hlimit true context node).bind ?_
    rintro ⟨context', e | t⟩ ht
    · exact ht
    · intro t' ht'
      rw [List.mem_singleton.mp ht']
      exact ht
  | newMessage text => exact traverseAll_only_sound h hlimit context _
  | scheduled => exact traverseAll_only_sound h hlimit context _

/-- What is found without issues runs without a mistake, whatever the world answers and whatever the
event is; no walk along edges that handles take passes a node twice, and so no traversal does. -/
theorem execute_only_of_issues_eq_nil (settings : Settings) (sink : Sink) (flow : Flow)
    (event : Event) (context : Context) (hissues : flow.issues = [])
    (hsteps : flow.nodes.length ≤ settings.maxSteps) :
    ((flow.execute settings sink event context).Only (fun _ => True) fun r =>
      AllSound (r.map (·.traversals))) ∧
    ∀ path, List.IsChain (Index.ofFlow flow).Follows path → path.Nodup := by
  have hlimit : flow.nodes.length ≤ settings.limit := Nat.le_trans hsteps (Nat.le_max_left _ _)
  refine ⟨(run_only_sound hissues hlimit event context).bind ?_,
    fun path => nodup_of_isChain hissues⟩
  rintro ⟨context', e | traversals⟩ h
  · exact h
  · exact h

def ageCheck : Flow where
  nodes :=
    [⟨"start", .newMessage, []⟩, ⟨"adult", .branch, [("conditions", .text "contact.age GT 17")]⟩,
      ⟨"welcome", .sendMessage, [("text", .text "Welcome")]⟩, ⟨"agent", .humanTakeover, []⟩]
  edges :=
    [⟨none, "start", "adult", none⟩, ⟨none, "adult", "welcome", some Handle.yes⟩,
      ⟨none, "adult", "agent", some Handle.no⟩, ⟨none, "welcome", "agent", none⟩]

theorem execute_only_ageCheck :
    ageCheck.issues = [] ∧ ageCheck.nodes.length ≤ 4 ∧
    ((ageCheck.execute ⟨.strict, 4, 15000⟩ .collector (.newMessage "hi") (.ofChannel "5511")).Only
      (fun _ => True) fun r => AllSound (r.map (·.traversals))) ∧
    ∀ path, List.IsChain (Index.ofFlow ageCheck).Follows path → path.Nodup :=
  ⟨by decide +kernel, by decide,
    execute_only_of_issues_eq_nil ⟨.strict, 4, 15000⟩ .collector ageCheck (.newMessage "hi")
      (.ofChannel "5511") (by decide +kernel) (by decide)⟩

end Flow

end ChatFlow
