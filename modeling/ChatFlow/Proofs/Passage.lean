import ChatFlow.Proofs.Traversal

namespace ChatFlow

open ChatFlow.Flow (Index)

variable {σ : Type}

/-- A traversal from an id that knows of no limit, with the nodes it visits and how it ends. -/
inductive Passage (env : Environment σ) (settings : Settings) (sink : Sink) (index : Index) :
    σ → Context → (resuming : Bool) → (id : String) → (visited : List String) → Ending → Context →
      σ → Prop
  | missing {s : σ} {context : Context} {resuming : Bool} {id : String} :
    index.contains id = false →
      Passage env settings sink index s context resuming id [] .completed context s
  | suspended {s s' : σ} {context context' : Context} {resuming : Bool} {id : String} {node : Node}
      {resumeAt : Instant} :
    index.node? id = some node →
    env.Runs s (node.visit settings sink resuming context) (.ok (.suspend resumeAt, context')) s' →
    Passage env settings sink index s context resuming id [id]
      (.suspended node.id resumeAt) context' s'
  | stopped {s s' : σ} {context context' : Context} {resuming : Bool} {id : String} {node : Node}
      {handle : Handle} :
    index.node? id = some node →
    env.Runs s (node.visit settings sink resuming context) (.ok (.proceed handle, context')) s' →
    Flow.next settings.policy index node.id handle = .nowhere →
    Passage env settings sink index s context resuming id [id] .completed context' s'
  | step {s s₁ s' : σ} {context context₁ context' : Context} {resuming : Bool} {id target : String}
      {node : Node} {handle : Handle} {visited : List String} {ending : Ending} :
    index.node? id = some node →
    env.Runs s (node.visit settings sink resuming context) (.ok (.proceed handle, context₁)) s₁ →
    Flow.next settings.policy index node.id handle = .node target →
    Passage env settings sink index s₁ context₁ false target visited ending context' s' →
    Passage env settings sink index s context resuming id (id :: visited) ending context' s'

/-- A traversal from a node that fails: the nodes that it has visited without an error, each on the
context that the one before has left, and then why it goes no further. -/
inductive Halted (env : Environment σ) (settings : Settings) (sink : Sink) (index : Index)
    (start : String) :
    (room : Nat) → (resuming : Bool) → (id : String) → σ → Context → (visited : List String) →
      FlowError → σ → Context → Prop
  | limit {resuming : Bool} {id : String} {s : σ} {context : Context} :
    index.contains id = true →
    Halted env settings sink index start 0 resuming id s context []
      (.stepLimit start settings.limit) s context
  | node {room : Nat} {resuming : Bool} {id : String} {node : Node} {s s' : σ} {context : Context}
    {e : FlowError} :
    index.node? id = some node →
    env.Runs s (node.visit settings sink resuming context) (.error e) s' →
    Halted env settings sink index start (room + 1) resuming id s context [] e s' context
  | edge {room : Nat} {resuming : Bool} {id : String} {node : Node} {s s' : σ}
    {context context' : Context} {handle : Handle} {e : FlowError} :
    index.node? id = some node →
    env.Runs s (node.visit settings sink resuming context) (.ok (.proceed handle, context')) s' →
    Flow.next settings.policy index node.id handle = .failure e →
    Halted env settings sink index start (room + 1) resuming id s context [id] e s' context'
  | step {room : Nat} {resuming : Bool} {id target : String} {node : Node} {s s₁ s' : σ}
    {context context₁ context' : Context} {handle : Handle} {visited : List String}
    {e : FlowError} :
    index.node? id = some node →
    env.Runs s (node.visit settings sink resuming context) (.ok (.proceed handle, context₁)) s₁ →
    Flow.next settings.policy index node.id handle = .node target →
    Halted env settings sink index start room false target s₁ context₁ visited e s' context' →
    Halted env settings sink index start (room + 1) resuming id s context (id :: visited) e s'
      context'

namespace Flow

variable {env : Environment σ} {settings : Settings} {sink : Sink} {index : Index} {s s' : σ}
  {context context' : Context} {resuming : Bool} {start id : String} {path : List String}
    {room : Nat}

/-- A traversal has come to its end or has failed, and its visits led there. -/
theorem passage_or_halted {r : Context × Except FlowError Traversal}
    (h : env.Runs s (traverse settings sink index start room resuming path context id) r s') :
    (∃ t visited, r.2 = .ok t ∧ t.start = start ∧ t.path = path ++ visited ∧
      visited.length ≤ room ∧
      Passage env settings sink index s context resuming id visited t.ending r.1 s') ∨
    ∃ e visited, r.2 = .error e ∧
      Halted env settings sink index start room resuming id s context visited e s' r.1 := by
  induction room generalizing s resuming path context id with
  | zero =>
    cases hid : index.contains id with
    | true =>
      rw [traverse_zero_of_contains hid] at h
      obtain ⟨rfl, rfl⟩ := h.of_done
      exact .inr ⟨_, [], rfl, .limit hid⟩
    | false =>
      rw [traverse_of_not_contains hid] at h
      obtain ⟨rfl, rfl⟩ := h.of_done
      exact .inl ⟨_, [], rfl, rfl, (List.append_nil _).symm, Nat.le_refl _, .missing hid⟩
  | succ room ih =>
    cases hnode : index.node? id with
    | none =>
      have hid := Index.contains_of_node?_eq_none hnode
      rw [traverse_of_node?_eq_none hnode] at h
      obtain ⟨rfl, rfl⟩ := h.of_done
      exact .inl ⟨_, [], rfl, rfl, (List.append_nil _).symm, Nat.zero_le _, .missing hid⟩
    | some node =>
      rw [traverse_of_node? hnode] at h
      obtain ⟨result, s₁, hvisit, h⟩ := h.of_bind
      rcases result with e | ⟨handle | resumeAt, context₁⟩
      · obtain ⟨rfl, rfl⟩ := h.of_done
        exact .inr ⟨e, [], rfl, .node hnode hvisit⟩
      · rw [goOn] at h
        cases hnext : next settings.policy index node.id handle with
        | failure e =>
          rw [hnext] at h
          obtain ⟨rfl, rfl⟩ := h.of_done
          exact .inr ⟨e, [id], rfl, .edge hnode hvisit hnext⟩
        | nowhere =>
          rw [hnext] at h
          obtain ⟨rfl, rfl⟩ := h.of_done
          exact .inl ⟨_, [id], rfl, rfl, rfl, Nat.le_add_left _ _, .stopped hnode hvisit hnext⟩
        | node target =>
          rw [hnext] at h
          rcases ih h with ⟨t, visited, ht, hstart, hpath, hlength, hpassage⟩ | ⟨e, visited, he,
            hhalted⟩
          · exact .inl ⟨t, id :: visited, ht, hstart, hpath.trans (List.append_assoc _ _ _),
              Nat.succ_le_succ hlength, .step hnode hvisit hnext hpassage⟩
          · exact .inr ⟨e, id :: visited, he, .step hnode hvisit hnext hhalted⟩
      · obtain ⟨rfl, rfl⟩ := h.of_done
        exact .inl ⟨_, [id], rfl, rfl, rfl, Nat.le_add_left _ _, .suspended hnode hvisit⟩

theorem exists_passage {t : Traversal}
    (h : env.Runs s (traverse settings sink index start room resuming path context id)
      (context', .ok t) s') :
    ∃ visited, t.start = start ∧ t.path = path ++ visited ∧ visited.length ≤ room ∧
      Passage env settings sink index s context resuming id visited t.ending context' s' := by
  rcases passage_or_halted h with ⟨_, visited, ⟨⟩, hpassage⟩ | ⟨_, _, ⟨⟩, _⟩
  exact ⟨visited, hpassage⟩

theorem exists_halted {e : FlowError}
    (h : env.Runs s (traverse settings sink index start room resuming path context id)
      (context', .error e) s') :
    ∃ visited,
      Halted env settings sink index start room resuming id s context visited e s' context' := by
  rcases passage_or_halted h with ⟨_, _, ⟨⟩, _⟩ | ⟨_, visited, ⟨⟩, hhalted⟩
  exact ⟨visited, hhalted⟩

end Flow

end ChatFlow
