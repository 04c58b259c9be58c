import ChatFlow.Proofs.Traversal

namespace ChatFlow

def NodeResult.Within (I : Context → Prop) (E : FlowError → Prop) : NodeResult → Prop
  | .ok (_, context) => I context
  | .error e => E e

namespace Flow

/-- A run or a part of it leaves a context in `I`, and if it fails then with an error in `E`. -/
def Within {α : Type} (I : Context → Prop) (E : FlowError → Prop)
    (r : Context × Except FlowError α) :
    Prop := I r.1 ∧ ∀ e, r.2 = .error e → E e

variable {settings : Settings} {sink : Sink} {flow : Flow} {P : Call → Prop} {I : Context → Prop}
  {E : FlowError → Prop}

theorem within_ok {α : Type} {context : Context} (h : I context) (a : α) :
    Within I E (context, .ok a) :=
  ⟨h, nofun⟩

theorem within_error {α : Type} {context : Context} (h : I context) {e : FlowError} (he : E e) :
    Within (α := α) I E (context, .error e) := by
  refine ⟨h, ?_⟩
  rintro _ ⟨⟩
  exact he

structure Upholds (settings : Settings) (sink : Sink) (flow : Flow) (P : Call → Prop)
    (I : Context → Prop) (E : FlowError → Prop) : Prop where
  visit : ∀ node ∈ flow.nodes, ∀ (resuming : Bool) (context : Context), I context →
    (node.visit settings sink resuming context).Only P (NodeResult.Within I E)
  next : ∀ (id : String) (handle : Handle) (e : FlowError),
    next settings.policy (Index.ofFlow flow) id handle = .failure e → E e
  limit : ∀ start : String, E (.stepLimit start settings.limit)

theorem Upholds.traverse (h : Upholds settings sink flow P I E) (start : String) {room : Nat}
    {resuming : Bool} {path : List String} {context : Context} {id : String}
    (hcontext : I context) :
    (traverse settings sink (Index.ofFlow flow) start room resuming path context id).Only P
      (Within I E) := by
  induction room generalizing resuming path context id with
  | zero =>
    cases hid : (Index.ofFlow flow).contains id with
    | false =>
      rw [traverse_of_not_contains hid]
      exact within_ok hcontext _
    | true =>
      rw [traverse_zero_of_contains hid]
      exact within_error hcontext (h.limit start)
  | succ room ih =>
    cases hnode : (Index.ofFlow flow).node? id with
    | none =>
      rw [traverse_of_node?_eq_none hnode]
      exact within_ok hcontext _
    | some node =>
      have hmem := (Index.mem_nodes_of_node? hnode).1
      rw [traverse_of_node? hnode]
      refine (h.visit node hmem resuming context hcontext).bind fun result hresult => ?_
      rcases result with e | ⟨handle | resumeAt, context'⟩
      · exact within_error hcontext hresult
      · rw [goOn]
        cases hnext : Flow.next settings.policy (Index.ofFlow flow) node.id handle with
        | nowhere => exact within_ok hresult _
        | failure e => exact within_error hresult (h.next node.id handle e hnext)
        | node target => exact ih hresult
      · exact within_ok hresult _

theorem Upholds.traverseAll (h : Upholds settings sink flow P I E) (nodes : List Node)
    {context : Context} (hcontext : I context) :
    (traverseAll settings sink (Index.ofFlow flow) context nodes).Only P (Within I E) := by
  induction nodes generalizing context with
  | nil => exact within_ok hcontext _
  | cons node rest ih =>
    refine (h.traverse node.id hcontext).bind fun first hfirst => ?_
    rcases first with ⟨context₁, e | t⟩
    · exact within_error hfirst.1 (hfirst.2 e rfl)
    · refine (ih hfirst.1).bind fun others hothers => ?_
      rcases others with ⟨context₂, e | ts⟩
      · exact within_error hothers.1 (hothers.2 e rfl)
      · exact within_ok hothers.1 _

theorem Upholds.run (h : Upholds settings sink flow P I E) (event : Event) {context : Context}
    (hcontext : I context) : (flow.run settings sink event context).Only P (Within I E) := by
  cases event with
  | newMessage text => exact h.traverseAll _ hcontext
  | scheduled => exact h.traverseAll _ hcontext
  | resume node =>
    refine (h.traverse node hcontext).bind fun first hfirst => ?_
    rcases first with ⟨context₁, e | t⟩
    · exact within_error hfirst.1 (hfirst.2 e rfl)
    · exact within_ok hfirst.1 _

theorem Upholds.execute (h : Upholds settings sink flow P I E) (event : Event) {context : Context}
    (hcontext : I context) :
    (flow.execute settings sink event context).Only P fun r => ∀ e, r = .error e → E e := by
  refine (h.run event hcontext).bind fun r hr => ?_
  rcases r with ⟨context', e | traversals⟩
  · rintro _ ⟨⟩
    exact hr.2 e rfl
  · exact nofun

section Writer

variable (hnode : ∀ (channel : Option String) (c : Call), c.Addresses channel → P c)
  (hid : P .freshId) (hsave : ∀ record, P (.save record))

include hnode hid hsave

/-- A run whose sink saves makes the calls of its nodes on their channels, and those of the sink. -/
theorem upholds_writer (settings : Settings) (flow : Flow)
    (botId conversationId version : String) :
    Upholds settings (.writer botId conversationId version) flow P (fun _ => True)
      fun _ => True where
  visit node _ resuming context _ := by
    have hany : ∀ r : NodeResult, r.Within (fun _ => True) fun _ => True := fun r => by
      rcases r with e | _ <;> trivial
    have hnow : P .now := hnode none .now trivial
    unfold Node.visit
    split
    · exact hany _
    · by_cases hs : node.Suspends
      · rw [Node.run_of_suspends hs]
        refine ⟨hnow, fun now => ⟨hnow, fun _ => ⟨hid, fun id => ⟨hsave _, fun saved => ?_⟩⟩⟩⟩
        cases saved <;> exact hany _
      · exact (Node.run_only hs settings _ context).mono (hnode context.channel?) fun r _ => hany r
  next _ _ _ _ := trivial
  limit _ := trivial

theorem execute_only (settings : Settings) (flow : Flow) (botId conversationId version : String)
    (event : Event) (context : Context) :
    (flow.execute settings (.writer botId conversationId version) event context).Only P
      fun _ => True := by
  have hcontext : (fun _ : Context => True) context := trivial
  exact ((upholds_writer hnode hid hsave settings flow botId conversationId version).execute event
    hcontext).mono (fun _ h => h) fun _ _ => trivial

end Writer

end Flow

end ChatFlow
