import ChatFlow.Proofs.Channel
import ChatFlow.Proofs.Conversations
import ChatFlow.Proofs.Traversal

namespace ChatFlow

/-- No node writes to the channel by its path or to the namespace around it. -/
def Flow.LeavesContact (flow : Flow) : Prop :=
  ∀ node ∈ flow.nodes, ∀ path ∈ node.writes,
    path ≠ Context.contact ∧ path ≠ Context.contact ++ "." ++ Context.channelField

instance (flow : Flow) : Decidable flow.LeavesContact :=
  inferInstanceAs (Decidable (∀ node ∈ flow.nodes, ∀ path ∈ node.writes, _))

/-- A call of a run on a channel: it does not hand the conversation `c` back to the bot, and it says
something there only if that is the channel. -/
def Call.Discreet (c : String) (channel : Option String) (call : Call) : Prop :=
  call.Retains c ∧ (channel ≠ some c → call.Spares c)

def Context.Stays (channel : Option String) (context : Context) : Prop :=
  context.channel? = channel ∨ context.channel? = none

variable {c : String} {channel : Option String}

theorem Call.Addresses.discreet {context : Context} (hcontext : context.Stays channel) {call : Call}
    (h : call.Addresses context.channel?) : call.Discreet c channel := by
  cases call with
  | append id m =>
    obtain ⟨hid, -⟩ := h
    refine ⟨trivial, fun hne heq => ?_⟩
    -- a run whose channel was lost has nobody to speak to
    rcases hcontext with hcontext | hcontext
    · exact absurd (hcontext.symm.trans (heq ▸ hid)) hne
    · rw [hcontext] at hid
      cases hid
  | setStatus id status at_ => exact ⟨fun _ => h.2, fun _ => trivial⟩
  | _ => exact ⟨trivial, fun _ => trivial⟩

namespace Node

variable {node : Node} {settings : Settings} {botId conversationId version : String}

def Keeps (channel : Option String) : NodeResult → Prop
  | .ok (_, context) => context.Stays channel
  | .error _ => True

theorem delay_only_discreet {context : Context} (hcontext : context.Stays channel) :
    (node.delay (.writer botId conversationId version) context).Only (Call.Discreet c channel)
      (Keeps channel) := by
  refine ⟨⟨trivial, fun _ => trivial⟩, fun now => ⟨⟨trivial, fun _ => trivial⟩, fun _ =>
    ⟨⟨trivial, fun _ => trivial⟩, fun id => ⟨⟨trivial, fun _ => trivial⟩, fun saved => ?_⟩⟩⟩⟩
  cases saved with
  | error failure => trivial
  | ok _ => exact hcontext

theorem visit_only_discreet (hwrites : ∀ path ∈ node.writes,
      path ≠ Context.contact ∧ path ≠ Context.contact ++ "." ++ Context.channelField)
    {context : Context} (hcontext : context.Stays channel) (resuming : Bool) :
    (node.visit settings (.writer botId conversationId version) resuming context).Only
      (Call.Discreet c channel) (Keeps channel) := by
  unfold visit
  split
  · exact hcontext
  · by_cases hs : node.Suspends
    · rw [run_of_suspends hs]
      exact delay_only_discreet hcontext
    · refine (run_only hs settings _ context).mono (fun _ h => h.discreet hcontext) fun r hr => ?_
      rcases r with e | ⟨handle | resumeAt, context'⟩
      · trivial
      · rcases Context.Written.channel? hr hwrites with hchannel | hchannel
        · exact hcontext.imp (hchannel.trans ·) (hchannel.trans ·)
        · exact .inr hchannel
      · exact hr.elim

end Node

namespace Flow

variable {flow : Flow} {settings : Settings} {botId conversationId version : String}

theorem traverse_only_discreet (hflow : flow.LeavesContact) (start : String) {room : Nat}
    {resuming : Bool} {path : List String} {context : Context} {id : String}
    (hcontext : context.Stays channel) :
    (traverse settings (.writer botId conversationId version)
      (Index.ofFlow flow) start room resuming path
      context id).Only (Call.Discreet c channel) fun r => r.1.Stays channel := by
  induction room generalizing resuming path context id with
  | zero =>
    cases hid : (Index.ofFlow flow).contains id with
    | false =>
      rw [traverse_of_not_contains hid]
      exact hcontext
    | true =>
      rw [traverse_zero_of_contains hid]
      exact hcontext
  | succ room ih =>
    cases hnode : (Index.ofFlow flow).node? id with
    | none =>
      rw [traverse_of_node?_eq_none hnode]
      exact hcontext
    | some node =>
      have hmem := (Index.mem_nodes_of_node? hnode).1
      rw [traverse_of_node? hnode]
      refine (Node.visit_only_discreet (hflow node hmem) hcontext resuming).bind ?_
      rintro (e | ⟨handle | resumeAt, context'⟩) hresult
      · exact hcontext
      · rw [goOn]
        cases next settings.policy (Index.ofFlow flow) node.id handle with
        | nowhere => exact hresult
        | failure e => exact hresult
        | node target => exact ih hresult
      · exact hresult

theorem traverseAll_only_discreet (hflow : flow.LeavesContact) (nodes : List Node)
    {context : Context} (hcontext : context.Stays channel) :
    (traverseAll settings (.writer botId conversationId version)
      (Index.ofFlow flow) context nodes).Only
      (Call.Discreet c channel) fun r => r.1.Stays channel := by
  induction nodes generalizing context with
  | nil => exact hcontext
  | cons node rest ih =>
    refine (traverse_only_discreet hflow node.id hcontext).bind ?_
    rintro ⟨context', e | t⟩ hcontext'
    · exact hcontext'
    · refine (ih hcontext').bind fun r hr => ?_
      exact hr

/-- A run says nothing outside of the conversation of its context. -/
theorem execute_only_discreet (hflow : flow.LeavesContact) (event : Event) (context : Context) :
    (flow.execute settings (.writer botId conversationId version) event context).Only
      (Call.Discreet c context.channel?) fun _ => True := by
  have hcontext : context.Stays context.channel? := .inl rfl
  have hrun : (flow.run settings (.writer botId conversationId version) event context).Only
      (Call.Discreet c context.channel?) fun r => r.1.Stays context.channel? := by
    cases event with
    | resume node => exact (traverse_only_discreet hflow node hcontext).bind fun r hr => hr
    | newMessage text => exact traverseAll_only_discreet hflow _ hcontext
    | scheduled => exact traverseAll_only_discreet hflow _ hcontext
  exact hrun.bind fun _ _ => trivial

end Flow

end ChatFlow
