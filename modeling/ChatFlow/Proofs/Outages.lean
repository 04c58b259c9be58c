import ChatFlow.Proofs.Frame
import ChatFlow.Proofs.Invariant

namespace ChatFlow

/-- The operations that are out of service for one call only, call by call. -/
abbrev Outages := Nat → List Operation

namespace Outages

def never : Outages := fun _ => []

def later (outages : Outages) : Outages := fun n => outages (n + 1)

end Outages

namespace World

variable {α : Type}

def thin (s : Outages × World) : World := { s.2 with failing := s.2.failing ++ s.1 0 }

/-- What was answered while more was out of service, and the world in which that is over. -/
def lapse (s : Outages × World) (r : α × World) : α × Outages × World :=
  (r.1, s.1.later, { r.2 with failing := s.2.failing })

/-- The world as an environment in which every call may fail on its own. -/
def amid : Environment (Outages × World) := fun s c => lapse s ((thin s).answer c)

variable {s : Outages × World}

theorem lapse_serve_of_mem {op : Operation} (h : op ∈ s.2.failing ++ s.1 0)
    (act : Except Failure α × World) :
    lapse s ((thin s).serve op act) = (some (.error (.unavailable op.name)), s.1.later, s.2) := by
  rw [serve_of_mem (thin s) h]
  rfl

theorem lapse_serve_of_not_mem {op : Operation} (h : op ∉ s.2.failing ++ s.1 0)
    (act : Except Failure α × World) :
    lapse s ((thin s).serve op act) =
      (some act.1, s.1.later, { act.2 with failing := s.2.failing }) := by
  rw [serve_of_not_mem (thin s) h]
  rfl

theorem lapse_serve_snd (s : Outages × World) (op : Operation)
    {act act' : Except Failure α × World} (h : { act'.2 with failing := s.2.failing } = act.2) :
    (lapse s ((thin s).serve op act')).2.2 = (s.2.serve op act).2 ∨
      (lapse s ((thin s).serve op act')).2.2 = s.2 := by
  by_cases hop : op ∈ s.2.failing ++ s.1 0
  · rw [lapse_serve_of_mem hop]
    exact .inr rfl
  · rw [lapse_serve_of_not_mem hop,
      serve_of_not_mem s.2 fun hmem => hop (List.mem_append_left _ hmem)]
    exact .inl h

/-- A call that fails on its own changes nothing, and the others do what they always do. -/
theorem amid_snd (s : Outages × World) (c : Call) :
    (amid s c).2.2 = (s.2.answer c).2 ∨ (amid s c).2.2 = s.2 := by
  cases c with
  | getConversation id => exact lapse_serve_snd s .get rfl
  | append id m => exact lapse_serve_snd s .append rfl
  | touch id at_ => exact lapse_serve_snd s .touch rfl
  | setStatus id status at_ => exact lapse_serve_snd s .setStatus rfl
  | save record => exact lapse_serve_snd s .save rfl
  | loadDue now limit => exact lapse_serve_snd s .loadDue rfl
  | delete id => exact lapse_serve_snd s .delete rfl
  | cancel botId conversationId => exact lapse_serve_snd s .cancel rfl
  | pending botId conversationId => exact lapse_serve_snd s .pending rfl
  | collect request => exact lapse_serve_snd s .collect rfl
  | send request =>
    left
    rcases s with ⟨_, _, _, _, _, _, _, _ | _, _, _, _, _⟩ <;> rfl
  | _ => exact .inl rfl

/-- Every call is answered at once, but for the wait for a lock. -/
theorem amid_isSome (s : Outages × World) {c : Call} (h : ∀ ticket, c ≠ .await ticket) :
    (amid s c).1.isSome := by
  show ((thin s).answer c).1.isSome
  cases c with
  | await ticket => exact absurd rfl (h ticket)
  | _ => simp [answer]

theorem amid_now (s : Outages × World) : amid s .now = (some s.2.clock, s.1.later, s.2) := rfl

theorem amid_freshId (s : Outages × World) :
    amid s .freshId =
      (some s.2.nextId, s.1.later, { s.2 with nextId := ⟨s.2.nextId.value + 1⟩ }) :=
  rfl

theorem amid_never (w : World) (c : Call) :
    amid (.never, w) c = ((w.answer c).1, .never, (w.answer c).2) := by
  have hthin : thin (.never, w) = w :=
    congrArg (fun failing => { w with failing }) (List.append_nil w.failing)
  rw [amid, hthin]
  exact congrArg (fun failing => ((w.answer c).1, Outages.never, { (w.answer c).2 with failing }))
    (failing_answer w c).symm

/-- Where no call fails on its own, everything goes as it does in the world. -/
theorem perform_amid_never (x : Activity α) (w : World) :
    amid.perform x (.never, w) = ((perform x w).1, .never, (perform x w).2) := by
  induction x generalizing w with
  | done a => rfl
  | call c next ih =>
    rw [Environment.perform, perform, amid_never]
    rcases w.answer c with ⟨_ | a, w₁⟩
    · rfl
    · exact ih a w₁

theorem runs_of_amid_never {w : World} {x : Activity α} {a : α} {s : Outages × World}
    (h : amid.Runs (.never, w) x a s) : w.Runs x a s.2 := by
  rw [Environment.runs_iff_perform, perform_amid_never] at h
  have hprogress := congrArg Prod.fst h
  have hworld := congrArg (·.2.2) h
  exact Prod.ext hprogress hworld

theorem Runs.amid_never {w w' : World} {x : Activity α} {a : α} (h : w.Runs x a w') :
    amid.Runs (.never, w) x a (.never, w') := by
  rw [Environment.runs_iff_perform, perform_amid_never, show perform x w = _ from h]

theorem talked_amid {c : Call} (s : Outages × World) (hc : c.IsTalk) :
    s.2.Talked (amid s c).2.2 := by
  rcases amid_snd s c with hanswer | hnothing
  · rw [hanswer]
    exact talked_answer s.2 hc
  · rw [hnothing]
    exact Talked.refl _

end World

open World

/-- What a sink was asked for behind some talk: nothing, or one thing at last. -/
inductive Asked (sink : Sink) (s s' : Outages × World) :
    Except FlowError (Option SuspendRequest) → Prop
  | nothing : s.2.Talked s'.2 → Asked sink s s' (.ok none)
  | kept {s₁ : Outages × World} {request : SuspendRequest} :
    s.2.Talked s₁.2 → amid.Runs s₁ (sink request) (.ok ()) s' → Asked sink s s' (.ok (some request))
  | failed {e : FlowError} : s.2.Talked s'.2 → Asked sink s s' (.error e)
  | refused {s₁ : Outages × World} {request : SuspendRequest} {failure : Failure} :
    s.2.Talked s₁.2 → amid.Runs s₁ (sink request) (.error failure) s' →
      Asked sink s s' (.error (.suspend request.nodeId failure))

def NodeResult.asks (node : Node) : NodeResult → Except FlowError (Option SuspendRequest)
  | .ok (.proceed _, _) => .ok none
  | .ok (.suspend resumeAt, context) => .ok (some ⟨node.id, resumeAt, context⟩)
  | .error e => .error e

def SuspendRequest.ofEnding (context : Context) : Ending → Option SuspendRequest
  | .completed => none
  | .suspended nodeId resumeAt => some ⟨nodeId, resumeAt, context⟩

def Flow.asks (r : Context × Except FlowError Traversal) :
    Except FlowError (Option SuspendRequest) :=
  r.2.map fun t => SuspendRequest.ofEnding r.1 t.ending

section Asked

variable {settings : Settings} {sink : Sink} {s s₁ s' : Outages × World}

theorem Asked.after {asked : Except FlowError (Option SuspendRequest)} (h : s.2.Talked s₁.2)
    (h' : Asked sink s₁ s' asked) : Asked sink s s' asked := by
  cases h' with
  | nothing htalked => exact .nothing (h.trans htalked)
  | kept htalked hruns => exact .kept (h.trans htalked) hruns
  | failed htalked => exact .failed (h.trans htalked)
  | refused htalked hruns => exact .refused (h.trans htalked) hruns

theorem asked_visit {node : Node} {resuming : Bool} {context : Context} {r : NodeResult}
    (h : amid.Runs s (node.visit settings sink resuming context) r s') :
    Asked sink s s' (r.asks node) := by
  unfold Node.visit at h
  split at h
  · obtain ⟨rfl, rfl⟩ := h.of_done
    exact .nothing (Talked.refl _)
  · by_cases hs : node.Suspends
    · rw [Node.run_of_suspends hs] at h
      obtain ⟨now, s₁, hnow, h⟩ := h.of_call
      cases (amid_now s).symm.trans hnow
      rw [Activity.done_bind] at h
      obtain ⟨kept, s₁, hkept, h⟩ := h.of_bind
      have htalked : s.2.Talked (s.1.later, s.2).2 := Talked.refl s.2
      cases kept with
      | error failure =>
        obtain ⟨rfl, rfl⟩ := h.of_done
        exact .refused htalked hkept
      | ok _ =>
        obtain ⟨rfl, rfl⟩ := h.of_done
        exact .kept htalked hkept
    · have honly := Node.run_only hs settings sink context
      have hyields := h.result honly
      have htalked := h.rel (R := fun s s' => s.2.Talked s'.2) (fun _ => Talked.refl _)
        (fun h h' => h.trans h') (fun c s hc => talked_amid s hc.isTalk) honly
      rcases r with e | ⟨handle | resumeAt, context'⟩
      · exact .failed htalked
      · exact .nothing htalked
      · exact hyields.elim

/-- A traversal asks its sink for nothing before it ends, and then for what it is suspended with. -/
theorem asked_traverse {index : Flow.Index} {start id : String} {room : Nat} {resuming : Bool}
    {path : List String} {context : Context} {r : Context × Except FlowError Traversal}
    (h : amid.Runs s (Flow.traverse settings sink index start room resuming path context id) r s') :
    Asked sink s s' (Flow.asks r) := by
  induction room generalizing resuming path context id s with
  | zero =>
    cases hid : index.contains id with
    | false =>
      rw [Flow.traverse_of_not_contains hid] at h
      obtain ⟨rfl, rfl⟩ := h.of_done
      exact .nothing (Talked.refl _)
    | true =>
      rw [Flow.traverse_zero_of_contains hid] at h
      obtain ⟨rfl, rfl⟩ := h.of_done
      exact .failed (Talked.refl _)
  | succ room ih =>
    cases hnode : index.node? id with
    | none =>
      rw [Flow.traverse_of_node?_eq_none hnode] at h
      obtain ⟨rfl, rfl⟩ := h.of_done
      exact .nothing (Talked.refl _)
    | some node =>
      rw [Flow.traverse_of_node? hnode] at h
      obtain ⟨result, s₁, hvisit, h⟩ := h.of_bind
      have hasked := asked_visit hvisit
      rcases result with e | ⟨handle | resumeAt, context'⟩
      · obtain ⟨rfl, rfl⟩ := h.of_done
        exact hasked
      · obtain ⟨htalked⟩ : Asked sink s s₁ (.ok none) := hasked
        refine .after htalked ?_
        rw [Flow.goOn] at h
        cases hnext : Flow.next settings.policy index node.id handle with
        | nowhere =>
          rw [hnext] at h
          obtain ⟨rfl, rfl⟩ := h.of_done
          exact .nothing (Talked.refl _)
        | failure e =>
          rw [hnext] at h
          obtain ⟨rfl, rfl⟩ := h.of_done
          exact .failed (Talked.refl _)
        | node target =>
          rw [hnext] at h
          exact ih h
      · obtain ⟨rfl, rfl⟩ := h.of_done
        exact hasked

end Asked

end ChatFlow
