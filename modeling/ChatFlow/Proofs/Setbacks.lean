import ChatFlow.Proofs.Breakdown
import ChatFlow.Proofs.Pausing

namespace ChatFlow

open World
open ChatFlow.Flow (Index)

variable {σ : Type} {settings : Settings} {sink : Sink} {index : Index}

/-- Traversals from several nodes, each on what the one before has left, up to one that fails; with
what those before were suspended with. -/
inductive Broken (env : Environment σ) (settings : Settings) (sink : Sink) (index : Index)
    (resuming : Bool) :
    (starts : List String) → σ → Context → List Traversal → List SuspendRequest →
      (visited : List String) → FlowError → σ → Context → Prop
  | here {start : String} {rest : List String} {s s' : σ} {context context' : Context}
    {visited : List String} {e : FlowError} :
    Halted env settings sink index start settings.limit resuming start s context visited e s'
      context' →
    Broken env settings sink index resuming (start :: rest) s context [] [] visited e s' context'
  | later {start : String} {rest : List String} {s s₁ s' : σ} {context context₁ context' : Context}
    {t : Traversal} {ts : List Traversal} {requests : List SuspendRequest}
    {visited : List String} {e : FlowError} :
    env.Runs s (Flow.traverseFrom settings sink index resuming context start) (context₁, .ok t)
      s₁ →
    Broken env settings sink index resuming rest s₁ context₁ ts requests visited e s' context' →
    Broken env settings sink index resuming (start :: rest) s context (t :: ts)
      ((SuspendRequest.ofEnding context₁ t.ending).toList ++ requests) visited e s' context'

namespace Flow

theorem exists_broken_of_traverseAll {env : Environment σ} {nodes : List Node}
    {context context' : Context} {e : FlowError} {s s' : σ}
    (h : env.Runs s (traverseAll settings sink index context nodes) (context', .error e) s') :
    ∃ ts requests visited, Broken env settings sink index false (nodes.map (·.id)) s context ts
      requests visited e s' context' := by
  induction nodes generalizing context s with
  | nil => cases h.of_done.1
  | cons node rest ih =>
    obtain ⟨⟨context₁, first⟩, s₁, hfirst, h⟩ := h.of_bind
    cases first with
    | error e' =>
      obtain ⟨hresult, rfl⟩ := h.of_done
      cases hresult
      obtain ⟨visited, hhalted⟩ := Flow.exists_halted hfirst
      exact ⟨[], [], visited, .here hhalted⟩
    | ok t =>
      obtain ⟨⟨context₂, others⟩, s₂, hothers, h⟩ := h.of_bind
      obtain ⟨hresult, rfl⟩ := h.of_done
      cases others with
      | ok others => cases hresult
      | error e' =>
        cases hresult
        obtain ⟨ts, requests, visited, hbroken⟩ := ih hothers
        exact ⟨_, _, visited, .later hfirst hbroken⟩

theorem exists_broken {env : Environment σ} {flow : Flow} {event : Event}
    {context context' : Context} {e : FlowError} {s s' : σ}
    (h : env.Runs s (flow.run settings sink event context) (context', .error e) s') :
    ∃ ts requests visited, Broken env settings sink (Index.ofFlow flow) event.isResume
      (event.starts flow) s context ts requests visited e s' context' := by
  cases event with
  | newMessage text => exact exists_broken_of_traverseAll h
  | scheduled => exact exists_broken_of_traverseAll h
  | resume node =>
    obtain ⟨⟨context₁, result⟩, s₁, hfirst, h⟩ := h.of_bind
    obtain ⟨hresult, rfl⟩ := h.of_done
    cases result with
    | ok t => cases hresult
    | error e' =>
      cases hresult
      obtain ⟨visited, hhalted⟩ := Flow.exists_halted hfirst
      exact ⟨[], [], visited, .here hhalted⟩

end Flow

/-- What a sink refuses it does not keep, whichever calls fail. -/
def Sink.Cautious (sink : Sink) : Prop :=
  ∀ {s s' : Outages × World} {r : SuspendRequest} {failure : Failure},
    amid.Runs s (sink r) (.error failure) s' → s'.2.kept = s.2.kept

namespace Sink

variable {s s' : Outages × World} {r : SuspendRequest} {reply : Except Failure Unit}

theorem kept_of_runs_collector_amid (h : amid.Runs s (collector r) reply s') :
    s'.2.kept = match reply with
      | .ok _ => (s.2.collected ++ [r], s.2.suspensions)
      | .error _ => s.2.kept := by
  obtain ⟨answer, s₁, hanswer, h⟩ := h.of_call
  obtain ⟨rfl, rfl⟩ := h.of_done
  by_cases hout : .collect ∈ s.2.failing ++ s.1 0
  · cases (lapse_serve_of_mem hout _).symm.trans hanswer
    rfl
  · cases (lapse_serve_of_not_mem hout _).symm.trans hanswer
    rfl

theorem cautious_collector : Cautious collector := kept_of_runs_collector_amid

theorem cautious_writer (botId conversationId version : String) :
    Cautious (writer botId conversationId version) := by
  intro s s' r failure h
  rw [world_of_runs_writer h]
  rfl

end Sink

section Sink

variable {s s' : Outages × World} {start : String} {room : Nat} {resuming : Bool} {id : String}
  {visited starts : List String} {context context' : Context} {e : FlowError}
  {ts : List Traversal} {requests : List SuspendRequest}

theorem Asked.kept_of_error (hsink : sink.Cautious) (h : Asked sink s s' (.error e)) :
    s'.2.kept = s.2.kept := by
  cases h with
  | failed htalked => exact htalked.kept
  | refused htalked hruns => exact (hsink hruns).trans htalked.kept

theorem Asked.kept_of_none (h : Asked sink s s' (.ok none)) : s'.2.kept = s.2.kept := by
  cases h with
  | nothing htalked => exact htalked.kept

theorem Asked.kept_collector {request? : Option SuspendRequest}
    (h : Asked .collector s s' (.ok request?)) :
    s'.2.kept = (s.2.collected ++ request?.toList, s.2.suspensions) := by
  cases h with
  | nothing htalked =>
    rw [htalked.kept, Option.toList_none, List.append_nil]
    rfl
  | kept htalked hruns =>
    rw [Sink.kept_of_runs_collector_amid hruns, htalked.collected, htalked.suspensions]
    rfl

theorem Asked.kept_writer {botId conversationId version : String}
    {request? : Option SuspendRequest}
    (h : Asked (.writer botId conversationId version) s s' (.ok request?)) :
    s'.2.clock = s.2.clock ∧ ∃ records,
      s'.2.kept = (s.2.collected, s.2.suspensions.saveAll records) ∧
      List.Forall₂ (fun r record =>
        ∃ id, record = .ofRequest id botId conversationId version s.2.clock r) request?.toList
        records := by
  refine ⟨(parked_of_asked h).clock, ?_⟩
  cases h with
  | nothing htalked => exact ⟨[], htalked.kept, .nil⟩
  | @kept s₁ request htalked hruns =>
    refine ⟨[.ofRequest s₁.2.nextId botId conversationId version s₁.2.clock request], ?_,
      .cons ⟨_, by rw [htalked.clock]⟩ .nil⟩
    rw [world_of_runs_writer hruns, World.kept, ← htalked.collected, ← htalked.suspensions]
    rfl

theorem Node.unchanged_amid (hsink : sink.Cautious) {node : Node}
    (h : amid.Runs s ((node.runInPlace settings sink).on context) (.error e, context') s') :
    context' = context ∧ s'.2.kept = s.2.kept := by
  rw [on_runInPlace] at h
  obtain ⟨r, s₁, hruns, h⟩ := h.of_bind
  obtain ⟨hresult, rfl⟩ := h.of_done
  rcases r with e' | ⟨outcome, context₁⟩
  · cases hresult
    have hvisit : amid.Runs s (node.visit settings sink false context) (.error e) s' := hruns
    exact ⟨rfl, (asked_visit hvisit).kept_of_error hsink⟩
  · cases hresult

theorem Halted.kept (hsink : sink.Cautious)
    (h : Halted amid settings sink index start room resuming id s context visited e s' context') :
    s'.2.kept = s.2.kept := by
  induction h with
  | limit => rfl
  | node _ hvisit => exact (asked_visit hvisit).kept_of_error hsink
  | edge _ hvisit => exact (asked_visit hvisit).kept_of_none
  | step _ hvisit _ _ ih => exact ih.trans (asked_visit hvisit).kept_of_none

namespace Broken

/-- The requests are what the traversals before the failure were suspended with. -/
theorem requests_eq {env : Environment σ} {s s' : σ}
    (h : Broken env settings sink index resuming starts s context ts requests visited e s'
      context') :
    requests.map SuspendRequest.ending = (ts.filter (·.isSuspended)).map (·.ending) := by
  induction h with
  | here => rfl
  | @later _ _ _ _ _ _ _ _ t _ _ _ _ _ _ ih =>
    rw [List.map_append, ih]
    obtain ⟨start, path, _ | ⟨node, resumeAt⟩⟩ := t <;> rfl

theorem kept_collector
    (h : Broken amid settings .collector index resuming starts s context ts requests visited e s'
      context') : s'.2.kept = (s.2.collected ++ requests, s.2.suspensions) := by
  induction h with
  | here hhalted =>
    rw [hhalted.kept Sink.cautious_collector, List.append_nil]
    rfl
  | later hfirst _ ih =>
    have hkept := (asked_traverse hfirst).kept_collector
    obtain ⟨hcollected, hsuspensions⟩ := Prod.mk.inj hkept
    rw [ih, hcollected, hsuspensions, List.append_assoc]

theorem kept_writer {botId conversationId version : String}
    (h : Broken amid settings (.writer botId conversationId version) index resuming starts s context
      ts requests visited e s' context') :
    ∃ records, s'.2.kept = (s.2.collected, s.2.suspensions.saveAll records) ∧
      List.Forall₂ (fun r record =>
        ∃ id, record = .ofRequest id botId conversationId version s.2.clock r)
        requests records := by
  induction h with
  | here hhalted =>
    exact ⟨[], hhalted.kept (Sink.cautious_writer botId conversationId version), .nil⟩
  | later hfirst _ ih =>
    obtain ⟨records, hkept, hrecords⟩ := ih
    obtain ⟨hclock, saved, hsaved, hfrom⟩ := (asked_traverse hfirst).kept_writer
    obtain ⟨hcollected, hsuspensions⟩ := Prod.mk.inj hsaved
    rw [hcollected, hsuspensions] at hkept
    rw [hclock] at hrecords
    refine ⟨saved ++ records, ?_, List.rel_append hfrom hrecords⟩
    rw [hkept, SuspensionStore.saveAll, SuspensionStore.saveAll, SuspensionStore.saveAll,
      List.foldl_append]

end Broken

end Sink

/-- Whichever calls fail on their own, and be it only for once: a node that fails leaves the context
that it works on and what the sink keeps. A run that fails leaves the context as its visits before
the failure have left it, and the sink keeps what the traversals before the failure were suspended
with. -/
theorem Flow.setbacks_leave_what_was_done (settings : Settings) {sink : Sink}
    (hsink : sink.Cautious) :
    (∀ (node : Node) (context context' : Context) (e : FlowError) (s s' : Outages × World),
      amid.Runs s ((node.runInPlace settings sink).on context) (.error e, context') s' →
        context' = context ∧ s'.2.kept = s.2.kept) ∧
    ∀ (flow : Flow) (event : Event) (context context' : Context) (e : FlowError)
      (s s' : Outages × World),
      amid.Runs s ((flow.runInPlace settings sink event).on context) (.error e, context') s' →
        ∃ ts requests visited,
          Broken amid settings sink (Index.ofFlow flow) event.isResume (event.starts flow) s
            context ts requests visited e s' context' ∧
          requests.map SuspendRequest.ending = (ts.filter (·.isSuspended)).map (·.ending) ∧
          (sink = .collector → s'.2.kept = (s.2.collected ++ requests, s.2.suspensions)) ∧
          ∀ botId conversationId version, sink = .writer botId conversationId version →
            ∃ records, s'.2.kept = (s.2.collected, s.2.suspensions.saveAll records) ∧
              List.Forall₂ (fun r record =>
                ∃ id, record = .ofRequest id botId conversationId version s.2.clock r)
                requests records := by
  constructor
  · intro node context context' e s s' h
    exact Node.unchanged_amid hsink h
  · intro flow event context context' e s s' h
    rw [on_runInPlace] at h
    obtain ⟨⟨context₁, result⟩, s₁, hruns, h⟩ := h.of_bind
    obtain ⟨hresult, rfl⟩ := h.of_done
    cases hresult
    obtain ⟨ts, requests, visited, hbroken⟩ := exists_broken hruns
    refine ⟨ts, requests, visited, hbroken, hbroken.requests_eq, ?_, ?_⟩
    · rintro rfl
      exact hbroken.kept_collector
    · rintro botId conversationId version rfl
      exact hbroken.kept_writer

end ChatFlow
