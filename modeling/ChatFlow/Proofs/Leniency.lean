import ChatFlow.Proofs.Invariant
import ChatFlow.Proofs.Validation

namespace ChatFlow

/-- The errors that only a strict run makes of a mistake of its author. -/
def FlowError.IsOversight : FlowError → Prop
  | .unknownKind _ _ | .invalidConfig _ _ _ | .unknownOperator _ _ | .danglingEdge _ _ => True
  | _ => False

theorem FlowError.IsOversight.isMistake {e : FlowError} (h : e.IsOversight) : e.IsMistake := by
  cases e <;> first | exact h.elim | trivial

namespace Activity

variable {α β : Type}

/-- One activity makes the calls of another, whatever the answers are, until it ends in the same way
or by a failure. -/
def StopsShort (failed : α → Prop) : Activity α → Activity α → Prop
  | done a, y => failed a ∨ y = done a
  | call c next, y =>
    ∃ next', y = call c next' ∧ ∀ answer, (next answer).StopsShort failed (next' answer)

variable {failed : α → Prop} {failed' : β → Prop}

theorem StopsShort.refl (x : Activity α) : x.StopsShort failed x := by
  induction x with
  | done a => exact .inr rfl
  | call c next ih => exact ⟨next, rfl, ih⟩

theorem StopsShort.of_failed {a : α} (h : failed a) (y : Activity α) :
    (done a).StopsShort failed y := .inl h

theorem StopsShort.bind {x y : Activity α} {f g : α → Activity β} (hxy : x.StopsShort failed y)
    (hfailed : ∀ a, failed a → ∃ b, f a = done b ∧ failed' b)
    (hfg : ∀ a, (f a).StopsShort failed' (g a)) : (x.bind f).StopsShort failed' (y.bind g) := by
  induction x generalizing y with
  | done a =>
    rcases hxy with ha | rfl
    · obtain ⟨b, hb, hfailed⟩ := hfailed a ha
      rw [done_bind, hb]
      exact .of_failed hfailed _
    · exact hfg a
  | call c next ih =>
    obtain ⟨next', rfl, hnext⟩ := hxy
    exact ⟨fun answer => (next' answer).bind g, rfl, fun answer => ih answer (hnext answer)⟩

end Activity

/-- Where the shorter activity ends without a failure, so does the other one, in the same world. -/
theorem World.Runs.of_stopsShort {α : Type} {failed : α → Prop} {x y : Activity α}
    (h : x.StopsShort failed y) {w w' : World} {a : α} (hruns : w.Runs x a w') (ha : ¬ failed a) :
    w.Runs y a w' := by
  induction x generalizing y w with
  | done b =>
    obtain ⟨rfl, rfl⟩ := hruns.of_done
    rcases h with hb | rfl
    · exact absurd hb ha
    · exact World.runs_done _ _
  | call c next ih =>
    obtain ⟨next', rfl, hnext⟩ := h
    obtain ⟨answer, w₁, hanswer, hrest⟩ := hruns.of_call
    exact runs_call hanswer (ih answer (hnext answer) hrest)

def Settings.under (settings : Settings) (policy : Policy) : Settings := { settings with policy }

def Failed {α : Type} (r : Except FlowError α) : Prop := ∃ e, r = .error e

namespace Node

variable (settings : Settings) (sink : Sink) (node : Node) (context : Context)

theorem branch_strict :
    Failed (node.branch .strict context) ∨
      node.branch .strict context = node.branch .permissive context := by
  unfold branch
  generalize Condition.ofBlock (node.field? "conditions") = conditions
  generalize Condition.holdTogether conditions _ context = holds
  cases h : conditions.find? (·.operator?.isNone) with
  | none =>
    right
    simp only [h]
  | some c =>
    left
    exact ⟨.unknownOperator node.id c.op, by simp only [h]⟩

theorem apiRequest_under (policy : Policy) :
    node.apiRequest (settings.under policy) context = node.apiRequest settings context :=
  apiRequest_congr rfl

theorem handle_stopsShort :
    (node.handle (settings.under .strict) sink context).StopsShort Failed
      (node.handle (settings.under .permissive) sink context) := by
  unfold handle
  cases node.kind with
  | branch =>
    rcases node.branch_strict context with hfailed | hsame
    · exact .of_failed hfailed _
    · simp only [Settings.under, hsame]
      exact .refl _
  | apiRequest =>
    simp only [apiRequest_under]
    exact .refl _
  -- no other handler asks for the settings
  | _ => exact Activity.StopsShort.refl _

theorem run_stopsShort :
    (node.run (settings.under .strict) sink context).StopsShort Failed
      (node.run (settings.under .permissive) sink context) := by
  cases hrefusal : node.refusal? with
  | none =>
    simp only [run, hrefusal]
    exact node.handle_stopsShort settings sink context
  | some e =>
    simp only [run, hrefusal]
    exact .of_failed ⟨e, rfl⟩ _

theorem visit_stopsShort (resuming : Bool) :
    (node.visit (settings.under .strict) sink resuming context).StopsShort Failed
      (node.visit (settings.under .permissive) sink resuming context) := by
  unfold visit
  split
  · exact Activity.StopsShort.refl _
  · exact node.run_stopsShort settings sink context

end Node

namespace Flow

variable (settings : Settings) (sink : Sink)

theorem next_strict (index : Index) (id : String) (handle : Handle) :
    (∃ e, next .strict index id handle = .failure e) ∨
      next .strict index id handle = next .permissive index id handle := by
  unfold next
  cases index.select id handle with
  | none => exact .inr rfl
  | some edge =>
    dsimp only
    split
    · exact .inr rfl
    · exact .inl ⟨_, rfl⟩

theorem next_permissive_ne_failure (index : Index) (id : String) (handle : Handle) (e : FlowError) :
    next .permissive index id handle ≠ .failure e := by
  unfold next
  cases index.select id handle with
  | none => exact nofun
  | some edge =>
    dsimp only
    split <;> exact nofun

theorem traverse_stopsShort (index : Index) (start : String) (room : Nat) (resuming : Bool)
    (path : List String) (context : Context) (id : String) :
    (traverse (settings.under .strict) sink index start room resuming path context id).StopsShort
      (fun r => Failed r.2)
      (traverse (settings.under .permissive) sink index start room resuming path context id) := by
  induction room generalizing resuming path context id with
  | zero => exact Activity.StopsShort.refl _
  | succ room ih =>
    cases hnode : index.node? id with
    | none =>
      rw [traverse_of_node?_eq_none hnode, traverse_of_node?_eq_none hnode]
      exact Activity.StopsShort.refl _
    | some node =>
      rw [traverse_of_node? hnode, traverse_of_node? hnode]
      refine (node.visit_stopsShort settings sink context resuming).bind ?_ fun result => ?_
      · rintro _ ⟨e, rfl⟩
        exact ⟨(context, .error e), rfl, e, rfl⟩
      · rcases result with e | ⟨handle | resumeAt, context'⟩
        · exact Activity.StopsShort.refl _
        · show (goOn _ _ _ _ _ _ _ _ (.ok (.proceed handle, context'))).StopsShort _ _
          simp only [goOn, Settings.under]
          rcases next_strict index node.id handle with ⟨e, he⟩ | hsame
          · rw [he]
            exact .of_failed ⟨e, rfl⟩ _
          · rw [hsame]
            cases next .permissive index node.id handle with
            | nowhere => exact Activity.StopsShort.refl _
            | failure e => exact Activity.StopsShort.refl _
            | node target => exact ih false (path ++ [id]) context' target
        · exact Activity.StopsShort.refl _

theorem traverseAll_stopsShort (index : Index) (context : Context) (nodes : List Node) :
    (traverseAll (settings.under .strict) sink index context nodes).StopsShort (fun r => Failed r.2)
      (traverseAll (settings.under .permissive) sink index context nodes) := by
  induction nodes generalizing context with
  | nil => exact Activity.StopsShort.refl _
  | cons node rest ih =>
    refine (traverse_stopsShort settings sink index node.id _ false [] context node.id).bind ?_
      fun r => ?_
    · rintro ⟨context', _⟩ ⟨e, rfl⟩
      exact ⟨(context', .error e), rfl, e, rfl⟩
    · rcases r with ⟨context', e | first⟩
      · exact Activity.StopsShort.refl _
      · refine (ih context').bind ?_ fun others => Activity.StopsShort.refl _
        rintro ⟨context'', _⟩ ⟨e, rfl⟩
        exact ⟨(context'', .error e), rfl, e, rfl⟩

theorem run_stopsShort (flow : Flow) (event : Event) (context : Context) :
    (flow.run (settings.under .strict) sink event context).StopsShort (fun r => Failed r.2)
      (flow.run (settings.under .permissive) sink event context) := by
  cases event with
  | newMessage text => exact traverseAll_stopsShort settings sink _ context _
  | scheduled => exact traverseAll_stopsShort settings sink _ context _
  | resume node =>
    refine (traverse_stopsShort settings sink _ node _ true [] context node).bind ?_ fun r =>
      Activity.StopsShort.refl _
    rintro ⟨context', _⟩ ⟨e, rfl⟩
    exact ⟨(context', .error e), rfl, e, rfl⟩

theorem execute_stopsShort (flow : Flow) (event : Event) (context : Context) :
    (flow.execute (settings.under .strict) sink event context).StopsShort Failed
      (flow.execute (settings.under .permissive) sink event context) := by
  refine (run_stopsShort settings sink flow event context).bind ?_ fun r =>
    Activity.StopsShort.refl _
  rintro ⟨context', _⟩ ⟨e, rfl⟩
  exact ⟨.error e, rfl, e, rfl⟩

theorem upholds_permissive (flow : Flow) :
    Upholds (settings.under .permissive) sink flow (fun _ => True) (fun _ => True)
      fun e => ¬ e.IsOversight where
  visit node _ resuming context _ := by
    unfold Node.visit
    split
    · trivial
    · by_cases hs : node.Suspends
      · rw [Node.run_of_suspends hs]
        refine (Node.delay_only_blameless sink context).mono (fun _ _ => trivial) fun r hr => ?_
        rcases r with e | _
        · exact fun h => hr e rfl h.isMistake
        · trivial
      · refine (Node.run_only hs (settings.under .permissive) sink context).mono
          (fun _ _ => trivial) ?_
        rintro (e | _) hr
        · intro h
          exact absurd (hr h.isMistake).1 nofun
        · trivial
  next id handle e h := absurd h (next_permissive_ne_failure _ id handle e)
  limit _ := fun h => h

/-- A strict run that succeeds is a permissive run with the same traversals, the same context and
the same world behind it: the same conversations, requests to suspend and requests to services. And
a permissive run fails over no oversight, whatever the world answers. -/
theorem runs_permissive_of_strict (settings : Settings) (sink : Sink) (flow : Flow) (event : Event)
    (context : Context) :
    (∀ (w w' : World) (run : FlowRun),
      w.Runs (flow.execute (settings.under .strict) sink event context) (.ok run) w' →
      w.Runs (flow.execute (settings.under .permissive) sink event context) (.ok run) w') ∧
    (flow.execute (settings.under .permissive) sink event context).Only (fun _ => True)
      fun result => ∀ e, result = .error e → ¬ e.IsOversight := by
  refine ⟨fun w w' run hruns => ?_, (upholds_permissive settings sink flow).execute event trivial⟩
  exact hruns.of_stopsShort (execute_stopsShort settings sink flow event context)
    (by rintro ⟨e, ⟨⟩⟩)

/-- A strict run in which an adult is welcomed, and the permissive run beside it. -/
theorem runs_permissive_ageCheck :
    let settings : Settings := ⟨.strict, 10, 15000⟩
    let w := World.start ⟨1893488400, 0⟩ (.memory []) (.memory []) ⟨1⟩
    let context := (Context.ofChannel "5511").set "contact.age" (.ofNat 18)
    let run : FlowRun := ⟨context, [⟨"start", ["start", "adult", "welcome", "agent"], .completed⟩]⟩
    ∃ w', w.Runs (ageCheck.execute (settings.under .strict) .collector (.newMessage "hi") context)
        (.ok run) w' ∧
      w.Runs (ageCheck.execute (settings.under .permissive) .collector (.newMessage "hi") context)
        (.ok run) w' := by
  intro settings w context run
  have hruns :
      w.Runs (ageCheck.execute (settings.under .strict) .collector (.newMessage "hi") context)
      (.ok run) _ := World.runs_of_attempt (by decide +kernel)
  exact ⟨_, hruns,
    (runs_permissive_of_strict settings .collector ageCheck (.newMessage "hi") context).1
    _ _ _ hruns⟩

end Flow

end ChatFlow
