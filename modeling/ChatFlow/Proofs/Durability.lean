import ChatFlow.Proofs.ReadBack
import ChatFlow.Proofs.Sweep
import ChatFlow.Proofs.Values
import ChatFlow.Proofs.Walks

namespace ChatFlow

namespace Activity

variable {α β : Type}

def saves : Activity α → World → List Suspension
  | done _, _ => []
  | call c next, w =>
    match w.answer c with
    | (some answer, w) => c.record?.toList ++ saves (next answer) w
    | (none, _) => []

theorem saves_call {c : Call} {next : c.Answer → Activity α} {w w₁ : World} {answer : c.Answer}
    (h : w.answer c = (some answer, w₁)) :
    (call c next).saves w = c.record?.toList ++ (next answer).saves w₁ := by
  simp only [saves, h]

theorem saves_bind {x : Activity α} {f : α → Activity β} {w w₁ : World} {a : α}
    (h : w.Runs x a w₁) :
    (x.bind f).saves w = x.saves w ++ (f a).saves w₁ := by
  induction x generalizing w with
  | done b =>
    obtain ⟨rfl, rfl⟩ := h.of_done
    rfl
  | call c next ih =>
    obtain ⟨answer, w₂, hanswer, hnext⟩ := h.of_call
    rw [call_bind, saves_call hanswer, saves_call hanswer, ih answer hnext, List.append_assoc]

theorem Only.of_mem_saves {P : Call → Prop} {Q : α → Prop} {x : Activity α} (hx : x.Only P Q)
    {w : World} {s : Suspension} (hs : s ∈ x.saves w) : ∃ c, P c ∧ c.record? = some s := by
  induction x generalizing w with
  | done a => cases hs
  | call c next ih =>
    rcases hanswer : w.answer c with ⟨_ | answer, w₁⟩
    · simp [saves, hanswer] at hs
    · rw [saves_call hanswer, List.mem_append, Option.mem_toList] at hs
      rcases hs with hs | hs
      · exact ⟨c, hx.1, hs⟩
      · exact ih answer (hx.2 answer) hs

theorem Only.saves_eq_nil {Q : α → Prop} {x : Activity α} (hx : x.Only Call.IsTalk Q) (w : World) :
    x.saves w = [] := by
  refine List.eq_nil_iff_forall_not_mem.mpr fun s hs => ?_
  obtain ⟨c, hc, hrecord⟩ := hx.of_mem_saves hs
  rw [hc.record?_eq_none] at hrecord
  cases hrecord

end Activity

def Suspension.ending (s : Suspension) : Ending := .suspended s.nodeId s.resumeAt

namespace World

variable {α β : Type}

/-- These records were saved under the next identifiers, and nothing else happened to the store. -/
structure Keeps (w : World) (saved : List Suspension) (w' : World) : Prop where
  failing : w'.failing = w.failing
  suspensions : w'.suspensions = saved.foldl (fun store s => store.save s) w.suspensions
  ids : saved.map (·.id.value) = List.range' w.nextId.value saved.length
  nextId : w'.nextId.value = w.nextId.value + saved.length

theorem Talked.keeps {w w' : World} (h : w.Talked w') : w.Keeps [] w' :=
  ⟨h.failing, h.suspensions, rfl, congrArg Identifier.value h.nextId⟩

theorem Keeps.trans {w w₁ w₂ : World} {saved saved' : List Suspension} (h : w.Keeps saved w₁)
    (h' : w₁.Keeps saved' w₂) : w.Keeps (saved ++ saved') w₂ where
  failing := h'.failing.trans h.failing
  suspensions := by rw [h'.suspensions, h.suspensions, List.foldl_append]
  ids := by rw [List.map_append, h.ids, h'.ids, h.nextId, List.length_append, List.range'_append_1]
  nextId := by rw [h'.nextId, h.nextId, List.length_append, Nat.add_assoc]

/-- What an activity saves is kept, and it is of traversals that ended like this. -/
structure Stores (w : World) (x : Activity α) (endings : List Ending) (w' : World) : Prop where
  keeps : w.Keeps (x.saves w) w'
  endings : (x.saves w).map Suspension.ending = endings

theorem stores_done (w : World) (a : α) : w.Stores (.done a) [] w := ⟨(Talked.refl w).keeps, rfl⟩

theorem Stores.bind {w w₁ w₂ : World} {x : Activity α} {f : α → Activity β} {a : α}
    {es es' : List Ending} (hx : w.Runs x a w₁) (h : w.Stores x es w₁)
    (h' : w₁.Stores (f a) es' w₂) :
    w.Stores (x.bind f) (es ++ es') w₂ := by
  have hsaves := Activity.saves_bind hx (f := f)
  constructor
  · rw [hsaves]
    exact h.keeps.trans h'.keeps
  · rw [hsaves, List.map_append, h.endings, h'.endings]

end World

namespace SuspensionStore

/-- Records that are saved under the next keys are added to the store, which is as good as
before. -/
theorem foldl_save {saved : List Suspension} {store : SuspensionStore} {n : Nat}
    (hdistinct : store.Distinct) (hfresh : store.FreshFrom n)
    (hids : saved.map (·.id.value) = List.range' n saved.length) :
    (saved.foldl (fun store s => store.save s) store).Distinct ∧
      (saved.foldl (fun store s => store.save s) store).FreshFrom (n + saved.length) ∧
      ∀ r, store = .rows r →
        saved.foldl (fun store s => store.save s) store = .rows (r ++ saved.map .ofSuspension) := by
  induction saved generalizing store n with
  | nil =>
    refine ⟨hdistinct, hfresh, ?_⟩
    rintro r rfl
    rw [List.map_nil, List.append_nil]
    rfl
  | cons s saved ih =>
    rw [List.map_cons, List.length_cons, List.range'_succ, List.cons.injEq] at hids
    obtain ⟨hid, hids⟩ := hids
    rw [← hid] at hfresh
    -- behind the first record the store is fresh from the next identifier on
    obtain ⟨hdistinct', hfresh', hrows⟩ := ih (hdistinct.save hfresh) (hid ▸ hfresh.save) hids
    refine ⟨hdistinct', ?_, ?_⟩
    · rw [List.length_cons, Nat.add_comm saved.length, ← Nat.add_assoc]
      exact hfresh'
    · rintro r rfl
      have hsave : (rows r).save s = .rows (r ++ [SuspensionRow.ofSuspension s]) :=
        congrArg SuspensionStore.rows
          (SuspensionRows.save_eq_append (hfresh.keys s.id (Nat.le_refl _)))
      rw [List.foldl_cons, hrows _ hsave, List.append_assoc]
      rfl

end SuspensionStore

namespace World

variable {settings : Settings} {botId conversationId version : String}

theorem stores_delay {w w' : World} {node : Node} {context : Context} {r : NodeResult}
    (hsave : .save ∉ w.failing)
    (h : w.Runs (node.delay (.writer botId conversationId version) context) r w') :
    r = .ok (.suspend (w.clock.after node.delayMillis), context) ∧
      w.Stores (node.delay (.writer botId conversationId version) context)
        [.suspended node.id (w.clock.after node.delayMillis)] w' := by
  let w₁ : World := { w with nextId := ⟨w.nextId.value + 1⟩ }
  let record : Suspension := ⟨w.nextId, botId, conversationId, version, node.id, context,
    w.clock.after node.delayMillis, w.clock⟩
  have hanswer : w₁.answer (.save record) =
      (some (.ok ()), { w₁ with suspensions := w₁.suspensions.save record }) :=
    if_neg (by simpa using hsave)
  have hruns : w.Runs (node.delay (.writer botId conversationId version) context)
      (.ok (.suspend (w.clock.after node.delayMillis), context))
      { w₁ with suspensions := w₁.suspensions.save record } :=
    runs_call rfl (runs_call rfl (runs_call rfl (runs_call hanswer rfl)))
  have hsaves : (node.delay (.writer botId conversationId version) context).saves w = [record] :=
    (Activity.saves_call rfl).trans <| (Activity.saves_call rfl).trans <|
      (Activity.saves_call rfl).trans <|
      Activity.saves_call hanswer
  obtain ⟨rfl, rfl⟩ := hruns.unique h
  refine ⟨rfl, ?_, ?_⟩
  · rw [hsaves]
    exact ⟨rfl, rfl, rfl, rfl⟩
  · rw [hsaves]
    rfl

def visitEndings (node : Node) : NodeResult → List Ending
  | .ok (.suspend resumeAt, _) => [.suspended node.id resumeAt]
  | .ok (.proceed _, _) | .error _ => []

/-- The suspension that a traversal ends with, if it came to its end and ends with one. -/
def traversalEndings : Except FlowError Traversal → List Ending
  | .ok t => t.ending.suspensions
  | .error _ => []

theorem stores_visit {w w' : World} {node : Node} {resuming : Bool} {context : Context}
    {r : NodeResult} (hsave : .save ∉ w.failing)
    (h : w.Runs
      (node.visit settings (.writer botId conversationId version) resuming context) r w') :
    w.Stores (node.visit settings (.writer botId conversationId version) resuming context)
      (visitEndings node r) w' := by
  unfold Node.visit at *
  split at h
  · next hresumed =>
    rw [if_pos hresumed]
    obtain ⟨rfl, rfl⟩ := h.of_done
    exact stores_done _ _
  · next hresumed =>
    rw [if_neg hresumed]
    by_cases hs : node.Suspends
    · rw [Node.run_of_suspends hs] at *
      obtain ⟨rfl, hstores⟩ := stores_delay hsave h
      exact hstores
    · -- every other node only talks, and saves nothing
      have honly := (Node.run_only hs settings (.writer botId conversationId version) context).mono
        (fun _ hc => hc.isTalk) fun _ hr => hr
      obtain ⟨r, w', hruns, hyields, htalked⟩ := exists_runs_of_isTalk honly w
      obtain ⟨rfl, rfl⟩ := hruns.unique h
      have hnone : visitEndings node r = [] := by
        rcases r with e | ⟨handle | resumeAt, context'⟩
        · rfl
        · rfl
        · exact hyields.elim
      have hsaves := honly.saves_eq_nil w
      constructor
      · rw [hsaves]
        exact htalked.keeps
      · rw [hsaves, hnone]
        rfl

theorem stores_traverse {index : Flow.Index} {start id : String} {room : Nat} {resuming : Bool}
    {path : List String} {context : Context} {r : Context × Except FlowError Traversal}
    {w w' : World} (hsave : .save ∉ w.failing)
    (h : w.Runs
      (Flow.traverse settings (.writer botId conversationId version) index start room resuming path
      context id) r w') :
    w.Stores
      (Flow.traverse settings (.writer botId conversationId version) index start room resuming path
      context id) (traversalEndings r.2) w' := by
  induction room generalizing resuming path context id w with
  | zero =>
    cases hid : index.contains id with
    | false =>
      rw [Flow.traverse_of_not_contains hid] at *
      obtain ⟨rfl, rfl⟩ := h.of_done
      exact stores_done _ _
    | true =>
      rw [Flow.traverse_zero_of_contains hid] at *
      obtain ⟨rfl, rfl⟩ := h.of_done
      exact stores_done _ _
  | succ room ih =>
    cases hnode : index.node? id with
    | none =>
      rw [Flow.traverse_of_node?_eq_none hnode] at *
      obtain ⟨rfl, rfl⟩ := h.of_done
      exact stores_done _ _
    | some node =>
      rw [Flow.traverse_of_node? hnode] at *
      obtain ⟨result, w₁, hvisit, h⟩ := h.of_bind
      have hstores := stores_visit hsave hvisit
      have hsave₁ : .save ∉ w₁.failing := hstores.keeps.failing ▸ hsave
      rcases result with e | ⟨handle | resumeAt, context₁⟩
      · obtain ⟨rfl, rfl⟩ := h.of_done
        exact hstores.bind hvisit (stores_done _ _)
      · refine hstores.bind hvisit ?_
        rw [Flow.goOn] at *
        cases hnext : Flow.next settings.policy index node.id handle with
        | failure e =>
          rw [hnext] at h
          obtain ⟨rfl, rfl⟩ := h.of_done
          exact stores_done _ _
        | nowhere =>
          rw [hnext] at h
          obtain ⟨rfl, rfl⟩ := h.of_done
          exact stores_done _ _
        | node target =>
          rw [hnext] at h
          exact ih hsave₁ h
      · obtain ⟨rfl, rfl⟩ := h.of_done
        exact hstores.bind hvisit (stores_done _ _)

/-- Traversals one after the other save a record for each that is suspended, also where a later one
fails. -/
theorem stores_traverseAll {index : Flow.Index} {nodes : List Node} {context : Context}
    {r : Context × Except FlowError (List Traversal)} {w w' : World} (hsave : .save ∉ w.failing)
    (h : w.Runs
      (Flow.traverseAll settings (.writer botId conversationId version) index context nodes) r w') :
    ∃ es, w.Stores
      (Flow.traverseAll settings (.writer botId conversationId version) index context nodes) es w' ∧
      ∀ ts, r.2 = .ok ts → es = ts.flatMap (·.ending.suspensions) := by
  induction nodes generalizing context r w w' with
  | nil =>
    obtain ⟨rfl, rfl⟩ := h.of_done
    refine ⟨[], stores_done _ _, ?_⟩
    rintro _ ⟨⟩
    rfl
  | cons node rest ih =>
    obtain ⟨⟨context₁, first⟩, w₁, hfirst, h⟩ := h.of_bind
    have hstores := stores_traverse hsave hfirst
    have hsave₁ : .save ∉ w₁.failing := hstores.keeps.failing ▸ hsave
    cases first with
    | error e =>
      obtain ⟨rfl, rfl⟩ := h.of_done
      exact ⟨_, hstores.bind hfirst (stores_done _ _), nofun⟩
    | ok t =>
      obtain ⟨⟨context₂, others⟩, w₂, hothers, h⟩ := h.of_bind
      obtain ⟨es, hes, hall⟩ := ih hsave₁ hothers
      obtain ⟨rfl, rfl⟩ := h.of_done
      refine ⟨_, hstores.bind hfirst (hes.bind hothers (stores_done _ _)), ?_⟩
      intro ts hts
      cases others with
      | error e => cases hts
      | ok ts' =>
        cases hts
        rw [hall ts' rfl, List.append_nil, List.flatMap_cons]
        rfl

theorem stores_run {flow : Flow} {event : Event} {context : Context}
    {r : Context × Except FlowError (List Traversal)} {w w' : World} (hsave : .save ∉ w.failing)
    (h : w.Runs (flow.run settings (.writer botId conversationId version) event context) r w') :
    ∃ es, w.Stores (flow.run settings (.writer botId conversationId version) event context) es w' ∧
      ∀ ts, r.2 = .ok ts → es = ts.flatMap (·.ending.suspensions) := by
  cases event with
  | newMessage text => exact stores_traverseAll hsave h
  | scheduled => exact stores_traverseAll hsave h
  | resume node =>
    obtain ⟨⟨context₁, first⟩, w₁, hfirst, h⟩ := h.of_bind
    obtain ⟨rfl, rfl⟩ := h.of_done
    refine ⟨_, (stores_traverse hsave hfirst).bind hfirst (stores_done _ _), ?_⟩
    intro ts hts
    cases first with
    | error e => cases hts
    | ok t =>
      cases hts
      rw [List.append_nil, List.flatMap_singleton]
      rfl

end World

/-- The suspended traversals are those that end with a suspension. -/
theorem FlowRun.map_ending_suspended (run : FlowRun) :
    run.suspended.map (·.ending) = run.traversals.flatMap (·.ending.suspensions) := by
  unfold suspended
  induction run.traversals with
  | nil => rfl
  | cons t ts ih =>
    rw [List.filter_cons, List.flatMap_cons, ← ih]
    unfold Traversal.isSuspended
    cases hending : t.ending with
    | completed => rfl
    | suspended node resumeAt =>
      rw [if_pos rfl, List.map_cons, hending]
      rfl

namespace World

variable {settings : Settings} {botId conversationId version : String}

/-- A run saves a record for each of its traversals that is suspended. -/
theorem stores_execute {flow : Flow} {event : Event} {context : Context}
    {r : Except FlowError FlowRun} {w w' : World} (hsave : .save ∉ w.failing)
    (h : w.Runs (flow.execute settings (.writer botId conversationId version) event context) r w') :
    ∃ es,
    w.Stores (flow.execute settings (.writer botId conversationId version) event context) es w' ∧
      ∀ run, r = .ok run → es = run.suspended.map (·.ending) := by
  obtain ⟨⟨context₁, traversals⟩, w₁, hrun, h⟩ := h.of_bind
  obtain ⟨es, hes, hall⟩ := stores_run hsave hrun
  obtain ⟨rfl, rfl⟩ := h.of_done
  refine ⟨_, hes.bind hrun (stores_done _ _), ?_⟩
  intro run hok
  cases traversals with
  | error e => cases hok
  | ok ts =>
    cases hok
    rw [List.append_nil, hall ts rfl, FlowRun.map_ending_suspended]

end World

namespace Dispatch

/-- A record that is loaded has its turn, and its run goes on from where it was. -/
theorem exists_turn (settings : Settings) {batch : Nat} {w : World} (hquiet : w.Quiet)
    (hdistinct : w.suspensions.Distinct) (hfresh : w.suspensions.FreshFrom w.nextId.value)
    (hload : .loadDue ∉ w.failing) (hpending : .pending ∉ w.failing) {s : Suspension}
    (hs : s ∈ loaded batch w) (hdue : s.isDue w.clock = true) :
    ∃ t ∈ sweepTurns settings batch w, t.queued = s ∧
      t.course? settings = t.active?.map (Turn.course settings s) := by
  have hturns : sweepTurns settings batch w =
      turns settings w.clock (afterLoading batch w) (loaded batch w) := by
    refine if_neg ?_
    rw [hquiet.sweeping, Bool.false_or]
    simpa using hload
  obtain ⟨report, w', -, hswept⟩ :=
    @runs_sweepAll_loaded settings batch w hquiet.queue hdistinct hfresh
  have hqueued : (turns settings w.clock (afterLoading batch w) (loaded batch w)).map (·.queued) =
      loaded batch w :=
    hswept.queued
  rw [← hqueued] at hs
  obtain ⟨t, ht, rfl⟩ := List.mem_map.mp hs
  obtain ⟨hnow, hstanding, hmem⟩ := hswept.standing t ht
  have hfailing : t.world.failing = w.failing := (hswept.worlds t ht).2
  have hreread : ¬ t.world.failing.contains .pending = true := by
    rw [hfailing]
    simpa using hpending
  -- it is still there, so what is read again under the lock is the same record
  have hrecord : t.record? = some t.queued := by
    refine (record?_of_mem hstanding hmem hreread).mpr ?_
    rw [hnow]
    exact hdue
  refine ⟨t, hturns ▸ ht, rfl, ?_⟩
  rw [Turn.course?, hrecord, Option.bind_some]

end Dispatch

namespace Suspension

/-- Wherever the row of the record stands when its time has come, what is read of it is loaded, if
the limit allows for its place, and the row stays. In a sweep the run goes on from there. -/
structure Restored (s : Suspension) : Prop where
  due : ∀ (rows : SuspensionRows) (now : Instant) (limit : Nat), (rows.map (·.id)).Nodup →
    SuspensionRow.ofSuspension s ∈ rows → s.isDue now = true →
    rows.place now (.ofSuspension s) ≤ limit →
    s.reread ∈ (rows.due now limit).1 ∧ SuspensionRow.ofSuspension s ∈ (rows.due now limit).2
  turn : ∀ (settings : Settings) (batch : Nat) (w : World) (rows : SuspensionRows), w.Quiet →
    w.suspensions = .rows rows → w.suspensions.Distinct →
    w.suspensions.FreshFrom w.nextId.value → .loadDue ∉ w.failing → .pending ∉ w.failing →
    SuspensionRow.ofSuspension s ∈ rows → s.isDue w.clock = true →
    rows.place w.clock (.ofSuspension s) ≤ max batch 1 →
    ∃ t ∈ Dispatch.sweepTurns settings batch w, t.queued = s.reread ∧
      t.course? settings = t.active?.map (Dispatch.Turn.course settings s.reread)

/-- Wherever the row of the record stands when its time has come, nothing is loaded of it, and it is
removed, if the limit allows for its place. -/
def Lost (s : Suspension) : Prop :=
  ∀ (rows : SuspensionRows) (now : Instant) (limit : Nat), SuspensionRow.ofSuspension s ∈ rows →
    s.isDue now = true → rows.place now (.ofSuspension s) ≤ limit →
    s ∉ (rows.due now limit).1 ∧ s.reread ∉ (rows.due now limit).1 ∧
      SuspensionRow.ofSuspension s ∉ (rows.due now limit).2

theorem Storable.restored {s : Suspension} (hs : s.Storable)
    (hdepth : s.context.toJson.depth ≤ Json.maxDepth) : s.Restored where
  due _ _ _ hids hrow hdue hplace :=
    SuspensionRows.due_of_depth_le hids hrow hs hdue hplace hdepth
  turn settings batch w rows hquiet hrows hdistinct hfresh hload hpending hrow hdue hplace := by
    refine Dispatch.exists_turn settings hquiet hdistinct hfresh hload hpending ?_ hdue
    have hids : (rows.map (·.id)).Nodup := by
      have hkeys := hdistinct.keys
      rwa [hrows] at hkeys
    unfold Dispatch.loaded
    rw [hrows]
    exact (SuspensionRows.due_of_depth_le hids hrow hs hdue hplace hdepth).1

theorem Storable.lost {s : Suspension} (hs : s.Storable)
    (hdepth : Json.maxDepth < s.context.toJson.depth) : s.Lost :=
  fun _ _ _ hrow hdue hplace => SuspensionRows.due_of_lt_depth hrow hs hdue hplace hdepth

end Suspension

namespace Flow

/-- A run over rows, beside which nothing else happens and whose records can be saved, leaves behind
the rows that were there and one for each traversal that was suspended. The records have proper
contexts if the run started from one. Those whose namespaces are objects and whose times are whole
milliseconds are restored if their contexts are no deeper than a text may be, and lost if they are
deeper. A record is restored as it was exactly if the numbers of its context are read back as they
are printed. -/
theorem restored_or_lost_of_execute (settings : Settings) (flow : Flow)
    (botId conversationId version : String) (event : Event) (context : Context) (w w' : World)
    (rows : SuspensionRows) (r : Except FlowError FlowRun) (hrows : w.suspensions = .rows rows)
    (hdistinct : w.suspensions.Distinct) (hfresh : w.suspensions.FreshFrom w.nextId.value)
    (hsave : .save ∉ w.failing) (hcontext : context.Proper) (hruns : w.Runs
      (flow.execute settings (.writer botId conversationId version) event context) r w')
    (hids : w'.nextId.value ≤ 2 ^ 128) :
    ∃ saved,
    (flow.execute settings (.writer botId conversationId version) event context).saves w = saved ∧
      w'.suspensions = .rows (rows ++ saved.map .ofSuspension) ∧ w'.suspensions.Distinct ∧
      w'.suspensions.FreshFrom w'.nextId.value ∧
      (∀ run, r = .ok run → saved.map Suspension.ending = run.suspended.map (·.ending)) ∧
      ∀ s ∈ saved, s.context.HasNamespaces → s.resumeAt.IsWhole → s.createdAt.IsWhole →
        (s.context.toJson.depth ≤ Json.maxDepth → s.Restored) ∧
        (s.reread = s ↔ s.context.Kept) ∧
        (Json.maxDepth < s.context.toJson.depth → s.Lost) := by
  obtain ⟨es, ⟨hkeeps, hes⟩, hok⟩ := World.stores_execute hsave hruns
  obtain ⟨hdistinct', hfresh', hrows'⟩ := SuspensionStore.foldl_save hdistinct hfresh hkeeps.ids
  rw [← hkeeps.suspensions] at hdistinct' hfresh' hrows'
  rw [← hkeeps.nextId] at hfresh'
  refine ⟨_, rfl, hrows' rows hrows, hdistinct', hfresh',
    fun run hrun => hes.trans (hok run hrun), ?_⟩
  intro s hs hnamespaces hresumeAt hcreatedAt
  -- identifiers are taken one after the other, so that of the record lies below the next
  have hid : s.id.value < 2 ^ 128 := by
    have hmem := List.mem_map_of_mem (f := fun s : Suspension => s.id.value) hs
    rw [hkeeps.ids, List.mem_range'_1, ← hkeeps.nextId] at hmem
    exact Nat.lt_of_lt_of_le hmem.2 hids
  have hproper : s.context.Proper := by
    have honly := (upholds_proper settings flow botId conversationId version).execute event hcontext
    obtain ⟨c, hc, hrecord⟩ := honly.of_mem_saves hs
    exact hc s hrecord
  have hstorable : s.Storable := ⟨hid, hproper, hnamespaces, hresumeAt, hcreatedAt⟩
  exact ⟨hstorable.restored, Suspension.reread_eq_iff, hstorable.lost⟩

def tidyMorning : World := .start ⟨1893488400, 0⟩ (.memory []) (.rows []) ⟨1⟩

theorem restored_or_lost_followUp :
    let x := followUp.execute ⟨.strict, 10, 15000⟩ (.writer "bot" "ana" "v1") (.newMessage "hi")
      (.ofChannel "ana")
    let w' := (tidyMorning.attempt x).2
    let s : Suspension :=
      ⟨⟨1⟩, "bot", "ana", "v1", "wait", .ofChannel "ana", ⟨1893488401, 0⟩, ⟨1893488400, 0⟩⟩
    w'.suspensions = .rows [.ofSuspension s] ∧ s.Restored ∧ s.reread = s := by
  intro x w' s
  have hruns : tidyMorning.Runs x (.ok ⟨.ofChannel "ana", [⟨"start", ["start", "wait"],
      .suspended "wait" ⟨1893488401, 0⟩⟩]⟩) w' := World.runs_of_attempt (by decide +kernel)
  have hsaves : x.saves tidyMorning = [s] := by decide +kernel
  obtain ⟨saved, rfl, hrows, -, -, -, hall⟩ :=
    restored_or_lost_of_execute ⟨.strict, 10, 15000⟩ followUp "bot" "ana"
    "v1" (.newMessage "hi") (.ofChannel "ana") tidyMorning w' [] _ rfl ⟨.nil, .nil⟩
    ⟨fun _ _ => List.not_mem_nil, List.forall_mem_nil _⟩ (by decide)
      (Context.proper_ofChannel "ana") hruns
    (by decide +kernel)
  rw [hsaves] at hrows hall
  obtain ⟨hrestored, hkept, -⟩ := hall s List.mem_cons_self (by decide +kernel)
    ⟨1893488401000, by decide⟩ ⟨1893488400000, by decide⟩
  exact ⟨hrows, hrestored (by decide +kernel), hkept.mpr (by decide +kernel)⟩

/-- A flow that waits for a minute after it has set a variable a hundred and twenty-seven names
deep; the names are empty. -/
def deepNote : Flow where
  nodes :=
    [⟨"start", .newMessage, []⟩,
      ⟨"note", .setVariable,
        [("name", .text (.ofList (List.replicate 126 '.'))), ("value", .text "x")]⟩,
      ⟨"wait", .delay, [("ms", .ofNat 60)]⟩,
      ⟨"remind", .sendMessage, [("text", .text "Are you still there?")]⟩]
  edges :=
    [⟨none, "start", "note", none⟩, ⟨none, "note", "wait", none⟩, ⟨none, "wait", "remind", none⟩]

def nested : Nat → Json
  | 0 => .text "x"
  | n + 1 => .object [("", nested n)]

theorem wellFormed_nested (n : Nat) : (nested n).WellFormed := by
  induction n with
  | zero => trivial
  | succ n ih => exact ⟨List.pairwise_singleton _ _, ih, trivial⟩

theorem lost_deepNote :
    let x := deepNote.execute ⟨.strict, 10, 15000⟩ (.writer "bot" "5511" "v1") (.newMessage "hi")
      (.ofChannel "5511")
    let s : Suspension :=
      ⟨⟨1⟩, "bot", "5511", "v1", "wait", (Context.ofChannel "5511").set "vars" (nested 127),
        ⟨1893488460, 0⟩, ⟨1893488400, 0⟩⟩
    x.saves tidyMorning = [s] ∧ (tidyMorning.attempt x).2.suspensions = .rows [.ofSuspension s] ∧
      s.context.HasNamespaces ∧ s.resumeAt.IsWhole ∧ s.createdAt.IsWhole ∧
        s.isDue s.resumeAt = true ∧
      s ∉ (SuspensionRows.due [.ofSuspension s] s.resumeAt 1).1 ∧
      s.reread ∉ (SuspensionRows.due [.ofSuspension s] s.resumeAt 1).1 ∧
      .ofSuspension s ∉ (SuspensionRows.due [.ofSuspension s] s.resumeAt 1).2 := by
  intro x s
  have hran : x.saves tidyMorning = [s] ∧ (tidyMorning.attempt x).1 =
      some (.ok ⟨s.context,
        [⟨"start", ["start", "note", "wait"], .suspended "wait" s.resumeAt⟩]⟩) := by
    decide +kernel
  have hsave : .save ∉ tidyMorning.failing := List.not_mem_nil
  obtain ⟨es, ⟨hkeeps, -⟩, -⟩ := World.stores_execute hsave (World.runs_of_attempt hran.2)
  have hstored : (tidyMorning.attempt x).2.suspensions = .rows [.ofSuspension s] := by
    rw [hkeeps.suspensions, hran.1]
    rfl
  have hproper : s.context.Proper :=
    (Context.proper_ofChannel "5511").set "vars" (wellFormed_nested 127)
  have hnamespaces : s.context.HasNamespaces := by decide +kernel
  have hresumeAt : s.resumeAt.IsWhole := ⟨1893488460000, by decide⟩
  have hcreatedAt : s.createdAt.IsWhole := ⟨1893488400000, by decide⟩
  have hdepth : Json.maxDepth < s.context.toJson.depth := by decide +kernel
  have hlost :=
    Suspension.Storable.lost ⟨by decide, hproper, hnamespaces, hresumeAt, hcreatedAt⟩ hdepth
  refine ⟨hran.1, hstored, hnamespaces, hresumeAt, hcreatedAt, by decide, ?_⟩
  exact hlost [.ofSuspension s] s.resumeAt 1 (List.mem_singleton_self _) (by decide)
    (Nat.le_trans (List.length_filter_le _ _) (List.length_filter_le _ _))

end Flow

end ChatFlow
