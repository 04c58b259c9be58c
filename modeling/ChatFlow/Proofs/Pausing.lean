import ChatFlow.Proofs.Outages

namespace ChatFlow

def Suspension.ofEnding (id : Identifier) (botId conversationId version : String)
    (createdAt : Instant) (context : Context) : Ending → Option Suspension
  | .completed => none
  | .suspended nodeId resumeAt =>
    some ⟨id, botId, conversationId, version, nodeId, context, resumeAt, createdAt⟩

def Suspension.ofRun (id : Identifier) (botId conversationId version : String) (createdAt : Instant)
    (run : FlowRun) : Option Suspension :=
  run.traversals.head?.bind fun t =>
    ofEnding id botId conversationId version createdAt run.context t.ending

namespace World

/-- After some talk at most one record was saved, and at most one identifier was taken, perhaps in
vain. -/
structure Parked (w : World) (record? : Option Suspension) (w' : World) : Prop where
  clock : w'.clock = w.clock
  failing : w'.failing = w.failing
  registry : w'.registry = w.registry
  locks : w'.locks = w.locks
  sweeping : w'.sweeping = w.sweeping
  suspensions : w'.suspensions = record?.elim w.suspensions w.suspensions.save
  nextId : w.nextId.value ≤ w'.nextId.value
  taken : record?.isSome → w'.nextId.value = w.nextId.value + 1

theorem Talked.parked {w w' : World} (h : w.Talked w') : w.Parked none w' := by
  have hnextId := congrArg Identifier.value h.nextId
  exact ⟨h.clock, h.failing, h.registry, h.locks, h.sweeping, h.suspensions, by omega, nofun⟩

theorem Talked.trans_parked {w w₁ w₂ : World} {record? : Option Suspension} (h : w.Talked w₁)
    (h' : w₁.Parked record? w₂) : w.Parked record? w₂ := by
  exact ⟨h'.clock.trans h.clock, h'.failing.trans h.failing, h'.registry.trans h.registry,
    h'.locks.trans h.locks, h'.sweeping.trans h.sweeping, h.suspensions ▸ h'.suspensions,
    h.nextId ▸ h'.nextId, h.nextId ▸ h'.taken⟩

variable {settings : Settings} {botId conversationId version : String} {s s' : Outages × World}

theorem world_of_runs_writer {r : SuspendRequest} {reply : Except Failure Unit}
    (h : amid.Runs s (Sink.writer botId conversationId version r) reply s') :
    s'.2 = { s.2 with
      nextId := ⟨s.2.nextId.value + 1⟩
      suspensions := match reply with
        | .ok _ => s.2.suspensions.save
          (.ofRequest s.2.nextId botId conversationId version s.2.clock r)
        | .error _ => s.2.suspensions } := by
  obtain ⟨now, s₁, hnow, h⟩ := h.of_call
  cases (amid_now s).symm.trans hnow
  obtain ⟨id, s₁, hid, h⟩ := h.of_call
  cases (amid_freshId _).symm.trans hid
  obtain ⟨saved, s₁, hsave, h⟩ := h.of_call
  obtain ⟨rfl, rfl⟩ := h.of_done
  by_cases hout : .save ∈ s.2.failing ++ s.1 2
  · cases (lapse_serve_of_mem hout _).symm.trans hsave
    rfl
  · cases (lapse_serve_of_not_mem hout _).symm.trans hsave
    rfl

theorem parked_of_runs_writer {r : SuspendRequest} {reply : Except Failure Unit}
    (h : amid.Runs s (Sink.writer botId conversationId version r) reply s') :
    s.2.Parked (reply.toOption.map fun _ =>
      .ofRequest s.2.nextId botId conversationId version s.2.clock r) s'.2 := by
  rw [world_of_runs_writer h]
  cases reply with
  | error failure => exact ⟨rfl, rfl, rfl, rfl, rfl, rfl, Nat.le_succ _, nofun⟩
  | ok _ => exact ⟨rfl, rfl, rfl, rfl, rfl, rfl, Nat.le_succ _, fun _ => rfl⟩

theorem parked_of_asked {asked : Except FlowError (Option SuspendRequest)}
    (h : Asked (.writer botId conversationId version) s s' asked) :
    s.2.Parked (asked.toOption.join.map
      (.ofRequest s.2.nextId botId conversationId version s.2.clock)) s'.2 := by
  cases h with
  | nothing htalked => exact htalked.parked
  | failed htalked => exact htalked.parked
  | kept htalked hruns =>
    have hparked := parked_of_runs_writer hruns
    rw [htalked.nextId, htalked.clock] at hparked
    exact htalked.trans_parked hparked
  | refused htalked hruns => exact htalked.trans_parked (parked_of_runs_writer hruns)

/-- A resumed run comes to its end, whichever calls fail. It has saved a record if it was suspended
again, and none if it failed. -/
theorem runs_resume_amid (flow : Flow) (node : String) (context : Context)
    (s : Outages × World) :
    ∃ r s', amid.Runs s
        (flow.execute settings (.writer botId conversationId version) (.resume node) context) r s' ∧
      s.2.Parked (r.toOption.bind
        (Suspension.ofRun s.2.nextId botId conversationId version s.2.clock)) s'.2 := by
  have honly : (flow.execute settings (.writer botId conversationId version) (.resume node)
      context).Only (fun c => ∀ ticket, c ≠ .await ticket) fun _ => True := by
    refine Flow.execute_only (fun _ c h => ?_) nofun (fun _ => nofun) _ _ _ _ _ _ _
    rintro ticket rfl
    exact h
  obtain ⟨r, s', hruns, -⟩ := Environment.exists_runs (fun _ s hc => amid_isSome s hc) honly s
  refine ⟨r, s', hruns, ?_⟩
  rw [Flow.execute_resume] at hruns
  obtain ⟨⟨context', result⟩, s₁, htraverse, hruns⟩ := hruns.of_bind
  obtain ⟨rfl, rfl⟩ := hruns.of_done
  have hparked := parked_of_asked (asked_traverse htraverse)
  rcases result with e | ⟨start, path, _ | _⟩ <;> exact hparked

theorem runs_resume (flow : Flow) (node : String) (context : Context) (w : World) :
    ∃ r w',
    w.Runs (flow.execute settings (.writer botId conversationId version) (.resume node) context)
        r w' ∧
      w.Parked (r.toOption.bind (Suspension.ofRun w.nextId botId conversationId version w.clock))
        w' := by
  obtain ⟨r, s', hruns, hparked⟩ := runs_resume_amid flow node context (.never, w)
  exact ⟨r, s'.2, runs_of_amid_never hruns, hparked⟩

/-- Nobody is at work: no sweep is under way, and no lock is held or waited for. -/
structure Quiet (w : World) : Prop where
  sweeping : w.sweeping = false
  queue : w.locks.queue = []

def hold (w : World) (key : String) : World :=
  { w with locks := (w.locks.take key).2.enqueue (w.locks.take key).1 }

theorem queue_take (locks : LockTable) (key : String) : (locks.take key).2.queue = locks.queue := by
  unfold LockTable.take
  split <;> rfl

theorem queue_forget (locks : LockTable) (key : String) :
    (locks.forget key).queue = locks.queue := by
  unfold LockTable.forget
  split
  · split <;> rfl
  · rfl

theorem queue_enqueue {locks : LockTable} (h : locks.queue = []) (ticket : Ticket) :
    (locks.enqueue ticket).queue = [ticket] := by
  simp [LockTable.enqueue, h]

def ticket (w : World) (key : String) : Ticket := (w.locks.take key).1

theorem runs_locked_of_holds_amid {α : Type} {s s₁ : Outages × World} {body : Activity α} {a : α}
    (hholds : (s.2.hold (lockKey botId conversationId)).locks.holds
      (s.2.ticket (lockKey botId conversationId)))
    (h : amid.Runs (s.1.later.later, s.2.hold (lockKey botId conversationId)) body a s₁) :
    amid.Runs s (Activity.locked botId conversationId body) a
      (s₁.1.later.later, { s₁.2 with
        locks := (s₁.2.locks.leave (s.2.ticket (lockKey botId conversationId))).forget
          (s.2.ticket (lockKey botId conversationId)).key }) := by
  have hawait : amid
      (s.1.later, { s.2 with locks := (s.2.locks.take (lockKey botId conversationId)).2 })
      (.await (s.2.ticket (lockKey botId conversationId))) =
        (some (), s.1.later.later, s.2.hold (lockKey botId conversationId)) :=
    Prod.ext (if_pos hholds) rfl
  exact .call rfl (.call hawait (h.bind (.call rfl (.call rfl (.done _ _)))))

theorem runs_locked_of_holds {α : Type} {w w₁ : World} {body : Activity α} {a : α}
    (hholds : (w.hold (lockKey botId conversationId)).locks.holds
      (w.ticket (lockKey botId conversationId)))
    (h : (w.hold (lockKey botId conversationId)).Runs body a w₁) :
    w.Runs (Activity.locked botId conversationId body) a
      { w₁ with
        locks := (w₁.locks.leave (w.ticket (lockKey botId conversationId))).forget
          (w.ticket (lockKey botId conversationId)).key } :=
  runs_of_amid_never (runs_locked_of_holds_amid (s := (.never, w)) hholds h.amid_never)

theorem perform_locked_of_not_holds {α : Type} {w : World}
    (hholds : ¬ (w.hold (lockKey botId conversationId)).locks.holds
      (w.ticket (lockKey botId conversationId)) = true)
    (body : Activity α) :
    ∃ rest, perform (Activity.locked botId conversationId body) w =
      (.waiting rest, w.hold (lockKey botId conversationId)) := by
  have hawait : { w with locks := (w.locks.take (lockKey botId conversationId)).2 }.answer
      (.await (w.ticket (lockKey botId conversationId))) =
        (none, w.hold (lockKey botId conversationId)) := Prod.ext (if_neg hholds) rfl
  have htake : w.answer (.takeTicket (lockKey botId conversationId)) =
      (some (w.ticket (lockKey botId conversationId)),
        { w with locks := (w.locks.take (lockKey botId conversationId)).2 }) := rfl
  exact ⟨_, (perform_of_answer htake).trans (perform_of_no_answer hawait)⟩

/-- Either the lock has to be waited for, or all that is done is done under it. -/
theorem locked_cases {α : Type} (w : World) (body : Activity α) (botId conversationId : String) :
    (∃ rest, perform (Activity.locked botId conversationId body) w =
      (.waiting rest, w.hold (lockKey botId conversationId))) ∨
    ∀ a w₁, (w.hold (lockKey botId conversationId)).Runs body a w₁ →
      ∃ locks, w.Runs (Activity.locked botId conversationId body) a { w₁ with locks } := by
  by_cases hholds :
      (w.hold (lockKey botId conversationId)).locks.holds (w.ticket (lockKey botId conversationId))
  · exact .inr fun a w₁ h => ⟨_, runs_locked_of_holds hholds h⟩
  · exact .inl (perform_locked_of_not_holds hholds body)

/-- Where nobody holds a lock it is taken at once, and nobody holds one afterwards. -/
theorem runs_locked_amid {α : Type} {s s₁ : Outages × World} {body : Activity α} {a : α}
    (hqueue : s.2.locks.queue = [])
    (h : amid.Runs (s.1.later.later, s.2.hold (lockKey botId conversationId)) body a s₁)
    (hlocks : s₁.2.locks = (s.2.hold (lockKey botId conversationId)).locks) :
    ∃ locks : LockTable, locks.queue = [] ∧
      amid.Runs s (Activity.locked botId conversationId body) a
        (s₁.1.later.later, { s₁.2 with locks }) := by
  have hheld : (s.2.hold (lockKey botId conversationId)).locks.queue =
      [s.2.ticket (lockKey botId conversationId)] :=
    queue_enqueue ((queue_take _ _).trans hqueue) _
  have hholds : (s.2.hold (lockKey botId conversationId)).locks.holds
      (s.2.ticket (lockKey botId conversationId)) := by
    rw [LockTable.holds, hheld]
    simp
  refine ⟨_, ?_, runs_locked_of_holds_amid hholds h⟩
  rw [queue_forget]
  show s₁.2.locks.queue.erase _ = []
  rw [hlocks, hheld, List.erase_cons_head]

theorem runs_locked {α : Type} {w w₁ : World} {body : Activity α} {a : α}
    (hqueue : w.locks.queue = []) (h : (w.hold (lockKey botId conversationId)).Runs body a w₁)
    (hlocks : w₁.locks = (w.hold (lockKey botId conversationId)).locks) :
    ∃ locks : LockTable, locks.queue = [] ∧
      w.Runs (Activity.locked botId conversationId body) a { w₁ with locks } := by
  obtain ⟨locks, hempty, hruns⟩ := runs_locked_amid (s := (.never, w)) hqueue h.amid_never hlocks
  exact ⟨locks, hempty, runs_of_amid_never hruns⟩

end World

end ChatFlow
