import ChatFlow.Proofs.Pausing
import ChatFlow.Proofs.Suspensions
import ChatFlow.Run.Dispatch

namespace ChatFlow

open World

namespace Dispatch

/-- The turn of a record that was loaded at some time, in the world in which the lock of its
conversation was taken. -/
structure Turn where
  queued : Suspension
  now : Instant
  world : World

namespace Turn

/-- The record as it is by now, if it can be read again and is due. -/
def record? (t : Turn) : Option Suspension :=
  if t.world.failing.contains .pending then none
  else ((t.world.suspensions.pending t.queued.botId t.queued.conversationId).find?
    (·.id == t.queued.id)).filter (·.isDue t.now)

def active? (t : Turn) : Option ActiveFlow := t.world.registry.active? t.queued.botId

def course (settings : Settings) (record : Suspension) (active : ActiveFlow) :
    Activity (Except FlowError FlowRun) :=
  active.flow.execute settings (.writer record.botId record.conversationId active.version)
    (.resume record.nodeId) record.context

def course? (settings : Settings) (t : Turn) : Option (Activity (Except FlowError FlowRun)) :=
  t.record?.bind fun record => t.active?.map (course settings record)

def resumption? (settings : Settings) (t : Turn) : Option (Except FlowError FlowRun) :=
  (t.course? settings).bind fun x => (t.world.attempt x).1

def after (settings : Settings) (t : Turn) : World :=
  (t.course? settings).elim t.world fun x => (t.world.attempt x).2

def saved? (settings : Settings) (t : Turn) : Option Suspension :=
  t.record?.bind fun record => t.active?.bind fun active =>
    (t.resumption? settings).bind fun result =>
    result.toOption.bind
      (Suspension.ofRun t.world.nextId record.botId record.conversationId active.version
        t.world.clock)

variable {settings : Settings} {t : Turn} {record : Suspension}

theorem botId_of_record? (h : t.record? = some record) : record.botId = t.queued.botId := by
  unfold record? at h
  split at h
  · cases h
  · have hfound := (Option.filter_eq_some_iff.mp h).1
    exact (SuspensionStore.owner_of_mem_pending (List.mem_of_find?_eq_some hfound)).1

theorem runs_reclaim_of_failing (h : t.world.failing.contains .pending = true) :
    t.world.Runs (reclaim settings t.now t.queued) .failed t.world :=
  runs_call (if_pos h) rfl

/-- A record that is not there any more, or not due any more, is passed over. -/
theorem runs_reclaim_of_none (hpending : ¬ t.world.failing.contains .pending = true)
    (h : t.record? = none) : t.world.Runs (reclaim settings t.now t.queued) .gone t.world := by
  have hanswer : t.world.answer (.pending t.queued.botId t.queued.conversationId) =
      (some (.ok (t.world.suspensions.pending t.queued.botId t.queued.conversationId)), t.world) :=
    if_neg hpending
  rw [record?, if_neg hpending] at h
  refine runs_call hanswer ?_
  cases hfound : (t.world.suspensions.pending t.queued.botId t.queued.conversationId).find?
      (·.id == t.queued.id) with
  | none =>
    simp only [Activity.done_bind, hfound]
    rfl
  | some record =>
    rw [hfound, Option.filter_eq_none_iff] at h
    simp only [Activity.done_bind, hfound, h record rfl]
    rfl

theorem runs_reclaim_of_some (h : t.record? = some record) {r : Resumption} {w' : World}
    (hruns : t.world.Runs (resume settings record) r w') :
    t.world.Runs (reclaim settings t.now t.queued) r w' := by
  unfold record? at h
  split at h
  · cases h
  · next hpending =>
    have hanswer : t.world.answer (.pending t.queued.botId t.queued.conversationId) =
        (some (.ok (t.world.suspensions.pending t.queued.botId t.queued.conversationId)),
          t.world) :=
      if_neg hpending
    obtain ⟨hfound, hdue⟩ := Option.filter_eq_some_iff.mp h
    refine runs_call hanswer ?_
    simpa only [Activity.done_bind, hfound, hdue, if_pos] using hruns

theorem runs_resume_of_none (hrecord : t.record? = some record) (hactive : t.active? = none)
    {r : Resumption} {w' : World} (hruns : t.world.Runs (remove record .discarded) r w') :
    t.world.Runs (resume settings record) r w' := by
  rw [active?, ← botId_of_record? hrecord] at hactive
  have hanswer : t.world.answer (.activeFlow record.botId) = (some none, t.world) :=
    congrArg (fun active => (some active, t.world)) hactive
  exact runs_call hanswer hruns

/-- The run goes on, and behind it the record is removed if nothing went wrong. -/
theorem runs_resume_of_some {active : ActiveFlow} (hrecord : t.record? = some record)
    (hactive : t.active? = some active) {result : Except FlowError FlowRun} {w₁ w' : World}
    {r : Resumption} (hcourse : t.world.Runs (course settings record active) result w₁)
    (hruns : match result with
      | .ok _ => w₁.Runs (remove record .resumed) r w'
      | .error _ => r = .failed ∧ w' = w₁) :
    t.world.Runs (resume settings record) r w' := by
  rw [active?, ← botId_of_record? hrecord] at hactive
  have hanswer : t.world.answer (.activeFlow record.botId) = (some (some active), t.world) :=
    congrArg (fun active => (some active, t.world)) hactive
  refine runs_call hanswer (hcourse.bind ?_)
  cases result with
  | error e =>
    obtain ⟨rfl, rfl⟩ := hruns
    exact runs_done _ _
  | ok run => exact hruns

theorem course?_of_some {active : ActiveFlow} (hrecord : t.record? = some record)
    (hactive : t.active? = some active) :
    t.course? settings = some (course settings record active) := by
  rw [course?, hrecord, Option.bind_some, hactive, Option.map_some]

end Turn

def take (settings : Settings) (now : Instant) (queued : Suspension) : Activity Resumption :=
  Activity.locked queued.botId queued.conversationId (reclaim settings now queued)

/-- The turns of records, each in the world that the turns before it have left. They end where a
lock cannot be taken. -/
def turns (settings : Settings) (now : Instant) : World → List Suspension → List Turn
  | _, [] => []
  | w, queued :: rest =>
    match perform (take settings now queued) w with
    | (.finished _, w') =>
      ⟨queued, now, w.hold (lockKey queued.botId queued.conversationId)⟩ ::
        turns settings now w' rest
    | (.waiting _, _) => []

def loaded (batch : Nat) (w : World) : List Suspension :=
  (w.suspensions.due w.clock (max batch 1)).1

def afterLoading (batch : Nat) (w : World) : World :=
  { w with sweeping := true, suspensions := (w.suspensions.due w.clock (max batch 1)).2 }

/-- The turns of a sweep; none if another sweep is under way or nothing can be loaded. -/
def sweepTurns (settings : Settings) (batch : Nat) (w : World) : List Turn :=
  if w.sweeping || w.failing.contains .loadDue then []
  else turns settings w.clock (afterLoading batch w) (loaded batch w)

theorem turns_cons {settings : Settings} {now : Instant} {w w' : World} {queued : Suspension}
    {r : Resumption} (h : w.Runs (take settings now queued) r w') (rest : List Suspension) :
    turns settings now w (queued :: rest) =
      ⟨queued, now, w.hold (lockKey queued.botId queued.conversationId)⟩ ::
        turns settings now w' rest := by
  rw [turns, show perform (take settings now queued) w = (.finished r, w') from h]

end Dispatch

end ChatFlow
