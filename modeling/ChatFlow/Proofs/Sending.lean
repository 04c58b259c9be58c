import ChatFlow.Proofs.Logs
import ChatFlow.Proofs.Traversal
import ChatFlow.Proofs.Turn

namespace ChatFlow

open World

open ChatFlow.Flow (Index)

/-- The circumstances in which something is tried: the time, and the operations that are out of
service. -/
structure Circumstances where
  clock : Instant
  failing : List Operation

namespace World

def circumstances (w : World) : Circumstances := ⟨w.clock, w.failing⟩

def under (w : World) (o : Circumstances) : World :=
  { w with clock := o.clock, failing := o.failing }

def appended (w : World) (id : String) (m : Message) : World :=
  { w with conversations := w.conversations.append id m }

/-- Tries an activity again and again, each time in the next circumstances. -/
def retry {α : Type} (x : Instant → Activity α) : World → List Circumstances →
    List (Option α) × World
  | w, [] => ([], w)
  | w, o :: os =>
    let (first, w₁) := (w.under o).attempt (x o.clock)
    let (others, w₂) := retry x w₁ os
    (first :: others, w₂)

end World

namespace Node

def message (node : Node) (context : Context) (now : Instant) : Message :=
  .outgoing (node.wordOr "type" "text") (Template.applyValue context (node.field? "text")) now

/-- What a send that fails leaves in the log of a conversation. -/
def leftover (node : Node) (context : Context) (o : Circumstances) (c : String) : List Message :=
  if node.refusal? = none ∧ context.channel? = some c ∧ .append ∉ o.failing ∧
      .touch ∈ o.failing then
    [node.message context o.clock]
  else []

variable {settings : Settings} {sink : Sink} {node : Node} {context : Context} {channel : String}
    {w w' : World}

theorem run_of_channel (hkind : node.kind = .sendMessage) (hrefusal : node.refusal? = none) :
    node.run settings sink context = node.sendMessage context := by
  simp only [run, hrefusal, handle, hkind]

/-- Where the message cannot be appended, nothing happens. -/
theorem runs_of_append_failing (hchannel : context.channel? = some channel)
    (happend : .append ∈ w.failing) :
    w.Runs (node.sendMessage context) (.error (.store node.id (.unavailable "append"))) w := by
  rw [sendMessage, hchannel]
  exact runs_call rfl (runs_call (serve_of_mem w happend _) (runs_done _ _))

/-- Where only the conversation cannot be touched, the message stays. -/
theorem runs_of_touch_failing (hchannel : context.channel? = some channel)
    (happend : .append ∉ w.failing) (htouch : .touch ∈ w.failing) :
    w.Runs (node.sendMessage context) (.error (.store node.id (.unavailable "touch")))
      (w.appended channel (node.message context w.clock)) := by
  have htouched :
      (w.appended channel (node.message context w.clock)).answer (.touch channel w.clock) =
      (some (.error (.unavailable "touch")), w.appended channel (node.message context w.clock)) :=
    serve_of_mem (w.appended channel _) htouch _
  rw [sendMessage, hchannel]
  exact runs_call rfl
    (runs_call (serve_of_not_mem w happend _) (runs_call htouched (runs_done _ _)))

theorem not_runs_error_of_serving (hchannel : context.channel? = some channel)
    (happend : .append ∉ w.failing) (htouch : .touch ∉ w.failing) {e : FlowError} :
    ¬ w.Runs (node.sendMessage context) (.error e) w' := by
  have htouched :
      (w.appended channel (node.message context w.clock)).answer (.touch channel w.clock) =
      (some (.ok ()), _) := serve_of_not_mem (w.appended channel _) htouch _
  rw [sendMessage, hchannel]
  intro h
  have hpass := h.unique
    (runs_call rfl (runs_call (serve_of_not_mem w happend _) (runs_call htouched (runs_done _ _))))
  cases hpass.1

theorem gains_of_run_error (hkind : node.kind = .sendMessage) {e : FlowError}
    (h : w.Runs (node.run settings sink context) (.error e) w') :
    (.append ∈ w.failing ∨ .touch ∉ w.failing → w'.conversations = w.conversations) ∧
      ∀ c, w.conversations.Gains c (node.leftover context w.circumstances c) w'.conversations := by
  by_cases hrefusal : node.refusal? = none
  · rw [run_of_channel hkind hrefusal] at h
    cases hchannel : context.channel? with
    | none =>
      rw [sendMessage, hchannel] at h
      cases h.of_done.1
    | some channel =>
    by_cases happend : .append ∈ w.failing
    · obtain ⟨-, rfl⟩ := (runs_of_append_failing hchannel happend).unique h
      refine ⟨fun _ => rfl, fun c => ?_⟩
      rw [leftover, if_neg (by simp [circumstances, happend])]
      exact .refl c _
    by_cases htouch : .touch ∈ w.failing
    · obtain ⟨-, rfl⟩ := (runs_of_touch_failing hchannel happend htouch).unique h
      refine ⟨fun hor => absurd htouch (hor.resolve_left happend), fun c => ?_⟩
      have hgains := w.conversations.gains_append channel c (node.message context w.clock)
      simpa [leftover, circumstances, appended, hrefusal, hchannel, happend, htouch] using hgains
    · exact absurd h (not_runs_error_of_serving hchannel happend htouch)
  · -- a node that is refused calls for nothing
    obtain ⟨refused, hrefused⟩ := Option.ne_none_iff_exists'.mp hrefusal
    rw [run_of_refused hrefused] at h
    obtain ⟨-, rfl⟩ := h.of_done
    refine ⟨fun _ => rfl, fun c => ?_⟩
    rw [leftover, if_neg (by simp [hrefusal])]
    exact .refl c _

/-- A send on a channel fails where one of its calls does, and changes nothing but logs. -/
theorem exists_runs_error (hkind : node.kind = .sendMessage) (hrefusal : node.refusal? = none)
    (hchannel : context.channel? = some channel)
    (hfailing : .append ∈ w.failing ∨ .touch ∈ w.failing) :
    ∃ e w', w.Runs (node.run settings sink context) (.error e) w' ∧ w'.suspensions = w.suspensions ∧
      w'.registry = w.registry := by
  rw [run_of_channel hkind hrefusal]
  by_cases happend : .append ∈ w.failing
  · exact ⟨_, w, runs_of_append_failing hchannel happend, rfl, rfl⟩
  · exact ⟨_, _, runs_of_touch_failing hchannel happend (hfailing.resolve_left happend), rfl, rfl⟩

end Node

namespace Flow

/-- From a node on, a traversal comes to another one by visits that call for nothing, and there in a
context. -/
inductive Reaches (settings : Settings) (sink : Sink) (index : Index) (last : Node)
    (there : Context) :
    (room : Nat) → (resuming : Bool) → (id : String) → Context → Prop
  | here {room : Nat} : index.node? last.id = some last →
    Reaches settings sink index last there (room + 1) false last.id there
  | step {room : Nat} {resuming : Bool} {node : Node} {context context' : Context} {handle : Handle}
    {target : String} :
    index.node? node.id = some node →
    node.visit settings sink resuming context = .done (.ok (.proceed handle, context')) →
    next settings.policy index node.id handle = .node target →
    Reaches settings sink index last there room false target context' →
    Reaches settings sink index last there (room + 1) resuming node.id context

variable {settings : Settings} {sink : Sink} {index : Index} {last : Node} {context there : Context}
    {room : Nat}
  {resuming : Bool} {id : String} {w w' : World} {e : FlowError}

/-- A traversal that comes to a node fails where the node does. -/
theorem Reaches.runs_traverse_error
    (h : Reaches settings sink index last there room resuming id context) (hlast : w.Runs
      (last.run settings sink there) (.error e) w') (start : String) (path : List String) :
    w.Runs (traverse settings sink index start room resuming path context id)
      (there, .error e) w' := by
  induction h generalizing path with
  | here hnode =>
    rw [traverse_of_node? hnode]
    exact Runs.bind hlast (runs_done _ _)
  | step hnode hvisit hnext _ ih =>
    rw [traverse_of_node? hnode, hvisit, Activity.done_bind, goOn, hnext]
    exact ih _

theorem Reaches.runs_execute_error {flow : Flow} {start : String}
    (h : Reaches settings sink (Index.ofFlow flow) last there settings.limit true start context)
    (hlast : w.Runs (last.run settings sink there) (.error e) w') :
    w.Runs (flow.execute settings sink (.resume start) context) (.error e) w' := by
  rw [execute_resume]
  exact (h.runs_traverse_error hlast start []).bind (runs_done _ _)

end Flow

namespace Dispatch

/-- The run of a paused record comes to a node that sends, and there in a context: to get there it
calls for nothing. -/
structure ComesToSend (settings : Settings) (w : World) (queued record : Suspension)
    (active : ActiveFlow) (node : Node) (context : Context) : Prop where
  found : (w.suspensions.pending queued.botId queued.conversationId).find? (·.id == queued.id) =
    some record
  running : w.registry.active? queued.botId = some active
  reaches : Flow.Reaches settings (.writer record.botId record.conversationId active.version)
    (Index.ofFlow active.flow) node context settings.limit true record.nodeId record.context
  kind : node.kind = .sendMessage
  accepted : node.refusal? = none
  channel : context.channel? ≠ none

variable {settings : Settings} {node : Node} {context : Context} {queued record : Suspension}
  {active : ActiveFlow} {w w' : World} {o : Circumstances}

theorem ComesToSend.of_unchanged (h : ComesToSend settings w queued record active node context)
    (hsuspensions : w'.suspensions = w.suspensions) (hregistry : w'.registry = w.registry) :
    ComesToSend settings w' queued record active node context :=
  ⟨hsuspensions ▸ h.found, hregistry ▸ h.running, h.reaches, h.kind, h.accepted, h.channel⟩

/-- What one more try to resume the record leaves in the log of a conversation. -/
def left (node : Node) (context : Context) (c : String) (o : Circumstances) : List Message :=
  if .pending ∈ o.failing then [] else node.leftover context o c

/-- A try that does not get over the send leaves the record where it is, and in the logs what the
send has left. -/
theorem ComesToSend.exists_runs_failed
    (h : ComesToSend settings w queued record active node context)
    (hdue : record.isDue o.clock = true) (hfailing : .append ∈ o.failing ∨ .touch ∈ o.failing) :
    ∃ w', (w.under o).Runs (reclaim settings o.clock queued) .failed w' ∧
      w'.suspensions = w.suspensions ∧
      w'.registry = w.registry ∧
        ∀ c, w.conversations.Gains c (left node context c o) w'.conversations := by
  let t : Turn := ⟨queued, o.clock, w.under o⟩
  by_cases hpending : .pending ∈ o.failing
  · refine ⟨w.under o, t.runs_reclaim_of_failing (List.contains_iff_mem.mpr hpending), rfl, rfl,
      fun c => ?_⟩
    rw [left, if_pos hpending]
    exact .refl c _
  · have hrecord : t.record? = some record := by
      have hserved : ¬ t.world.failing.contains .pending = true :=
        fun h => hpending (List.contains_iff_mem.mp h)
      rw [Turn.record?, if_neg hserved]
      exact Option.filter_eq_some_iff.mpr ⟨h.found, hdue⟩
    obtain ⟨channel, hchannel⟩ := Option.ne_none_iff_exists'.mp h.channel
    obtain ⟨e, w', hsend, hsuspensions, hregistry⟩ :=
      @Node.exists_runs_error settings (.writer record.botId record.conversationId active.version)
        node context channel
        (w.under o) h.kind h.accepted hchannel hfailing
    have hcourse := h.reaches.runs_execute_error hsend
    refine ⟨w', Turn.runs_reclaim_of_some hrecord
      (Turn.runs_resume_of_some hrecord h.running hcourse ⟨rfl, rfl⟩),
      hsuspensions, hregistry, fun c => ?_⟩
    rw [left, if_neg hpending]
    exact (Node.gains_of_run_error h.kind hsend).2 c

/-- Tries that all fail at the send leave a copy of the message each time it was appended. -/
theorem ComesToSend.retry (h : ComesToSend settings w queued record active node context)
    (os : List Circumstances)
    (hos : ∀ o ∈ os, record.isDue o.clock = true ∧ (.append ∈ o.failing ∨ .touch ∈ o.failing)) :
    (w.retry (reclaim settings · queued) os).1 = os.map (fun _ => some .failed) ∧
      (w.retry (reclaim settings · queued) os).2.suspensions = w.suspensions ∧
      ∀ c, w.conversations.Gains c (os.flatMap (left node context c))
        (w.retry (reclaim settings · queued) os).2.conversations := by
  induction os generalizing w with
  | nil => exact ⟨rfl, rfl, fun c => .refl c _⟩
  | cons o os ih =>
    -- the first try leaves store and registry as they are, so that the record comes to the send
    -- again in the next
    obtain ⟨⟨hdue, hfailing⟩, hos⟩ := List.forall_mem_cons.mp hos
    obtain ⟨w', hruns, hsuspensions, hregistry, hgains⟩ := h.exists_runs_failed hdue hfailing
    obtain ⟨hresults, hsuspensions', hgains'⟩ := ih (h.of_unchanged hsuspensions hregistry) hos
    rw [World.retry, hruns.attempt]
    refine ⟨congrArg (some .failed :: ·) hresults, hsuspensions'.trans hsuspensions, fun c => ?_⟩
    exact (hgains c).trans (hgains' c)

/-- A send that fails leaves every log as it was, unless its message was appended and the
conversation could not be touched: then the log of its channel has this message more, and every
other log is as it was. So a paused run that comes to the send, and fails there however often it is
resumed, stays where it is and delivers the message each time it was appended. -/
theorem failed_sends_leave (settings : Settings) (node : Node) (context : Context)
    (hkind : node.kind = .sendMessage) :
    (∀ (sink : Sink) (w w' : World) (e : FlowError),
      w.Runs (node.run settings sink context) (.error e) w' →
      (.append ∈ w.failing ∨ .touch ∉ w.failing → w'.conversations = w.conversations) ∧
      ∀ c, w.conversations.Gains c (node.leftover context w.circumstances c) w'.conversations) ∧
    ∀ (w : World) (queued record : Suspension) (active : ActiveFlow) (os : List Circumstances),
      ComesToSend settings w queued record active node context →
      (∀ o ∈ os, record.isDue o.clock = true ∧ (.append ∈ o.failing ∨ .touch ∈ o.failing)) →
      (w.retry (reclaim settings · queued) os).1 = os.map (fun _ => some .failed) ∧
        (w.retry (reclaim settings · queued) os).2.suspensions = w.suspensions ∧
        ∀ c, w.conversations.Gains c (os.flatMap (left node context c))
          (w.retry (reclaim settings · queued) os).2.conversations :=
  ⟨fun _ _ _ _ => Node.gains_of_run_error hkind, fun _ _ _ _ os h => h.retry os⟩

def question : Node := ⟨"remind", .sendMessage, [("text", .text "Are you still there?")]⟩

def pause : Node := ⟨"wait", .delay, [("ms", .ofNat 60)]⟩

def checkIn : Flow where
  nodes := [pause, question]
  edges := [⟨none, "wait", "remind", none⟩]

/-- A run of it that has waited for a minute since nine o'clock. -/
def pausedCheckIn : Suspension :=
  ⟨⟨1⟩, "bot", "5511", "v1", "wait", .ofChannel "5511", ⟨1893488460, 0⟩, ⟨1893488400, 0⟩⟩

def checkInDue : World :=
  { World.start ⟨1893488460, 0⟩ (.memory []) (.memory [pausedCheckIn]) ⟨2⟩ with
    registry := Registry.empty.install "bot" (.ofFlow "v1" checkIn) }

/-- Twice within two minutes, conversations cannot be touched. -/
def outage : List Circumstances := [⟨⟨1893488460, 0⟩, [.touch]⟩, ⟨⟨1893488520, 0⟩, [.touch]⟩]

theorem failed_sends_leave_checkIn :
    question.kind = .sendMessage ∧
      ComesToSend ⟨.strict, 10, 15000⟩ checkInDue pausedCheckIn pausedCheckIn
        (.ofFlow "v1" checkIn) question
        (.ofChannel "5511") ∧
      checkInDue.conversations.Gains "5511"
        [question.message (.ofChannel "5511") ⟨1893488460, 0⟩,
          question.message (.ofChannel "5511") ⟨1893488520, 0⟩]
        (checkInDue.retry (reclaim ⟨.strict, 10, 15000⟩ · pausedCheckIn)
          outage).2.conversations := by
  have hcomes : ComesToSend ⟨.strict, 10, 15000⟩ checkInDue pausedCheckIn pausedCheckIn
      (.ofFlow "v1" checkIn) question
      (.ofChannel "5511") := by
    have hpause : (Index.ofFlow checkIn).node? pause.id = some pause := rfl
    have hquestion : (Index.ofFlow checkIn).node? question.id = some question := rfl
    have hreaches : Flow.Reaches ⟨.strict, 10, 15000⟩ (.writer "bot" "5511" "v1")
        (Index.ofFlow checkIn) question
        (.ofChannel "5511") (8 + 1 + 1) true pause.id (.ofChannel "5511") :=
      .step hpause rfl rfl (.here hquestion)
    exact ⟨by decide +kernel, rfl, hreaches, rfl, by decide +kernel, by decide +kernel⟩
  have hfailed := failed_sends_leave ⟨.strict, 10, 15000⟩ question (.ofChannel "5511") rfl
  obtain ⟨-, -, hgains⟩ :=
    hfailed.2 checkInDue pausedCheckIn pausedCheckIn (.ofFlow "v1" checkIn) outage hcomes
      (by decide +kernel)
  have hleft : outage.flatMap (left question (.ofChannel "5511") "5511") =
      [question.message (.ofChannel "5511") ⟨1893488460, 0⟩,
        question.message (.ofChannel "5511") ⟨1893488520, 0⟩] := by
    decide +kernel
  exact ⟨rfl, hcomes, hleft ▸ hgains "5511"⟩

/-- The send reports a failure and has delivered its message, and so has every further try. -/
theorem not_undelivered_checkIn :
    checkInDue.conversations.outgoing "5511" = [] ∧
      ((checkInDue.under ⟨⟨1893488460, 0⟩, [.touch]⟩).attempt
        (question.run ⟨.strict, 10, 15000⟩ .collector (.ofChannel "5511"))).1 =
        some (.error (.store "remind" (.unavailable "touch"))) ∧
      ((checkInDue.under ⟨⟨1893488460, 0⟩, [.touch]⟩).attempt
        (question.run ⟨.strict, 10, 15000⟩ .collector (.ofChannel "5511"))).2.conversations.outgoing
          "5511" =
        [("text", "Are you still there?")] ∧
      (checkInDue.retry (reclaim ⟨.strict, 10, 15000⟩ · pausedCheckIn) outage).1 =
        [some .failed, some .failed] ∧
      (checkInDue.retry (reclaim ⟨.strict, 10, 15000⟩ · pausedCheckIn)
        outage).2.conversations.outgoing "5511" =
        [("text", "Are you still there?"), ("text", "Are you still there?")] := by
  refine ⟨by decide +kernel, ?_, by decide +kernel, by decide +kernel, by decide +kernel⟩
  with_unfolding_all rfl

end Dispatch

end ChatFlow
