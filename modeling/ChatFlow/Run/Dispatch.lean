import ChatFlow.Run.Engine
import ChatFlow.Trigger

namespace ChatFlow

inductive DispatchError
  | failure (f : Failure)
  | flow (e : FlowError)
  deriving DecidableEq

structure SweepReport where
  /-- records whose runs went on and that were removed -/
  resumed : Nat
  /-- records that stay for the next sweep -/
  failed : Nat
  /-- records removed because their bot runs no flow -/
  discarded : Nat
  /-- another sweep was under way, and nothing was done -/
  skipped : Bool
  deriving DecidableEq, Repr

def SweepReport.zero : SweepReport := ⟨0, 0, 0, false⟩

namespace Dispatch

/-- The result of a message or a tick: a run, if there was one. -/
abbrev Result := Except DispatchError (Option FlowRun)

def noRun : Result := .ok none

def failed (f : Failure) : Result := .error (.failure f)

def isTakenOver (conversationId : String) : Activity (Except Failure Bool) := do
  let found ← Activity.ask (.getConversation conversationId)
  return found.map fun found => found.any (·.status? == some .humanTakeover)

def runFlow (settings : Settings) (botId conversationId : String) (active : ActiveFlow)
    (event : Event) (context : Context) : Activity Result :=
  Activity.locked botId conversationId do
    let result ← active.flow.execute settings (.writer botId conversationId active.version)
        event context
    return (result.map some).mapError .flow

def messageContext (conversationId : String) (extra : Option Json) : Context :=
  match extra with
  | some (.object fields) => (Context.ofChannel conversationId).seed Context.meta_ fields
  | _ => .ofChannel conversationId

/-- Takes in a message. It is appended in any case; the bot's flow runs unless a human has the
conversation or no trigger lets the message through. -/
def message (settings : Settings) (botId conversationId text : String) (extra : Option Json) :
    Activity Result := do
  let now ← Activity.ask .now
  match ← isTakenOver conversationId with
  | .error f => return failed f
  | .ok takenOver =>
    match ← Activity.ask (.append conversationId (.incoming text now extra)) with
    | .error f => return failed f
    | .ok () =>
      if takenOver then
        match ← Activity.ask (.touch conversationId now) with
        | .error f => return failed f
        | .ok () => return noRun
      else
        match ← Activity.ask (.setStatus conversationId .active now) with
        | .error f => return failed f
        | .ok () =>
          match ← Activity.ask (.activeFlow botId) with
          | none => return noRun
          | some active =>
            if active.flow.accepts text then
              runFlow settings botId conversationId active (.newMessage text)
                (messageContext conversationId extra)
            else return noRun

/-- The context in which a tick starts a flow: the given contact, with the conversation as its
channel. -/
def tickContext (conversationId : String) (contact : Keyed Json) : Context :=
  (Context.empty.seed Context.contact contact).set
    (Context.contact ++ "." ++ Context.channelField) (.text conversationId)

/-- Runs the bot's flow on a schedule unless a human has the conversation. -/
def tick (settings : Settings) (botId conversationId : String) (contact : Keyed Json) :
    Activity Result := do
  match ← isTakenOver conversationId with
  | .error f => return failed f
  | .ok true => return noRun
  | .ok false =>
    match ← Activity.ask (.activeFlow botId) with
    | none => return noRun
    | some active =>
      runFlow settings botId conversationId active .scheduled (tickContext conversationId contact)

def release (conversationId : String) : Activity (Except Failure Unit) := do
  let now ← Activity.ask .now
  Activity.ask (.setStatus conversationId .active now)

/-- Removes the paused runs of a bot's conversation and says how many there were. -/
def cancel (botId conversationId : String) : Activity (Except Failure Nat) :=
  Activity.locked botId conversationId (Activity.ask (.cancel botId conversationId))

inductive Resumption
  | resumed
  | failed
  | discarded
  /-- the record is no longer there -/
  | gone
  deriving DecidableEq, Repr

def Resumption.count (r : Resumption) (report : SweepReport) : SweepReport :=
  match r with
  | resumed => { report with resumed := report.resumed + 1 }
  | failed => { report with failed := report.failed + 1 }
  | discarded => { report with discarded := report.discarded + 1 }
  | gone => report

def remove (record : Suspension) (success : Resumption) : Activity Resumption := do
  match ← Activity.ask (.delete record.id) with
  | .ok _ => return success
  | .error _ => return .failed

/-- Lets the run of a record go on, on the flow that its bot runs by now. -/
def resume (settings : Settings) (record : Suspension) : Activity Resumption := do
  match ← Activity.ask (.activeFlow record.botId) with
  | none => remove record .discarded
  | some active =>
    let sink := Sink.writer record.botId record.conversationId active.version
    match ← active.flow.execute settings sink (.resume record.nodeId) record.context with
    | .ok _ => remove record .resumed
    | .error _ => return .failed

def reclaim (settings : Settings) (now : Instant) (queued : Suspension) : Activity Resumption := do
  match ← Activity.ask (.pending queued.botId queued.conversationId) with
  | .error _ => return .failed
  | .ok records =>
    match records.find? (·.id == queued.id) with
    | none => return .gone
    | some record => if record.isDue now then resume settings record else return .gone

/-- Deals with records one after the other, each under the lock of its conversation. -/
def sweepAll (settings : Settings) (now : Instant) :
    SweepReport → List Suspension → Activity SweepReport
  | report, [] => return report
  | report, queued :: rest => do
    let r ← Activity.locked queued.botId queued.conversationId (reclaim settings now queued)
    sweepAll settings now (r.count report) rest

/-- Resumes what is due, up to a number of records, unless a sweep is under way. -/
def sweep (settings : Settings) (batch : Nat) : Activity (Except Failure SweepReport) := do
  if ← Activity.ask .tryGate then
    let now ← Activity.ask .now
    match ← Activity.ask (.loadDue now (max batch 1)) with
    | .error f =>
      Activity.ask .leaveGate
      return .error f
    | .ok due =>
      let report ← sweepAll settings now .zero due
      Activity.ask .leaveGate
      return .ok report
  else return .ok { SweepReport.zero with skipped := true }

end Dispatch

end ChatFlow
