import ChatFlow.Proofs.Exclusion
import ChatFlow.Run.Dispatch

namespace ChatFlow

open Crowd (Follows)

inductive Section (β ρ : Type)
  | asking
  | waiting (t : Ticket)
  | inside (t : Ticket) (b : β)
  /-- the lock was given up, and its table may forget it -/
  | parting (key : String) (r : ρ)

namespace Section

variable {σ α β ρ : Type}

/-- What comes next: `body` tells what is done under the lock, from `first` on, `embed` where each
place leads, and `done` where the result does. -/
def view (key : String) (first : β) (body : β → Move β ρ) (embed : Section β ρ → σ) (done : ρ → σ) :
    Section β ρ → Move σ α
  | asking => .ask (.takeTicket key) fun t => embed (waiting t)
  | waiting t => .ask (.await t) fun _ => embed (inside t first)
  | inside t b =>
    match body b with
    | .ask c next => .ask c fun answer => embed (inside t (next answer))
    | .rest r => .ask (.leave t) fun _ => embed (parting t.key r)
  | parting key r => .ask (.forget key) fun _ => done r

def claim : Section β ρ → Claim
  | asking | parting _ _ => .none
  | waiting t => .waiting t
  | inside t _ => .holding t

def body? : Section β ρ → Option β
  | inside _ b => some b
  | _ => none

def Keyed (key : String) (s : Section β ρ) : Prop := ∀ t, s.claim.ticket? = some t → t.key = key

variable {key : String} {first : β} {body : β → Move β ρ} {embed : Section β ρ → σ} {done : ρ → σ}
  {s : Section β ρ} {c : Call} {next : c.Answer → σ}

theorem follows_locked {botId conversationId : String} {view : σ → Move σ α} {x : Activity ρ}
    {k : ρ → Activity α}
    (hview : ∀ s, view (embed s) = s.view (lockKey botId conversationId) first body embed done)
    (hbody : Follows body first x) (hdone : ∀ r, Follows view (done r) (k r)) :
    Follows view (embed asking) ((Activity.locked botId conversationId x).bind k) := by
  refine .ask (hview asking) fun t => .ask (hview (waiting t)) fun _ => ?_
  show Follows _ _ ((x.bind _).bind k)
  rw [Activity.bind_assoc]
  refine hbody.bind (f := fun b => embed (inside t b)) ?_ ?_
  · intro b c next hb
    rw [hview]
    simp only [Section.view, hb]
  · intro b r hb
    refine .ask ?_ fun _ => .ask (hview (parting t.key r)) fun _ => hdone r
    rw [hview]
    simp only [Section.view, hb]

/-- Where nothing under the lock touches locks, the lock is taken, waited for and given up in
turn. -/
theorem leads {claimOf : σ → Claim}
    (h : (s.view key first body embed done : Move σ α) = .ask c next)
    (hembed : ∀ s, claimOf (embed s) = s.claim) (hdone : ∀ r, claimOf (done r) = .none)
    (hbody : ∀ b ∈ s.body?, ∀ c next, body b = .ask c next → ¬ c.IsClaim) (answer : c.Answer) :
    s.claim.Leads c answer (claimOf (next answer)) := by
  cases s with
  | asking =>
    cases h
    rw [hembed]
    exact .take key answer
  | waiting t =>
    cases h
    rw [hembed]
    exact .grant t
  | inside t b =>
    unfold view at h
    dsimp only at h
    split at h
    · next c' next' hb =>
      cases h
      rw [hembed]
      exact .stay (hbody b rfl _ _ hb)
    · cases h
      rw [hembed]
      exact .leave t
  | parting key r =>
    cases h
    rw [hdone]
    exact .stay id

/-- Where nothing under the lock touches the gate, it is passed in neither direction. -/
theorem passes {inside : σ → Bool} {behind : Bool}
    (h : (s.view key first body embed done : Move σ α) = .ask c next)
    (hembed : ∀ s, inside (embed s) = behind) (hdone : ∀ r, inside (done r) = behind)
    (hbody : ∀ b ∈ s.body?, ∀ c next, body b = .ask c next → c ≠ .tryGate ∧ c ≠ .leaveGate)
    (answer : c.Answer) :
    Passes behind c answer (inside (next answer)) := by
  cases s with
  | asking =>
    cases h
    rw [hembed]
    exact .stay nofun nofun
  | waiting t =>
    cases h
    rw [hembed]
    exact .stay nofun nofun
  | inside t b =>
    unfold view at h
    dsimp only at h
    split at h
    · next c' next' hb =>
      cases h
      rw [hembed]
      exact .stay (hbody b rfl _ _ hb).1 (hbody b rfl _ _ hb).2
    · cases h
      rw [hembed]
      exact .stay nofun nofun
  | parting key r =>
    cases h
    rw [hdone]
    exact .stay nofun nofun

/-- What holds behind a call under a lock: a ticket that is taken is for the key. -/
theorem of_view {w : World} {answer : c.Answer} {P : σ → Prop} (B : β → Prop)
    (hview : (s.view key first body embed done : Move σ α) = .ask c next)
    (hanswer : (w.answer c).1 = some answer) (hkeyed : s.Keyed key)
    (hembed : ∀ s, s.Keyed key → (∀ b ∈ s.body?, B b) → P (embed s)) (hdone : ∀ r, P (done r))
    (hfirst : B first) (hbody : ∀ b ∈ s.body?, ∀ next, body b = .ask c next → B (next answer)) :
    P (next answer) := by
  cases s with
  | asking =>
    cases hview
    refine hembed _ ?_ nofun
    rintro t ⟨⟩
    cases hanswer
    exact LockTable.key_take _ _
  | waiting t =>
    cases hview
    refine hembed _ hkeyed ?_
    rintro b ⟨⟩
    exact hfirst
  | inside t b =>
    unfold view at hview
    dsimp only at hview
    split at hview
    · next hb =>
      cases hview
      refine hembed _ hkeyed ?_
      rintro b' ⟨⟩
      exact hbody b rfl _ hb
    · cases hview
      exact hembed _ nofun nofun
  | parting key r =>
    cases hview
    exact hdone r

end Section

inductive Reclaim
  | rereading
  /-- the record is still there and due, and its bot's flow is to be found -/
  | choosing (record : Suspension)
  /-- what is left of the run -/
  | resuming (record : Suspension) (course : Activity (Except FlowError FlowRun))
  | discarding (record : Suspension)
  | ended (r : Dispatch.Resumption)

namespace Reclaim

def record? : Reclaim → Option Suspension
  | choosing record | resuming record _ | discarding record => some record
  | rereading | ended _ => none

def choose (now : Instant) (queued : Suspension) : Except Failure (List Suspension) → Reclaim
  | .error _ => ended .failed
  | .ok records =>
    match records.find? (·.id == queued.id) with
    | none => ended .gone
    | some record => if record.isDue now then choosing record else ended .gone

def start (settings : Settings) (record : Suspension) : Option ActiveFlow → Reclaim
  | none => discarding record
  | some active =>
    resuming record
      (active.flow.execute settings (.writer record.botId record.conversationId active.version)
      (.resume record.nodeId) record.context)

def removed (success : Dispatch.Resumption) : Except Failure Bool → Reclaim
  | .ok _ => ended success
  | .error _ => ended .failed

def view (settings : Settings) (now : Instant) (queued : Suspension) :
    Reclaim → Move Reclaim Dispatch.Resumption
  | rereading => .ask (.pending queued.botId queued.conversationId) (choose now queued)
  | choosing record => .ask (.activeFlow record.botId) (start settings record)
  | resuming record (.call c next) => .ask c fun answer => resuming record (next answer)
  | resuming record (.done (.ok _)) => .ask (.delete record.id) (removed .resumed)
  | resuming _ (.done (.error _)) => .rest .failed
  | discarding record => .ask (.delete record.id) (removed .discarded)
  | ended r => .rest r

theorem follows_remove {settings : Settings} {now : Instant} {queued record : Suspension}
    {b : Reclaim} {success : Dispatch.Resumption}
    (h : view settings now queued b = .ask (.delete record.id) (removed success)) :
    Follows (view settings now queued) b (Dispatch.remove record success) := by
  refine .ask h fun removal => ?_
  cases removal <;> exact .rest rfl

theorem follows_resume (settings : Settings) (now : Instant) (queued record : Suspension) :
    Follows (view settings now queued) (choosing record) (Dispatch.resume settings record) := by
  refine .ask rfl fun active? => ?_
  cases active? with
  | none => exact follows_remove rfl
  | some active =>
    -- the run itself is its own places
    refine (Crowd.follows_self _).bind (f := resuming record) ?_ ?_
    · rintro (_ | _) c next ⟨⟩
      rfl
    · rintro (_ | _) (e | run) ⟨⟩
      · exact .rest rfl
      · exact follows_remove rfl

theorem follows_reclaim (settings : Settings) (now : Instant) (queued : Suspension) :
    Follows (view settings now queued) rereading (Dispatch.reclaim settings now queued) := by
  refine .ask rfl fun records? => ?_
  cases records? with
  | error f => exact .rest rfl
  | ok records =>
    cases hfind : records.find? (·.id == queued.id) with
    | none =>
      simp only [choose, Activity.done_bind, hfind]
      exact .rest rfl
    | some record =>
      simp only [choose, Activity.done_bind, hfind]
      split
      · exact follows_resume settings now queued record
      · exact .rest rfl

end Reclaim

/-- How far the removal of a conversation's paused runs has got. -/
inductive Removal
  | removing
  | removed (r : Except Failure Nat)

def Removal.view (botId conversationId : String) : Removal → Move Removal (Except Failure Nat)
  | removing => .ask (.cancel botId conversationId) removed
  | removed r => .rest r

inductive Worker
  /-- a sweep is in front of the gate -/
  | entering
  | timing
  | loading (now : Instant)
  /-- a sweep is at one of the records that were due -/
  | turn (now : Instant) (report : SweepReport) (queued : Suspension) (rest : List Suspension)
    (s : Section Reclaim Dispatch.Resumption)
  /-- a sweep is to leave the gate -/
  | closing (outcome : Except Failure SweepReport)
  | swept (outcome : Except Failure SweepReport)
  /-- a removal is at its conversation -/
  | removal (botId conversationId : String) (s : Section Removal (Except Failure Nat))
  | removed (outcome : Except Failure Nat)

namespace Worker

def queue (now : Instant) (report : SweepReport) : List Suspension → Worker
  | [] => closing (.ok report)
  | queued :: rest => turn now report queued rest .asking

def load (now : Instant) : Except Failure (List Suspension) → Worker
  | .error f => closing (.error f)
  | .ok due => queue now .zero due

def view (settings : Settings) (batch : Nat) :
    Worker → Move Worker (Except Failure SweepReport ⊕ Except Failure Nat)
  | entering =>
    .ask .tryGate fun entered =>
      if entered then timing else swept (.ok { SweepReport.zero with skipped := true })
  | timing => .ask .now loading
  | loading now => .ask (.loadDue now (max batch 1)) (load now)
  | turn now report queued rest s =>
    s.view (lockKey queued.botId queued.conversationId) .rereading
      (Reclaim.view settings now queued)
      (turn now report queued rest) fun r => queue now (r.count report) rest
  | closing outcome => .ask .leaveGate fun _ => swept outcome
  | swept outcome => .rest (.inl outcome)
  | removal botId conversationId s =>
    s.view (lockKey botId conversationId) .removing (Removal.view botId conversationId)
      (removal botId conversationId) removed
  | removed outcome => .rest (.inr outcome)

def claim : Worker → Claim
  | turn _ _ _ _ s => s.claim
  | removal _ _ s => s.claim
  | _ => .none

def inside : Worker → Bool
  | timing | loading _ | turn _ _ _ _ _ | closing _ => true
  | _ => false

def record? : Worker → Option Suspension
  | turn _ _ _ _ s => s.body?.bind Reclaim.record?
  | _ => none

/-- The record whose run has come to its end without an error, and which is to be deleted next. -/
def ran? : Worker → Option Suspension
  | turn _ _ _ _ (.inside _ (.resuming record (.done (.ok _)))) => some record
  | _ => none

def isRemoval : Worker → Bool
  | removal _ _ _ => true
  | _ => false

end Worker

inductive Task
  | sweep
  | cancel (botId conversationId : String)

namespace Task

def activity (settings : Settings) (batch : Nat) :
    Task → Activity (Except Failure SweepReport ⊕ Except Failure Nat)
  | sweep => (Dispatch.sweep settings batch).bind fun r => .done (.inl r)
  | cancel botId conversationId =>
    (Dispatch.cancel botId conversationId).bind fun r => .done (.inr r)

def start : Task → Worker
  | sweep => .entering
  | cancel botId conversationId => .removal botId conversationId .asking

end Task

namespace Worker

variable {settings : Settings} {batch : Nat}

theorem follows_queue (now : Instant) (report : SweepReport) (due : List Suspension) :
    Follows (view settings batch) (queue now report due)
      ((Dispatch.sweepAll settings now report due).bind fun report =>
        .call .leaveGate fun _ => .done (.inl (.ok report))) := by
  induction due generalizing report with
  | nil => exact .ask rfl fun _ => .rest rfl
  | cons queued rest ih =>
    rw [Dispatch.sweepAll, Activity.bind_eq, Activity.bind_assoc]
    exact Section.follows_locked (fun _ => rfl) (Reclaim.follows_reclaim settings now queued)
      fun r => ih _

theorem follows_activity (settings : Settings) (batch : Nat) (task : Task) :
    Follows (view settings batch) task.start (task.activity settings batch) := by
  cases task with
  | cancel botId conversationId =>
    exact Section.follows_locked (fun _ => rfl) (.ask rfl fun _ => .rest rfl) fun _ => .rest rfl
  | sweep =>
    refine .ask rfl fun entered => ?_
    cases entered with
    | false => exact .rest rfl
    | true =>
      refine .ask rfl fun now => .ask rfl fun due? => ?_
      cases due? with
      | error f => exact .ask rfl fun _ => .rest rfl
      | ok due =>
        show Follows _ (queue now .zero due)
            (((Dispatch.sweepAll settings now .zero due).bind _).bind _)
        rw [Activity.bind_assoc]
        exact follows_queue now .zero due

theorem follows_start (settings : Settings) (batch : Nat) (tasks : List Task) :
    List.Forall₂ (Follows (view settings batch)) (tasks.map Task.start)
      (tasks.map (Task.activity settings batch)) := by
  rw [List.forall₂_map_left_iff, List.forall₂_map_right_iff, List.forall₂_same]
  exact fun task _ => follows_activity settings batch task

end Worker

end ChatFlow
