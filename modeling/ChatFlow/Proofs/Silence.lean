import ChatFlow.Proofs.Takeover

namespace ChatFlow

open World

namespace Dispatch

variable {settings : Settings} {c : String}

/-- The run that goes on in the turn says something in the conversation. -/
def Turn.SpeaksTo (settings : Settings) (c : String) (t : Turn) : Prop :=
  (t.after settings).conversations.outgoing c ≠ t.world.conversations.outgoing c

/-- What happened while a human had the conversation, told by the turns of the sweeps in between. -/
structure Heard (settings : Settings) (c : String) (w : World) (ts : List Turn) (w' : World) :
    Prop where
  stands : Stands c w w'
  quiet : w'.conversations.outgoing c = w.conversations.outgoing c ↔
    ∀ t ∈ ts, ¬ t.SpeaksTo settings c
  worlds : ∀ t ∈ ts, t.world.InHand c

theorem Heard.of_silent {w w' : World} (h : Stands c w w')
    (hquiet : w'.conversations.outgoing c = w.conversations.outgoing c) :
    Heard settings c w [] w' :=
  ⟨h, iff_of_true hquiet (List.forall_mem_nil _), List.forall_mem_nil _⟩

/-- Nothing that was said is unsaid, so that later silence does not hide what was said before. -/
theorem Heard.trans {w w₁ w₂ : World} {ts ts' : List Turn} (h : Heard settings c w ts w₁)
    (h' : Heard settings c w₁ ts' w₂) : Heard settings c w (ts ++ ts') w₂ := by
  refine ⟨h.stands.trans h'.stands, ?_, ?_⟩
  · rw [List.forall_mem_append, ← h.quiet, ← h'.quiet]
    constructor
    · intro hsame
      have hback : w₁.conversations.outgoing c = w.conversations.outgoing c := by
        have hlength := h'.stands.said.length_le
        rw [hsame] at hlength
        exact (h.stands.said.eq_of_length_le hlength).symm
      exact ⟨hback, hsame.trans hback.symm⟩
    · rintro ⟨hfirst, hsecond⟩
      exact hsecond.trans hfirst
  · exact List.forall_mem_append.mpr ⟨h.worlds, h'.worlds⟩

/-- Nothing but the conversations and the flows in use matters for that. -/
theorem Heard.of_eq {w w₁ w₂ : World} {ts : List Turn} (h : Heard settings c w ts w₁)
    (hconversations : w₂.conversations = w₁.conversations) (hregistry : w₂.registry = w₁.registry) :
    Heard settings c w ts w₂ := by
  have hquiet := h.quiet
  rw [← hconversations] at hquiet
  exact ⟨h.stands.of_eq hconversations hregistry, hquiet, h.worlds⟩

section Turn

variable {t : Turn}

theorem Turn.after_of_none (h : t.course? settings = none) : t.after settings = t.world := by
  rw [Turn.after, h, Option.elim_none]

theorem Turn.after_of_some {x : Activity (Except FlowError FlowRun)}
    (h : t.course? settings = some x) :
    t.after settings = (t.world.attempt x).2 := by
  rw [Turn.after, h, Option.elim_some]

theorem Turn.exists_of_course? {x : Activity (Except FlowError FlowRun)}
    (h : t.course? settings = some x) :
    ∃ record active, t.record? = some record ∧ t.active? = some active ∧
      x = course settings record active := by
  obtain ⟨record, hrecord, h⟩ := Option.bind_eq_some_iff.mp h
  obtain ⟨active, hactive, rfl⟩ := Option.map_eq_some_iff.mp h
  exact ⟨record, active, hrecord, hactive, rfl⟩

theorem Turn.course_discreet (h : t.world.InHand c) {record : Suspension} {active : ActiveFlow}
    (hactive : t.active? = some active) :
    (course settings record active).Only (Call.Discreet c record.context.channel?) fun _ => True :=
  Flow.execute_only_discreet (h.flows _ active hactive) (.resume record.nodeId) record.context

/-- A turn speaks to the conversation only by a run whose context has it as its channel. -/
theorem Turn.SpeaksTo.exists_channel (h : t.world.InHand c) (hspeaks : t.SpeaksTo settings c) :
    ∃ record active, t.record? = some record ∧ t.active? = some active ∧
      record.context.channel? = some c := by
  cases hcourse : t.course? settings with
  | none => exact absurd (by rw [Turn.after_of_none hcourse]) hspeaks
  | some x =>
    obtain ⟨record, active, hrecord, hactive, rfl⟩ := Turn.exists_of_course? hcourse
    refine ⟨record, active, hrecord, hactive, ?_⟩
    by_contra hchannel
    refine hspeaks ?_
    rw [Turn.after_of_some hcourse]
    exact h.outgoing_attempt ((Turn.course_discreet h hactive).told.mono fun _ hcall =>
      ⟨hcall.1, hcall.2 hchannel⟩)

theorem Turn.stands_after (h : t.world.InHand c) : Stands c t.world (t.after settings) := by
  cases hcourse : t.course? settings with
  | none =>
    rw [Turn.after_of_none hcourse]
    exact .refl h
  | some x =>
    obtain ⟨record, active, -, hactive, rfl⟩ := Turn.exists_of_course? hcourse
    rw [Turn.after_of_some hcourse]
    exact h.stands_attempt ((Turn.course_discreet h hactive).told.mono fun _ hcall => hcall.1)

theorem Turn.heard_after (h : t.world.InHand c) :
    Heard settings c t.world [t] (t.after settings) := by
  refine ⟨Turn.stands_after h, ?_, by simpa using h⟩
  rw [List.forall_mem_singleton, Turn.SpeaksTo, not_not]

theorem exists_runs_remove (w : World) (record : Suspension) (success : Resumption) :
    ∃ r w', w.Runs (remove record success) r w' ∧ w'.conversations = w.conversations ∧
      w'.registry = w.registry := by
  by_cases hdelete : w.failing.contains .delete = true
  · exact ⟨.failed, w, runs_call (if_pos hdelete) rfl, rfl, rfl⟩
  · have hanswer : w.answer (.delete record.id) = (some (.ok (w.suspensions.delete record.id).1),
        { w with suspensions := (w.suspensions.delete record.id).2 }) := if_neg hdelete
    exact ⟨success, _, runs_call hanswer rfl, rfl, rfl⟩

/-- A turn comes to its end, and beside its run nothing is said. -/
theorem Turn.exists_runs_reclaim (settings : Settings) (t : Turn) :
    ∃ r w', t.world.Runs (reclaim settings t.now t.queued) r w' ∧
      w'.conversations = (t.after settings).conversations ∧
        w'.registry = (t.after settings).registry := by
  cases hrecord : t.record? with
  | none =>
    have hcourse : t.course? settings = none := by rw [Turn.course?, hrecord, Option.bind_none]
    rw [Turn.after_of_none hcourse]
    by_cases hpending : t.world.failing.contains .pending = true
    · exact ⟨.failed, t.world, runs_reclaim_of_failing hpending, rfl, rfl⟩
    · exact ⟨.gone, t.world, runs_reclaim_of_none hpending hrecord, rfl, rfl⟩
  | some record =>
    cases hactive : t.active? with
    | none =>
      have hcourse : t.course? settings = none := by
        rw [Turn.course?, hrecord, Option.bind_some, hactive, Option.map_none]
      obtain ⟨r, w', hruns, hrest⟩ := exists_runs_remove t.world record .discarded
      rw [Turn.after_of_none hcourse]
      exact ⟨r, w', runs_reclaim_of_some hrecord (runs_resume_of_none hrecord hactive hruns), hrest⟩
    | some active =>
      have hcourse := @course?_of_some settings t record active hrecord hactive
      obtain ⟨result, w₁, hruns, -⟩ : ∃ result w₁,
          t.world.Runs (course settings record active) result w₁ ∧ t.world.Parked _ w₁ :=
        runs_resume active.flow record.nodeId record.context t.world
      rw [Turn.after_of_some hcourse, hruns.attempt]
      cases result with
      | error e =>
        have hresume := runs_resume_of_some hrecord hactive hruns ⟨rfl, rfl⟩
        exact ⟨.failed, w₁, runs_reclaim_of_some hrecord hresume, rfl, rfl⟩
      | ok run =>
        obtain ⟨r, w', hremove, hrest⟩ := exists_runs_remove w₁ record .resumed
        have hresume := runs_resume_of_some hrecord hactive hruns hremove
        exact ⟨r, w', runs_reclaim_of_some hrecord hresume, hrest⟩

end Turn

theorem heard_turns {w : World} (h : w.InHand c) (now : Instant) (due : List Suspension)
    (report : SweepReport) :
    Heard settings c w (turns settings now w due)
      (perform (sweepAll settings now report due) w).2 := by
  induction due generalizing w report with
  | nil => exact .of_silent (.refl h) rfl
  | cons queued rest ih =>
    let t : Turn := ⟨queued, now, w.hold (lockKey queued.botId queued.conversationId)⟩
    have hheld : Heard settings c w [] t.world :=
      .of_silent ⟨⟨h.taken, h.flows⟩, List.prefix_refl _⟩ rfl
    have ht : t.world.InHand c := hheld.stands.inHand
    obtain ⟨r, w₁, hruns, hconversations, hregistry⟩ := t.exists_runs_reclaim settings
    rcases locked_cases w (reclaim settings now queued) queued.botId queued.conversationId with
      ⟨waiting, hwaiting⟩ | hlocked
    · -- The sweep stands still here, and there is no turn.
      have hturns : turns settings now w (queued :: rest) = [] := by
        rw [turns, take, hwaiting]
      have hperform : (perform (sweepAll settings now report (queued :: rest)) w).2 = t.world := by
        rw [sweepAll, Activity.bind_eq, perform_bind, hwaiting]
      rwa [hturns, hperform]
    · obtain ⟨locks, htake⟩ := hlocked r w₁ hruns
      have hfirst : Heard settings c w [t] { w₁ with locks } :=
        (hheld.trans (Turn.heard_after ht)).of_eq hconversations hregistry
      have hperform : (perform (sweepAll settings now report (queued :: rest)) w).2 =
          (perform (sweepAll settings now (r.count report) rest) { w₁ with locks }).2 := by
        rw [sweepAll, Activity.bind_eq, perform_bind, htake]
      rw [turns_cons htake, hperform]
      exact hfirst.trans (ih hfirst.stands.inHand (r.count report))

theorem heard_sweep {w : World} (h : w.InHand c) (batch : Nat) :
    Heard settings c w (sweepTurns settings batch w) (perform (sweep settings batch) w).2 := by
  have hentered : Heard settings c w [] { w with sweeping := true } :=
    .of_silent ⟨⟨h.taken, h.flows⟩, List.prefix_refl _⟩ rfl
  have hgate : w.answer .tryGate = (some !w.sweeping, { w with sweeping := true }) := rfl
  have hnow :
      { w with sweeping := true }.answer .now = (some w.clock, { w with sweeping := true }) := rfl
  unfold sweepTurns
  cases hsweeping : w.sweeping with
  | true =>
    rw [hsweeping] at hgate
    rwa [show perform (sweep settings batch) w = _ from perform_of_answer hgate]
  | false =>
    rw [hsweeping] at hgate
    by_cases hfailing : w.failing.contains .loadDue = true
    · have hload : { w with sweeping := true }.answer (.loadDue w.clock (max batch 1)) =
          (some (.error (.unavailable "load_due")), { w with sweeping := true }) := if_pos hfailing
      have hperform : perform (sweep settings batch) w = _ :=
        (perform_of_answer hgate).trans ((perform_of_answer hnow).trans (perform_of_answer hload))
      rw [hperform, Bool.false_or, if_pos hfailing]
      exact hentered.of_eq rfl rfl
    · have hload : { w with sweeping := true }.answer (.loadDue w.clock (max batch 1)) =
          (some (.ok (loaded batch w)), afterLoading batch w) := if_neg hfailing
      have hperform : perform (sweep settings batch) w = perform
          ((sweepAll settings w.clock .zero (loaded batch w)).bind fun report =>
            .call .leaveGate fun _ => .done (.ok report)) (afterLoading batch w) :=
        (perform_of_answer hgate).trans ((perform_of_answer hnow).trans (perform_of_answer hload))
      have hloaded : Heard settings c w [] (afterLoading batch w) := hentered.of_eq rfl rfl
      have hall := hloaded.trans
        (@heard_turns settings c _ hloaded.stands.inHand w.clock (loaded batch w) .zero)
      rw [hperform, perform_bind, Bool.false_or, if_neg hfailing]
      rcases hsweep :
        perform (sweepAll settings w.clock .zero (loaded batch w)) (afterLoading batch w) with
        ⟨report | waiting, w₁⟩
      · rw [hsweep] at hall
        exact hall.of_eq rfl rfl
      · rwa [hsweep] at hall

end Dispatch

inductive Action
  | message (botId conversationId text : String) (extra : Option Json)
  | tick (botId conversationId : String) (contact : Keyed Json)
  | sweep (batch : Nat)
  | cancel (botId conversationId : String)
  | release (conversationId : String)
  /-- everything but the conversations is changed from outside -/
  | meanwhile (other : World)

namespace Action

/-- The world afterwards. What has to wait for a lock is given up. -/
def apply (settings : Settings) (w : World) : Action → World
  | message botId conversationId text extra =>
    (w.attempt (Dispatch.message settings botId conversationId text extra)).2
  | tick botId conversationId contact =>
    (w.attempt (Dispatch.tick settings botId conversationId contact)).2
  | sweep batch =>
    match perform (Dispatch.sweep settings batch) w with
    | (.finished _, w') => w'
    | (.waiting rest, w') => { w'.abandon rest with sweeping := false }
  | cancel botId conversationId => (w.attempt (Dispatch.cancel botId conversationId)).2
  | release conversationId => (w.attempt (Dispatch.release conversationId)).2
  | meanwhile other => { other with conversations := w.conversations }

def turns (settings : Settings) (w : World) : Action → List Dispatch.Turn
  | sweep batch => Dispatch.sweepTurns settings batch w
  | _ => []

/-- It does not hand the conversation back to the bot, and does not put a flow to use that writes to
the channel of its contact. -/
def Allowed (c : String) : Action → Prop
  | release conversationId => conversationId ≠ c
  | meanwhile other => other.registry.LeavesContact
  | _ => True

end Action

def World.after (settings : Settings) (w : World) (actions : List Action) : World :=
  actions.foldl (Action.apply settings) w

def World.turns (settings : Settings) : World → List Action → List Dispatch.Turn
  | _, [] => []
  | w, action :: rest => action.turns settings w ++ turns settings (action.apply settings w) rest

namespace Dispatch

variable {settings : Settings} {c : String}

theorem heard_attempt {α : Type} {w : World} (h : w.InHand c) {x : Activity α}
    (hx : x.OnlyTold c (Call.Silent c)) : Heard settings c w [] (w.attempt x).2 :=
  .of_silent (h.stands_attempt (hx.mono fun _ hcall => hcall.1)) (h.outgoing_attempt hx)

theorem heard_apply {w : World} (h : w.InHand c) {action : Action} (hallowed : action.Allowed c) :
    Heard settings c w (action.turns settings w) (action.apply settings w) := by
  cases action with
  | message botId conversationId text extra =>
    exact heard_attempt h (message_onlyTold botId conversationId text extra)
  | tick botId conversationId contact =>
    exact heard_attempt h (tick_onlyTold botId conversationId contact)
  | cancel botId conversationId => exact heard_attempt h (cancel_onlyTold botId conversationId)
  | release conversationId => exact heard_attempt h (release_onlyTold hallowed)
  | meanwhile other => exact .of_silent ⟨⟨h.taken, hallowed⟩, List.prefix_refl _⟩ rfl
  | sweep batch =>
    have hsweep := @heard_sweep settings c w h batch
    rcases hperform : perform (sweep settings batch) w with ⟨report | rest, w₁⟩
    · rw [hperform] at hsweep
      simpa only [Action.apply, Action.turns, hperform] using hsweep
    · rw [hperform] at hsweep
      obtain ⟨hconversations, hregistry⟩ := abandon_conversations w₁ rest
      simp only [Action.apply, Action.turns, hperform]
      exact hsweep.of_eq hconversations hregistry

theorem heard_after (settings : Settings) {w : World} (h : w.InHand c) {actions : List Action}
    (hallowed : ∀ action ∈ actions, action.Allowed c) :
    Heard settings c w (w.turns settings actions) (w.after settings actions) := by
  induction actions generalizing w with
  | nil => exact .of_silent (.refl h) rfl
  | cons action rest ih =>
    obtain ⟨haction, hrest⟩ := List.forall_mem_cons.mp hallowed
    have hfirst := @heard_apply settings c w h action haction
    exact hfirst.trans (ih hfirst.stands.inHand hrest)

/-- As long as a conversation is not handed back, a human has it, and what was said there stays. The
bot says something there just if the run of a turn speaks to that conversation, which takes a record
whose context has the conversation as its channel. Messages, ticks and cancellations say nothing. -/
theorem outgoing_after_iff (settings : Settings) (c : String) (w : World) (actions : List Action)
    (htaken : w.conversations.status? c = some .humanTakeover) (hflows : w.registry.LeavesContact)
    (hallowed : ∀ action ∈ actions, action.Allowed c) :
    (w.after settings actions).conversations.status? c = some .humanTakeover ∧
      w.conversations.outgoing c <+: (w.after settings actions).conversations.outgoing c ∧
      ((w.after settings actions).conversations.outgoing c = w.conversations.outgoing c ↔
        ∀ t ∈ w.turns settings actions, ¬ t.SpeaksTo settings c) ∧
      ∀ t ∈ w.turns settings actions, t.SpeaksTo settings c →
        ∃ record active, t.record? = some record ∧ t.active? = some active ∧
          record.context.channel? = some c := by
  have hheard := heard_after settings ⟨htaken, hflows⟩ hallowed
  refine ⟨hheard.stands.inHand.taken, hheard.stands.said, hheard.quiet, fun t ht hspeaks => ?_⟩
  exact hspeaks.exists_channel (hheard.worlds t ht)

/-- A flow that asks once more after a minute, and calls a human in the meantime. -/
def reminder : Flow where
  nodes :=
    [⟨"start", .newMessage, []⟩, ⟨"wait", .delay, [("ms", .ofNat 60)]⟩,
      ⟨"remind", .sendMessage, [("text", .text "Are you still there?")]⟩, ⟨"ask", .newMessage, []⟩,
      ⟨"agent", .humanTakeover, []⟩]
  edges :=
    [⟨none, "start", "wait", none⟩, ⟨none, "wait", "remind", none⟩, ⟨none, "ask", "agent", none⟩]

def opened : World :=
  { World.start ⟨1893488400, 0⟩ (.memory []) (.memory []) ⟨1⟩ with
    registry := Registry.empty.install "bot" (.ofFlow "v1" reminder) }

/-- A message was taken in, and a human has the conversation. -/
def handedOver : World := opened.after ⟨.strict, 10, 15000⟩ [.message "bot" "5511" "hi" none]

def minuteLater : List Action :=
  [.meanwhile { handedOver with clock := ⟨1893488460, 0⟩ }, .sweep 100]

theorem outgoing_after_minuteLater :
    handedOver.conversations.status? "5511" = some .humanTakeover ∧
      handedOver.registry.LeavesContact ∧
      (∀ action ∈ minuteLater, action.Allowed "5511") ∧
      ((handedOver.after ⟨.strict, 10, 15000⟩ minuteLater).conversations.outgoing "5511" =
          handedOver.conversations.outgoing "5511" ↔
        ∀ t ∈ handedOver.turns ⟨.strict, 10, 15000⟩ minuteLater,
          ¬ t.SpeaksTo ⟨.strict, 10, 15000⟩ "5511") := by
  have htaken : handedOver.conversations.status? "5511" = some .humanTakeover := by decide +kernel
  have hregistry : handedOver.registry = opened.registry := by decide +kernel
  have hflows : handedOver.registry.LeavesContact :=
    hregistry ▸
      Registry.leavesContact_empty.install "bot" (show reminder.LeavesContact by decide +kernel)
  have hallowed : ∀ action ∈ minuteLater, action.Allowed "5511" := by
    intro action haction
    rcases List.mem_pair.mp haction with rfl | rfl
    · exact hflows
    · trivial
  exact ⟨htaken, hflows, hallowed,
    (outgoing_after_iff ⟨.strict, 10, 15000⟩ "5511" handedOver minuteLater htaken hflows
      hallowed).2.2.1⟩

/-- A human has the conversation, nobody hands it back, and still the bot says something. -/
theorem outgoing_after_minuteLater_ne :
    handedOver.conversations.status? "5511" = some .humanTakeover ∧
      (handedOver.after ⟨.strict, 10, 15000⟩ minuteLater).conversations.status? "5511" =
        some .humanTakeover ∧
      reminder.LeavesContact ∧ handedOver.conversations.outgoing "5511" = [] ∧
      (handedOver.after ⟨.strict, 10, 15000⟩ minuteLater).conversations.outgoing "5511" =
        [("text", "Are you still there?")] := by
  decide +kernel

end Dispatch

end ChatFlow
