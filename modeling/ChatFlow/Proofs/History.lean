import ChatFlow.Proofs.Invariant
import ChatFlow.Proofs.Logs
import ChatFlow.Proofs.Outages
import ChatFlow.Proofs.Silence

namespace ChatFlow

open World

theorem Call.Addresses.byBot {channel : Option String} {call : Call} (h : call.Addresses channel) :
    call.ByBot := by
  cases call with
  | append id m => exact h.2
  | setStatus id status at_ => exact h.2
  | _ => trivial

theorem Flow.execute_only_byBot (settings : Settings) (flow : Flow)
    (botId conversationId version : String) (event : Event) (context : Context) :
    (flow.execute settings (.writer botId conversationId version) event context).Only Call.ByBot
      fun _ => True :=
  execute_only (fun _ _ h => h.byBot) trivial (fun _ => trivial) settings flow botId
    conversationId version event context

theorem Activity.only_locked {α : Type} {Q : α → Prop} {body : Activity α}
    (hbody : body.Only Call.ByBot Q) (botId conversationId : String) :
    (locked botId conversationId body).Only Call.ByBot Q := by
  refine ⟨trivial, fun ticket => ⟨trivial, fun _ => hbody.bind fun a ha => ?_⟩⟩
  exact ⟨trivial, fun _ => ⟨trivial, fun _ => ha⟩⟩

namespace Dispatch

variable {settings : Settings}

theorem runFlow_only_byBot (botId conversationId : String) (active : ActiveFlow) (event : Event)
    (context : Context) :
    (runFlow settings botId conversationId active event context).Only Call.ByBot fun _ => True := by
  have hrun :=
    active.flow.execute_only_byBot settings botId conversationId active.version event context
  refine Activity.only_locked (hrun.bind fun result _ => ?_) botId conversationId
  trivial

theorem tick_only_byBot (botId conversationId : String) (contact : Keyed Json) :
    (tick settings botId conversationId contact).Only Call.ByBot fun _ => True := by
  refine ⟨trivial, fun found => ?_⟩
  cases found with
  | error failure => trivial
  | ok found =>
    simp only [Activity.done_bind, Activity.pure_eq, Except.map]
    cases found.any (·.status? == some .humanTakeover) with
    | true => trivial
    | false =>
      refine ⟨trivial, fun active? => ?_⟩
      cases active? with
      | none => trivial
      | some active => exact runFlow_only_byBot botId conversationId active .scheduled _

theorem cancel_only_byBot (botId conversationId : String) :
    (cancel botId conversationId).Only Call.ByBot fun _ => True := by
  refine Activity.only_locked ?_ botId conversationId
  exact ⟨trivial, fun _ => trivial⟩

theorem remove_only_byBot (record : Suspension) (success : Resumption) :
    (remove record success).Only Call.ByBot fun _ => True := by
  refine ⟨trivial, fun deleted => ?_⟩
  cases deleted <;> trivial

theorem reclaim_only_byBot (now : Instant) (queued : Suspension) :
    (reclaim settings now queued).Only Call.ByBot fun _ => True := by
  refine ⟨trivial, fun records => ?_⟩
  cases records with
  | error failure => trivial
  | ok records =>
    simp only [Activity.done_bind]
    split
    · trivial
    · next record _ =>
      split
      · refine ⟨trivial, fun active? => ?_⟩
        cases active? with
        | none => exact remove_only_byBot record .discarded
        | some active =>
          refine (active.flow.execute_only_byBot settings record.botId record.conversationId
            active.version
            (.resume record.nodeId) record.context).bind fun result _ => ?_
          cases result with
          | error e => trivial
          | ok run => exact remove_only_byBot record .resumed
      · trivial

theorem sweepAll_only_byBot (now : Instant) (report : SweepReport) (due : List Suspension) :
    (sweepAll settings now report due).Only Call.ByBot fun _ => True := by
  induction due generalizing report with
  | nil => trivial
  | cons queued rest ih =>
    exact (Activity.only_locked (reclaim_only_byBot now queued) _ _).bind fun r _ =>
      ih (r.count report)

theorem sweep_only_byBot (batch : Nat) :
    (sweep settings batch).Only Call.ByBot fun _ => True := by
  refine ⟨trivial, fun entered => ?_⟩
  cases entered with
  | false => trivial
  | true =>
    refine ⟨trivial, fun now => ⟨trivial, fun loaded => ?_⟩⟩
    cases loaded with
    | error failure => exact ⟨trivial, fun _ => trivial⟩
    | ok due =>
      exact (sweepAll_only_byBot now .zero due).bind fun report _ => ⟨trivial, fun _ => trivial⟩

end Dispatch

/-- A message for the conversation can be taken in: the conversation can be read and appended to. -/
def World.takesIn (w : World) (conversationId : String) : Bool :=
  !w.failing.contains .get && (w.conversations.get? conversationId).isOk &&
    !w.failing.contains .append

namespace World

variable {α : Type}

/-- Whether the conversation can be read at the second call from now, and appended to at the
third. -/
def takesInAmid (outages : Outages) (w : World) (conversationId : String) : Bool :=
  !(w.failing ++ outages 1).contains .get && (w.conversations.get? conversationId).isOk &&
    !(w.failing ++ outages 2).contains .append

theorem takesInAmid_never (w : World) (conversationId : String) :
    w.takesInAmid .never conversationId = w.takesIn conversationId := by
  rw [takesInAmid, takesIn]
  simp [Outages.never]

/-- The world behind an activity during which calls fail on their own; it is given up if it has to
wait. -/
def attemptAmid (outages : Outages) (w : World) (x : Activity α) : World :=
  match amid.perform x (outages, w) with
  | (.finished _, s) => s.2
  | (.waiting rest, s) => s.2.abandon rest

theorem attemptAmid_never (w : World) (x : Activity α) :
    w.attemptAmid .never x = (w.attempt x).2 := by
  rw [attemptAmid, attempt, perform_amid_never]
  rcases perform x w with ⟨a | rest, w₁⟩ <;> rfl

theorem conversations_attemptAmid (outages : Outages) (w : World) (x : Activity α) :
    (w.attemptAmid outages x).conversations =
      (amid.perform x (outages, w)).2.2.conversations := by
  rw [attemptAmid]
  rcases amid.perform x (outages, w) with ⟨a | rest, s⟩
  · rfl
  · exact (abandon_conversations s.2 rest).1

/-- The bot at work only speaks, also where it is left waiting, and whichever calls fail. -/
theorem speaks_perform_amid {Q : α → Prop} {x : Activity α} (hx : x.Only Call.ByBot Q)
    (s : Outages × World) :
    s.2.conversations.Speaks (amid.perform x s).2.2.conversations := by
  refine Environment.rel_perform (R := fun s s' => s.2.conversations.Speaks s'.2.conversations)
    (fun s => .refl s.2.conversations) (fun h h' => h.trans h') (fun c s hc => ?_) hx s
  rcases amid_snd s c with hanswer | hnothing
  · rw [hanswer]
    exact speaks_answer c s.2 hc
  · rw [hnothing]
    exact .refl _

def received (w : World) (conversationId text : String) (extra : Option Json) : World :=
  { w with conversations := w.conversations.append conversationId (.incoming text w.clock extra) }

end World

namespace Dispatch

variable {settings : Settings} {conversationId : String}

/-- What is done about a message once it was appended. -/
def attend (settings : Settings) (botId conversationId text : String) (extra : Option Json)
    (now : Instant) (takenOver : Bool) : Activity Result := do
  if takenOver then
    match ← Activity.ask (.touch conversationId now) with
    | .error f => return failed f
    | .ok () => return noRun
  else
    match ← Activity.ask (.setStatus conversationId .active now) with
    | .error f => return failed f
    | .ok () =>
      match ← Activity.ask (.activeFlow botId) with
      | none => return noRun
      | some active =>
        if active.flow.accepts text then
          runFlow settings botId conversationId active (.newMessage text)
            (messageContext conversationId extra)
        else return noRun

/-- A message that is taken in is appended before anything else is written, and one that is not
taken in leaves the world as it was. -/
theorem perform_message (outages : Outages) (w : World) (botId conversationId text : String)
    (extra : Option Json) :
    let ran := amid.perform (message settings botId conversationId text extra) (outages, w)
    (w.takesInAmid outages conversationId = false ∧ ran.2.2 = w) ∨
      w.takesInAmid outages conversationId = true ∧ ∃ found,
        w.conversations.get? conversationId = .ok found ∧
        ran = amid.perform (attend settings botId conversationId text extra w.clock
            (found.any (·.status? == some .humanTakeover)))
          (outages.later.later.later, w.received conversationId text extra) := by
  intro ran
  have hnow : amid (outages, w) .now = (some w.clock, outages.later, w) := rfl
  by_cases hget : .get ∈ w.failing ++ outages 1
  · have hread : amid (outages.later, w) (.getConversation conversationId) =
        (some (.error (.unavailable "get")), outages.later.later, w) := lapse_serve_of_mem hget _
    have hlost : ran = (.finished (failed (.unavailable "get")), outages.later.later, w) :=
      (Environment.perform_of_answer hnow).trans (Environment.perform_of_answer hread)
    exact .inl ⟨by simp [takesInAmid, hget], congrArg (·.2.2) hlost⟩
  · have hread : amid (outages.later, w) (.getConversation conversationId) =
        (some (w.conversations.get? conversationId), outages.later.later, w) :=
      lapse_serve_of_not_mem hget _
    cases hfound : w.conversations.get? conversationId with
    | error failure =>
      rw [hfound] at hread
      have hlost : ran = (.finished (failed failure), outages.later.later, w) :=
        (Environment.perform_of_answer hnow).trans (Environment.perform_of_answer hread)
      exact .inl ⟨by simp [takesInAmid, hfound, Except.isOk, Except.toBool],
        congrArg (·.2.2) hlost⟩
    | ok found =>
      rw [hfound] at hread
      by_cases happend : .append ∈ w.failing ++ outages 2
      · have hfailed : amid (outages.later.later, w)
            (.append conversationId (.incoming text w.clock extra)) =
            (some (.error (.unavailable "append")), outages.later.later.later, w) :=
          lapse_serve_of_mem happend _
        have hlost : ran =
            (.finished (failed (.unavailable "append")), outages.later.later.later, w) :=
          (Environment.perform_of_answer hnow).trans
            ((Environment.perform_of_answer hread).trans
              (Environment.perform_of_answer hfailed))
        exact .inl ⟨by simp [takesInAmid, happend], congrArg (·.2.2) hlost⟩
      · have hreceived : amid (outages.later.later, w)
            (.append conversationId (.incoming text w.clock extra)) =
            (some (.ok ()), outages.later.later.later, w.received conversationId text extra) :=
          lapse_serve_of_not_mem happend _
        refine .inr ⟨?_, found, rfl, ?_⟩
        · simp only [List.mem_append] at hget happend
          simp [takesInAmid, hfound, Except.isOk, Except.toBool, hget, happend]
        · exact (Environment.perform_of_answer hnow).trans
            ((Environment.perform_of_answer hread).trans
              (Environment.perform_of_answer hreceived))

theorem attend_calls_setStatus (botId conversationId text : String) (extra : Option Json)
    (now : Instant) : ∃ next, attend settings botId conversationId text extra now false =
      .call (.setStatus conversationId .active now) next ∧
      ∀ set, (next set).Only Call.ByBot fun _ => True := by
  refine ⟨_, rfl, fun set => ?_⟩
  cases set with
  | error failure => trivial
  | ok _ =>
    refine ⟨trivial, fun active? => ?_⟩
    cases active? with
    | none => trivial
    | some active =>
      simp only [Activity.done_bind]
      split
      · exact runFlow_only_byBot botId conversationId active (.newMessage text) _
      · trivial

/-- Behind a message that was appended the bot is at work, after the status was set back unless a
human has the conversation. -/
theorem speaks_attend (s : Outages × World) (botId conversationId text : String)
    (extra : Option Json) (now : Instant) (takenOver : Bool) :
    ∃ store, (store = s.2.conversations ∨ takenOver = false ∧
        store = s.2.conversations.setStatus conversationId .active now) ∧
      store.Speaks (amid.perform (attend settings botId conversationId text extra now takenOver)
        s).2.2.conversations := by
  cases takenOver with
  | true =>
    have honly : (attend settings botId conversationId text extra now true).Only Call.ByBot
        fun _ => True := by
      refine ⟨trivial, fun touched => ?_⟩
      cases touched <;> trivial
    exact ⟨_, .inl rfl, speaks_perform_amid honly s⟩
  | false =>
    obtain ⟨next, hattend, hnext⟩ :=
      @attend_calls_setStatus settings botId conversationId text extra now
    rw [hattend]
    by_cases hset : .setStatus ∈ s.2.failing ++ s.1 0
    · have hfailed : amid s (.setStatus conversationId .active now) =
          (some (.error (.unavailable "set_status")), s.1.later, s.2) := lapse_serve_of_mem hset _
      rw [Environment.perform_of_answer hfailed]
      exact ⟨_, .inl rfl, speaks_perform_amid (hnext _) (s.1.later, s.2)⟩
    · let w : World := { s.2 with
        conversations := s.2.conversations.setStatus conversationId .active now }
      have hanswer : amid s (.setStatus conversationId .active now) =
          (some (.ok ()), s.1.later, w) := lapse_serve_of_not_mem hset _
      rw [Environment.perform_of_answer hanswer]
      exact ⟨_, .inr ⟨rfl, rfl⟩, speaks_perform_amid (hnext _) (s.1.later, w)⟩

end Dispatch

namespace Action

/-- The world afterwards, where calls fail on their own. -/
def applyAmid (settings : Settings) (outages : Outages) (w : World) : Action → World
  | message botId conversationId text extra =>
    w.attemptAmid outages (Dispatch.message settings botId conversationId text extra)
  | tick botId conversationId contact =>
    w.attemptAmid outages (Dispatch.tick settings botId conversationId contact)
  | sweep batch =>
    match amid.perform (Dispatch.sweep settings batch) (outages, w) with
    | (.finished _, s) => s.2
    | (.waiting rest, s) => { s.2.abandon rest with sweeping := false }
  | cancel botId conversationId => w.attemptAmid outages (Dispatch.cancel botId conversationId)
  | release conversationId => w.attemptAmid outages (Dispatch.release conversationId)
  | meanwhile other => { other with conversations := w.conversations }

theorem applyAmid_never (settings : Settings) (w : World) (action : Action) :
    action.applyAmid settings .never w = action.apply settings w := by
  cases action with
  | sweep batch =>
    rw [applyAmid, apply, perform_amid_never]
    rcases perform (Dispatch.sweep settings batch) w with ⟨report | rest, w₁⟩ <;> rfl
  | meanwhile other => rfl
  | _ => exact attemptAmid_never w _

/-- The messages of the person in a conversation that the action takes in: one, if it is a message
for that conversation and can be taken in. -/
def takenIn (w : World) (c : String) : Action → List Message
  | message _ conversationId text extra =>
    if conversationId = c ∧ w.takesIn conversationId then [.incoming text w.clock extra] else []
  | _ => []

def takenInAmid (outages : Outages) (w : World) (c : String) : Action → List Message
  | message _ conversationId text extra =>
    if conversationId = c ∧ w.takesInAmid outages conversationId then
      [.incoming text w.clock extra]
    else []
  | _ => []

theorem takenInAmid_never (w : World) (c : String) (action : Action) :
    action.takenInAmid .never w c = action.takenIn w c := by
  cases action with
  | message botId conversationId text extra => rw [takenInAmid, takenIn, takesInAmid_never]
  | _ => rfl

structure Continues (outages : Outages) (w : World) (action : Action) (c : String) (w' : World) :
    Prop where
  gains : ∃ out, (∀ m ∈ out, m.direction = .outgoing) ∧
    w.conversations.Gains c (action.takenInAmid outages w c ++ out) w'.conversations
  taken : w.conversations.status? c = some .humanTakeover → action ≠ .release c →
    w'.conversations.status? c = some .humanTakeover

variable {settings : Settings} {outages : Outages} {w : World} {c : String}

theorem Continues.of_speaks {action : Action} {w' : World}
    (haction : action.takenInAmid outages w c = [])
    (h : w.conversations.Speaks w'.conversations) : Continues outages w action c w' := by
  obtain ⟨out, hout, hgains⟩ := h.gains c
  exact ⟨⟨out, hout, haction ▸ hgains⟩, fun htaken _ => h.taken c htaken⟩

theorem speaks_attemptAmid {α : Type} {x : Activity α} (hx : x.Only Call.ByBot fun _ => True)
    (outages : Outages) (w : World) :
    w.conversations.Speaks (w.attemptAmid outages x).conversations := by
  rw [conversations_attemptAmid]
  exact speaks_perform_amid hx (outages, w)

theorem continues_message (settings : Settings) (outages : Outages) (w : World)
    (botId conversationId text : String) (extra : Option Json) (c : String) :
    Continues outages w (.message botId conversationId text extra) c
      (applyAmid settings outages w (.message botId conversationId text extra)) := by
  have hconversations := w.conversations_attemptAmid outages
    (Dispatch.message settings botId conversationId text extra)
  rw [← applyAmid] at hconversations
  rcases @Dispatch.perform_message settings outages w botId conversationId text extra with
    ⟨htakes, hlost⟩ | ⟨htakes, found, hfound, hran⟩
  · refine .of_speaks (if_neg fun h => ?_) ?_
    · simp [htakes] at h
    · rw [hconversations, hlost]
      exact .refl _
  · obtain ⟨store, hstore, hspeaks⟩ :=
      @Dispatch.speaks_attend settings
        (outages.later.later.later, w.received conversationId text extra) botId conversationId text
        extra w.clock (found.any (·.status? == some .humanTakeover))
    rw [← hran, ← hconversations] at hspeaks
    have hreceived := w.conversations.gains_append conversationId c (.incoming text w.clock extra)
    have hstatus := w.conversations.status?_append conversationId c (.incoming text w.clock extra)
    have htakenIn : takenInAmid outages w c (.message botId conversationId text extra) =
        if conversationId = c then [.incoming text w.clock extra] else [] := by
      simp [takenInAmid, htakes]
    obtain ⟨out, hout, hgains⟩ := hspeaks.gains c
    constructor
    · refine ⟨out, hout, ?_⟩
      rw [htakenIn]
      rcases hstore with rfl | ⟨-, rfl⟩
      · exact hreceived.trans hgains
      · have hset :=
          hreceived.trans (ConversationStore.gains_setStatus _ conversationId c .active w.clock)
        rw [List.append_nil] at hset
        exact hset.trans hgains
    · intro htaken _
      refine hspeaks.taken c ?_
      rcases hstore with rfl | ⟨hfree, rfl⟩
      · exact hstatus.trans htaken
      · -- the status is set back here, but not in the conversation that a human has
        have hne : conversationId ≠ c := by
          rintro rfl
          rw [← ConversationStore.status?_of_get? hfound] at htaken
          obtain ⟨conversation, rfl, hconversation⟩ := Option.bind_eq_some_iff.mp htaken
          simp [hconversation] at hfree
        rw [ConversationStore.status?_setStatus, if_neg hne]
        exact hstatus.trans htaken

theorem continues_release (settings : Settings) (outages : Outages) (w : World)
    (conversationId c : String) :
    Continues outages w (.release conversationId) c
      (applyAmid settings outages w (.release conversationId)) := by
  have hnow : amid (outages, w) .now = (some w.clock, outages.later, w) := rfl
  by_cases hset : .setStatus ∈ w.failing ++ outages 1
  · have hfailed : amid (outages.later, w) (.setStatus conversationId .active w.clock) =
        (some (.error (.unavailable "set_status")), outages.later.later, w) :=
      lapse_serve_of_mem hset _
    have hran : amid.perform (Dispatch.release conversationId) (outages, w) =
        (.finished (.error (.unavailable "set_status")), outages.later.later, w) :=
      (Environment.perform_of_answer hnow).trans (Environment.perform_of_answer hfailed)
    refine .of_speaks rfl ?_
    rw [applyAmid, conversations_attemptAmid, hran]
    exact .refl _
  · let w' : World := { w with
      conversations := w.conversations.setStatus conversationId .active w.clock }
    have hanswer : amid (outages.later, w) (.setStatus conversationId .active w.clock) =
        (some (.ok ()), outages.later.later, w') := lapse_serve_of_not_mem hset _
    have hran : amid.perform (Dispatch.release conversationId) (outages, w) =
        (.finished (.ok ()), outages.later.later, w') :=
      (Environment.perform_of_answer hnow).trans (Environment.perform_of_answer hanswer)
    have hconversations : (applyAmid settings outages w (.release conversationId)).conversations =
        w'.conversations := by rw [applyAmid, conversations_attemptAmid, hran]
    constructor
    · refine ⟨[], List.forall_mem_nil _, ?_⟩
      rw [hconversations]
      exact w.conversations.gains_setStatus conversationId c .active w.clock
    · intro htaken hother
      have hne : conversationId ≠ c := fun h => hother (h ▸ rfl)
      rw [hconversations, ConversationStore.status?_setStatus, if_neg hne]
      exact htaken

theorem continues_applyAmid (settings : Settings) (outages : Outages) (w : World)
    (action : Action) (c : String) :
    Continues outages w action c (action.applyAmid settings outages w) := by
  cases action with
  | message botId conversationId text extra =>
    exact continues_message settings outages w botId conversationId text extra c
  | release conversationId => exact continues_release settings outages w conversationId c
  | tick botId conversationId contact =>
    exact .of_speaks rfl
      (speaks_attemptAmid (Dispatch.tick_only_byBot botId conversationId contact) outages w)
  | cancel botId conversationId =>
    exact .of_speaks rfl
      (speaks_attemptAmid (Dispatch.cancel_only_byBot botId conversationId) outages w)
  | meanwhile other => exact .of_speaks rfl (.refl _)
  | sweep batch =>
    refine .of_speaks rfl ?_
    have hspeaks := speaks_perform_amid (@Dispatch.sweep_only_byBot settings batch) (outages, w)
    rcases hperform : amid.perform (Dispatch.sweep settings batch) (outages, w) with
      ⟨report | rest, s⟩
    · rw [hperform] at hspeaks
      simpa only [applyAmid, hperform] using hspeaks
    · rw [hperform, ← (abandon_conversations s.2 rest).1] at hspeaks
      simpa only [applyAmid, hperform] using hspeaks

end Action

namespace World

/-- The world behind some actions, each with what goes out of service meanwhile. -/
def afterAmid (settings : Settings) (w : World) (actions : List (Outages × Action)) : World :=
  actions.foldl (fun w a => a.2.applyAmid settings a.1 w) w

theorem afterAmid_append (settings : Settings) (w : World)
    (earlier later : List (Outages × Action)) :
    w.afterAmid settings (earlier ++ later) =
      (w.afterAmid settings earlier).afterAmid settings later :=
  List.foldl_append

theorem afterAmid_never (settings : Settings) (w : World) (actions : List Action) :
    w.afterAmid settings (actions.map (.never, ·)) = w.after settings actions := by
  rw [afterAmid, after, List.foldl_map]
  simp only [Action.applyAmid_never]

theorem gains_afterAmid (settings : Settings) (w : World) (actions : List (Outages × Action))
    (c : String) :
    ∃ ms, w.conversations.Gains c ms (w.afterAmid settings actions).conversations := by
  induction actions generalizing w with
  | nil => exact ⟨[], .refl c _⟩
  | cons a rest ih =>
    obtain ⟨out, -, hfirst⟩ := (Action.continues_applyAmid settings a.1 w a.2 c).gains
    obtain ⟨ms, hrest⟩ := ih (a.2.applyAmid settings a.1 w)
    exact ⟨_, hfirst.trans hrest⟩

theorem taken_afterAmid (settings : Settings) {w : World} {actions : List (Outages × Action)}
    {c : String} (htaken : w.conversations.status? c = some .humanTakeover)
    (hkept : ∀ a ∈ actions, a.2 ≠ .release c) :
    (w.afterAmid settings actions).conversations.status? c = some .humanTakeover := by
  induction actions generalizing w with
  | nil => exact htaken
  | cons a rest ih =>
    obtain ⟨haction, hrest⟩ := List.forall_mem_cons.mp hkept
    exact ih ((Action.continues_applyAmid settings a.1 w a.2 c).taken htaken haction) hrest

/-- Whatever is done in a world, one thing after the other, and whichever calls fail meanwhile, be
it only for once, the log of a conversation only grows. What one action adds to it are messages of
the bot, behind the message that the action takes in if it is a message for that conversation. Who
can read the conversation both times finds what was there before and more behind it. And a human who
has the conversation keeps it as long as it is not released. -/
theorem logs_afterAmid (settings : Settings) (w : World) (earlier : List (Outages × Action))
    (outages : Outages) (action : Action) (later : List (Outages × Action)) (c : String) :
    let before := w.afterAmid settings earlier
    let next := w.afterAmid settings (earlier ++ [(outages, action)])
    let last := w.afterAmid settings (earlier ++ (outages, action) :: later)
    (∃ out, (∀ m ∈ out, m.direction = .outgoing) ∧
      before.conversations.Gains c (action.takenInAmid outages before c ++ out)
        next.conversations) ∧
    (∃ ms, before.conversations.Gains c ms last.conversations) ∧
    (∀ found found', before.conversations.get? c = .ok found →
      last.conversations.get? c = .ok found' →
      found.elim [] (·.messages) <+: found'.elim [] (·.messages)) ∧
    (before.conversations.status? c = some .humanTakeover →
      (∀ a ∈ (outages, action) :: later, a.2 ≠ .release c) →
      last.conversations.status? c = some .humanTakeover) := by
  intro before next last
  have hnext : next = action.applyAmid settings outages before :=
    afterAmid_append settings w earlier [(outages, action)]
  have hlast : last = before.afterAmid settings ((outages, action) :: later) :=
    afterAmid_append settings w earlier _
  obtain ⟨ms, hgains⟩ := gains_afterAmid settings before ((outages, action) :: later) c
  refine ⟨?_, ?_, fun found found' hfound hfound' => ?_, fun htaken hkept => ?_⟩
  · rw [hnext]
    exact (Action.continues_applyAmid settings outages before action c).gains
  · rw [hlast]
    exact ⟨ms, hgains⟩
  · rw [hlast] at hfound'
    exact hgains.messages_prefix hfound hfound'
  · rw [hlast]
    exact taken_afterAmid settings htaken hkept

/-- Whatever is done in a world, one thing after the other, and whatever goes out of service, the
log of a conversation only grows. What one action adds to it are messages of the bot, behind the
message that the action takes in if it is a message for that conversation. Who can read the
conversation both times finds what was there before and more behind it. And a human who has the
conversation keeps it as long as it is not released. -/
theorem logs_after (settings : Settings) (w : World) (earlier : List Action) (action : Action)
    (later : List Action) (c : String) :
    let before := w.after settings earlier
    let next := w.after settings (earlier ++ [action])
    let last := w.after settings (earlier ++ action :: later)
    (∃ out, (∀ m ∈ out, m.direction = .outgoing) ∧
      before.conversations.Gains c (action.takenIn before c ++ out) next.conversations) ∧
    (∃ ms, before.conversations.Gains c ms last.conversations) ∧
    (∀ found found', before.conversations.get? c = .ok found →
      last.conversations.get? c = .ok found' →
      found.elim [] (·.messages) <+: found'.elim [] (·.messages)) ∧
    (before.conversations.status? c = some .humanTakeover →
      (∀ a ∈ action :: later, a ≠ .release c) →
      last.conversations.status? c = some .humanTakeover) := by
  have hnext : w.afterAmid settings (earlier.map (.never, ·) ++ [(.never, action)]) =
      w.after settings (earlier ++ [action]) := by
    rw [← afterAmid_never, List.map_append]
    rfl
  have hlast : w.afterAmid settings
      (earlier.map (.never, ·) ++ (.never, action) :: later.map (.never, ·)) =
      w.after settings (earlier ++ action :: later) := by
    rw [← afterAmid_never, List.map_append]
    rfl
  have hamid := logs_afterAmid settings w (earlier.map (.never, ·)) .never action
    (later.map (.never, ·)) c
  dsimp only at hamid
  rw [afterAmid_never, hnext, hlast, Action.takenInAmid_never] at hamid
  obtain ⟨hone, hall, hread, htaken⟩ := hamid
  refine ⟨hone, hall, hread, fun hbefore hkept => htaken hbefore ?_⟩
  obtain ⟨haction, hrest⟩ := List.forall_mem_cons.mp hkept
  exact List.forall_mem_cons.mpr ⟨haction, List.forall_mem_map.mpr hrest⟩

/-- A human has the conversation also after another message and the sweep a minute later. -/
theorem logs_after_handedOver :
    Dispatch.handedOver.conversations.status? "5511" = some .humanTakeover ∧
      (∀ a ∈ Action.message "bot" "5511" "hello" none :: Dispatch.minuteLater,
        a ≠ .release "5511") ∧
      (Dispatch.handedOver.after ⟨.strict, 10, 15000⟩
        (.message "bot" "5511" "hello" none :: Dispatch.minuteLater)).conversations.status? "5511" =
          some .humanTakeover := by
  have htaken : Dispatch.handedOver.conversations.status? "5511" = some .humanTakeover := by
    decide +kernel
  have hkept : ∀ a ∈ Action.message "bot" "5511" "hello" none :: Dispatch.minuteLater,
      a ≠ .release "5511" := by
    intro a ha
    simp only [Dispatch.minuteLater, List.mem_cons, List.not_mem_nil, or_false] at ha
    rcases ha with rfl | rfl | rfl <;> exact nofun
  exact ⟨htaken, hkept,
    (logs_after ⟨.strict, 10, 15000⟩ Dispatch.opened [.message "bot" "5511" "hi" none]
    (.message "bot" "5511" "hello" none) Dispatch.minuteLater "5511").2.2.2 htaken hkept⟩

end World

end ChatFlow
