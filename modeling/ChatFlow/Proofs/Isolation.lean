import ChatFlow.Proofs.Confinement
import ChatFlow.Proofs.Invariant

namespace ChatFlow

open Activity (KeepsTo)

variable {settings : Settings} {free : LockTable → Prop} {botId c version : String}

theorem Call.Notes.staysAt {call : Call} (h : call.Notes (some c)) (botId : String) :
    call.StaysAt botId c := by
  obtain ⟨haddresses, hsend⟩ := h
  cases call with
  | append id m => exact (Option.some.inj haddresses.1).symm
  | touch id at_ => exact (Option.some.inj haddresses).symm
  | setStatus id status at_ => exact (Option.some.inj haddresses.1).symm
  | send request => exact absurd rfl (hsend request)
  | now => trivial
  | _ => exact haddresses.elim

namespace Node

variable {node : Node} {context : Context}

/-- A visit keeps to the conversation of its context, and leaves the channel in its place. -/
theorem visit_keepsTo (hkind : node.kind ≠ .apiRequest) (hsets : ¬ node.SetsChannel)
    (hchannel : context.channel? = some c) (resuming : Bool) :
    (node.visit settings (.writer botId c version) resuming context).KeepsTo free botId c
      (NodeResult.Within (·.channel? = some c) fun _ => True) := by
  unfold visit
  split
  · exact .done hchannel
  · by_cases hs : node.Suspends
    · rw [run_of_suspends hs]
      refine .call trivial fun now _ => .call trivial fun at_ _ => ?_
      refine KeepsTo.bind .save fun saved _ => ?_
      cases saved with
      | error failure => exact .done trivial
      | ok _ => exact .done hchannel
    · have honly := run_only_notes hs hkind settings (.writer botId c version) context
      rw [hchannel] at honly
      refine .of_only (honly.mono (fun call hcall => hcall.staysAt botId) fun r hr => ?_)
      rcases r with e | ⟨handle | resumeAt, context'⟩
      · trivial
      · exact (channel?_of_written hkind hsets hr).trans hchannel
      · exact hr.elim

end Node

namespace Flow

variable {flow : Flow}

theorem traverse_keepsTo (hflow : flow.KeepsChannel) (start : String) {room : Nat} {resuming : Bool}
    {path : List String} {context : Context} {id : String} (hchannel : context.channel? = some c) :
    (traverse settings (.writer botId c version) (Index.ofFlow flow) start room resuming path
      context id).KeepsTo
      free botId c fun r => r.1.channel? = some c := by
  induction room generalizing resuming path context id with
  | zero =>
    cases hid : (Index.ofFlow flow).contains id with
    | false =>
      rw [traverse_of_not_contains hid]
      exact .done hchannel
    | true =>
      rw [traverse_zero_of_contains hid]
      exact .done hchannel
  | succ room ih =>
    cases hnode : (Index.ofFlow flow).node? id with
    | none =>
      rw [traverse_of_node?_eq_none hnode]
      exact .done hchannel
    | some node =>
      obtain ⟨hkind, hsets⟩ := hflow node (Index.mem_nodes_of_node? hnode).1
      rw [traverse_of_node? hnode]
      refine (Node.visit_keepsTo hkind hsets hchannel resuming).bind ?_
      rintro (e | ⟨handle | resumeAt, context'⟩) hresult
      · exact .done hchannel
      · rw [goOn]
        cases next settings.policy (Index.ofFlow flow) node.id handle with
        | nowhere => exact .done hresult
        | failure e => exact .done hresult
        | node target => exact ih hresult
      · exact .done hresult

theorem traverseAll_keepsTo (hflow : flow.KeepsChannel) (nodes : List Node) {context : Context}
    (hchannel : context.channel? = some c) :
    (traverseAll settings (.writer botId c version) (Index.ofFlow flow) context nodes).KeepsTo
      free botId c
      fun r => r.1.channel? = some c := by
  induction nodes generalizing context with
  | nil => exact .done hchannel
  | cons node rest ih =>
    refine (traverse_keepsTo hflow node.id hchannel).bind ?_
    rintro ⟨context', e | t⟩ hchannel'
    · exact .done hchannel'
    · exact (ih hchannel').bind fun r hr => .done hr

theorem run_keepsTo (hflow : flow.KeepsChannel) (event : Event) {context : Context}
    (hchannel : context.channel? = some c) :
    (flow.run settings (.writer botId c version) event context).KeepsTo free botId c
      fun r => r.1.channel? = some c := by
  cases event with
  | newMessage text => exact traverseAll_keepsTo hflow _ hchannel
  | scheduled => exact traverseAll_keepsTo hflow _ hchannel
  | resume node => exact (traverse_keepsTo hflow node hchannel).bind fun r hr => .done hr

theorem execute_keepsTo (hflow : flow.KeepsChannel) (event : Event) {context : Context}
    (hchannel : context.channel? = some c) :
    (flow.execute settings (.writer botId c version) event context).KeepsTo free botId c
      fun _ => True :=
  (run_keepsTo hflow event hchannel).bind fun _ _ => .done trivial

end Flow

namespace Dispatch

inductive Occasion
  | message (text : String) (extra : Option Json)
  | tick (contact : Keyed Json)

def Occasion.activity (settings : Settings) (botId c : String) : Occasion → Activity Result
  | message text extra => Dispatch.message settings botId c text extra
  | tick contact => Dispatch.tick settings botId c contact

theorem runFlow_keepsTo {active : ActiveFlow} (hflow : active.flow.KeepsChannel) (event : Event)
    {context : Context} (hchannel : context.channel? = some c) :
    (runFlow settings botId c active event context).KeepsTo (·.queue = []) botId c fun _ =>
      True := by
  refine KeepsTo.locked (fun free => ?_) botId c
  exact (Flow.execute_keepsTo hflow event hchannel).bind fun _ _ => .done trivial

theorem message_keepsTo (hc : c ≠ "") (text : String) (extra : Option Json) :
    (message settings botId c text extra).KeepsTo (·.queue = []) botId c fun _ => True := by
  refine .call trivial fun now _ => .call rfl fun found _ => ?_
  cases found with
  | error failure => exact .done trivial
  | ok found =>
    refine .call rfl fun appended _ => ?_
    cases appended with
    | error failure => exact .done trivial
    | ok _ =>
      cases htaken : found.any (·.status? == some .humanTakeover) with
      | true =>
        simp only [htaken, if_pos]
        refine .call rfl fun touched _ => ?_
        cases touched <;> exact .done trivial
      | false =>
        simp only [htaken]
        refine .call rfl fun set _ => ?_
        cases set with
        | error failure => exact .done trivial
        | ok _ =>
          refine .call rfl fun active? hoffers => ?_
          cases active? with
          | none => exact .done trivial
          | some active =>
            simp only [Activity.done_bind]
            split
            · refine runFlow_keepsTo (hoffers active rfl) (.newMessage text) ?_
              rw [channel?_messageContext, if_neg (by simpa using hc)]
            · exact .done trivial

theorem tick_keepsTo (hc : c ≠ "") (contact : Keyed Json) :
    (tick settings botId c contact).KeepsTo (·.queue = []) botId c fun _ => True := by
  refine .call rfl fun found _ => ?_
  cases found with
  | error failure => exact .done trivial
  | ok found =>
    simp only [Activity.done_bind, Activity.pure_eq, Except.map]
    cases found.any (·.status? == some .humanTakeover) with
    | true => exact .done trivial
    | false =>
      refine .call rfl fun active? hoffers => ?_
      cases active? with
      | none => exact .done trivial
      | some active =>
        refine runFlow_keepsTo (hoffers active rfl) .scheduled ?_
        rw [channel?_tickContext, if_neg (by simpa using hc)]

theorem Occasion.keepsTo (hc : c ≠ "") (o : Occasion) :
    (o.activity settings botId c).KeepsTo (·.queue = []) botId c fun _ => True := by
  cases o with
  | message text extra => exact message_keepsTo hc text extra
  | tick contact => exact tick_keepsTo hc contact

end Dispatch

/-- Two worlds that came from one hold the same: each conversation is as in the other, and the
records that were added of each bot's conversation are the same but for their identifiers. -/
structure World.SameSince (w w₁ w₂ : World) : Prop where
  conversations : ∀ d, w₂.conversations.part d = w₁.conversations.part d
  suspensions : ∃ saved₁ saved₂, w₁.suspensions = w.suspensions.add saved₁ ∧
    w₂.suspensions = w.suspensions.add saved₂ ∧ ∀ botId d,
      (saved₂.filter (SuspensionTable.belongs botId d)).map Suspension.unnamed =
        (saved₁.filter (SuspensionTable.belongs botId d)).map Suspension.unnamed

theorem Suspension.map_unnamed_filter (botId d : String) (records : List Suspension) :
    (records.filter (SuspensionTable.belongs botId d)).map unnamed =
      (records.map unnamed).filter (SuspensionTable.belongs botId d) := by
  rw [List.filter_map]
  rfl

theorem World.OnlyAt.filter_eq_nil {botId c : String} {saved : List Suspension} {w w' : World}
    (h : w.OnlyAt botId c saved w') (botId' : String) {d : String} (hd : d ≠ c) :
    saved.filter (SuspensionTable.belongs botId' d) = [] := by
  rw [List.filter_eq_nil_iff]
  intro s hs hbelongs
  rw [SuspensionTable.belongs, Bool.and_eq_true, beq_iff_eq, beq_iff_eq, (h.owner s hs).2]
    at hbelongs
  exact hd hbelongs.2.symm

/-- What keeps to one conversation and what keeps to another can be done in either order. -/
theorem Activity.KeepsTo.commute {α β : Type} {botId c botId' d : String}
    {free free' : LockTable → Prop} {Q : α → Prop} {Q' : β → Prop} {x : Activity α} {y : Activity β}
    (hx : x.KeepsTo free botId c Q) (hy : y.KeepsTo free' botId' d Q') (hd : d ≠ c)
    {w w₁ w₁₂ w₂ w₂₁ : World} {a a' : α} {b b' : β} (hw : w.KeepsChannel botId)
    (hw' : w.KeepsChannel botId') (hfresh : w.Fresh) (hx₁ : w.Runs x a w₁) (hy₁ : w₁.Runs y b w₁₂)
    (hy₂ : w.Runs y b' w₂) (hx₂ : w₂.Runs x a' w₂₁) :
    a' = a ∧ b' = b ∧ w.SameSince w₁₂ w₂₁ := by
  obtain ⟨-, _, honly⟩ := hx.onlyAt hw hx₁
  obtain ⟨-, _, honly'⟩ := hy.onlyAt hw' hy₂
  obtain ⟨ha, -, hc, saved₁, saved₂, hx₁, hx₂, hsaved⟩ :=
    hx.agrees hw (honly'.alike botId (Ne.symm hd)) hx₁ hx₂
  obtain ⟨hb, -, hd', saved₂', saved₁', hy₂, hy₁, hsaved'⟩ :=
    hy.agrees hw' (honly.alike botId' hd) hy₂ hy₁
  obtain ⟨hadd₁, hfresh₁⟩ := hx₁.suspensions hfresh
  obtain ⟨hadd₂, hfresh₂⟩ := hy₂.suspensions hfresh
  refine ⟨ha, hb.symm, fun e => ?_, saved₁ ++ saved₁', saved₂' ++ saved₂, ?_, ?_, fun o e => ?_⟩
  · by_cases hec : e = c
    · rw [hec, hc, hy₁.conversations c (Ne.symm hd)]
    · rw [hx₂.conversations e hec]
      by_cases hed : e = d
      · rw [hed, hd']
      · rw [hy₁.conversations e hed, hy₂.conversations e hed, hx₁.conversations e hec]
  · rw [(hy₁.suspensions hfresh₁).1, hadd₁, SuspensionStore.add_append]
  · rw [(hx₂.suspensions hfresh₂).1, hadd₂, SuspensionStore.add_append]
  · -- of one conversation at most one of the two has saved records
    rw [List.filter_append, List.filter_append]
    by_cases hec : e = c
    · subst hec
      rw [hy₁.filter_eq_nil o (Ne.symm hd), hy₂.filter_eq_nil o (Ne.symm hd), List.append_nil,
        List.nil_append, Suspension.map_unnamed_filter, Suspension.map_unnamed_filter, hsaved]
    · rw [hx₁.filter_eq_nil o hec, hx₂.filter_eq_nil o hec, List.append_nil, List.nil_append,
        Suspension.map_unnamed_filter, Suspension.map_unnamed_filter, hsaved']

namespace Dispatch

/-- Messages and ticks for one conversation, on a flow without requests that does not set the
channel of its contact. They come to their end where nobody is at a lock. They change nothing that
is stored but the conversation and the records of the bot's conversation. In two worlds that hold
the same of that conversation, whatever else they hold, the results are the same and so are the
changes, identifiers of new records aside. So what is done for two conversations, in either order,
has the same results and leaves the same behind. -/
theorem conversations_isolated (settings : Settings) (botId : String) {c : String} (hc : c ≠ "")
    (o : Occasion) :
    (∀ w : World, w.KeepsChannel botId → w.locks.queue = [] →
      ∃ r w', w.Runs (o.activity settings botId c) r w' ∧ w'.locks.queue = []) ∧
    (∀ (w w' : World) (r : Result), w.KeepsChannel botId →
      w.Runs (o.activity settings botId c) r w' →
      ∃ saved, w.OnlyAt botId c saved w') ∧
    (∀ (w₁ w₁' w₂ w₂' : World) (r₁ r₂ : Result), w₁.KeepsChannel botId → w₁.Alike botId c w₂ →
      w₁.Runs (o.activity settings botId c) r₁ w₁' → w₂.Runs (o.activity settings botId c) r₂ w₂' →
      r₂ = r₁ ∧ World.Together botId c w₁ w₁' w₂ w₂') ∧
    ∀ (botId' d : String) (o' : Occasion), d ≠ "" → d ≠ c →
      ∀ (w w₁ w₁₂ w₂ w₂₁ : World) (r r' s s' : Result),
      w.KeepsChannel botId → w.KeepsChannel botId' → w.Fresh →
      w.Runs (o.activity settings botId c) r w₁ → w₁.Runs (o'.activity settings botId' d) s w₁₂ →
      w.Runs (o'.activity settings botId' d) s' w₂ → w₂.Runs (o.activity settings botId c) r' w₂₁ →
      r' = r ∧ s' = s ∧ w.SameSince w₁₂ w₂₁ := by
  have hkeeps := @Occasion.keepsTo settings botId c hc o
  refine ⟨hkeeps.ends, fun w w' r hw hruns => (hkeeps.onlyAt hw hruns).2, ?_, ?_⟩
  · intro w₁ w₁' w₂ w₂' r₁ r₂ hw halike h₁ h₂
    obtain ⟨hr, -, htogether⟩ := hkeeps.agrees hw halike h₁ h₂
    exact ⟨hr, htogether⟩
  · intro botId' d o' hd hne w w₁ w₁₂ w₂ w₂₁ r r' s s' hw hw' hfresh
    exact hkeeps.commute (Occasion.keepsTo hd o') hne hw hw' hfresh

/-- A flow that takes a note of the contact, says hello and goes on after a minute. -/
def hello : Flow where
  nodes :=
    [⟨"start", .newMessage, []⟩,
      ⟨"note", .setVariable,
        [("name", .text "seen"), ("scope", .text "contact"), ("value", .text "yes")]⟩,
      ⟨"say", .sendMessage, [("text", .text "Hello")]⟩, ⟨"wait", .delay, [("ms", .ofNat 60)]⟩]
  edges := [⟨none, "start", "note", none⟩, ⟨none, "note", "say", none⟩, ⟨none, "say", "wait", none⟩]

def idle : World :=
  { World.start ⟨1893488400, 0⟩ (.memory []) (.memory []) ⟨1⟩ with
    registry := Registry.empty.install "bot" (.ofFlow "v1" hello) }

/-- A message of one person has the same effect before and behind a tick for another, and the order
does not show. -/
theorem conversations_isolated_idle :
    idle.KeepsChannel "bot" ∧ idle.Fresh ∧ idle.locks.queue = [] ∧
      ∃ (w₁ w₁₂ w₂ w₂₁ : World) (r s : Result),
        idle.Runs (message ⟨.strict, 10, 15000⟩ "bot" "5511" "hi" none) r w₁ ∧
        w₁.Runs (tick ⟨.strict, 10, 15000⟩ "bot" "5522" []) s w₁₂ ∧
        idle.Runs (tick ⟨.strict, 10, 15000⟩ "bot" "5522" []) s w₂ ∧
        w₂.Runs (message ⟨.strict, 10, 15000⟩ "bot" "5511" "hi" none) r w₂₁ ∧
        World.Together "bot" "5511" idle w₁ w₂ w₂₁ ∧ idle.SameSince w₁₂ w₂₁ := by
  have hkeeps : idle.KeepsChannel "bot" := by
    have hflow : hello.KeepsChannel := by decide
    rintro _ ⟨⟩
    exact hflow
  have hfresh : idle.Fresh := ⟨fun _ _ => List.not_mem_nil, fun _ => nofun⟩
  obtain ⟨hends, honly, hagree, hcommute⟩ :=
    conversations_isolated ⟨.strict, 10, 15000⟩ "bot" (c := "5511") (by decide) (.message "hi" none)
  obtain ⟨hends', honly', -, -⟩ :=
    conversations_isolated ⟨.strict, 10, 15000⟩ "bot" (c := "5522") (by decide) (.tick [])
  -- both orders come to their end
  obtain ⟨r, w₁, hfirst, hqueue₁⟩ := hends idle hkeeps rfl
  obtain ⟨saved, hw₁⟩ := honly idle w₁ r hkeeps hfirst
  obtain ⟨s, w₁₂, hsecond, -⟩ := hends' w₁ (hw₁.keepsChannel hkeeps) hqueue₁
  obtain ⟨s', w₂, hfirst', hqueue₂⟩ := hends' idle hkeeps rfl
  obtain ⟨saved', hw₂⟩ := honly' idle w₂ s' hkeeps hfirst'
  obtain ⟨r', w₂₁, hsecond', -⟩ := hends w₂ (hw₂.keepsChannel hkeeps) hqueue₂
  have halike : idle.Alike "bot" "5511" w₂ := hw₂.alike "bot" (by decide)
  obtain ⟨-, htogether⟩ := hagree idle w₁ w₂ w₂₁ r r' hkeeps halike hfirst hsecond'
  obtain ⟨rfl, rfl, hsame⟩ :=
    hcommute "bot" "5522" (.tick []) (by decide) (by decide) idle w₁ w₁₂ w₂ w₂₁ r r' s s'
    hkeeps hkeeps hfresh hfirst hsecond hfirst' hsecond'
  exact ⟨hkeeps, hfresh, rfl, w₁, w₁₂, w₂, w₂₁, r', s', hfirst, hsecond, hfirst', hsecond',
    htogether, hsame⟩

end Dispatch

end ChatFlow
