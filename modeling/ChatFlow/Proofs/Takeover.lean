import ChatFlow.Proofs.Discretion
import ChatFlow.Proofs.Turn

namespace ChatFlow

def Registry.LeavesContact (registry : Registry) : Prop :=
  ∀ botId active, registry.active? botId = some active → active.flow.LeavesContact

theorem Registry.leavesContact_empty : Registry.empty.LeavesContact := nofun

theorem Registry.LeavesContact.install {registry : Registry} (h : registry.LeavesContact)
    (botId : String) {active : ActiveFlow} (hactive : active.flow.LeavesContact) :
    (registry.install botId active).LeavesContact := by
  intro id found hfound
  rw [Registry.active?, Registry.install] at hfound
  by_cases hid : id = botId
  · rw [hid, Keyed.get?_insert_self] at hfound
    cases hfound
    exact hactive
  · rw [Keyed.get?_insert_of_ne hid] at hfound
    exact h id found hfound

/-- A human has the conversation, and the flows in use leave the channel of their contact alone. -/
structure World.InHand (c : String) (w : World) : Prop where
  taken : w.conversations.status? c = some .humanTakeover
  flows : w.registry.LeavesContact

variable {α β : Type} {c : String}

/-- What calls are answered with while a human has the conversation. -/
def Call.Told (c : String) : (call : Call) → call.Answer → Prop
  | .getConversation id, answer =>
    id = c → ∀ found, answer = .ok found → found.bind (·.status?) = some .humanTakeover
  | .activeFlow _, answer => ∀ active, answer = some active → active.flow.LeavesContact
  | _, _ => True

/-- A call by which neither the conversation is handed back to the bot nor something is said
in it. -/
def Call.Silent (c : String) (call : Call) : Prop := call.Retains c ∧ call.Spares c

def Activity.OnlyTold (c : String) (P : Call → Prop) : Activity α → Prop
  | .done _ => True
  | .call k next => P k ∧ ∀ answer, k.Told c answer → (next answer).OnlyTold c P

namespace Activity

variable {P : Call → Prop} {Q : α → Prop}

theorem Only.told {x : Activity α} (h : x.Only P Q) : x.OnlyTold c P := by
  induction x with
  | done a => trivial
  | call k next ih => exact ⟨h.1, fun answer _ => ih answer (h.2 answer)⟩

theorem OnlyTold.bind {x : Activity α} {f : α → Activity β} (hx : x.OnlyTold c P)
    (hf : ∀ a, (f a).OnlyTold c P) : (x.bind f).OnlyTold c P := by
  induction x with
  | done a => exact hf a
  | call k next ih => exact ⟨hx.1, fun answer hanswer => ih answer (hx.2 answer hanswer)⟩

theorem OnlyTold.mono {P' : Call → Prop} {x : Activity α} (hx : x.OnlyTold c P)
    (hP : ∀ call, P call → P' call) : x.OnlyTold c P' := by
  induction x with
  | done a => trivial
  | call k next ih => exact ⟨hP k hx.1, fun answer hanswer => ih answer (hx.2 answer hanswer)⟩

theorem onlyTold_locked {body : Activity α} (hbody : body.OnlyTold c (Call.Silent c))
    (botId conversationId : String) : (locked botId conversationId body).OnlyTold c
    (Call.Silent c) := by
  refine ⟨⟨trivial, trivial⟩, fun ticket _ => ⟨⟨trivial, trivial⟩, fun _ _ => ?_⟩⟩
  exact hbody.bind fun a =>
    ⟨⟨trivial, trivial⟩, fun _ _ => ⟨⟨trivial, trivial⟩, fun _ _ => trivial⟩⟩

end Activity

namespace World

theorem InHand.told {w : World} (h : w.InHand c) {call : Call} {answer : call.Answer}
    (hanswer : (w.answer call).1 = some answer) : call.Told c answer := by
  cases call with
  | getConversation id =>
    rintro rfl found rfl
    have hfound : w.serve .get (w.conversations.get? id, w) = w.answer (.getConversation id) := rfl
    rw [← hfound] at hanswer
    unfold serve at hanswer
    split at hanswer
    · cases hanswer
    · rw [ConversationStore.status?_of_get? (Option.some.inj hanswer), h.taken]
  | activeFlow botId =>
    rintro active rfl
    exact h.flows botId active (Option.some.inj hanswer)
  | _ => trivial

/-- What comes of calls while a human has the conversation: the human keeps it, and what was said
stays. -/
structure Stands (c : String) (w w' : World) : Prop where
  inHand : w'.InHand c
  said : w.conversations.outgoing c <+: w'.conversations.outgoing c

theorem Stands.trans {w w₁ w₂ : World} (h : Stands c w w₁) (h' : Stands c w₁ w₂) : Stands c w w₂ :=
  ⟨h'.inHand, h.said.trans h'.said⟩

theorem Stands.refl {w : World} (h : w.InHand c) : Stands c w w := ⟨h, List.prefix_refl _⟩

theorem Stands.of_eq {w w₁ w₂ : World} (h : Stands c w w₁)
    (hconversations : w₂.conversations = w₁.conversations) (hregistry : w₂.registry = w₁.registry) :
    Stands c w w₂ := by
  obtain ⟨⟨htaken, hflows⟩, hsaid⟩ := h
  rw [← hconversations] at htaken hsaid
  rw [← hregistry] at hflows
  exact ⟨⟨htaken, hflows⟩, hsaid⟩

theorem InHand.stands_answer {w : World} (h : w.InHand c) {call : Call} (hcall : call.Retains c) :
    Stands c w (w.answer call).2 := by
  obtain ⟨hconversations, hregistry⟩ := wrote_answer w call
  have hflows : (w.answer call).2.registry.LeavesContact := hregistry.symm ▸ h.flows
  rcases hconversations with hsame | hwrite
  · exact ⟨⟨hsame.symm ▸ h.taken, hflows⟩, hsame.symm ▸ List.prefix_refl _⟩
  · exact ⟨⟨hwrite.symm ▸ hcall.status?_write h.taken, hflows⟩,
      hwrite.symm ▸ Call.outgoing_prefix_write c call w.conversations⟩

theorem outgoing_answer {w : World} {call : Call} (hcall : call.Spares c) :
    (w.answer call).2.conversations.outgoing c = w.conversations.outgoing c := by
  rcases (wrote_answer w call).conversations with hsame | hwrite
  · rw [hsame]
  · rw [hwrite, hcall.outgoing_write]

theorem InHand.stands_perform {w : World} (h : w.InHand c) {x : Activity α}
    (hx : x.OnlyTold c (Call.Retains c)) : Stands c w (perform x w).2 := by
  induction x generalizing w with
  | done a => exact .refl h
  | call k next ih =>
    have hstands := h.stands_answer hx.1
    rcases hanswer : w.answer k with ⟨_ | answer, w₁⟩
    · rw [hanswer] at hstands
      simpa only [perform, hanswer] using hstands
    · have htold := h.told (congrArg Prod.fst hanswer)
      rw [hanswer] at hstands
      simpa only [perform, hanswer]
        using hstands.trans (ih answer hstands.inHand (hx.2 answer htold))

theorem InHand.outgoing_perform {w : World} (h : w.InHand c) {x : Activity α}
    (hx : x.OnlyTold c (Call.Silent c)) :
    (perform x w).2.conversations.outgoing c = w.conversations.outgoing c := by
  induction x generalizing w with
  | done a => rfl
  | call k next ih =>
    have hstands := h.stands_answer hx.1.1
    have hsaid := @outgoing_answer c w k hx.1.2
    rcases hanswer : w.answer k with ⟨_ | answer, w₁⟩
    · rw [hanswer] at hsaid
      simpa only [perform, hanswer] using hsaid
    · have htold := h.told (congrArg Prod.fst hanswer)
      rw [hanswer] at hstands hsaid
      simp only [perform, hanswer]
      exact (ih answer hstands.inHand (hx.2 answer htold)).trans hsaid

theorem abandon_conversations (w : World) (rest : Activity α) :
    (w.abandon rest).conversations = w.conversations ∧ (w.abandon rest).registry = w.registry := by
  unfold abandon
  split <;> exact ⟨rfl, rfl⟩

theorem attempt_conversations (w : World) (x : Activity α) :
    (w.attempt x).2.conversations = (perform x w).2.conversations ∧
      (w.attempt x).2.registry = (perform x w).2.registry := by
  unfold attempt
  rcases perform x w with ⟨a | rest, w₁⟩
  · exact ⟨rfl, rfl⟩
  · exact abandon_conversations w₁ rest

theorem InHand.stands_attempt {w : World} (h : w.InHand c) {x : Activity α}
    (hx : x.OnlyTold c (Call.Retains c)) : Stands c w (w.attempt x).2 := by
  obtain ⟨hconversations, hregistry⟩ := attempt_conversations w x
  exact (h.stands_perform hx).of_eq hconversations hregistry

theorem InHand.outgoing_attempt {w : World} (h : w.InHand c) {x : Activity α}
    (hx : x.OnlyTold c (Call.Silent c)) :
    (w.attempt x).2.conversations.outgoing c = w.conversations.outgoing c := by
  rw [(attempt_conversations w x).1]
  exact h.outgoing_perform hx

end World

namespace Dispatch

variable {settings : Settings}

theorem runFlow_onlyTold {active : ActiveFlow} (hflow : active.flow.LeavesContact)
    {context : Context} (hchannel : context.channel? ≠ some c) (botId conversationId : String)
    (event : Event) :
    (runFlow settings botId conversationId active event context).OnlyTold c (Call.Silent c) := by
  have hbody : (active.flow.execute settings (.writer botId conversationId active.version) event
      context).OnlyTold c (Call.Silent c) :=
    (Flow.execute_only_discreet hflow event context).told.mono fun _ h => ⟨h.1, h.2 hchannel⟩
  refine Activity.onlyTold_locked ?_ botId conversationId
  refine hbody.bind fun result => ?_
  trivial

theorem ne_of_some_channel {conversationId : String} (h : conversationId ≠ c) :
    (if conversationId.isEmpty then none else some conversationId) ≠ some c := by
  split
  · exact nofun
  · exact fun heq => h (Option.some.inj heq)

theorem ne_of_not_taken {conversationId : String} {found : Option Conversation}
    (hfound : (Call.getConversation conversationId).Told c (.ok found))
    (h : found.any (·.status? == some .humanTakeover) = false) : conversationId ≠ c := by
  intro heq
  have hstatus := hfound heq found rfl
  obtain ⟨conversation, rfl, hconversation⟩ := Option.bind_eq_some_iff.mp hstatus
  simp [hconversation] at h

/-- In a conversation that a human has a message is noted and nothing is said; to all others it does
not matter. -/
theorem message_onlyTold (botId conversationId text : String) (extra : Option Json) :
    (message settings botId conversationId text extra).OnlyTold c (Call.Silent c) := by
  refine ⟨⟨trivial, trivial⟩, fun now _ => ⟨⟨trivial, trivial⟩, fun found hfound => ?_⟩⟩
  cases found with
  | error failure => trivial
  | ok found =>
    refine ⟨⟨trivial, fun _ => rfl⟩, fun appended _ => ?_⟩
    cases appended with
    | error failure => trivial
    | ok _ =>
      cases htaken : found.any (·.status? == some .humanTakeover) with
      | true =>
        simp only [htaken, if_pos]
        refine ⟨⟨trivial, trivial⟩, fun touched _ => ?_⟩
        cases touched <;> trivial
      | false =>
        -- the status is set back here, but not in the conversation that a human has
        have hne := ne_of_not_taken hfound htaken
        simp only [htaken]
        refine ⟨⟨fun heq => absurd heq hne, trivial⟩, fun set _ => ?_⟩
        cases set with
        | error failure => trivial
        | ok _ =>
          refine ⟨⟨trivial, trivial⟩, fun active? hactive => ?_⟩
          cases active? with
          | none => trivial
          | some active =>
            have hflow : active.flow.LeavesContact := hactive active rfl
            simp only [Activity.done_bind]
            split
            · refine runFlow_onlyTold hflow ?_ botId conversationId (.newMessage text)
              rw [channel?_messageContext]
              exact ne_of_some_channel hne
            · trivial

theorem tick_onlyTold (botId conversationId : String) (contact : Keyed Json) :
    (tick settings botId conversationId contact).OnlyTold c (Call.Silent c) := by
  refine ⟨⟨trivial, trivial⟩, fun found hfound => ?_⟩
  cases found with
  | error failure => trivial
  | ok found =>
    cases htaken : found.any (·.status? == some .humanTakeover) with
    | true =>
      simp only [Activity.done_bind, Activity.pure_eq, Except.map, htaken]
      trivial
    | false =>
      have hne := ne_of_not_taken hfound htaken
      simp only [Activity.done_bind, Activity.pure_eq, Except.map, htaken]
      refine ⟨⟨trivial, trivial⟩, fun active? hactive => ?_⟩
      cases active? with
      | none => trivial
      | some active =>
        have hflow : active.flow.LeavesContact := hactive active rfl
        refine runFlow_onlyTold hflow ?_ botId conversationId .scheduled
        rw [channel?_tickContext]
        exact ne_of_some_channel hne

theorem release_onlyTold {conversationId : String} (h : conversationId ≠ c) :
    (release conversationId).OnlyTold c (Call.Silent c) :=
  ⟨⟨trivial, trivial⟩, fun _ _ => ⟨⟨fun heq => absurd heq h, trivial⟩, fun _ _ => trivial⟩⟩

theorem cancel_onlyTold (botId conversationId : String) :
    (cancel botId conversationId).OnlyTold c (Call.Silent c) := by
  refine Activity.onlyTold_locked ?_ botId conversationId
  exact ⟨⟨trivial, trivial⟩, fun _ _ => trivial⟩

end Dispatch

end ChatFlow
