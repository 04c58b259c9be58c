import ChatFlow.Proofs.Conversations

namespace ChatFlow

def ConversationTable.messagesOf (c : String) (table : ConversationTable) : List Message :=
  (Keyed.get? c table).elim [] (·.messages)

def ConversationRows.rowsOf (c : String) (rows : ConversationRows) : List MessageRow :=
  rows.messages.filter (·.conversation == c)

/-- One store of conversations came from another: to a conversation nothing but messages at the end
was added, and it did not go away. -/
def ConversationStore.Gains (c : String) (ms : List Message) : ConversationStore →
    ConversationStore → Prop
  | .memory table, .memory table' => table'.messagesOf c = table.messagesOf c ++ ms
  | .rows r, .rows r' =>
    r'.rowsOf c = r.rowsOf c ++ ms.map (MessageRow.ofMessage c) ∧
      (Keyed.contains c r.conversations = true → Keyed.contains c r'.conversations = true)
  | _, _ => False

namespace ConversationTable

theorem messagesOf_change (table : ConversationTable) (id c : String)
    {f : Conversation → Conversation} {ms : List Message}
    (hf : ∀ conversation, (f conversation).messages = conversation.messages ++ ms) :
    (table.change id f).messagesOf c = table.messagesOf c ++ if id = c then ms else [] := by
  unfold messagesOf
  rw [get?_change]
  split
  · rw [Option.elim_some, hf]
    cases Keyed.get? c table <;> rfl
  · rw [List.append_nil]

end ConversationTable

namespace ConversationRows

theorem rowsOf_append (rows : ConversationRows) (id c : String) (m : Message) :
    (rows.append id m).rowsOf c = rows.rowsOf c ++ if id = c then [.ofMessage c m] else [] := by
  show (rows.messages ++ [MessageRow.ofMessage id m]).filter (·.conversation == c) = _
  rw [List.filter_append]
  congr 1
  by_cases hid : id = c <;> simp [MessageRow.ofMessage, hid]

theorem contains_change (rows : ConversationRows) (id c : String)
    (f : ConversationRow → ConversationRow) (h : Keyed.contains c rows.conversations = true) :
    Keyed.contains c (rows.change id f).conversations = true := by
  unfold Keyed.contains
  rw [get?_change]
  split
  · rfl
  · exact h

end ConversationRows

namespace ConversationStore

variable {c : String} {ms ms' : List Message} {store store₁ store₂ : ConversationStore}

theorem Gains.refl (c : String) (store : ConversationStore) : store.Gains c [] store := by
  cases store with
  | memory table => exact (List.append_nil _).symm
  | rows r => exact ⟨(List.append_nil _).symm, fun h => h⟩

theorem Gains.trans (h : store.Gains c ms store₁) (h' : store₁.Gains c ms' store₂) :
    store.Gains c (ms ++ ms') store₂ := by
  cases store <;> cases store₁ <;> cases store₂ <;> try contradiction
  · calc
      _ = _ ++ ms' := h'
      _ = _ ++ ms ++ ms' := congrArg (· ++ ms') h
      _ = _ := List.append_assoc _ _ _
  · refine ⟨?_, fun hcontains => h'.2 (h.2 hcontains)⟩
    rw [h'.1, h.1, List.map_append, List.append_assoc]

theorem gains_append (store : ConversationStore) (id c : String) (m : Message) :
    store.Gains c (if id = c then [m] else []) (store.append id m) := by
  cases store with
  | memory table => exact table.messagesOf_change id c fun _ => rfl
  | rows r =>
    refine ⟨(r.rowsOf_append id c m).trans ?_, r.contains_change id c fun row => row⟩
    split <;> rfl

theorem gains_touch (store : ConversationStore) (id c : String) (at_ : Instant) :
    store.Gains c [] (store.touch id at_) := by
  cases store with
  | memory table =>
    have hmessages := @ConversationTable.messagesOf_change table id c
      (fun conversation => { conversation with updatedAt? := some at_ }) []
      fun _ => (List.append_nil _).symm
    rwa [ite_self] at hmessages
  | rows r => exact ⟨(List.append_nil _).symm, r.contains_change id c _⟩

theorem gains_setStatus (store : ConversationStore) (id c : String) (status : Status)
    (at_ : Instant) :
    store.Gains c [] (store.setStatus id status at_) := by
  cases store with
  | memory table =>
    have hmessages := @ConversationTable.messagesOf_change table id c
      (fun conversation => { conversation with status? := some status, updatedAt? := some at_ }) []
      fun _ => (List.append_nil _).symm
    rwa [ite_self] at hmessages
  | rows r => exact ⟨(List.append_nil _).symm, r.contains_change id c _⟩

end ConversationStore

namespace ConversationRows

theorem readMessages_append {first second : List MessageRow} {ms : List Message}
    (h : readMessages (first ++ second) = .ok ms) :
    ∃ before after, readMessages first = .ok before ∧ readMessages second = .ok after ∧
      ms = before ++ after := by
  induction first generalizing ms with
  | nil => exact ⟨[], ms, rfl, h, rfl⟩
  | cons row rest ih =>
    rw [List.cons_append, readMessages] at h
    obtain ⟨m, hm, h⟩ := Except.bind_eq_ok h
    obtain ⟨more, hmore, h⟩ := Except.bind_eq_ok h
    obtain ⟨before, after, hbefore, hafter, rfl⟩ := ih hmore
    cases h
    refine ⟨m :: before, after, ?_, hafter, rfl⟩
    rw [readMessages, hm, hbefore]
    rfl

theorem get?_eq_ok {rows : ConversationRows} {c : String} {found : Option Conversation}
    (h : rows.get? c = .ok found) :
    (found = none ∧ Keyed.contains c rows.conversations = false) ∨
      ∃ conversation, found = some conversation ∧ Keyed.contains c rows.conversations = true ∧
        readMessages (rows.rowsOf c) = .ok conversation.messages := by
  unfold get? at h
  unfold Keyed.contains
  cases hrow : Keyed.get? c rows.conversations with
  | none =>
    rw [hrow] at h
    cases h
    exact .inl ⟨rfl, rfl⟩
  | some row =>
    rw [hrow] at h
    obtain ⟨messages, hmessages, h⟩ := Except.bind_eq_ok h
    right
    cases hat : row.updatedAt? with
    | none =>
      rw [hat] at h
      cases h
      exact ⟨_, rfl, rfl, hmessages⟩
    | some ms =>
      rw [hat] at h
      obtain ⟨at_, -, h⟩ := Except.bind_eq_ok h
      cases h
      exact ⟨_, rfl, rfl, hmessages⟩

end ConversationRows

/-- Who reads a conversation finds what was read there earlier, and what came later behind it. -/
theorem ConversationStore.Gains.messages_prefix {c : String} {ms : List Message}
    {store store' : ConversationStore} (h : store.Gains c ms store')
    {found found' : Option Conversation} (hfound : store.get? c = .ok found)
    (hfound' : store'.get? c = .ok found') :
    found.elim [] (·.messages) <+: found'.elim [] (·.messages) := by
  cases store <;> cases store' <;> try contradiction
  · cases hfound
    cases hfound'
    exact ⟨ms, h.symm⟩
  · rcases ConversationRows.get?_eq_ok hfound with ⟨rfl, -⟩ | ⟨conversation, rfl, hcontains, hread⟩
    · exact List.nil_prefix
    · rcases ConversationRows.get?_eq_ok hfound' with ⟨-, hnone⟩ | ⟨conversation', rfl, -, hread'⟩
      · rw [h.2 hcontains] at hnone
        cases hnone
      · rw [h.1] at hread'
        obtain ⟨before, after, hbefore, -, hmessages⟩ := ConversationRows.readMessages_append hread'
        rw [hread] at hbefore
        cases hbefore
        exact ⟨after, hmessages.symm⟩

/-- A call by which the bot may speak and may hand a conversation to a human, but no message comes
in and no human is sent away. -/
def Call.ByBot : Call → Prop
  | .append _ m => m.direction = .outgoing
  | .setStatus _ status _ => status = .humanTakeover
  | _ => True

structure ConversationStore.Speaks (store store' : ConversationStore) : Prop where
  gains : ∀ c, ∃ ms, (∀ m ∈ ms, m.direction = .outgoing) ∧ store.Gains c ms store'
  taken : ∀ c, store.status? c = some .humanTakeover → store'.status? c = some .humanTakeover

namespace ConversationStore

theorem Speaks.refl (store : ConversationStore) : store.Speaks store :=
  ⟨fun c => ⟨[], List.forall_mem_nil _, .refl c store⟩, fun _ h => h⟩

theorem Speaks.trans {store store₁ store₂ : ConversationStore} (h : store.Speaks store₁)
    (h' : store₁.Speaks store₂) : store.Speaks store₂ := by
  refine ⟨fun c => ?_, fun c htaken => h'.taken c (h.taken c htaken)⟩
  obtain ⟨ms, hout, hgains⟩ := h.gains c
  obtain ⟨ms', hout', hgains'⟩ := h'.gains c
  exact ⟨ms ++ ms', List.forall_mem_append.mpr ⟨hout, hout'⟩, hgains.trans hgains'⟩

end ConversationStore

theorem Call.ByBot.retains {call : Call} (h : call.ByBot) (c : String) : call.Retains c := by
  cases call with
  | setStatus id status at_ => exact fun _ => h
  | _ => trivial

theorem Call.ByBot.speaks_write {call : Call} (h : call.ByBot) (store : ConversationStore) :
    store.Speaks (call.write store) := by
  refine ⟨fun c => ?_, fun c htaken => (h.retains c).status?_write htaken⟩
  cases call with
  | append id m =>
    refine ⟨if id = c then [m] else [], ?_, store.gains_append id c m⟩
    split
    · exact List.forall_mem_singleton.mpr h
    · exact List.forall_mem_nil _
  | touch id at_ => exact ⟨[], List.forall_mem_nil _, store.gains_touch id c at_⟩
  | setStatus id status at_ =>
    exact ⟨[], List.forall_mem_nil _, store.gains_setStatus id c status at_⟩
  | _ => exact ⟨[], List.forall_mem_nil _, .refl c store⟩

namespace World

theorem speaks_answer (call : Call) (w : World) (h : call.ByBot) :
    w.conversations.Speaks (w.answer call).2.conversations := by
  rcases (wrote_answer w call).conversations with hsame | hwrite
  · rw [hsame]
    exact .refl _
  · rw [hwrite]
    exact h.speaks_write _

end World

end ChatFlow
