import ChatFlow.Proofs.Frame
import ChatFlow.Store.Conversations

namespace ChatFlow

namespace ConversationTable

theorem get?_change (table : ConversationTable) (id c : String) (f : Conversation → Conversation) :
    Keyed.get? c (table.change id f) =
      if id = c then some (f ((Keyed.get? c table).getD (.fresh c))) else Keyed.get? c table := by
  unfold change
  by_cases hid : id = c
  · rw [hid, Keyed.get?_insert_self, if_pos rfl]
  · rw [Keyed.get?_insert_of_ne (Ne.symm hid), if_neg hid]

end ConversationTable

namespace ConversationRows

theorem get?_change (rows : ConversationRows) (id c : String)
    (f : ConversationRow → ConversationRow) :
    Keyed.get? c (rows.change id f).conversations =
      if id = c then some (f ((Keyed.get? c rows.conversations).getD ⟨none, none⟩))
      else Keyed.get? c rows.conversations := by
  unfold change
  by_cases hid : id = c
  · rw [hid, Keyed.get?_insert_self, if_pos rfl]
  · rw [Keyed.get?_insert_of_ne (Ne.symm hid), if_neg hid]

end ConversationRows

namespace ConversationStore

/-- Who is in charge of a conversation, also of one whose messages cannot be read. -/
def status? (c : String) : ConversationStore → Option Status
  | memory table => (Keyed.get? c table).bind (·.status?)
  | rows r => (Keyed.get? c r.conversations).bind fun row => row.status?.bind Status.ofName?

/-- The types and the texts of what the bot has said in a conversation, in order. -/
def outgoing (c : String) : ConversationStore → List (String × String)
  | memory table =>
    (((Keyed.get? c table).elim [] (·.messages)).filter (·.direction == .outgoing)).map fun m =>
      (m.type, m.text)
  | rows r =>
    (r.messages.filter fun row =>
      row.conversation == c && Direction.ofName? row.direction != some .incoming).map fun row =>
        (row.type, row.text)

variable (store : ConversationStore) (id c : String)

theorem status?_append (m : Message) : (store.append id m).status? c = store.status? c := by
  cases store with
  | memory table =>
    simp only [append, status?, ConversationTable.append, ConversationTable.get?_change]
    split
    · cases Keyed.get? c table <;> rfl
    · rfl
  | rows r =>
    simp only [append, status?, ConversationRows.append, ConversationRows.get?_change]
    split
    · cases Keyed.get? c r.conversations <;> rfl
    · rfl

theorem status?_touch (at_ : Instant) : (store.touch id at_).status? c = store.status? c := by
  cases store with
  | memory table =>
    simp only [touch, status?, ConversationTable.touch, ConversationTable.get?_change]
    split
    · cases Keyed.get? c table <;> rfl
    · rfl
  | rows r =>
    simp only [touch, status?, ConversationRows.touch, ConversationRows.get?_change]
    split
    · cases Keyed.get? c r.conversations <;> rfl
    · rfl

theorem status?_setStatus (status : Status) (at_ : Instant) :
    (store.setStatus id status at_).status? c = if id =
      c then some status else store.status? c := by
  cases store with
  | memory table =>
    simp only [setStatus, status?, ConversationTable.setStatus, ConversationTable.get?_change]
    split <;> rfl
  | rows r =>
    simp only [setStatus, status?, ConversationRows.setStatus, ConversationRows.get?_change]
    split
    · exact Status.ofName?_name status
    · rfl

theorem outgoing_append (m : Message) :
    (store.append id m).outgoing c =
      store.outgoing c ++ if id = c ∧ m.direction = .outgoing then [(m.type, m.text)] else [] := by
  cases store with
  | memory table =>
    simp only [append, outgoing, ConversationTable.append, ConversationTable.get?_change]
    by_cases hid : id = c
    · rw [if_pos hid, Option.elim_some, List.filter_append, List.map_append]
      congr 1
      · cases Keyed.get? c table <;> rfl
      · cases h : m.direction <;> simp [hid, h]
    · simp [hid]
  | rows r =>
    simp only [append, outgoing, ConversationRows.append, ConversationRows.change,
      List.filter_append, List.map_append]
    congr 1
    cases h : m.direction <;> by_cases hid : id = c <;> simp [MessageRow.ofMessage, hid, h]

theorem outgoing_touch (at_ : Instant) : (store.touch id at_).outgoing c = store.outgoing c := by
  cases store with
  | memory table =>
    simp only [touch, outgoing, ConversationTable.touch, ConversationTable.get?_change]
    split
    · cases Keyed.get? c table <;> rfl
    · rfl
  | rows r => rfl

theorem outgoing_setStatus (status : Status) (at_ : Instant) :
    (store.setStatus id status at_).outgoing c = store.outgoing c := by
  cases store with
  | memory table =>
    simp only [setStatus, outgoing, ConversationTable.setStatus, ConversationTable.get?_change]
    split
    · cases Keyed.get? c table <;> rfl
    · rfl
  | rows r => rfl

/-- What is read of a conversation tells who is in charge. -/
theorem status?_of_get? {store : ConversationStore} {c : String} {found : Option Conversation}
    (h : store.get? c = .ok found) : found.bind (·.status?) = store.status? c := by
  cases store with
  | memory table =>
    cases h
    rfl
  | rows r =>
    show _ = (Keyed.get? c r.conversations).bind fun row => row.status?.bind Status.ofName?
    simp only [get?, ConversationRows.get?] at h
    cases hrow : Keyed.get? c r.conversations with
    | none =>
      rw [hrow] at h
      cases h
      rfl
    | some row =>
      -- the row was read with its messages, and its status is taken over as it is
      rw [hrow] at h
      obtain ⟨messages, -, h⟩ := Except.bind_eq_ok h
      cases hat : row.updatedAt? with
      | none =>
        rw [hat] at h
        cases h
        rfl
      | some ms =>
        rw [hat] at h
        obtain ⟨at_, -, h⟩ := Except.bind_eq_ok h
        cases h
        rfl

end ConversationStore

/-- What a call writes to the store of the conversations if the store is in service. -/
def Call.write : Call → ConversationStore → ConversationStore
  | .append id m, store => store.append id m
  | .touch id at_, store => store.touch id at_
  | .setStatus id status at_, store => store.setStatus id status at_
  | _, store => store

def Call.Retains (c : String) : Call → Prop
  | .setStatus id status _ => id = c → status = .humanTakeover
  | _ => True

def Call.Spares (c : String) : Call → Prop
  | .append id m => id = c → m.direction = .incoming
  | _ => True

theorem Call.Retains.status?_write {c : String} {call : Call} (h : call.Retains c)
    {store : ConversationStore} (hstore : store.status? c = some .humanTakeover) :
    (call.write store).status? c = some .humanTakeover := by
  cases call with
  | append id m => rwa [write, ConversationStore.status?_append]
  | touch id at_ => rwa [write, ConversationStore.status?_touch]
  | setStatus id status at_ =>
    rw [write, ConversationStore.status?_setStatus]
    split
    · next hid => rw [h hid]
    · exact hstore
  | _ => exact hstore

theorem Call.outgoing_prefix_write (c : String) (call : Call) (store : ConversationStore) :
    store.outgoing c <+: (call.write store).outgoing c := by
  cases call with
  | append id m =>
    rw [write, ConversationStore.outgoing_append]
    exact List.prefix_append _ _
  | touch id at_ =>
    exact (ConversationStore.outgoing_touch store id c at_).symm ▸ List.prefix_refl _
  | setStatus id status at_ =>
    exact (ConversationStore.outgoing_setStatus store id c status at_).symm ▸ List.prefix_refl _
  | _ => exact List.prefix_refl _

theorem Call.Spares.outgoing_write {c : String} {call : Call} (h : call.Spares c)
    (store : ConversationStore) : (call.write store).outgoing c = store.outgoing c := by
  cases call with
  | append id m =>
    have hnot : ¬ (id = c ∧ m.direction = .outgoing) := by
      rintro ⟨hid, hdirection⟩
      rw [h hid] at hdirection
      cases hdirection
    rw [write, ConversationStore.outgoing_append, if_neg hnot, List.append_nil]
  | touch id at_ => rw [write, ConversationStore.outgoing_touch]
  | setStatus id status at_ => rw [write, ConversationStore.outgoing_setStatus]
  | _ => rfl

namespace World

/-- At most the write of a call was made, and the flows in use are the same. -/
structure Wrote (call : Call) (w w' : World) : Prop where
  conversations : w'.conversations = w.conversations ∨ w'.conversations = call.write w.conversations
  registry : w'.registry = w.registry

theorem wrote_answer (w : World) (call : Call) : Wrote call w (w.answer call).2 := by
  have hnothing : Wrote call w w := ⟨.inl rfl, rfl⟩
  cases call with
  | send request =>
    have htalked := talked_send w request
    refine ⟨.inl ?_, htalked.registry⟩
    show (w.send request).2.conversations = w.conversations
    unfold send
    split <;> rfl
  | append id m => exact serve_snd_of_forall hnothing ⟨.inr rfl, rfl⟩
  | touch id at_ => exact serve_snd_of_forall hnothing ⟨.inr rfl, rfl⟩
  | setStatus id status at_ => exact serve_snd_of_forall hnothing ⟨.inr rfl, rfl⟩
  | getConversation id => exact serve_snd_of_forall hnothing hnothing
  | save record => exact serve_snd_of_forall hnothing ⟨.inl rfl, rfl⟩
  | loadDue now limit => exact serve_snd_of_forall hnothing ⟨.inl rfl, rfl⟩
  | delete id => exact serve_snd_of_forall hnothing ⟨.inl rfl, rfl⟩
  | cancel botId conversationId => exact serve_snd_of_forall hnothing ⟨.inl rfl, rfl⟩
  | pending botId conversationId => exact serve_snd_of_forall hnothing hnothing
  | collect request => exact serve_snd_of_forall hnothing ⟨.inl rfl, rfl⟩
  | _ => exact ⟨.inl rfl, rfl⟩

end World

end ChatFlow
