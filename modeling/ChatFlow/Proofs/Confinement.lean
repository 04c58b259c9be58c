import ChatFlow.Proofs.Channel
import ChatFlow.Proofs.Exclusion
import ChatFlow.Proofs.Logs
import ChatFlow.Proofs.Minting

namespace ChatFlow

namespace ConversationStore

inductive Part
  | memory (conversation? : Option Conversation)
  | rows (row? : Option ConversationRow) (messages : List MessageRow)
  deriving DecidableEq

def part (c : String) : ConversationStore → Part
  | memory table => .memory (Keyed.get? c table)
  | rows r => .rows (Keyed.get? c r.conversations) (r.rowsOf c)

/-- The part in which a conversation was changed, which is created if it is not there. -/
def Part.change (c : String) (f : Conversation → Conversation)
    (g : ConversationRow → ConversationRow) (added : List MessageRow) : Part → Part
  | memory conversation? => memory (some (f (conversation?.getD (.fresh c))))
  | rows row? messages => rows (some (g (row?.getD ⟨none, none⟩))) (messages ++ added)

variable {c : String} {store store' : ConversationStore}

theorem get?_eq_of_part (h : store'.part c = store.part c) : store'.get? c = store.get? c := by
  cases store <;> cases store'
    <;> simp only [part, Part.memory.injEq, Part.rows.injEq, reduceCtorEq] at h
  · exact congrArg Except.ok h
  · obtain ⟨hrow, hmessages⟩ := h
    unfold ConversationRows.rowsOf at hmessages
    simp only [get?, ConversationRows.get?, hrow, hmessages]

theorem part_append (store : ConversationStore) (id c : String) (m : Message) :
    (store.append id m).part c =
      if id = c then
        (store.part c).change c (fun found => { found with messages := found.messages ++ [m] })
        (fun row => row) [.ofMessage c m]
      else store.part c := by
  cases store with
  | memory table =>
    rw [append, part, ConversationTable.append, ConversationTable.get?_change]
    split <;> rfl
  | rows r =>
    rw [append, part, ConversationRows.rowsOf_append, ConversationRows.append,
      ConversationRows.get?_change]
    split
    · rfl
    · rw [List.append_nil, part]

theorem part_touch (store : ConversationStore) (id c : String) (at_ : Instant) :
    (store.touch id at_).part c =
      if id = c then (store.part c).change c (fun found => { found with updatedAt? := some at_ })
        (fun row => { row with updatedAt? := some at_.toMillis }) []
      else store.part c := by
  cases store with
  | memory table =>
    rw [touch, part, ConversationTable.touch, ConversationTable.get?_change]
    split <;> rfl
  | rows r =>
    rw [touch, part, ConversationRows.touch, ConversationRows.get?_change]
    split
    · rw [part, Part.change, List.append_nil]
      rfl
    · rfl

theorem part_setStatus (store : ConversationStore) (id c : String) (status : Status)
    (at_ : Instant) :
    (store.setStatus id status at_).part c =
      if id = c then
        (store.part c).change c
          (fun found => { found with status? := some status, updatedAt? := some at_ })
          (fun _ => ⟨some status.name, some at_.toMillis⟩) []
      else store.part c := by
  cases store with
  | memory table =>
    rw [setStatus, part, ConversationTable.setStatus, ConversationTable.get?_change]
    split <;> rfl
  | rows r =>
    rw [setStatus, part, ConversationRows.setStatus, ConversationRows.get?_change]
    split
    · rw [part, Part.change, List.append_nil]
      rfl
    · rfl

end ConversationStore

def Call.conversation? : Call → Option String
  | .append id _ | .touch id _ | .setStatus id _ _ => some id
  | _ => none

namespace Call

open ConversationStore (part_append part_touch part_setStatus)

/-- The write of a call leaves all other conversations as they are. -/
theorem part_write_of_ne {call : Call} {d : String} (h : call.conversation? ≠ some d)
    (store : ConversationStore) :
    (call.write store).part d = store.part d := by
  cases call with
  | append id m => rw [write, part_append, if_neg fun heq => h (congrArg some heq)]
  | touch id at_ => rw [write, part_touch, if_neg fun heq => h (congrArg some heq)]
  | setStatus id status at_ => rw [write, part_setStatus, if_neg fun heq => h (congrArg some heq)]
  | _ => rfl

/-- What the write of a call makes of a conversation depends on nothing else in the store. -/
theorem part_write_congr (call : Call) {c : String} {store store' : ConversationStore}
    (h : store'.part c = store.part c) :
    (call.write store').part c = (call.write store).part c := by
  cases call with
  | append id m => rw [write, write, part_append, part_append, h]
  | touch id at_ => rw [write, write, part_touch, part_touch, h]
  | setStatus id status at_ => rw [write, write, part_setStatus, part_setStatus, h]
  | _ => exact h

end Call

def Suspension.unnamed (s : Suspension) : Suspension := { s with id := default }

namespace SuspensionStore

def add (saved : List Suspension) : SuspensionStore → SuspensionStore
  | memory table => memory (table ++ saved)
  | rows r => rows (r ++ saved.map .ofSuspension)

variable (store : SuspensionStore) (saved saved' : List Suspension)

theorem add_nil : store.add [] = store := by
  cases store with
  | memory table => exact congrArg memory (List.append_nil _)
  | rows r => exact congrArg rows (List.append_nil _)

theorem add_append : store.add (saved ++ saved') = (store.add saved).add saved' := by
  cases store with
  | memory table => exact congrArg memory (List.append_assoc _ _ _).symm
  | rows r => simp only [add, List.map_append, List.append_assoc]

theorem save_eq_add {record : Suspension} (h : record.id.text ∉ store.keys) :
    store.save record = store.add [record] := by
  cases store with
  | memory table => exact congrArg memory (SuspensionTable.save_eq_append h)
  | rows r => exact congrArg rows (SuspensionRows.save_eq_append h)

end SuspensionStore

/-- Calls that ask and write only about a bot's conversation, and save nothing. -/
def Call.StaysAt (botId c : String) : Call → Prop
  | .now => True
  | .getConversation id | .append id _ | .touch id _ | .setStatus id _ _ => id = c
  | .activeFlow id => id = botId
  | _ => False

namespace World

def Fresh (w : World) : Prop := w.suspensions.FreshFrom w.nextId.value

/-- The flow that the bot runs, if it runs one, keeps the channel of its contact. -/
def KeepsChannel (botId : String) (w : World) : Prop :=
  ∀ active, w.registry.active? botId = some active → active.flow.KeepsChannel

/-- The worlds tell a bot the same of a conversation: at the same time, with the same operations out
of service. -/
structure Alike (botId c : String) (w₁ w₂ : World) : Prop where
  clock : w₂.clock = w₁.clock
  failing : w₂.failing = w₁.failing
  active : w₂.registry.active? botId = w₁.registry.active? botId
  conversation : w₂.conversations.part c = w₁.conversations.part c

/-- Of all that is stored, at most the conversation was changed, and these records of the bot's
conversation were added. -/
structure OnlyAt (botId c : String) (saved : List Suspension) (w w' : World) : Prop where
  rest : w' = { w with
    conversations := w'.conversations, suspensions := w'.suspensions, locks := w'.locks, nextId :=
      w'.nextId }
  conversations : ∀ d, d ≠ c → w'.conversations.part d = w.conversations.part d
  owner : ∀ s ∈ saved, s.botId = botId ∧ s.conversationId = c
  suspensions : w.Fresh → w'.suspensions = w.suspensions.add saved ∧ w'.Fresh

/-- Two worlds were changed only at a bot's conversation and alike: the conversation is the same in
both afterwards, and the records that were added are the same but for their identifiers. -/
structure Together (botId c : String) (w₁ w₁' w₂ w₂' : World) : Prop where
  conversation : w₂'.conversations.part c = w₁'.conversations.part c
  saved : ∃ saved₁ saved₂, w₁.OnlyAt botId c saved₁ w₁' ∧ w₂.OnlyAt botId c saved₂ w₂' ∧
    saved₂.map Suspension.unnamed = saved₁.map Suspension.unnamed

variable {botId c : String} {w w' w₁ w₂ w₁' w₂' : World} {saved saved' : List Suspension}
    {call : Call}

theorem Alike.refl (botId c : String) (w : World) : w.Alike botId c w := ⟨rfl, rfl, rfl, rfl⟩

theorem OnlyAt.clock (h : w.OnlyAt botId c saved w') : w'.clock = w.clock := by rw [h.rest]

theorem OnlyAt.failing (h : w.OnlyAt botId c saved w') : w'.failing = w.failing := by rw [h.rest]

theorem OnlyAt.registry (h : w.OnlyAt botId c saved w') : w'.registry = w.registry := by rw [h.rest]

theorem OnlyAt.alike (h : w.OnlyAt botId c saved w') (botId' : String) {d : String} (hd : d ≠ c) :
    w.Alike botId' d w' :=
  ⟨h.clock, h.failing, congrArg (·.active? botId') h.registry, h.conversations d hd⟩

theorem OnlyAt.keepsChannel (h : w.OnlyAt botId c saved w') {botId' : String}
    (hw : w.KeepsChannel botId') :
    w'.KeepsChannel botId' := by
  unfold KeepsChannel
  rw [h.registry]
  exact hw

theorem OnlyAt.trans {w₁ w₂ : World} (h : w.OnlyAt botId c saved w₁)
    (h' : w₁.OnlyAt botId c saved' w₂) :
    w.OnlyAt botId c (saved ++ saved') w₂ where
  rest := by
    have hrest := h'.rest
    rw [h.rest] at hrest
    exact hrest
  conversations d hd := (h'.conversations d hd).trans (h.conversations d hd)
  owner s hs := (List.mem_append.mp hs).elim (h.owner s) (h'.owner s)
  suspensions hfresh := by
    obtain ⟨hadd, hfresh₁⟩ := h.suspensions hfresh
    obtain ⟨hadd', hfresh₂⟩ := h'.suspensions hfresh₁
    refine ⟨?_, hfresh₂⟩
    rw [hadd', hadd, SuspensionStore.add_append]

theorem OnlyAt.of_conversations {store : ConversationStore}
    (h : ∀ d, d ≠ c → store.part d = w.conversations.part d) :
    w.OnlyAt botId c [] { w with conversations := store } where
  rest := rfl
  conversations := h
  owner := nofun
  suspensions hfresh := ⟨(SuspensionStore.add_nil _).symm, hfresh⟩

theorem OnlyAt.of_locks {locks locks' : LockTable} (h : { w with locks }.OnlyAt botId c saved w') :
    w.OnlyAt botId c saved { w' with locks := locks' } where
  rest := by
    rw [h.rest]
  conversations := h.conversations
  owner := h.owner
  suspensions := h.suspensions

theorem OnlyAt.refl (botId c : String) (w : World) : w.OnlyAt botId c [] w :=
  .of_conversations fun _ _ => rfl

def taken (w : World) : World := { w with nextId := ⟨w.nextId.value + 1⟩ }

/-- The world in which a record of a bot's conversation was saved under the next identifier. -/
def saving (w : World) (botId c version : String) (at_ : Instant) (request : SuspendRequest) :
    World :=
  { w.taken with
    suspensions := w.suspensions.save (.ofRequest w.nextId botId c version at_ request) }

theorem onlyAt_taken (w : World) : w.OnlyAt botId c [] w.taken where
  rest := rfl
  conversations _ _ := rfl
  owner := nofun
  suspensions hfresh := ⟨(SuspensionStore.add_nil _).symm, hfresh.mono (Nat.le_succ _)⟩

theorem onlyAt_saving (w : World) {version : String} {at_ : Instant} {request : SuspendRequest} :
    w.OnlyAt botId c [.ofRequest w.nextId botId c version at_ request]
      (w.saving botId c version at_ request) where
  rest := rfl
  conversations _ _ := rfl
  owner s hs := by
    rw [List.mem_singleton.mp hs]
    exact ⟨rfl, rfl⟩
  suspensions hfresh := by
    have hid : w.suspensions.FreshFrom
        (Suspension.ofRequest w.nextId botId c version at_ request).id.value := hfresh
    exact ⟨SuspensionStore.save_eq_add _ (hfresh.keys _ (Nat.le_refl _)), hid.save⟩

theorem serve_alike {α : Type} {R : World → World → Prop} (op : Operation)
    (act₁ act₂ : Except Failure α × World) (hfailing : w₂.failing = w₁.failing) (hw : R w₁ w₂)
    (hresult : act₂.1 = act₁.1) (hact : R act₁.2 act₂.2) :
    (w₂.serve op act₂).1 = (w₁.serve op act₁).1 ∧ R (w₁.serve op act₁).2 (w₂.serve op act₂).2 := by
  unfold serve
  rw [hfailing]
  split
  · exact ⟨rfl, hw⟩
  · exact ⟨congrArg some hresult, hact⟩

/-- Worlds that are alike give such a call the same answer, and stay alike. -/
theorem Alike.answer (h : w₁.Alike botId c w₂) (hcall : call.StaysAt botId c) :
    (w₂.answer call).1 = (w₁.answer call).1 ∧
      (w₂.answer call).2.conversations.part c = (w₁.answer call).2.conversations.part c := by
  have hwrite := call.part_write_congr h.conversation
  have hpart := @serve_alike w₁ w₂ Unit fun u₁ u₂ => u₂.conversations.part c =
    u₁.conversations.part c
  cases call with
  | now => exact ⟨congrArg some h.clock, h.conversation⟩
  | activeFlow id =>
    cases hcall
    exact ⟨congrArg some h.active, h.conversation⟩
  | getConversation id =>
    cases hcall
    exact serve_alike (R := fun u₁ u₂ => u₂.conversations.part c = u₁.conversations.part c) .get _ _
      h.failing h.conversation (ConversationStore.get?_eq_of_part h.conversation) h.conversation
  | append id m => exact hpart _ _ _ h.failing h.conversation rfl hwrite
  | touch id at_ => exact hpart _ _ _ h.failing h.conversation rfl hwrite
  | setStatus id status at_ => exact hpart _ _ _ h.failing h.conversation rfl hwrite
  | _ => exact hcall.elim

theorem onlyAt_answer (w : World) (hcall : call.StaysAt botId c) :
    w.OnlyAt botId c [] (w.answer call).2 := by
  have hwrite : ∀ id, id = c → call.conversation? = some id →
      w.OnlyAt botId c [] { w with conversations := call.write w.conversations } := by
    rintro id rfl hid
    exact .of_conversations fun d hd =>
      call.part_write_of_ne (fun heq => hd (Option.some.inj (heq.symm.trans hid))) _
  cases call with
  | now => exact .refl botId c w
  | activeFlow id => exact .refl botId c w
  | getConversation id => exact serve_snd_of_forall (.refl botId c w) (.refl botId c w)
  | append id m => exact serve_snd_of_forall (.refl botId c w) (hwrite id hcall rfl)
  | touch id at_ => exact serve_snd_of_forall (.refl botId c w) (hwrite id hcall rfl)
  | setStatus id status at_ => exact serve_snd_of_forall (.refl botId c w) (hwrite id hcall rfl)
  | _ => exact hcall.elim

theorem locks_answer_of_staysAt (w : World) (hcall : call.StaysAt botId c) :
    (w.answer call).2.locks = w.locks := by
  rw [locks_answer]
  cases call <;> first | rfl | exact hcall.elim

theorem answer_isSome_of_staysAt (w : World) (hcall : call.StaysAt botId c) :
    (w.answer call).1.isSome := by
  rw [Option.isSome_iff_ne_none]
  intro hnone
  obtain ⟨t, rfl⟩ := eq_await_of_answer hnone
  exact hcall

theorem Together.alike (h : Together botId c w₁ w₁' w₂ w₂') (hw : w₁.Alike botId c w₂) :
    w₁'.Alike botId c w₂' := by
  obtain ⟨hconversation, saved₁, saved₂, h₁, h₂, -⟩ := h
  refine ⟨?_, ?_, ?_, hconversation⟩
  · rw [h₁.clock, h₂.clock, hw.clock]
  · rw [h₁.failing, h₂.failing, hw.failing]
  · rw [h₁.registry, h₂.registry, hw.active]

theorem Together.trans {u₁ u₂ : World} (h : Together botId c w₁ u₁ w₂ u₂)
    (h' : Together botId c u₁ w₁' u₂ w₂') :
    Together botId c w₁ w₁' w₂ w₂' := by
  obtain ⟨-, saved₁, saved₂, h₁, h₂, hsaved⟩ := h
  obtain ⟨hconversation, saved₁', saved₂', h₁', h₂', hsaved'⟩ := h'
  refine ⟨hconversation, saved₁ ++ saved₁', saved₂ ++ saved₂', h₁.trans h₁', h₂.trans h₂', ?_⟩
  rw [List.map_append, List.map_append, hsaved, hsaved']

theorem Together.refl (hw : w₁.Alike botId c w₂) : Together botId c w₁ w₁ w₂ w₂ :=
  ⟨hw.conversation, [], [], .refl botId c w₁, .refl botId c w₂, rfl⟩

theorem Together.of_locks {locks₁ locks₁' locks₂ locks₂' : LockTable}
    (h : Together botId c { w₁ with locks := locks₁ } w₁' { w₂ with locks := locks₂ } w₂') :
    Together botId c w₁ { w₁' with locks := locks₁' } w₂ { w₂' with locks := locks₂' } := by
  obtain ⟨hconversation, saved₁, saved₂, h₁, h₂, hsaved⟩ := h
  exact ⟨hconversation, saved₁, saved₂, h₁.of_locks, h₂.of_locks, hsaved⟩

theorem Alike.together_answer (h : w₁.Alike botId c w₂) (hcall : call.StaysAt botId c) :
    Together botId c w₁ (w₁.answer call).2 w₂ (w₂.answer call).2 :=
  ⟨(h.answer hcall).2, [], [], w₁.onlyAt_answer hcall, w₂.onlyAt_answer hcall, rfl⟩

end World

def Call.Offers : (call : Call) → call.Answer → Prop
  | .activeFlow _, answer => ∀ active, answer = some active → active.flow.KeepsChannel
  | _, _ => True

theorem World.KeepsChannel.offers {botId c : String} {w : World} (h : w.KeepsChannel botId)
    {call : Call} (hcall : call.StaysAt botId c) {answer : call.Answer}
    (hanswer : (w.answer call).1 = some answer) :
    call.Offers answer := by
  cases call with
  | activeFlow id =>
    cases hcall
    cases hanswer
    exact h
  | _ => trivial

namespace Activity

open World (Runs)

variable {α β : Type}

/-- The activity keeps to a bot's conversation. With locks in this state it comes to its end; and
wherever worlds are alike it ends alike, with a result in `Q`, and changes them only there and
alike. -/
structure KeepsTo (free : LockTable → Prop) (botId c : String) (Q : α → Prop) (x : Activity α) :
    Prop where
  ends : ∀ w : World, w.KeepsChannel botId → free w.locks → ∃ a w', w.Runs x a w' ∧ free w'.locks
  agrees : ∀ {w₁ w₂ w₁' w₂' : World} {a₁ a₂ : α}, w₁.KeepsChannel botId → w₁.Alike botId c w₂ →
    w₁.Runs x a₁ w₁' → w₂.Runs x a₂ w₂' → a₂ = a₁ ∧ Q a₁ ∧ World.Together botId c w₁ w₁' w₂ w₂'

variable {free : LockTable → Prop} {botId c : String} {Q Q' : α → Prop} {R : β → Prop}
    {x : Activity α}

theorem KeepsTo.onlyAt (h : x.KeepsTo free botId c Q) {w w' : World} {a : α}
    (hw : w.KeepsChannel botId) (hruns : w.Runs x a w') :
    Q a ∧ ∃ saved, w.OnlyAt botId c saved w' := by
  obtain ⟨-, ha, -, saved, -, honly, -⟩ := h.agrees hw (.refl botId c w) hruns hruns
  exact ⟨ha, saved, honly⟩

theorem KeepsTo.done {a : α} (ha : Q a) : (done a).KeepsTo free botId c Q where
  ends w _ hfree := ⟨a, w, World.runs_done w a, hfree⟩
  agrees _ hw h₁ h₂ := by
    obtain ⟨rfl, rfl⟩ := h₁.of_done
    obtain ⟨rfl, rfl⟩ := h₂.of_done
    exact ⟨rfl, ha, .refl hw⟩

theorem KeepsTo.bind {f : α → Activity β} (h : x.KeepsTo free botId c Q)
    (hf : ∀ a, Q a → (f a).KeepsTo free botId c R) : (x.bind f).KeepsTo free botId c R where
  ends w hw hfree := by
    obtain ⟨a, w₁, hruns, hfree₁⟩ := h.ends w hw hfree
    obtain ⟨ha, saved, honly⟩ := h.onlyAt hw hruns
    obtain ⟨b, w₂, hruns', hfree₂⟩ := (hf a ha).ends w₁ (honly.keepsChannel hw) hfree₁
    exact ⟨b, w₂, hruns.bind hruns', hfree₂⟩
  agrees hw halike h₁ h₂ := by
    obtain ⟨a₁, u₁, hx₁, h₁⟩ := h₁.of_bind
    obtain ⟨a₂, u₂, hx₂, h₂⟩ := h₂.of_bind
    obtain ⟨rfl, ha, htogether⟩ := h.agrees hw halike hx₁ hx₂
    obtain ⟨-, saved, honly⟩ := h.onlyAt hw hx₁
    obtain ⟨hb, hR, htogether'⟩ :=
      (hf a₂ ha).agrees (honly.keepsChannel hw) (htogether.alike halike) h₁ h₂
    exact ⟨hb, hR, htogether.trans htogether'⟩

theorem KeepsTo.ask {call : Call} (hcall : call.StaysAt botId c) :
    (ask call).KeepsTo free botId c call.Offers where
  ends w _ hfree := by
    obtain ⟨answer, hanswer⟩ := Option.isSome_iff_exists.mp (w.answer_isSome_of_staysAt hcall)
    exact ⟨answer, _, World.runs_call (Prod.ext hanswer rfl) rfl,
      w.locks_answer_of_staysAt hcall ▸ hfree⟩
  agrees {w₁ w₂ _ _ _ _} hw halike h₁ h₂ := by
    obtain ⟨answer₁, u₁, hanswer₁, h₁⟩ := h₁.of_call
    obtain ⟨answer₂, u₂, hanswer₂, h₂⟩ := h₂.of_call
    obtain ⟨rfl, rfl⟩ := h₁.of_done
    obtain ⟨rfl, rfl⟩ := h₂.of_done
    have hsame := (halike.answer hcall).1
    have htogether := halike.together_answer hcall
    have hoffers := hw.offers hcall (congrArg Prod.fst hanswer₁)
    rw [hanswer₁, hanswer₂] at hsame htogether
    exact ⟨Option.some.inj hsame, hoffers, htogether⟩

theorem KeepsTo.call {call : Call} {next : call.Answer → Activity α} (hcall : call.StaysAt botId c)
    (h : ∀ answer, call.Offers answer → (next answer).KeepsTo free botId c Q) :
    (Activity.call call next).KeepsTo free botId c Q := (KeepsTo.ask hcall).bind h

theorem KeepsTo.of_only (h : x.Only (Call.StaysAt botId c) Q) : x.KeepsTo free botId c Q := by
  induction x with
  | done a => exact .done h
  | call call next ih => exact .call h.1 fun answer _ => ih answer (h.2 answer)

/-- A record of the bot's conversation is saved under a new identifier. -/
theorem KeepsTo.save {version : String} {at_ : Instant} {request : SuspendRequest} :
    ((Activity.ask .freshId).bind fun id =>
      .ask (.save (.ofRequest id botId c version at_ request))).KeepsTo free
      botId c fun _ => True where
  ends w _ hfree := by
    obtain ⟨answer, hanswer⟩ := Option.isSome_iff_exists.mp (w.taken.serve_fst_isSome .save
      (.ok (), w.saving botId c version at_ request))
    refine ⟨answer, _, World.runs_call rfl (World.runs_call (Prod.ext hanswer rfl) rfl), ?_⟩
    exact World.serve_snd_of_forall (R := fun w' => free w'.locks) hfree hfree
  agrees {w₁ w₂ _ _ _ _} _ halike h₁ h₂ := by
    obtain ⟨id₁, u₁, htaken₁, h₁⟩ := h₁.of_call
    obtain ⟨id₂, u₂, htaken₂, h₂⟩ := h₂.of_call
    cases htaken₁
    cases htaken₂
    obtain ⟨answer₁, v₁, hanswer₁, h₁⟩ := h₁.of_call
    obtain ⟨answer₂, v₂, hanswer₂, h₂⟩ := h₂.of_call
    obtain ⟨rfl, rfl⟩ := h₁.of_done
    obtain ⟨rfl, rfl⟩ := h₂.of_done
    -- the identifier is taken in any case, the record is kept if the store is in service
    have htaken : World.Together botId c w₁ w₁.taken w₂ w₂.taken :=
      ⟨halike.conversation, [], [], w₁.onlyAt_taken, w₂.onlyAt_taken, rfl⟩
    have hfailing : w₂.taken.failing = w₁.taken.failing := halike.failing
    have hsaved := World.serve_alike (R := fun v₁ v₂ => World.Together botId c w₁ v₁ w₂ v₂) .save
      (.ok (), w₁.saving botId c version at_ request)
        (.ok (), w₂.saving botId c version at_ request) hfailing htaken
      (show (Except.ok () : Except Failure Unit) = _ from rfl)
      ⟨halike.conversation, _, _, w₁.onlyAt_saving, w₂.onlyAt_saving, rfl⟩
    have hanswer₁' : w₁.taken.serve .save (.ok (), w₁.saving botId c version at_ request) = _ :=
      hanswer₁
    have hanswer₂' : w₂.taken.serve .save (.ok (), w₂.saving botId c version at_ request) = _ :=
      hanswer₂
    rw [hanswer₁', hanswer₂'] at hsaved
    exact ⟨Option.some.inj hsaved.1, trivial, hsaved.2⟩

theorem runs_of_locked {w w' : World} {body : Activity α} {a : α} {botId conversationId : String}
    (h : w.Runs (locked botId conversationId body) a w') :
    ∃ (locks locks' : LockTable) (w₁ : World), { w with locks }.Runs body a w₁ ∧
      w' = { w₁ with locks := locks' } := by
  obtain ⟨ticket, w₁, htake, h⟩ := h.of_call
  obtain ⟨_, w₂, hawait, h⟩ := h.of_call
  obtain ⟨a', w₃, hbody, h⟩ := World.Runs.of_bind (x := body) h
  obtain ⟨_, w₄, hleave, h⟩ := h.of_call
  obtain ⟨_, w₅, hforget, h⟩ := h.of_call
  obtain ⟨rfl, rfl⟩ := h.of_done
  -- each of the calls around the body changes the table of locks and nothing else
  obtain rfl : { w with locks := (w.locks.take (lockKey botId conversationId)).2 } = w₁ :=
    congrArg Prod.snd htake
  obtain rfl := congrArg Prod.snd hawait
  obtain rfl : { w₃ with locks := w₃.locks.leave ticket } = w₄ := congrArg Prod.snd hleave
  obtain rfl := congrArg Prod.snd hforget
  exact ⟨_, _, w₃, hbody, rfl⟩

theorem KeepsTo.locked {body : Activity α} (h : ∀ free, body.KeepsTo free botId c Q)
    (botId' conversationId : String) :
    (locked botId' conversationId body).KeepsTo (·.queue = []) botId c Q where
  ends w hw hqueue := by
    obtain ⟨a, w₁, hruns, hlocks⟩ :=
      (h (· = (w.hold (lockKey botId' conversationId)).locks)).ends
        (w.hold (lockKey botId' conversationId)) hw rfl
    obtain ⟨locks, hempty, hruns'⟩ := World.runs_locked hqueue hruns hlocks
    exact ⟨a, _, hruns', hempty⟩
  agrees {w₁ w₂ _ _ _ _} hw halike h₁ h₂ := by
    obtain ⟨locks₁, locks₁', u₁, hbody₁, rfl⟩ := runs_of_locked h₁
    obtain ⟨locks₂, locks₂', u₂, hbody₂, rfl⟩ := runs_of_locked h₂
    have hw' : { w₁ with locks := locks₁ }.KeepsChannel botId := hw
    have halike' : { w₁ with locks := locks₁ }.Alike botId c { w₂ with locks := locks₂ } :=
      ⟨halike.clock, halike.failing, halike.active, halike.conversation⟩
    obtain ⟨ha, hQ, htogether⟩ := (h fun _ => True).agrees hw' halike' hbody₁ hbody₂
    exact ⟨ha, hQ, htogether.of_locks⟩

end Activity

end ChatFlow
