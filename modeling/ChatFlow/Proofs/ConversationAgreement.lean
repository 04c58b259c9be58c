import ChatFlow.Proofs.Logs
import ChatFlow.Proofs.ReadBack

namespace ChatFlow

namespace Column

theorem trimmed {cs : List Char} (h : ∀ c ∈ cs, isSpace c = false) :
    ((cs.dropWhile isSpace).reverse.dropWhile isSpace).reverse = cs := by
  have hself : ∀ l : List Char, (∀ c ∈ l, isSpace c = false) → l.dropWhile isSpace = l := by
    intro l hl
    cases l with
    | nil => rfl
    | cons c l => exact List.dropWhile_cons_of_neg (by simp [hl c List.mem_cons_self])
  rw [hself cs h, hself cs.reverse (fun c hc => h c (List.mem_reverse.mp hc)), List.reverse_reverse]

theorem isSpace_of_isDigit {c : Char} (h : Decimal.isDigit c = true) : isSpace c = false := by
  simp only [Decimal.isDigit, Bool.and_eq_true, decide_eq_true_eq, Char.le_def] at h
  have hlow : 48 ≤ c.toNat := h.1
  have hspace : c ≠ ' ' := by
    rintro rfl
    exact absurd hlow (by decide)
  simp [isSpace, hspace]
  omega

section Numeral

open Json (Numeral)

variable {n : Numeral}

theorem isSpace_of_mem_text (h : n.Legal) : ∀ c ∈ n.text, isSpace c = false := by
  have hexponent : ∀ c ∈ Numeral.exponentText n.exponent, isSpace c = false := by
    cases hn : n.exponent with
    | none => exact List.forall_mem_nil _
    | some e =>
      have hdigits := (h.exponent e hn).2
      intro c hc
      simp only [Numeral.exponentText, List.mem_cons] at hc
      rcases hc with rfl | rfl | hc
      · decide
      · split <;> decide
      · exact isSpace_of_isDigit (hdigits c hc)
  intro c hc
  simp only [Numeral.text, Numeral.behind, List.mem_append] at hc
  rcases hc with hc | hc | hc | hc
  · have hminus : c = '-' := by
      cases hneg : n.negative <;> simp [Numeral.sign, hneg] at hc
      exact hc
    rw [hminus]
    decide
  · exact isSpace_of_isDigit (h.whole c hc)
  · split at hc
    · cases hc
    · rcases List.mem_cons.mp hc with rfl | hc
      · decide
      · exact isSpace_of_isDigit (h.fraction c hc)
  · exact hexponent c hc

theorem isExponent_text (h : n.Legal) : isExponent (Numeral.exponentText n.exponent) = true := by
  cases hn : n.exponent with
  | none => rfl
  | some e =>
    obtain ⟨negative, ds⟩ := e
    obtain ⟨hnonempty, hdigits⟩ := h.exponent _ hn
    have hall : ds.all Decimal.isDigit = true := List.all_eq_true.mpr hdigits
    have hempty : ds.isEmpty = false := List.isEmpty_eq_false_iff.mpr hnonempty
    cases negative <;> simp [Numeral.exponentText, isExponent, unsigned, hall, hempty]

theorem unsigned_text (h : n.Legal) : unsigned n.text = n.whole ++ n.behind := by
  obtain ⟨c, cs, hcons⟩ := List.exists_cons_of_ne_nil h.nonempty
  have hc : Decimal.isDigit c = true := h.whole c (hcons ▸ List.mem_cons_self)
  unfold Numeral.text Numeral.sign
  cases n.negative with
  | true => rfl
  | false =>
    show unsigned (n.whole ++ n.behind) = _
    rw [hcons, List.cons_append]
    unfold unsigned
    split
    · next heq =>
      rw [(List.cons.inj heq).1] at hc
      exact absurd hc (by decide)
    · next heq =>
      rw [(List.cons.inj heq).1] at hc
      exact absurd hc (by decide)
    · rfl

theorem spellsNumber_text (h : n.Legal) : spellsNumber (.ofList n.text) = true := by
  have hend : Json.EndsNumber [] := nofun
  have hwhole : digits (n.whole ++ n.behind) = (n.whole, n.behind) := by
    have hstops := Json.Token.stops_behind n hend
    rw [List.append_nil] at hstops
    exact Decimal.spanDigits_append h.whole hstops
  have hfraction : digits (n.fraction ++ Numeral.exponentText n.exponent) =
      (n.fraction, Numeral.exponentText n.exponent) := by
    have hstops := Json.Token.stops_exponentText n.exponent hend
    rw [List.append_nil] at hstops
    exact Decimal.spanDigits_append h.fraction hstops
  have hnonempty : n.whole.isEmpty = false := List.isEmpty_eq_false_iff.mpr h.nonempty
  have hexponent := isExponent_text h
  rw [spellsNumber, String.toList_ofList, trimmed (isSpace_of_mem_text h), unsigned_text h, hwhole]
  unfold Numeral.behind
  cases hn : n.fraction with
  | nil =>
    -- without a fraction the exponent follows, and no point
    simp only [List.isEmpty_nil, if_true, List.nil_append]
    cases he : n.exponent with
    | none => simp [Numeral.exponentText, isExponent, hnonempty]
    | some e =>
      rw [he] at hexponent
      simp [Numeral.exponentText] at hexponent ⊢
      exact ⟨h.nonempty, hexponent⟩
  | cons c fraction =>
    rw [hn] at hfraction
    simp only [List.isEmpty_cons, Bool.false_eq_true, if_false, List.cons_append] at hfraction ⊢
    rw [hfraction]
    simp [hexponent]

end Numeral

end Column

namespace Json

def isNumber : Json → Bool
  | number _ => true
  | _ => false

/-- The text of a value that is no number begins as no number does. -/
theorem exists_cons_compact {v : Json} (h : v.isNumber = false) :
    ∃ c cs, c ∈ ['n', 't', 'f', '"', '[', '\x7b'] ∧ v.compact = .ofList (c :: cs) := by
  cases v with
  | null => exact ⟨'n', _, by decide, rfl⟩
  | bool b =>
    cases b with
    | true => exact ⟨'t', _, by decide, rfl⟩
    | false => exact ⟨'f', _, by decide, rfl⟩
  | number n => cases h
  | text s => exact ⟨'"', _, by decide, rfl⟩
  | list items =>
    cases items with
    | nil => exact ⟨'[', _, by decide, rfl⟩
    | cons v rest => exact ⟨'[', _, by decide, rfl⟩
  | object members =>
    obtain ⟨cs, hcompact⟩ := exists_compact_object members
    exact ⟨'\x7b', cs, by decide, hcompact⟩

/-- The text of a value is read back from a column, unless the value is a number. -/
theorem read?_compact {v : Json} (hv : v.WellFormed) :
    Column.read? v.compact = if v.isNumber then none else some v.compact := by
  unfold Column.read?
  cases hn : v.isNumber with
  | false =>
    obtain ⟨c, cs, hc, hcompact⟩ := exists_cons_compact hn
    have hspells : Column.spellsNumber (.ofList (c :: cs)) = false := by
      simp only [List.mem_cons, List.not_mem_nil, or_false] at hc
      rcases hc with rfl | rfl | rfl | rfl | rfl | rfl <;>
        exact Column.spellsNumber_eq_false (by decide) (by decide) (by decide) (by decide) cs
    rw [hcompact, hspells]
  | true =>
    cases v with
    | number n =>
      obtain ⟨numeral, hlegal, htext, -⟩ := exists_numeral hv
      have hcompact : (number n).compact = .ofList numeral.text := by
        rw [htext, compact, print, List.append_nil]
      rw [hcompact, Column.spellsNumber_text hlegal]
    | _ => cases hn

theorem ofColumn_compact {v : Json} (hv : v.WellFormed) (hdepth : v.depth ≤ maxDepth) :
    Decoder.json.ofColumn v.compact = if v.isNumber then .error .database else .ok v.reread := by
  unfold Decoder.ofColumn
  rw [read?_compact hv]
  cases v.isNumber with
  | true => rfl
  | false =>
    have hread : Decoder.json.ofText v.compact = .ok v.reread :=
      (parse_compact hv).trans (if_pos hdepth)
    simp only [Bool.false_eq_true, if_false, hread]

end Json

namespace Message

/-- A message at a whole millisecond; what comes along with it is a value that a text can hold. -/
structure Storable (m : Message) : Prop where
  at_ : m.at_.IsWhole
  extra : ∀ v, m.extra = some v → v.WellFormed ∧ v.depth ≤ Json.maxDepth

def hasNumber (m : Message) : Bool := m.extra.any Json.isNumber

/-- The message that is read from the row of a message, if no number by itself comes along
with it. -/
def reread (m : Message) : Message := { m with extra := m.extra.map Json.reread }

/-- The numbers that come along with the message are read back as they are printed, and none comes
by itself. -/
def Kept (m : Message) : Prop := m.hasNumber = false ∧ ∀ v, m.extra = some v → v.Kept

theorem Kept.reread_eq {m : Message} (h : m.Kept) : m.reread = m := by
  obtain ⟨direction, type, text, at_, extra⟩ := m
  cases extra with
  | none => rfl
  | some v => exact congrArg (fun v => Message.mk direction type text at_ (some v)) (h.2 v rfl)

end Message

/-- The conversation that is read from the rows of a conversation, if no number by itself came along
with a message. -/
def Conversation.reread (c : Conversation) : Conversation :=
  { c with messages := c.messages.map Message.reread }

theorem Instant.ofStored_toMillis {t : Instant} (h : t.IsWhole) : ofStored t.toMillis = .ok t := by
  rw [ofStored, ofMillis?_toMillis h]

/-- A message is read back from its row, unless a number comes along with it. -/
theorem MessageRow.toMessage_ofMessage {m : Message} (hm : m.Storable) (id : String) :
    (ofMessage id m).toMessage = if m.hasNumber then .error .database else .ok m.reread := by
  obtain ⟨direction, type, text, at_, extra⟩ := m
  simp only [toMessage, ofMessage, Instant.ofStored_toMillis hm.at_, Direction.ofName?_name,
    Option.getD_some]
  cases extra with
  | none => rfl
  | some v =>
    obtain ⟨hv, hdepth⟩ := hm.extra v rfl
    simp only [Option.map_some, Json.ofColumn_compact hv hdepth]
    show _ = if v.isNumber then _ else _
    cases v.isNumber <;> rfl

theorem ConversationRows.readMessages_map {ms : List Message} (h : ∀ m ∈ ms, m.Storable)
    (id : String) :
    readMessages (ms.map (MessageRow.ofMessage id)) =
      if ms.any Message.hasNumber then .error .database else .ok (ms.map Message.reread) := by
  induction ms with
  | nil => rfl
  | cons m ms ih =>
    obtain ⟨hm, hms⟩ := List.forall_mem_cons.mp h
    rw [List.map_cons, readMessages, MessageRow.toMessage_ofMessage hm, ih hms, List.any_cons]
    cases m.hasNumber with
    | true => rfl
    | false =>
      cases ms.any Message.hasNumber with
      | true => rfl
      | false => rfl

namespace ConversationStore

inductive Request
  | append (id : String) (m : Message)
  | touch (id : String) (at_ : Instant)
  | setStatus (id : String) (status : Status) (at_ : Instant)
  | get (id : String)
  deriving DecidableEq

inductive Reply
  | done
  | found (result : Except Failure (Option Conversation))
  deriving DecidableEq

def respond (store : ConversationStore) : Request → Reply × ConversationStore
  | .append id m => (.done, store.append id m)
  | .touch id at_ => (.done, store.touch id at_)
  | .setStatus id status at_ => (.done, store.setStatus id status at_)
  | .get id => (.found (store.get? id), store)

def replies (store : ConversationStore) : List Request → List Reply
  | [] => []
  | request :: requests => (store.respond request).1 :: (store.respond request).2.replies requests

def behind (store : ConversationStore) (requests : List Request) : ConversationStore :=
  requests.foldl (fun store request => (store.respond request).2) store

namespace Request

/-- All instants are whole milliseconds, and what comes along with a message is a value that a text
can hold. -/
def Storable : Request → Prop
  | .append _ m => m.Storable
  | .touch _ at_ | .setStatus _ _ at_ => at_.IsWhole
  | .get _ => True

def writesTo (id : String) : Request → Bool
  | .append other _ | .touch other _ | .setStatus other _ _ => other == id
  | .get _ => false

def message? : Request → Option Message
  | .append _ m => some m
  | _ => none

def status? : Request → Option Status
  | .setStatus _ status _ => some status
  | _ => none

def updatedAt? : Request → Option Instant
  | .touch _ at_ | .setStatus _ _ at_ => some at_
  | _ => none

end Request

/-- What is written to a conversation comes to: every message in order, the latest status, and the
latest instant. -/
def summary (id : String) (writes : List Request) : Conversation :=
  ⟨id, (writes.filterMap (·.status?)).getLast?, (writes.filterMap (·.updatedAt?)).getLast?,
    writes.filterMap (·.message?)⟩

/-- What a history tells of a conversation, if it was written to. -/
def told (requests : List Request) (id : String) : Option Conversation :=
  let writes := requests.filter (·.writesTo id)
  if writes.isEmpty then none else some (summary id writes)

def Request.edit : Request → Conversation → Conversation
  | .append _ m, c => { c with messages := c.messages ++ [m] }
  | .touch _ at_, c => { c with updatedAt? := some at_ }
  | .setStatus _ status at_, c => { c with status? := some status, updatedAt? := some at_ }
  | .get _, c => c

theorem Request.messages_edit (request : Request) (c : Conversation) :
    (request.edit c).messages = c.messages ++ request.message?.toList := by
  cases request <;> simp [edit, message?]

theorem summary_concat (id : String) (writes : List Request) (request : Request) :
    summary id (writes ++ [request]) = request.edit (summary id writes) := by
  cases request
    <;> simp [summary, Request.edit, Request.status?, Request.updatedAt?, Request.message?]

theorem getD_told (requests : List Request) (id : String) :
    (told requests id).getD (.fresh id) = summary id (requests.filter (·.writesTo id)) := by
  unfold told
  dsimp only
  split
  · next hempty =>
    rw [List.isEmpty_iff.mp hempty]
    rfl
  · rfl

theorem told_concat (requests : List Request) (request : Request) (id : String) :
    told (requests ++ [request]) id =
      if request.writesTo id then some (request.edit ((told requests id).getD (.fresh id)))
      else told requests id := by
  rw [getD_told, ← summary_concat]
  unfold told
  rw [List.filter_append]
  cases hwrites : request.writesTo id with
  | false => simp [hwrites]
  | true => simp [hwrites]

theorem id_of_told {requests : List Request} {id : String} {c : Conversation}
    (h : told requests id = some c) :
    c.id = id := by
  unfold told at h
  dsimp only at h
  split at h
  · cases h
  · cases h
    rfl

/-- The messages that are told are those that were put to the conversation. -/
theorem append_mem_of_told {requests : List Request} {id : String} {c : Conversation}
    (hc : told requests id = some c) {m : Message} (hm : m ∈ c.messages) :
    .append id m ∈ requests := by
  unfold told at hc
  dsimp only at hc
  split at hc
  · cases hc
  · cases hc
    obtain ⟨request, hrequest, hmessage⟩ := List.mem_filterMap.mp hm
    obtain ⟨hmem, hwrites⟩ := List.mem_filter.mp hrequest
    cases request with
    | append other _ =>
      cases hmessage
      rwa [eq_of_beq hwrites] at hmem
    | _ => cases hmessage

theorem isWhole_of_told {requests : List Request} (h : ∀ request ∈ requests, request.Storable)
    {id : String} {c : Conversation} (hc : told requests id = some c) {t : Instant}
    (ht : c.updatedAt? = some t) : t.IsWhole := by
  unfold told at hc
  dsimp only at hc
  split at hc
  · cases hc
  · cases hc
    obtain ⟨request, hrequest, hat⟩ := List.mem_filterMap.mp (List.mem_of_getLast? ht)
    have hstorable := h request (List.mem_of_mem_filter hrequest)
    cases request <;> cases hat <;> exact hstorable

def rowOf (c : Conversation) : ConversationRow :=
  ⟨c.status?.map Status.name, c.updatedAt?.map Instant.toMillis⟩

def Holds (requests : List Request) : ConversationStore → Prop
  | memory table => ∀ id, Keyed.get? id table = told requests id
  | rows r => ∀ id, Keyed.get? id r.conversations = (told requests id).map rowOf ∧
      r.rowsOf id = ((told requests id).elim [] (·.messages)).map (MessageRow.ofMessage id)

/-- What rows give for a conversation that they hold: a failure if a number came along with a
message. -/
def fromRows (c? : Option Conversation) : Except Failure (Option Conversation) :=
  if c?.any fun c => c.messages.any Message.hasNumber then .error .database
  else .ok (c?.map Conversation.reread)

def given (c? : Option Conversation) : ConversationStore → Except Failure (Option Conversation)
  | memory _ => .ok c?
  | rows _ => fromRows c?

variable {store : ConversationStore} {requests : List Request} {request : Request}

theorem holds_change_memory {table : ConversationTable} (h : (memory table).Holds requests)
    (id : String) (hwrites : ∀ other, request.writesTo other = (id == other)) :
    (memory (table.change id request.edit)).Holds (requests ++ [request]) := by
  intro other
  rw [ConversationTable.get?_change, told_concat, hwrites, h other]
  simp only [beq_iff_eq]

theorem holds_change_rows {r : ConversationRows} (h : (rows r).Holds requests) (request : Request)
    (id : String) (hwrites : ∀ other, request.writesTo other = (id == other))
    (f : ConversationRow → ConversationRow) (hf : ∀ c, f (rowOf c) = rowOf (request.edit c))
    (messages : List MessageRow) (hmessages : ∀ other, messages.filter (·.conversation == other) =
      r.rowsOf other ++ if id = other then request.message?.toList.map (MessageRow.ofMessage other)
        else []) :
    (rows { r.change id f with messages }).Holds (requests ++ [request]) := by
  intro other
  obtain ⟨hconversation, hrows⟩ := h other
  have hrow : (Keyed.get? other r.conversations).getD ⟨none, none⟩ =
      rowOf ((told requests other).getD (.fresh other)) := by
    rw [hconversation]
    cases told requests other <;> rfl
  constructor
  · show Keyed.get? other (r.change id f).conversations = _
    rw [ConversationRows.get?_change, told_concat, hwrites, hrow, hf, hconversation]
    simp only [beq_iff_eq]
    split <;> rfl
  · show messages.filter (·.conversation == other) = _
    rw [hmessages, told_concat, hwrites, hrows]
    by_cases hid : id = other
    · simp only [hid, beq_self_eq_true, if_true, Option.elim_some]
      rw [← List.map_append, Request.messages_edit]
      cases told requests other <;> rfl
    · simp only [hid, if_false, List.append_nil, beq_iff_eq]

theorem holds_empty : (memory []).Holds [] ∧ (rows .empty).Holds [] :=
  ⟨fun _ => rfl, fun _ => ⟨rfl, rfl⟩⟩

theorem Holds.respond (h : store.Holds requests) (request : Request) :
    (store.respond request).2.Holds (requests ++ [request]) := by
  cases store with
  | memory table =>
    cases request with
    | append id m => exact holds_change_memory h id fun _ => rfl
    | touch id at_ => exact holds_change_memory h id fun _ => rfl
    | setStatus id status at_ => exact holds_change_memory h id fun _ => rfl
    | get id =>
      intro other
      rw [told_concat]
      exact h other
  | rows r =>
    cases request with
    | append id m =>
      refine holds_change_rows h (.append id m) id (fun _ => rfl) (fun row => row) (fun _ => rfl)
        (r.messages ++ [.ofMessage id m]) ?_
      intro other
      exact r.rowsOf_append id other m
    | touch id at_ =>
      refine holds_change_rows h (.touch id at_) id (fun _ => rfl)
        (fun row => { row with updatedAt? := some at_.toMillis })
        (fun _ => rfl) r.messages ?_
      intro other
      show r.rowsOf other = r.rowsOf other ++ if id = other then [] else []
      rw [ite_self, List.append_nil]
    | setStatus id status at_ =>
      refine holds_change_rows h (.setStatus id status at_) id (fun _ => rfl)
        (fun _ => ⟨some status.name, some at_.toMillis⟩) (fun _ => rfl) r.messages ?_
      intro other
      show r.rowsOf other = r.rowsOf other ++ if id = other then [] else []
      rw [ite_self, List.append_nil]
    | get id =>
      intro other
      rw [told_concat]
      exact h other

theorem Holds.get?_eq (h : store.Holds requests)
    (hstorable : ∀ request ∈ requests, request.Storable) (id : String) :
    store.get? id = store.given (told requests id) := by
  cases store with
  | memory table => exact congrArg Except.ok (h id)
  | rows r =>
    obtain ⟨hconversation, hrows⟩ := h id
    show r.get? id = _
    unfold ConversationRows.get?
    rw [hconversation]
    cases htold : told requests id with
    | none => rfl
    | some c =>
      have hmessages : ∀ m ∈ c.messages, m.Storable :=
        fun m hm => hstorable _ (append_mem_of_told htold hm)
      have hid : c.id = id := id_of_told htold
      have hread : ConversationRows.readMessages (r.messages.filter (·.conversation == id)) =
          if c.messages.any Message.hasNumber then .error .database
          else .ok (c.messages.map Message.reread) := by
        rw [htold] at hrows
        exact (congrArg ConversationRows.readMessages hrows).trans
          (ConversationRows.readMessages_map hmessages id)
      have hstatus : (rowOf c).status?.bind Status.ofName? = c.status? := by
        simp only [rowOf]
        cases c.status? with
        | none => rfl
        | some status => exact Status.ofName?_name status
      simp only [Option.map_some, hread, given, fromRows, Option.any_some, hstatus]
      split
      · rfl
      · obtain ⟨_, status?, updatedAt?, messages⟩ := c
        cases hid
        cases updatedAt? with
        | none => rfl
        | some t =>
          simp only [rowOf, Option.map_some,
            Instant.ofStored_toMillis (isWhole_of_told hstorable htold rfl)]
          rfl

theorem given_respond (c? : Option Conversation) (store : ConversationStore) (request : Request) :
    (store.respond request).2.given c? = store.given c? := by
  cases store <;> cases request <;> rfl

theorem given_behind (c? : Option Conversation) (store : ConversationStore)
    (requests : List Request) :
    (store.behind requests).given c? = store.given c? := by
  induction requests generalizing store with
  | nil => rfl
  | cons request requests ih => exact (ih _).trans (given_respond c? store request)

theorem Holds.behind (h : store.Holds requests) (further : List Request) :
    (store.behind further).Holds (requests ++ further) := by
  induction further generalizing store requests with
  | nil => rwa [List.append_nil]
  | cons request further ih =>
    rw [List.append_cons]
    exact ih (h.respond request)

theorem fromRows_told (hkept : ∀ id m, .append id m ∈ requests → m.Kept) (id : String) :
    fromRows (told requests id) = .ok (told requests id) := by
  cases htold : told requests id with
  | none => rfl
  | some c =>
    have hmessages : ∀ m ∈ c.messages, m.Kept :=
      fun m hm => hkept id m (append_mem_of_told htold hm)
    have hnone : c.messages.any Message.hasNumber = false :=
      List.any_eq_false.mpr fun m hm => by simp [(hmessages m hm).1]
    have hreread : c.messages.map Message.reread = c.messages :=
      (List.map_congr_left fun m hm => (hmessages m hm).reread_eq).trans (List.map_id' _)
    rw [fromRows, Option.any_some, hnone, Option.map_some, Conversation.reread, hreread]
    rfl

def Reply.ofMemory : Reply → Reply
  | .found (.ok c?) => .found (fromRows c?)
  | reply => reply

section Replies

variable {a b : ConversationStore} (ha : ∀ c?, a.given c? = .ok c?)
    (hb : ∀ c?, b.given c? = fromRows c?)

include ha hb

/-- A store that gives what it holds and one that gives it as rows do are asked the same. -/
theorem respond_rows (hholds : a.Holds requests) (hholds' : b.Holds requests)
    (hstorable : ∀ request ∈ requests, request.Storable) (request : Request) :
    (b.respond request).1 = (a.respond request).1.ofMemory ∧
      ((∀ id m, .append id m ∈ requests → m.Kept) →
        (b.respond request).1 = (a.respond request).1) := by
  cases request with
  | get id =>
    simp only [respond, hholds.get?_eq hstorable, hholds'.get?_eq hstorable, ha, hb]
    refine ⟨rfl, fun hkept => ?_⟩
    rw [fromRows_told hkept]
  | append id m => exact ⟨rfl, fun _ => rfl⟩
  | touch id at_ => exact ⟨rfl, fun _ => rfl⟩
  | setStatus id status at_ => exact ⟨rfl, fun _ => rfl⟩

theorem replies_rows (hholds : a.Holds requests) (hholds' : b.Holds requests)
    {further : List Request} (hstorable : ∀ request ∈ requests ++ further, request.Storable) :
    b.replies further = (a.replies further).map Reply.ofMemory ∧
      ((∀ id m, .append id m ∈ requests ++ further → m.Kept) →
        b.replies further = a.replies further) := by
  induction further generalizing a b requests with
  | nil => exact ⟨rfl, fun _ => rfl⟩
  | cons request further ih =>
    have hpast : ∀ {q}, q ∈ requests → q ∈ requests ++ request :: further :=
      fun hq => List.mem_append_left _ hq
    obtain ⟨hreply, hsame⟩ :=
      respond_rows ha hb hholds hholds' (fun q hq => hstorable q (hpast hq)) request
    rw [List.append_cons] at hstorable
    obtain ⟨hreplies, hallSame⟩ := ih (fun c? => (given_respond c? a request).trans (ha c?))
      (fun c? => (given_respond c? b request).trans (hb c?)) (hholds.respond request)
        (hholds'.respond request) hstorable
    constructor
    · rw [replies, hreply, hreplies]
      rfl
    · intro hkept
      rw [replies, hsame fun id m hm => hkept id m (hpast hm),
        hallSame fun id m hm => hkept id m (by rwa [List.append_cons])]
      rfl

end Replies

/-- Whatever is asked of two stores that are empty at first, memory answers with what it was told:
every message of a conversation once and in order, as it was, with the latest status and the latest
instant. Rows answer the same, but that they fail to give a conversation to which a message came
with a number by itself, and give the other numbers that came along as they are read from their
text. -/
theorem rows_agree_but_for_numbers (hstorable : ∀ request ∈ requests, request.Storable) :
    (rows .empty).replies requests = ((memory []).replies requests).map Reply.ofMemory ∧
      ((∀ id m, .append id m ∈ requests → m.Kept) →
        (rows .empty).replies requests = (memory []).replies requests) ∧
      ∀ id, ((memory []).behind requests).get? id = .ok (told requests id) ∧
        ((rows .empty).behind requests).get? id = fromRows (told requests id) := by
  obtain ⟨hmemory, hrows⟩ := holds_empty
  obtain ⟨hreplies, hsame⟩ := replies_rows (fun _ => rfl) (fun _ => rfl) hmemory hrows hstorable
  refine ⟨hreplies, hsame, fun id => ⟨?_, ?_⟩⟩
  · rw [(hmemory.behind requests).get?_eq hstorable, given_behind]
    rfl
  · rw [(hrows.behind requests).get?_eq hstorable, given_behind]
    rfl

def priced (x : Binary64) : Json := .object [("price", .number (.real x))]

/-- What customers wrote, and the price of what they asked for: in an object, and by itself. -/
def pricedChats : List Request :=
  [.append "5511"
    ⟨.incoming, "text", "hi", ⟨1893488400, 0⟩, some (.object [("price", .number (.whole 5))])⟩,
    .setStatus "5511" .humanTakeover ⟨1893488400, 0⟩, .get "5511",
    .append "5522" ⟨.incoming, "text", "hi", ⟨1893488400, 0⟩, some (.number (.whole 5))⟩,
    .get "5522", .append "5533" ⟨.incoming, "text", "hi", ⟨1893488400, 0⟩,
      some (priced (.finite false 8514241504521788 1021))⟩, .get "5533"]

/-- The price of 0.9452706955539223 is read back as 0.9452706955539224. -/
theorem rows_agree_but_for_numbers_pricedChats :
    (∀ request ∈ pricedChats, request.Storable) ∧
      ((rows .empty).behind pricedChats).get? "5511" =
        .ok (some ⟨"5511", some .humanTakeover, some ⟨1893488400, 0⟩,
          [⟨.incoming, "text", "hi", ⟨1893488400, 0⟩,
            some (.object [("price", .number (.whole 5))])⟩]⟩) ∧
      ((rows .empty).behind pricedChats).get? "5522" = .error .database ∧
      ((rows .empty).behind pricedChats).get? "5533" =
        .ok (some ⟨"5533", none, none, [⟨.incoming, "text", "hi", ⟨1893488400, 0⟩,
          some (priced (.finite false 8514241504521789 1021))⟩]⟩) := by
  have hwhole : (⟨1893488400, 0⟩ : Instant).IsWhole := ⟨1893488400000, by decide⟩
  have hfive : (Number.whole 5).Valid := ⟨by decide, by decide⟩
  have hdouble : (Number.real (.finite false 8514241504521788 1021)).Valid :=
    ⟨rfl, by decide, .inr (by decide), by decide⟩
  have hobject : ∀ n : Number, n.Valid → (Json.object [("price", .number n)]).WellFormed :=
    fun _ hn => ⟨List.pairwise_singleton _ _, hn, trivial⟩
  have hstorable : ∀ request ∈ pricedChats, request.Storable := by
    simp only [pricedChats, List.forall_mem_cons, List.not_mem_nil, false_implies, implies_true,
      and_true]
    refine ⟨⟨hwhole, ?_⟩, hwhole, trivial, ⟨hwhole, ?_⟩, trivial, ⟨hwhole, ?_⟩, trivial⟩
    · rintro v ⟨⟩
      exact ⟨hobject _ hfive, by decide⟩
    · rintro v ⟨⟩
      exact ⟨hfive, by decide⟩
    · rintro v ⟨⟩
      exact ⟨hobject _ hdouble, by decide⟩
  obtain ⟨-, -, hget⟩ := rows_agree_but_for_numbers hstorable
  rw [(hget "5511").2, (hget "5522").2, (hget "5533").2]
  refine ⟨hstorable, ?_, ?_, ?_⟩ <;> decide +kernel

theorem rows_disagree_pricedChats :
    (memory []).replies pricedChats ≠ (rows .empty).replies pricedChats := by
  decide +kernel

end ConversationStore

end ChatFlow
