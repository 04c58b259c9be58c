import ChatFlow.Proofs.Activity
import ChatFlow.Proofs.Assignment
import ChatFlow.Proofs.Restart

namespace ChatFlow

namespace Text

theorem not_mem_of_mem_pieces {separator : Char} {cs piece : List Char}
    (h : piece ∈ pieces separator cs) :
    separator ∉ piece := by
  induction cs generalizing piece with
  | nil => simp_all [pieces]
  | cons c cs ih =>
    rw [pieces] at h
    split at h
    · rcases List.mem_cons.mp h with rfl | h
      · exact List.not_mem_nil
      · exact ih h
    · next hc =>
      cases hcs : pieces separator cs with
      | nil => exact absurd hcs (pieces_ne_nil separator cs)
      | cons first more =>
        rw [hcs] at h ih
        rcases List.mem_cons.mp h with rfl | h
        · simpa [Ne.symm hc] using ih List.mem_cons_self
        · exact ih (List.mem_cons_of_mem _ h)

theorem not_mem_of_mem_segments {path segment : String} (h : segment ∈ segments path) :
    '.' ∉ segment.toList := by
  obtain ⟨piece, hpiece, rfl⟩ := List.mem_map.mp h
  rw [String.toList_ofList]
  exact not_mem_of_mem_pieces hpiece

theorem segments_of_not_mem {name : String} (h : '.' ∉ name.toList) : segments name = [name] := by
  rw [segments, pieces_eq_singleton (cutAt_eq_none (beq_eq_false_of_not_mem h)), List.map_singleton,
    String.ofList_toList]

def Continues (name other : String) : Prop := ∃ rest, other = name ++ "." ++ rest

variable {name other : String}

theorem Continues.lt (h : Continues name other) : name < other := by
  obtain ⟨rest, rfl⟩ := h
  have hlist : ∀ cs : List Char, cs < cs ++ '.' :: rest.toList := by
    intro cs
    induction cs with
    | nil => exact List.nil_lt_cons _ _
    | cons c cs ih => exact List.cons_lt_cons_iff.mpr (.inr ⟨rfl, ih⟩)
  have htoList : (name ++ "." ++ rest).toList = name.toList ++ '.' :: rest.toList := by simp
  rw [String.lt_iff, htoList]
  exact hlist name.toList

theorem segments_prefix_iff : segments name <+: segments other ↔
    other = name ∨ Continues name other := by
  constructor
  · rintro ⟨rest, hrest⟩
    by_cases hnil : rest = []
    · rw [hnil, List.append_nil] at hrest
      exact .inl (segments_injective hrest.symm)
    · obtain ⟨front, tail, hother, hfront, -⟩ :=
        exists_eq_of_segments_append hrest.symm (segments_ne_nil name) hnil
      exact .inr ⟨tail, by rw [hother, segments_injective hfront]⟩
  · rintro (rfl | ⟨rest, rfl⟩)
    · exact List.prefix_rfl
    · rw [segments_append_dot]
      exact List.prefix_append _ _

instance (name other : String) : Decidable (Continues name other) :=
  decidable_of_iff (segments name <+: segments other ∧ other ≠ name) <| by
    rw [segments_prefix_iff]
    constructor
    · rintro ⟨heq | h, hne⟩
      · exact absurd heq hne
      · exact h
    · intro h
      exact ⟨.inr h, fun heq => String.lt_irrefl name (heq ▸ h.lt)⟩

end Text

namespace Path

variable {value : Json} {root : Keyed Json} {p q : List String}

/-- The steps lead to the value, and from the first to the last there are objects only. -/
inductive Stands (value : Json) : List String → Keyed Json → Prop
  | here {a : String} {root : Keyed Json} : Keyed.get? a root = some value → Stands value [a] root
  | inside {a : String} {rest : List String} {root members : Keyed Json} :
    Keyed.get? a root = some (.object members) → Stands value rest members →
      Stands value (a :: rest) root

theorem Stands.follow (h : Stands value p root) : Path.follow (.object root) p = some value := by
  induction h with
  | here hget => rw [follow_object_cons, hget]; rfl
  | inside hget _ ih =>
    rw [follow_object_cons, hget]
    exact ih

theorem stands_assign_self (hp : p ≠ []) (value : Json) (root : Keyed Json) :
    Stands value p (assign value p root) := by
  induction p generalizing root with
  | nil => exact absurd rfl hp
  | cons a rest ih =>
    rw [assign_cons]
    by_cases hrest : rest = []
    · subst hrest
      exact .here (Keyed.get?_insert_self a _ root)
    · rw [placed_of_ne_nil hrest]
      exact .inside (Keyed.get?_insert_self a _ root) (ih hrest _)

/-- An assignment at the end of another course lets the value stand. -/
theorem Stands.assign (h : Stands value q root) (hparting : Parting p q) (w : Json) :
    Stands value q (assign w p root) := by
  induction hparting generalizing root with
  | @here a b p q hne =>
    rw [assign_cons]
    cases h with
    | here hget => exact .here (by rwa [Keyed.get?_insert_of_ne hne.symm])
    | inside hget hrest => exact .inside (by rwa [Keyed.get?_insert_of_ne hne.symm]) hrest
  | @along a p q hparting ih =>
    rw [assign_cons, placed_of_ne_nil hparting.left_ne_nil]
    cases h with
    | here => exact absurd rfl hparting.right_ne_nil
    | inside hget hrest =>
      rw [hget]
      exact .inside (Keyed.get?_insert_self a _ root) (ih hrest)

theorem exists_stands_assign (hp : p ≠ []) (hq : q ≠ []) (value : Json) (root : Keyed Json) :
    ∃ members, Stands (.object members) p (assign value (p ++ q) root) := by
  induction p generalizing root with
  | nil => exact absurd rfl hp
  | cons a rest ih =>
    rw [List.cons_append, assign_cons,
      placed_of_ne_nil (List.append_ne_nil_of_right_ne_nil rest hq)]
    by_cases hrest : rest = []
    · subst hrest
      exact ⟨_, .here (Keyed.get?_insert_self a _ root)⟩
    · obtain ⟨members, hstands⟩ := ih hrest (membersOf (Keyed.get? a root))
      exact ⟨members, .inside (Keyed.get?_insert_self a _ root) hstands⟩

def assignAll (fields : Keyed Json) (root : Keyed Json) : Keyed Json :=
  fields.foldl (fun root field => assign field.2 (Text.segments field.1) root) root

def Undotted (fields : Keyed Json) : Prop := ∀ e ∈ fields, '.' ∉ e.1.toList

instance (fields : Keyed Json) : Decidable (Undotted fields) :=
  inferInstanceAs (Decidable (∀ e ∈ fields, _))

variable {fields : Keyed Json} {e : String × Json}

theorem undotted_nil : Undotted [] := by
  intro e he
  cases he

theorem assignAll_cons (field : String × Json) (fields root : Keyed Json) :
    assignAll (field :: fields) root =
      assignAll fields (assign field.2 (Text.segments field.1) root) := rfl

theorem assignAll_append (fields more root : Keyed Json) :
    assignAll (fields ++ more) root = assignAll more (assignAll fields root) := List.foldl_append

theorem Undotted.assign (h : Undotted root) (value : Json) (path : String) :
    Undotted (assign value (Text.segments path) root) := by
  obtain ⟨first, rest, hpath⟩ := List.exists_cons_of_ne_nil (Text.segments_ne_nil path)
  rw [hpath, assign_cons]
  intro e he
  rcases Keyed.eq_or_mem_of_mem_insert he with rfl | he
  · have hfirst : first ∈ Text.segments path := by rw [hpath]; exact List.mem_cons_self
    exact Text.not_mem_of_mem_segments hfirst
  · exact h e he

theorem Undotted.assignAll (h : Undotted root) (fields : Keyed Json) :
    Undotted (assignAll fields root) := by
  induction fields generalizing root with
  | nil => exact h
  | cons field fields ih => exact ih (h.assign field.2 field.1)

theorem assignAll_of_undotted (h : Undotted fields) (root : Keyed Json) :
    assignAll fields root =
      fields.foldl (fun root field => Keyed.insert field.1 field.2 root) root := by
  induction fields generalizing root with
  | nil => rfl
  | cons field fields ih =>
    have hfield : '.' ∉ field.1.toList := h field List.mem_cons_self
    have hfields : Undotted fields := fun e he => h e (List.mem_cons_of_mem _ he)
    rw [assignAll_cons, ih hfields, Text.segments_of_not_mem hfield, List.foldl_cons]
    rfl

theorem assignAll_nil_of_undotted (hsorted : Keyed.Sorted fields) (h : Undotted fields) :
    assignAll fields [] = fields := by
  rw [assignAll_of_undotted h]
  exact Keyed.ofList_of_sorted hsorted

theorem assignAll_nil_eq_iff (hsorted : Keyed.Sorted fields) : assignAll fields [] = fields ↔
    Undotted fields := by
  constructor
  · intro heq
    rw [← heq]
    exact undotted_nil.assignAll fields
  · exact assignAll_nil_of_undotted hsorted

theorem insert_assignAll_nil_eq_iff (hsorted : Keyed.Sorted fields) {key : String}
    (hkey : '.' ∉ key.toList) (value : Json) :
    Keyed.insert key value (assignAll fields []) = Keyed.insert key value fields ↔
      Undotted fields := by
  constructor
  · intro heq e he
    -- under any other name both sides read the same, and on the left no name holds a dot
    by_cases hname : e.1 = key
    · rwa [hname]
    · have hget : Keyed.get? e.1 (Keyed.insert key value fields) = some e.2 := by
        rw [Keyed.get?_insert_of_ne hname, Keyed.get?_eq_some_iff hsorted]
        exact he
      rw [← heq, Keyed.get?_insert_of_ne hname] at hget
      exact undotted_nil.assignAll fields _ (Keyed.mem_of_get? hget)
  · intro h
    rw [assignAll_nil_of_undotted hsorted h]

theorem Stands.assignAll (h : Stands value q root)
    (hparting : ∀ field ∈ fields, Parting (Text.segments field.1) q) :
    Stands value q (assignAll fields root) := by
  induction fields generalizing root with
  | nil => exact h
  | cons field fields ih =>
    obtain ⟨hfield, hfields⟩ := List.forall_mem_cons.mp hparting
    exact ih (h.assign hfield field.2) hfields

/-- The paths of two names part if the greater one does not continue the other. -/
theorem parting_of_lt {name other : String} (hlt : name < other) (h : ¬ Text.Continues name other) :
    Parting (Text.segments other) (Text.segments name) := by
  rw [parting_iff, Text.segments_prefix_iff, Text.segments_prefix_iff]
  constructor
  · rintro (heq | hcontinues)
    · exact String.lt_irrefl _ (heq ▸ hlt)
    · exact String.lt_asymm hlt hcontinues.lt
  · rintro (heq | hcontinues)
    · exact String.lt_irrefl _ (heq ▸ hlt)
    · exact h hcontinues

def Unbroken (fields : Keyed Json) (name : String) : Prop :=
  ∀ other ∈ fields, ¬ Text.Continues name other.1

instance (fields : Keyed Json) (name : String) : Decidable (Unbroken fields name) :=
  inferInstanceAs (Decidable (∀ other ∈ fields, _))

/-- A field stands at the path of its name unless the name of another one continues there: those
that it continues itself come before it. -/
theorem stands_assignAll (hsorted : Keyed.Sorted fields) (he : e ∈ fields) (h : Unbroken fields e.1)
    (root : Keyed Json) : Stands e.2 (Text.segments e.1) (assignAll fields root) := by
  obtain ⟨before, behind, rfl⟩ := List.append_of_mem he
  rw [assignAll_append, assignAll_cons]
  apply (stands_assign_self (Text.segments_ne_nil e.1) e.2 _).assignAll
  intro other hother
  have hlt : e.1 < other.1 :=
    (List.pairwise_cons.mp (List.pairwise_append.mp hsorted).2.1).1 other hother
  exact parting_of_lt hlt (h other (by simp [hother]))

/-- Where the name of a field continues another name, an object stands at the path of that one in
the end. -/
theorem exists_stands_assignAll {name : String} (hsorted : Keyed.Sorted fields) (he : e ∈ fields)
    (h : Text.Continues name e.1) (root : Keyed Json) :
    ∃ members, Stands (.object members) (Text.segments name) (assignAll fields root) := by
  induction fields using List.reverseRecOn with
  | nil => cases he
  | append_singleton fields last ih =>
    rw [assignAll_append, assignAll_cons]
    -- either the last field itself goes below the name, or it parts from it and leaves what those
    -- before have made
    by_cases hlast : Text.Continues name last.1
    · obtain ⟨rest, hrest⟩ := hlast
      rw [hrest, Text.segments_append_dot]
      exact exists_stands_assign (Text.segments_ne_nil name) (Text.segments_ne_nil rest) last.2 _
    · obtain ⟨hfields, -, hbefore⟩ := List.pairwise_append.mp hsorted
      rcases List.mem_append.mp he with he | he
      · obtain ⟨members, hstands⟩ := ih hfields he
        have hlt : name < last.1 :=
          String.lt_trans h.lt (hbefore e he last (List.mem_singleton_self last))
        exact ⟨members, hstands.assign (parting_of_lt hlt hlast) last.2⟩
      · exact absurd (List.mem_singleton.mp he ▸ h) hlast

/-- At the path of a field's name stands what the field says, unless another field makes an object
of it. -/
theorem exists_stands (hsorted : Keyed.Sorted fields) (he : e ∈ fields) (root : Keyed Json) :
    ∃ v, Stands v (Text.segments e.1) (assignAll fields root) ∧
      (Unbroken fields e.1 → v = e.2) ∧ (v.isObject = true ∨ Unbroken fields e.1) := by
  by_cases h : Unbroken fields e.1
  · exact ⟨e.2, stands_assignAll hsorted he h root, fun _ => rfl, .inr h⟩
  · obtain ⟨other, hother, hcontinues⟩ : ∃ other ∈ fields, Text.Continues e.1 other.1 := by
      simpa [Unbroken] using h
    obtain ⟨members, hstands⟩ := exists_stands_assignAll hsorted hother hcontinues root
    exact ⟨.object members, hstands, fun hunbroken => absurd hunbroken h, .inl rfl⟩

end Path

namespace Context

/-- The context with these members in its namespaces and nothing beside them. -/
def ofNamespaces (inContact inMeta inVars : Keyed Json) : Context :=
  ⟨[(contact, .object inContact), (meta_, .object inMeta), (vars, .object inVars)]⟩

variable {inContact inMeta inVars inContact' inMeta' inVars' : Keyed Json}

theorem ofNamespaces_inj :
    ofNamespaces inContact inMeta inVars = ofNamespaces inContact' inMeta' inVars' ↔
    inContact = inContact' ∧ inMeta = inMeta' ∧ inVars = inVars' := by
  simp [ofNamespaces]

theorem set_dotted {name : String} (h : '.' ∉ name.toList) (c : Context) (key : String)
    (value : Json) :
    c.set (name ++ "." ++ key) value =
      ⟨Keyed.insert name (.object (Path.assign value (Text.segments key) (c.namespace name)))
        c.root⟩ := by
  rw [set, Path.set_of_ne_empty (Path.dotted_ne_empty name key), Text.segments_dot h,
    Path.assign_cons, Path.placed_of_ne_nil (Text.segments_ne_nil key)]
  rfl

theorem seed_cons (c : Context) (name : String) (field : String × Json) (fields : Keyed Json) :
    c.seed name (field :: fields) = (c.set (name ++ "." ++ field.1) field.2).seed name fields := rfl

/-- Fields get into the namespace that they are copied to and nowhere else. -/
theorem seed_insert {name : String} (h : '.' ∉ name.toList) (fields members root : Keyed Json) :
    seed ⟨Keyed.insert name (.object members) root⟩ name fields =
      ⟨Keyed.insert name (.object (Path.assignAll fields members)) root⟩ := by
  induction fields generalizing members with
  | nil => rfl
  | cons field fields ih =>
    have hmembers : «namespace» ⟨Keyed.insert name (.object members) root⟩ name = members := by
      rw [«namespace», Keyed.get?_insert_self]
      rfl
    rw [seed_cons, set_dotted h, hmembers, Keyed.insert_insert_self, ih, Path.assignAll_cons]

end Context

namespace Dispatch

open Context World

variable (conversationId : String) (fields : Keyed Json)

/-- The context in which a message with fields starts a flow. -/
theorem messageContext_object :
    messageContext conversationId (some (.object fields)) =
      ofNamespaces [(channelField, .text conversationId)] (Path.assignAll fields []) [] := by
  have hchannel : ofChannel conversationId =
      ⟨Keyed.insert meta_ (.object [])
        (ofNamespaces [(channelField, .text conversationId)] [] []).root⟩ := by
    rw [ofChannel, set_dotted (by decide)]
    rfl
  rw [messageContext, hchannel, seed_insert (by decide)]
  rfl

theorem tickContext_eq :
    tickContext conversationId fields =
      ofNamespaces (Keyed.insert channelField (.text conversationId) (Path.assignAll fields [])) []
        [] := by
  have hempty : empty = ⟨Keyed.insert contact (.object []) (ofNamespaces [] [] []).root⟩ := rfl
  rw [tickContext, hempty, seed_insert (by decide), set_dotted (by decide)]
  rfl

variable {conversationId fields} {e : String × Json}

theorem segments_channelField : Text.segments channelField = [channelField] :=
  Text.segments_of_not_mem (by decide)

theorem get?_messageContext (key : String) :
    (messageContext conversationId (some (.object fields))).get? (meta_ ++ "." ++ key) =
      Path.follow (.object (Path.assignAll fields [])) (Text.segments key) := by
  rw [messageContext_object, get?, Path.getIn?_eq_follow, Text.segments_dot (by decide)]
  rfl

theorem get?_tickContext (key : String) :
    (tickContext conversationId fields).get? (contact ++ "." ++ key) =
      Path.follow
        (.object (Path.assign (.text conversationId) [channelField] (Path.assignAll fields [])))
        (Text.segments key) := by
  rw [tickContext_eq, get?, Path.getIn?_eq_follow, Text.segments_dot (by decide)]
  rfl

def Reads (c : Context) (name : String) (e : String × Json) : Prop :=
  c.get? (name ++ "." ++ e.1) = some e.2

theorem messageContext_reads (hsorted : Keyed.Sorted fields) (he : e ∈ fields) :
    (Path.Unbroken fields e.1 →
      Reads (messageContext conversationId (some (.object fields))) meta_ e) ∧
    (Reads (messageContext conversationId (some (.object fields))) meta_ e →
      e.2.isObject = true ∨ Path.Unbroken fields e.1) := by
  obtain ⟨v, hstands, hvalue, hor⟩ := Path.exists_stands hsorted he []
  rw [Reads, get?_messageContext, hstands.follow, Option.some.injEq]
  exact ⟨hvalue, fun heq => heq ▸ hor⟩

theorem get?_tickContext_channel :
    (tickContext conversationId fields).get? (contact ++ "." ++ channelField) =
      some (.text conversationId) := by
  rw [get?_tickContext, segments_channelField]
  exact Path.follow_assign_self _ (List.cons_ne_nil _ _) _

theorem get?_tickContext_eq_none {key : String} (h : Text.Continues channelField key) :
    (tickContext conversationId fields).get? (contact ++ "." ++ key) = none := by
  obtain ⟨rest, rfl⟩ := h
  obtain ⟨first, more, hrest⟩ := List.exists_cons_of_ne_nil (Text.segments_ne_nil rest)
  rw [get?_tickContext, Text.segments_dot (by decide), hrest, Path.follow_assign_cons]
  rfl

theorem tickContext_reads (hsorted : Keyed.Sorted fields) (he : e ∈ fields)
    (hname : e.1 ≠ channelField) :
    (Path.Unbroken fields e.1 → ¬ Text.Continues channelField e.1 →
      Reads (tickContext conversationId fields) contact e) ∧
    (Reads (tickContext conversationId fields) contact e →
      ¬ Text.Continues channelField e.1 ∧ (e.2.isObject = true ∨ Path.Unbroken fields e.1)) := by
  by_cases hchannel : Text.Continues channelField e.1
  · rw [Reads, get?_tickContext_eq_none hchannel]
    exact ⟨fun _ h => absurd hchannel h, nofun⟩
  · have hparting : Path.Parting [channelField] (Text.segments e.1) := by
      rw [← segments_channelField, Path.parting_iff, Text.segments_prefix_iff,
        Text.segments_prefix_iff]
      refine ⟨fun h => h.elim hname hchannel, fun h => h.elim (fun h => hname h.symm) ?_⟩
      rintro ⟨rest, hrest⟩
      have hdot : '.' ∉ channelField.toList := by decide
      exact hdot (by rw [hrest]; simp)
    obtain ⟨v, hstands, hvalue, hor⟩ := Path.exists_stands hsorted he []
    rw [Reads, get?_tickContext, (hstands.assign hparting _).follow, Option.some.injEq]
    exact ⟨fun h _ => hvalue h, fun heq => ⟨hchannel, heq ▸ hor⟩⟩

variable {settings : Settings} {botId : String} {w w' : World} {r : Result}

/-- What comes of a call for a message or a tick: nothing, a failure of a store, or the run of the
bot's flow for an event in a context. -/
def StartsIn (settings : Settings) (botId conversationId : String) (event : Event)
    (context : Context) (r : Result) (w' : World) : Prop :=
  r = noRun ∨ (∃ f, r = failed f) ∨
    ∃ (active : ActiveFlow) (w : World), w.registry.active? botId = some active ∧
      w.Runs (runFlow settings botId conversationId active event context) r w'

theorem active_of_answer {found : Option ActiveFlow}
    (h : w.answer (.activeFlow botId) = (some found, w')) :
    w.registry.active? botId = found ∧ w' = w := by
  cases h
  exact ⟨rfl, rfl⟩

theorem startsIn_of_message {text : String} {extra : Option Json}
    (h : w.Runs (message settings botId conversationId text extra) r w') :
    StartsIn settings botId conversationId (.newMessage text) (messageContext conversationId extra)
      r w' := by
  obtain ⟨now, w₁, -, h⟩ := h.of_call
  obtain ⟨found | found, w₂, -, h⟩ := h.of_call
  · exact .inr (.inl ⟨found, h.of_done.1⟩)
  obtain ⟨f | _, w₃, -, h⟩ := h.of_call
  · exact .inr (.inl ⟨f, h.of_done.1⟩)
  dsimp only at h
  split at h
  · obtain ⟨f | _, w₄, -, h⟩ := h.of_call
    · exact .inr (.inl ⟨f, h.of_done.1⟩)
    · exact .inl h.of_done.1
  · obtain ⟨f | _, w₄, -, h⟩ := h.of_call
    · exact .inr (.inl ⟨f, h.of_done.1⟩)
    obtain ⟨_ | active, w₅, hactive, hrun⟩ := h.of_call
    · exact .inl hrun.of_done.1
    dsimp only [Activity.done_bind] at hrun
    split at hrun
    · obtain ⟨hactive, rfl⟩ := active_of_answer hactive
      exact .inr (.inr ⟨active, _, hactive, hrun⟩)
    · exact .inl hrun.of_done.1

theorem startsIn_of_tick {contact : Keyed Json}
    (h : w.Runs (tick settings botId conversationId contact) r w') :
    StartsIn settings botId conversationId .scheduled (tickContext conversationId contact) r
      w' := by
  obtain ⟨f | found, w₁, -, h⟩ := h.of_call
  · exact .inr (.inl ⟨f, h.of_done.1⟩)
  dsimp only [Activity.pure_eq, Activity.done_bind, Except.map] at h
  split at h
  · next heq => cases heq
  · exact .inl h.of_done.1
  · obtain ⟨_ | active, w₂, hactive, hrun⟩ := h.of_call
    · exact .inl hrun.of_done.1
    obtain ⟨hactive, rfl⟩ := active_of_answer hactive
    exact .inr (.inr ⟨active, _, hactive, hrun⟩)

/-- Nothing keeps a call for the conversation from starting the bot's flow: the operations are in
service that it needs, no human has the conversation, and a flow is active. -/
structure Ready (needs : List Operation) (w : World) (botId conversationId : String)
    (active : ActiveFlow) : Prop where
  serving : ∀ op ∈ needs, op ∉ w.failing
  free : ∃ found, w.conversations.get? conversationId = .ok found ∧
    found.any (·.status? == some .humanTakeover) = false
  active : w.registry.active? botId = some active

variable {needs : List Operation} {active : ActiveFlow}

theorem Ready.exists_answer (h : Ready needs w botId conversationId active) (hget : .get ∈ needs) :
    ∃ found, w.answer (.getConversation conversationId) = (some (.ok found), w) ∧
      found.any (·.status? == some .humanTakeover) = false := by
  obtain ⟨found, hfound, hfree⟩ := h.free
  have hread : w.answer (.getConversation conversationId) =
      (some (w.conversations.get? conversationId), w) :=
    serve_of_not_mem w (h.serving _ hget) _
  exact ⟨found, hfound ▸ hread, hfree⟩

theorem Ready.exists_perform_message {text : String}
    (h : Ready [.get, .append, .setStatus] w botId conversationId active)
    (haccepts : active.flow.accepts text = true) (extra : Option Json) :
    ∃ w₁ : World, w₁.registry = w.registry ∧
      perform (message settings botId conversationId text extra) w =
      perform (runFlow settings botId conversationId active (.newMessage text)
        (messageContext conversationId extra))
        w₁ := by
  obtain ⟨found, hread, hfree⟩ := h.exists_answer (by decide)
  let received : World :=
    { w with conversations := w.conversations.append conversationId (.incoming text w.clock extra) }
  let opened : World :=
    { received with
      conversations := received.conversations.setStatus conversationId .active w.clock }
  have hreceived : w.answer (.append conversationId (.incoming text w.clock extra)) =
      (some (.ok ()), received) :=
    serve_of_not_mem w (h.serving _ (by decide)) _
  have hopened : received.answer (.setStatus conversationId .active w.clock) =
      (some (.ok ()), opened) :=
    serve_of_not_mem received (h.serving _ (by decide)) _
  have hactive : opened.answer (.activeFlow botId) = (some (some active), opened) :=
    congrArg (fun found => (some found, opened)) h.active
  refine ⟨opened, rfl, ?_⟩
  have hnow : w.answer .now = (some w.clock, w) := rfl
  refine (perform_of_answer hnow).trans ((perform_of_answer hread).trans ?_)
  simp only [Activity.done_bind, Activity.pure_eq, Except.map, hfree]
  refine (perform_of_answer hreceived).trans
    ((perform_of_answer hopened).trans ((perform_of_answer hactive).trans ?_))
  simp only [Activity.done_bind, haccepts, if_true]

theorem Ready.perform_tick (h : Ready [.get] w botId conversationId active) (contact : Keyed Json) :
    perform (tick settings botId conversationId contact) w =
      perform (runFlow settings botId conversationId active .scheduled
        (tickContext conversationId contact)) w := by
  obtain ⟨found, hread, hfree⟩ := h.exists_answer (by decide)
  have hactive : w.answer (.activeFlow botId) = (some (some active), w) :=
    congrArg (fun found => (some found, w)) h.active
  refine (perform_of_answer hread).trans ?_
  simp only [Activity.done_bind, Activity.pure_eq, Except.map, hfree]
  exact perform_of_answer hactive

/-- A message starts a flow, whenever it starts one, with its fields under `meta`, and a tick with
those of its contact under `contact` and the channel of the conversation among them, exactly as they
are if and only if none has a dot in its name. What a field says is read at the path of its name if
the name of no other one continues there and the channel is not written across it, and no longer if
one does and the value is no object. -/
theorem seeds_exactly_iff (settings : Settings) (botId conversationId text : String)
    {fields : Keyed Json} (hsorted : Keyed.Sorted fields) :
    ((∀ (w w' : World) r,
      w.Runs (message settings botId conversationId text (some (.object fields))) r w' →
        StartsIn settings botId conversationId (.newMessage text)
          (messageContext conversationId (some (.object fields))) r w') ∧
      (∀ w active, Ready [.get, .append, .setStatus] w botId conversationId active →
        active.flow.accepts text = true →
        ∃ w₁ : World, w₁.registry = w.registry ∧
          perform (message settings botId conversationId text (some (.object fields))) w =
            perform (runFlow settings botId conversationId active (.newMessage text)
              (messageContext conversationId (some (.object fields)))) w₁) ∧
      (messageContext conversationId (some (.object fields)) =
          ofNamespaces [(channelField, .text conversationId)] fields [] ↔
            ∀ e ∈ fields, '.' ∉ e.1.toList) ∧
      ∀ e ∈ fields,
        (Path.Unbroken fields e.1 →
          Reads (messageContext conversationId (some (.object fields))) meta_ e) ∧
        (Reads (messageContext conversationId (some (.object fields))) meta_ e →
          e.2.isObject = true ∨ Path.Unbroken fields e.1)) ∧
    (∀ (w w' : World) r, w.Runs (tick settings botId conversationId fields) r w' →
        StartsIn settings botId conversationId .scheduled
          (tickContext conversationId fields) r w') ∧
      (∀ w active, Ready [.get] w botId conversationId active →
        perform (tick settings botId conversationId fields) w =
          perform (runFlow settings botId conversationId active .scheduled
            (tickContext conversationId fields)) w) ∧
      (tickContext conversationId fields =
          ofNamespaces (Keyed.insert channelField (.text conversationId) fields) [] [] ↔
        ∀ e ∈ fields, '.' ∉ e.1.toList) ∧
      (tickContext conversationId fields).get? (contact ++ "." ++ channelField) =
        some (.text conversationId) ∧
      ∀ e ∈ fields, e.1 ≠ channelField →
        (Path.Unbroken fields e.1 → ¬ Text.Continues channelField e.1 →
          Reads (tickContext conversationId fields) contact e) ∧
        (Reads (tickContext conversationId fields) contact e →
          ¬ Text.Continues channelField e.1 ∧
            (e.2.isObject = true ∨ Path.Unbroken fields e.1)) := by
  refine ⟨⟨fun w w' r => startsIn_of_message, fun w active h haccepts =>
    h.exists_perform_message haccepts _, ?_,
    fun e he => messageContext_reads hsorted he⟩, fun w w' r => startsIn_of_tick,
      fun w active h => h.perform_tick fields,
    ?_, get?_tickContext_channel, fun e he hname => tickContext_reads hsorted he hname⟩
  · rw [messageContext_object, ofNamespaces_inj, and_iff_right rfl, and_iff_left rfl]
    exact Path.assignAll_nil_eq_iff hsorted
  · rw [tickContext_eq, ofNamespaces_inj, and_iff_left (And.intro rfl rfl)]
    exact Path.insert_assignAll_nil_eq_iff hsorted (by decide) _

def campaign : Keyed Json := [("utm", .text "spring"), ("utm.source", .text "ad")]

/-- The source is read where its name leads, and the campaign itself is gone. -/
theorem seeds_exactly_iff_campaign :
    Keyed.Sorted campaign ∧
      Reads (messageContext "5511" (some (.object campaign))) meta_ ("utm.source", .text "ad") ∧
      ¬ Reads (messageContext "5511" (some (.object campaign))) meta_ ("utm", .text "spring") := by
  have hsorted : Keyed.Sorted campaign := by unfold Keyed.Sorted; decide
  obtain ⟨⟨-, -, -, hfields⟩, -⟩ :=
    seeds_exactly_iff ⟨.strict, 100, 10000⟩ "bot" "5511" "hi" hsorted
  refine ⟨hsorted, (hfields _ (by decide)).1 (by decide), fun hreads => ?_⟩
  rcases (hfields ("utm", .text "spring") (by decide)).2 hreads with hobject | hunbroken
  · cases hobject
  · exact absurd hunbroken (by decide)

/-- A message and a tick whose fields are not copied: a dotted name becomes two, a field on its way
is lost, and so is one below the channel. -/
theorem not_seeded_exactly_campaign :
    (messageContext "5511" (some (.object campaign))).namespace meta_ =
      [("utm", .object [("source", .text "ad")])] ∧
      (messageContext "5511" (some (.object campaign))).namespace meta_ ≠ campaign ∧
      (tickContext "5511" [("wa_id.kind", .text "mobile")]).namespace contact =
        [(channelField, .text "5511")] ∧
      (tickContext "5511" [("wa_id.kind", .text "mobile")]).namespace contact ≠
        Keyed.insert channelField (.text "5511") [("wa_id.kind", .text "mobile")] := by
  decide +kernel

end Dispatch

end ChatFlow
