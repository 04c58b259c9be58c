import ChatFlow.Proofs.Handler
import ChatFlow.Proofs.Lines
import ChatFlow.Run.Dispatch

namespace ChatFlow

namespace Text

theorem segments_ne_nil (s : String) : segments s ≠ [] := by
  simp [segments, pieces_ne_nil]

theorem segments_injective {a b : String} (h : segments a = segments b) : a = b := by
  have hpieces : pieces '.' a.toList = pieces '.' b.toList :=
    (List.map_inj_right fun _ _ => String.ofList_injective).mp h
  have htoList : a.toList = b.toList := by
    rw [← intercalate_pieces '.' a.toList, hpieces, intercalate_pieces]
  exact String.toList_injective htoList

/-- What stands in front of the first dot is the first segment. -/
theorem segments_dot {name : String} (h : '.' ∉ name.toList) (rest : String) :
    segments (name ++ "." ++ rest) = name :: segments rest := by
  have htoList : (name ++ "." ++ rest).toList = name.toList ++ '.' :: rest.toList := by simp
  have hcut := cutAt_append (beq_eq_false_of_not_mem h) (beq_self_eq_true '.') rest.toList
  rw [segments, htoList, pieces_eq_of_cutAt hcut, List.map_cons, String.ofList_toList]
  rfl

end Text

namespace Path

variable {value : Json} {root : Keyed Json} {segment next name : String} {rest : List String}

theorem get?_assign_of_ne (h : name ≠ segment) :
    Keyed.get? name (assign value (segment :: rest) root) = Keyed.get? name root := by
  cases rest with
  | nil => exact Keyed.get?_insert_of_ne h _ _
  | cons next rest => exact Keyed.get?_insert_of_ne h _ _

theorem get?_assign_self :
    Keyed.get? segment (assign value (segment :: next :: rest) root) =
      some (.object (assign value (next :: rest) (membersOf (Keyed.get? segment root)))) :=
  Keyed.get?_insert_self _ _ _

theorem set_of_ne_empty {path : String} (h : path ≠ "") (root : Keyed Json) (value : Json) :
    set root path value = assign value (Text.segments path) root := by
  have hempty : path.isEmpty = false := by
    rw [← Bool.not_eq_true, String.isEmpty_iff]
    exact h
  rw [set, hempty]
  rfl

theorem set_eq_assign {path : String} (hpath : Text.segments path = segment :: rest)
    (hne : path ≠ "") :
    set root path value = assign value (segment :: rest) root := by
  rw [set_of_ne_empty hne, hpath]

end Path

namespace Context

variable {context : Context} {path segment : String} {rest : List String}

theorem channel?_congr {context' : Context}
    (h : Keyed.get? contact context'.root = Keyed.get? contact context.root) :
    context'.channel? = context.channel? := by
  unfold channel? «namespace»
  rw [h]

theorem set_empty (context : Context) (value : Json) : context.set "" value = context := rfl

theorem channel?_set_of_ne (hpath : Text.segments path = segment :: rest) (hne : segment ≠ contact)
    (value : Json) : (context.set path value).channel? = context.channel? := by
  by_cases hempty : path = ""
  · rw [hempty, set_empty]
  · refine channel?_congr ?_
    rw [set, Path.set_eq_assign hpath hempty]
    exact Path.get?_assign_of_ne (Ne.symm hne)

/-- Below `contact` a text that is written to the field of the channel becomes the channel. -/
theorem channel?_set_channelField (context : Context) (id : String) :
    (context.set (contact ++ "." ++ channelField) (.text id)).channel? =
      if id.isEmpty then none else some id := by
  have hsegments :
      Text.segments (contact ++ "." ++ channelField) = [contact, channelField] := by decide
  unfold channel? «namespace» set
  rw [Path.set_eq_assign hsegments (by decide), Path.get?_assign_self]
  simp only [Path.membersOf, Path.assign, Keyed.get?_insert_self]

theorem ne_empty_of_segments (hpath : Text.segments path = contact :: rest) : path ≠ "" := by
  rintro rfl
  have hnone : Text.segments "" = [""] := by decide
  rw [hnone] at hpath
  exact absurd (List.cons.inj hpath).1 (by decide)

theorem get?_contact_set {next : String} (context : Context) (value : Json)
    (hpath : Text.segments path = contact :: next :: rest) :
    Keyed.get? contact (context.set path value).root =
      some (.object (Path.assign value (next :: rest) (context.namespace contact))) := by
  rw [set, Path.set_eq_assign hpath (ne_empty_of_segments hpath), Path.get?_assign_self]
  rfl

/-- Below `contact` only the field of the channel tells of it. -/
theorem channel?_set_beside {next : String} (context : Context) (value : Json)
    (hpath : Text.segments path = contact :: next :: rest) (hne : next ≠ channelField) :
    (context.set path value).channel? = context.channel? := by
  unfold channel?
  rw [«namespace», get?_contact_set context value hpath, Path.membersOf,
    Path.get?_assign_of_ne (Ne.symm hne)]

/-- A path other than that of the channel and that of the namespace around it gives no other
channel. -/
theorem channel?_set (context : Context) (value : Json) (hcontact : path ≠ contact)
    (hfield : path ≠ contact ++ "." ++ channelField) :
    (context.set path value).channel? = context.channel? ∨
      (context.set path value).channel? = none := by
  cases hpath : Text.segments path with
  | nil => exact absurd hpath (Text.segments_ne_nil path)
  | cons segment rest =>
    by_cases hsegment : segment = contact
    · subst hsegment
      cases rest with
      | nil =>
        exact absurd (Text.segments_injective (b := contact) (hpath.trans (by decide))) hcontact
      | cons next rest =>
        by_cases hnext : next = channelField
        · subst hnext
          cases rest with
          | nil => exact absurd (Text.segments_injective (b := contact ++ "." ++ channelField)
              (hpath.trans (by decide))) hfield
          | cons more rest =>
            -- the field becomes an object, and an object is no channel
            right
            unfold channel? «namespace»
            rw [get?_contact_set context value hpath]
            simp only [Path.membersOf, Path.get?_assign_self]
        · exact .inl (channel?_set_beside context value hpath hnext)
    · exact .inl (channel?_set_of_ne hpath hsegment value)

theorem Written.channel? {paths : List String} {context' : Context}
    (h : context.Written paths context')
    (hpaths : ∀ path ∈ paths, path ≠ contact ∧ path ≠ contact ++ "." ++ channelField) :
    context'.channel? = context.channel? ∨ context'.channel? = none := by
  induction h with
  | refl => exact .inl rfl
  | set value hwritten hmem ih =>
    obtain ⟨hcontact, hfield⟩ := hpaths _ hmem
    rcases channel?_set _ value hcontact hfield with hset | hset
    · rwa [hset]
    · exact .inr hset

theorem channel?_seed_meta (context : Context) (fields : Keyed Json) :
    (context.seed meta_ fields).channel? = context.channel? := by
  unfold seed
  induction fields generalizing context with
  | nil => rfl
  | cons field rest ih =>
    rw [List.foldl_cons, ih]
    exact channel?_set_of_ne (Text.segments_dot (by decide) field.1) (by decide) field.2

end Context

namespace Node

/-- The node is to set the channel of the contact or something below it. -/
def SetsChannel (node : Node) : Prop :=
  node.kind = .setVariable ∧ node.textField? "scope" = some Context.contact ∧
    (Text.segments (Text.trim (((node.field? "name").map Coercion.text).getD ""))).head? =
      some Context.channelField

instance (node : Node) : Decidable node.SetsChannel := inferInstanceAs (Decidable (_ ∧ _ ∧ _))

variable {node : Node} {context context' : Context}

theorem channel?_set_variablePath (hkind : node.kind = .setVariable) (h : ¬ node.SetsChannel)
    (context : Context) (value : Json) :
    (context.set node.variablePath value).channel? = context.channel? := by
  unfold variablePath
  split
  · next hscope =>
    have hdot : '.' ∉ Context.contact.toList := by decide
    have hpath :=
      Text.segments_dot hdot (Text.trim (((node.field? "name").map Coercion.text).getD ""))
    cases hname : Text.segments (Text.trim (((node.field? "name").map Coercion.text).getD "")) with
    | nil => exact absurd hname (Text.segments_ne_nil _)
    | cons first rest =>
      rw [hname] at hpath
      refine Context.channel?_set_beside context value hpath fun hfirst => h ⟨hkind, hscope, ?_⟩
      rw [hname, hfirst, List.head?_cons]
  · exact Context.channel?_set_of_ne (Text.segments_dot (by decide) _) (by decide) value

/-- Apart from the requests, a node that is not to set the channel leaves it in its place. -/
theorem channel?_of_written (hkind : node.kind ≠ .apiRequest) (h : ¬ node.SetsChannel)
    (hwritten : context.Written node.writes context') : context'.channel? = context.channel? := by
  induction hwritten with
  | refl => rfl
  | set value hwritten hmem ih =>
    unfold writes at hmem
    split at hmem
    · next hvariable =>
      rw [List.mem_singleton.mp hmem, channel?_set_variablePath hvariable h, ih]
    · next hrequest => exact absurd hrequest hkind
    · cases hmem

end Node

/-- No node sends requests, and none is to set the channel of the contact. -/
def Flow.KeepsChannel (flow : Flow) : Prop :=
  ∀ node ∈ flow.nodes, node.kind ≠ .apiRequest ∧ ¬ node.SetsChannel

instance (flow : Flow) : Decidable flow.KeepsChannel :=
  inferInstanceAs (Decidable (∀ node ∈ flow.nodes, _ ∧ _))

/-- The context in which a message or a tick starts a flow has the channel of its conversation. -/
theorem Dispatch.channel?_messageContext (conversationId : String) (extra : Option Json) :
    (messageContext conversationId extra).channel? =
      if conversationId.isEmpty then none else some conversationId := by
  unfold messageContext
  split
  · rw [Context.channel?_seed_meta]
    exact Context.channel?_set_channelField _ _
  · exact Context.channel?_set_channelField _ _

theorem Dispatch.channel?_tickContext (conversationId : String) (fields : Keyed Json) :
    (tickContext conversationId fields).channel? =
      if conversationId.isEmpty then none else some conversationId :=
  Context.channel?_set_channelField _ _

end ChatFlow
