import ChatFlow.Proofs.Channel
import ChatFlow.Proofs.Invariant
import ChatFlow.Proofs.ReadBack
import Mathlib.Data.List.Induction

namespace ChatFlow

namespace Context

def names : List String := [contact, vars, meta_]

/-- The context after writes to some paths, one after the other. -/
def after (c : Context) (writes : List (String × Json)) : Context :=
  writes.foldl (fun c w => c.set w.1 w.2) c

def lastTo (name : String) (writes : List (String × Json)) : Option (String × Json) :=
  writes.reverse.find? fun w => (Text.segments w.1).head? == some name

def HasObject (c : Context) (name : String) : Prop :=
  (Keyed.get? name c.root).any Json.isObject = true

instance (c : Context) (name : String) : Decidable (c.HasObject name) :=
  inferInstanceAs (Decidable (_ = true))

theorem hasNamespaces_iff_hasObject {c : Context} : c.HasNamespaces ↔
    ∀ name ∈ names, c.HasObject name :=
  hasNamespaces_iff.symm

theorem after_concat (c : Context) (writes : List (String × Json)) (w : String × Json) :
    c.after (writes ++ [w]) = (c.after writes).set w.1 w.2 := by
  simp [after]

theorem lastTo_concat (name : String) (writes : List (String × Json)) (w : String × Json) :
    lastTo name (writes ++ [w]) =
      if (Text.segments w.1).head? = some name then some w else lastTo name writes := by
  simp only [lastTo, List.reverse_append, List.reverse_singleton, List.singleton_append,
    List.find?_cons]
  by_cases h : (Text.segments w.1).head? = some name
  · rw [if_pos h, h]
    simp
  · rw [if_neg h, beq_eq_false_iff_ne.mpr h]

section Write

variable {c : Context} {path name : String} {value : Json}

theorem segments_name (hname : name ∈ names) : Text.segments name = [name] := by
  have hall : ∀ name ∈ names, Text.segments name = [name] := by decide
  exact hall name hname

theorem names_ne_empty (hname : name ∈ names) : name ≠ "" := by
  have hall : ∀ name ∈ names, name ≠ "" := by decide
  exact hall name hname

theorem dot_not_mem_names (name key : String) : name ++ "." ++ key ∉ names := by
  intro hmem
  have hdot : '.' ∈ (name ++ "." ++ key).toList := by simp
  have hall : ∀ name ∈ names, '.' ∉ name.toList := by decide
  exact hall _ hmem hdot

theorem eq_name_of_segments (hname : name ∈ names) (h : Text.segments path = [name]) :
    path = name := by
  apply Text.segments_injective
  rw [h, segments_name hname]

theorem hasObject_set_of_head_ne (h : (Text.segments path).head? ≠ some name) :
    (c.set path value).HasObject name ↔ c.HasObject name := by
  cases hpath : Text.segments path with
  | nil => exact absurd hpath (Text.segments_ne_nil path)
  | cons segment rest =>
    have hne : name ≠ segment := by
      rintro rfl
      exact h (by rw [hpath]; rfl)
    by_cases hempty : path = ""
    · rw [hempty, set_empty]
    · unfold HasObject
      rw [set, Path.set_eq_assign hpath hempty, Path.get?_assign_of_ne hne]

/-- Under the name of a namespace stands what was written there, and a write below the name makes
room. -/
theorem hasObject_set_of_head (hname : name ∈ names) (h : (Text.segments path).head? = some name) :
    (c.set path value).HasObject name ↔ (path = name → value.isObject = true) := by
  cases hpath : Text.segments path with
  | nil => exact absurd hpath (Text.segments_ne_nil path)
  | cons segment rest =>
    have hsegment : segment = name := by
      rw [hpath] at h
      exact Option.some.inj h
    subst hsegment
    have hempty : path ≠ "" := by
      rintro rfl
      have hnone : Text.segments "" = [""] := by decide
      rw [hnone] at hpath
      exact names_ne_empty hname (List.cons.inj hpath).1.symm
    unfold HasObject
    rw [set, Path.set_eq_assign hpath hempty]
    cases rest with
    | nil =>
      rw [Path.assign, Keyed.get?_insert_self]
      simp [eq_name_of_segments hname hpath]
    | cons next rest =>
      have hne : path ≠ segment := by
        rintro rfl
        rw [segments_name hname] at hpath
        cases hpath
      rw [Path.get?_assign_self]
      simp [hne, Json.isObject]

theorem HasNamespaces.set (h : c.HasNamespaces) (hpath : path ∈ names → value.isObject = true) :
    (c.set path value).HasNamespaces := by
  rw [hasNamespaces_iff_hasObject] at h ⊢
  intro name hname
  by_cases hhead : (Text.segments path).head? = some name
  · rw [hasObject_set_of_head hname hhead]
    rintro rfl
    exact hpath hname
  · rw [hasObject_set_of_head_ne hhead]
    exact h name hname

end Write

theorem hasObject_ensureObject_self (name : String) (root : Keyed Json) :
    HasObject ⟨ensureObject name root⟩ name := by
  unfold HasObject ensureObject
  split
  · next members hget => simp [hget, Json.isObject]
  · simp [Keyed.get?_insert_self, Json.isObject]

theorem hasObject_ensureObject {root : Keyed Json} {name : String} (other : String)
    (h : HasObject ⟨root⟩ name) : HasObject ⟨ensureObject other root⟩ name := by
  by_cases hother : name = other
  · subst hother
    exact hasObject_ensureObject_self name root
  · unfold ensureObject
    split
    · exact h
    · unfold HasObject
      rwa [Keyed.get?_insert_of_ne hother]

theorem hasNamespaces_ofMembers (root : Keyed Json) : (ofMembers root).HasNamespaces := by
  rw [hasNamespaces_iff_hasObject]
  have hcontact := hasObject_ensureObject_self contact root
  have hvars := hasObject_ensureObject_self vars (ensureObject contact root)
  have hmeta := hasObject_ensureObject_self meta_ (ensureObject vars (ensureObject contact root))
  intro name hname
  simp only [names, List.mem_cons, List.not_mem_nil, or_false] at hname
  rcases hname with rfl | rfl | rfl
  · exact hasObject_ensureObject meta_ (hasObject_ensureObject vars hcontact)
  · exact hasObject_ensureObject meta_ hvars
  · exact hmeta

theorem hasNamespaces_ofJson (v : Json) : (ofJson v).HasNamespaces := by
  cases v <;> exact hasNamespaces_ofMembers _

theorem hasNamespaces_of_decoder {room : Nat} {o : Json.Outline} {c : Context}
    (h : decoder room o = .ok c) :
    c.HasNamespaces := by
  unfold decoder at h
  cases hmembers : Json.Decoder.members room o with
  | error e =>
    rw [hmembers] at h
    cases h
  | ok root =>
    rw [hmembers] at h
    cases h
    exact hasNamespaces_ofMembers root

/-- A context comes back from its members just if it has its namespaces. -/
theorem ofMembers_root_iff {c : Context} : ofMembers c.root = c ↔ c.HasNamespaces := by
  constructor
  · intro h
    rw [← h]
    exact hasNamespaces_ofMembers c.root
  · exact ofMembers_root

theorem HasNamespaces.seed {c : Context} (h : c.HasNamespaces) (name : String)
    (fields : Keyed Json) :
    (c.seed name fields).HasNamespaces := by
  unfold Context.seed
  induction fields generalizing c with
  | nil => exact h
  | cons field rest ih =>
    apply ih
    exact h.set fun hmem => absurd hmem (dot_not_mem_names name field.1)

theorem HasNamespaces.written {c c' : Context} {paths : List String} (h : c.HasNamespaces)
    (hwritten : c.Written paths c') (hpaths : ∀ path ∈ paths, path ∉ names) : c'.HasNamespaces := by
  induction hwritten with
  | refl => exact h
  | set value _ hpath ih => exact ih.set fun hmem => absurd hmem (hpaths _ hpath)

end Context

/-- A variable is written below a namespace, and only replies are mapped to other paths. -/
theorem Node.writes_not_mem_names {node : Node} (hkind : node.kind ≠ .apiRequest) :
    ∀ path ∈ node.writes, path ∉ Context.names := by
  intro path hpath
  unfold writes at hpath
  split at hpath
  · rw [List.mem_singleton.mp hpath]
    exact Context.dot_not_mem_names _ _
  · next happ => exact absurd happ hkind
  · cases hpath

def Flow.KeepsNamespaces (flow : Flow) : Prop :=
  ∀ node ∈ flow.nodes, ∀ path ∈ node.writes, path ∉ Context.names

def Call.SavesNamespaces (c : Call) : Prop := ∀ s, c = .save s → s.context.HasNamespaces

theorem Node.visit_savesNamespaces {settings : Settings} {node : Node} {context : Context}
    {botId conversationId version : String} (hwrites : ∀ path ∈ node.writes, path ∉ Context.names)
    (resuming : Bool) (h : context.HasNamespaces) :
    (node.visit settings (.writer botId conversationId version) resuming context).Only
      Call.SavesNamespaces (NodeResult.Within Context.HasNamespaces fun _ => True) := by
  unfold visit
  split
  · exact h
  · by_cases hs : node.Suspends
    · rw [run_of_suspends hs]
      refine ⟨nofun, fun now => ⟨nofun, fun _ => ⟨nofun, fun id => ⟨?_, fun saved => ?_⟩⟩⟩⟩
      · rintro _ ⟨⟩
        exact h
      · cases saved with
        | error failure => trivial
        | ok _ => exact h
    · apply (run_only hs settings _ context).mono
      · rintro call hcall s rfl
        exact hcall.elim
      · intro r hr
        rcases r with e | ⟨handle | resumeAt, context'⟩
        · trivial
        · exact h.written hr hwrites
        · exact hr.elim

/-- Whatever a run of such a flow is answered, what it saves can be read back as it is. -/
theorem Flow.execute_savesNamespaces (settings : Settings) {flow : Flow}
    (hflow : flow.KeepsNamespaces) (botId conversationId version : String) (event : Event)
    {context : Context} (hcontext : context.HasNamespaces) :
    (flow.execute settings (.writer botId conversationId version) event context).Only
      Call.SavesNamespaces fun _ => True := by
  have hupholds : Upholds settings (.writer botId conversationId version) flow Call.SavesNamespaces
      Context.HasNamespaces fun _ => True :=
    ⟨fun node hnode resuming _ h => Node.visit_savesNamespaces (hflow node hnode) resuming h,
      fun _ _ _ _ => trivial, fun _ => trivial⟩
  exact (hupholds.execute event hcontext).mono (fun _ h => h) fun _ _ => trivial

namespace Context

theorem hasObject_after_iff {c : Context} (h : c.HasNamespaces) {name : String}
    (hname : name ∈ names) (writes : List (String × Json)) :
    (c.after writes).HasObject name ↔
      ∀ w, lastTo name writes = some w → w.1 = name → w.2.isObject = true := by
  induction writes using List.reverseRecOn with
  | nil => exact iff_of_true (hasNamespaces_iff_hasObject.mp h name hname) nofun
  | append_singleton writes w ih =>
    rw [after_concat, lastTo_concat]
    by_cases hhead : (Text.segments w.1).head? = some name
    · rw [hasObject_set_of_head hname hhead, if_pos hhead]
      simp
    · rw [hasObject_set_of_head_ne hhead, if_neg hhead, ih]

/-- The namespaces are there at every moment just if no write breaks one. -/
theorem hasNamespaces_throughout_iff {c : Context} (h : c.HasNamespaces)
    (writes : List (String × Json)) :
    (∀ earlier, earlier <+: writes → (c.after earlier).HasNamespaces) ↔
      ∀ w ∈ writes, w.1 ∈ names → w.2.isObject = true := by
  constructor
  · intro hthroughout w hw hname
    obtain ⟨before, behind, hsplit⟩ := List.append_of_mem hw
    -- the moment behind this write
    have hmoment := hthroughout (before ++ [w]) ⟨behind, by simp [hsplit]⟩
    rw [after_concat, hasNamespaces_iff_hasObject] at hmoment
    have hhead : (Text.segments w.1).head? = some w.1 := by rw [segments_name hname]; rfl
    exact (hasObject_set_of_head hname hhead).mp (hmoment w.1 hname) rfl
  · rintro hwrites earlier ⟨later, rfl⟩
    induction earlier using List.reverseRecOn generalizing later with
    | nil => exact h
    | append_singleton earlier w ih =>
      rw [after_concat]
      apply (ih (w :: later) (by simpa using hwrites)).set
      exact hwrites w (by simp)

/-- After any writes to a context that was made from a value or read from a text, a namespace is an
object unless the last write to it or below it was to its very name and of something else; just as
long as all three are objects, the context comes back from its members. So they are objects at every
moment just if nothing but objects is written to their names. Of all that writes, only mappings of
replies can do otherwise: variables and the fields of a contact or of a message are written below a
name. -/
theorem hasNamespaces_after_iff (c : Context)
    (hc : (∃ v, c = ofJson v) ∨ ∃ room o, decoder room o = .ok c) (writes : List (String × Json)) :
    (∀ name ∈ names, (c.after writes).HasObject name ↔
      ∀ w, lastTo name writes = some w → w.1 = name → w.2.isObject = true) ∧
    (ofMembers (c.after writes).root = c.after writes ↔
      ∀ name ∈ names, (c.after writes).HasObject name) ∧
    ((∀ earlier, earlier <+: writes → ∀ name ∈ names, (c.after earlier).HasObject name) ↔
      ∀ w ∈ writes, w.1 ∈ names → w.2.isObject = true) ∧
    (∀ node : Node, node.kind ≠ .apiRequest → ∀ path ∈ node.writes, path ∉ names) ∧
    ∀ name fields, (∀ name ∈ names, (c.after writes).HasObject name) →
      ∀ other ∈ names, ((c.after writes).seed name fields).HasObject other := by
  have hmade : c.HasNamespaces := by
    rcases hc with ⟨v, rfl⟩ | ⟨room, o, h⟩
    · exact hasNamespaces_ofJson v
    · exact hasNamespaces_of_decoder h
  simp only [← hasNamespaces_iff_hasObject]
  refine ⟨fun name hname => hasObject_after_iff hmade hname writes, ofMembers_root_iff,
    hasNamespaces_throughout_iff hmade writes,
      fun node hkind => Node.writes_not_mem_names hkind, ?_⟩
  intro name fields h
  exact h.seed name fields

/-- What was written over `vars` is gone when a variable is written below. -/
theorem hasNamespaces_after_mended :
    (∃ v, empty = ofJson v) ∧
      (empty.after [("vars", .text "x"), ("vars.name", .text "Ana")]).HasObject vars := by
  have hmade : ∃ v, empty = ofJson v := ⟨.null, rfl⟩
  refine ⟨hmade, ?_⟩
  rw [(hasNamespaces_after_iff empty (.inl hmade)
    [("vars", .text "x"), ("vars.name", .text "Ana")]).1 vars
    (by decide)]
  have hlast : lastTo vars [("vars", .text "x"), ("vars.name", .text "Ana")] =
      some ("vars.name", .text "Ana") := by decide
  rintro w hw hpath
  rw [hlast] at hw
  cases hw
  exact absurd hpath (by decide)

def keeping (path : String) : Node :=
  ⟨"ask", .apiRequest, [("mapResponse", .text ("data -> " ++ path))]⟩

/-- A mapping puts a text under `vars`, and the context that is read back is another one. -/
theorem not_hasObject_vars :
    (keeping vars).takeReply empty (Node.replyView 200 (.text "x")) =
      empty.after [("vars", .text "x")] ∧
      ¬ (empty.after [("vars", .text "x")]).HasObject vars ∧
      ofMembers (empty.after [("vars", .text "x")]).root ≠ empty.after [("vars", .text "x")] := by
  decide +kernel

end Context

end ChatFlow
