import ChatFlow.Proofs.Assignment
import ChatFlow.Proofs.Placeholders
import ChatFlow.Proofs.Stamp

namespace ChatFlow

namespace Text

/-- Behind a character that is not blank a trimmed text ends in no blank. -/
theorem trimEnd_append_trimBoth {c : Char} (h : isBlank c = false) (front cs : List Char) :
    trimEnd (front ++ c :: trimBoth cs) = front ++ c :: trimBoth cs := by
  by_cases htrimmed : trimBoth cs = []
  · rw [htrimmed]
    exact trimEnd_concat h front
  · have hend : trimEnd (front ++ [c] ++ trimBoth cs) = front ++ [c] ++ trimEnd (trimBoth cs) :=
      trimEnd_append (by rwa [trimEnd_trimBoth])
    rw [trimEnd_trimBoth] at hend
    simpa using hend

/-- A dotted text without a blank in front of its dots is trimmed if what stands behind its last
dot is. -/
theorem trimBoth_dotted {c : Char} (h : isBlank c = false) (front cs : List Char) :
    trimBoth (c :: front ++ '.' :: trimBoth cs) = c :: front ++ '.' :: trimBoth cs := by
  have hfront : trimFront (c :: front ++ '.' :: trimBoth cs) = c :: front ++ '.' :: trimBoth cs :=
    trimFront_cons h _
  rw [trimBoth, hfront, trimEnd_append_trimBoth (by decide)]

end Text

namespace Template

theorem apply_placeholder {inner : List Char} (h : IsInner inner) (c : Context) :
    apply c (.ofList (placeholder inner)) = .ofList (lookup c inner) := by
  have hexpand := @expand_placeholder c inner h []
  rw [expand.eq_def c [], List.append_nil, List.append_nil] at hexpand
  rw [apply_eq, String.toList_ofList, hexpand]

end Template

namespace Node

variable {node : Node}

theorem run_setVariable (hkind : node.kind = .setVariable)
    (hname : Coercion.isBlank (node.field? "name") = false) (settings : Settings) (sink : Sink)
    (context : Context) :
    node.run settings sink context = .done (node.setVariable context) := by
  have hrefusal : node.refusal? = none := by
    simp [refusal?, missingField?, hkind, NodeKind.fields, hname]
  simp only [run, hrefusal, handle, hkind]
  rfl

def scope (node : Node) : String :=
  if node.textField? "scope" = some Context.contact then Context.contact else Context.vars

theorem scope_eq (node : Node) : node.scope = Context.contact ∨ node.scope = Context.vars :=
  ite_eq_or_eq _ _ _

theorem variablePath_eq {name : Json} (hname : node.field? "name" = some name) :
    node.variablePath = node.scope ++ "." ++ Text.trim (Coercion.text name) := by
  simp only [variablePath, scope, hname, Option.map_some, Option.getD_some]

/-- There is no blank at either end of the path of a variable. -/
theorem trimBoth_variablePath (node : Node) :
    Text.trimBoth node.variablePath.toList = node.variablePath.toList := by
  have hspelled : node.variablePath.toList = node.scope.toList ++
      '.' :: Text.trimBoth (((node.field? "name").map Coercion.text).getD "").toList := by
    simp [variablePath, scope, Text.trim]
  have hscope : ∃ first more, node.scope.toList = first :: more ∧ Text.isBlank first = false := by
    rcases node.scope_eq with h | h
    · exact ⟨'c', "ontact".toList, by rw [h]; decide, by decide⟩
    · exact ⟨'v', "ars".toList, by rw [h]; decide, by decide⟩
  obtain ⟨first, more, hfirst, hblank⟩ := hscope
  rw [hspelled, hfirst, Text.trimBoth_dotted hblank]

/-- What is written at the path of a variable is what a placeholder with that path shows. -/
theorem lookup_set_variablePath (node : Node) (value : String) (c : Context) :
    Template.lookup (c.set node.variablePath (.text value)) node.variablePath.toList =
      value.toList := by
  have hne : node.variablePath ≠ "" := Path.dotted_ne_empty _ _
  have hget := Path.getIn?_set_self hne c.root (.text value)
  unfold Template.lookup
  rw [trimBoth_variablePath, String.ofList_toList, Context.get?, Context.set, hget]
  rfl

/-- A node that sets a variable whose name is given goes on, and the placeholder of that name then
shows the value of the node as it was before the node ran. -/
theorem shows_what_was_set (settings : Settings) (sink : Sink) (hkind : node.kind = .setVariable)
    {name : Json} (hname : node.field? "name" = some name)
    (hblank : Coercion.isBlank (some name) = false)
    (hbrace : '\x7d' ∉ (Text.trim (Coercion.text name)).toList) (context : Context) :
    ∃ after, node.run settings sink context = .done (.ok (.proceed Handle.out, after)) ∧
      Template.apply after
        ("\x7b\x7b" ++ node.scope ++ "." ++ Text.trim (Coercion.text name) ++ "\x7d\x7d") =
        Template.applyValue context (node.field? "value") := by
  have hinner : Template.IsInner node.variablePath.toList := by
    have hscope : '\x7d' ∉ node.scope.toList := by
      rcases node.scope_eq with h | h <;> rw [h] <;> decide
    rw [variablePath_eq hname]
    refine ⟨by simp, ?_⟩
    simp [hscope, hbrace]
  have htemplate : "\x7b\x7b" ++ node.scope ++ "." ++ Text.trim (Coercion.text name) ++ "\x7d\x7d" =
      .ofList (Template.placeholder node.variablePath.toList) := by
    apply String.toList_injective
    simp [Template.placeholder, variablePath_eq hname]
  refine ⟨_, run_setVariable hkind (by rw [hname, hblank]) settings sink context, ?_⟩
  rw [htemplate, Template.apply_placeholder hinner]
  exact (congrArg String.ofList (lookup_set_variablePath node _ context)).trans String.ofList_toList

/-- A node whose variable has blanks, empty segments and an opening brace in its name. -/
def greeting : Node :=
  ⟨"greet", .setVariable,
    [("name", .text "\n first..\x7b name "), ("value", .text "Hi \x7b\x7bcontact.name\x7d\x7d")]⟩

/-- What is shown of it is the value, also where that looks like a placeholder. -/
theorem shows_what_was_set_greeting :
    let settings : Settings := ⟨.strict, 1000, 15000⟩
    let context :=
      (Context.ofChannel "5511").set "contact.name" (.text "\x7b\x7bvars.first\x7d\x7d")
    greeting.kind = .setVariable ∧ greeting.field? "name" = some (.text "\n first..\x7b name ") ∧
      Coercion.isBlank (some (.text "\n first..\x7b name ")) = false ∧
      '\x7d' ∉ (Text.trim (Coercion.text (.text "\n first..\x7b name "))).toList ∧
      ∃ after, greeting.run settings Sink.collector context =
        .done (.ok (.proceed Handle.out, after)) ∧
        Template.apply after "\x7b\x7bvars.first..\x7b name\x7d\x7d" =
          "Hi \x7b\x7bvars.first\x7d\x7d" := by
  intro settings context
  have hname : greeting.field? "name" = some (.text "\n first..\x7b name ") := by decide +kernel
  have hblank : Coercion.isBlank (some (.text "\n first..\x7b name ")) = false := by decide +kernel
  have hbrace : '\x7d' ∉ (Text.trim (Coercion.text (.text "\n first..\x7b name "))).toList := by
    decide +kernel
  obtain ⟨after, hrun, hshown⟩ :=
    shows_what_was_set settings Sink.collector rfl hname hblank hbrace context
  have htemplate : "\x7b\x7b" ++ greeting.scope ++ "." ++
      Text.trim (Coercion.text (.text "\n first..\x7b name ")) ++
      "\x7d\x7d" = "\x7b\x7bvars.first..\x7b name\x7d\x7d" := by decide +kernel
  have hvalue : Template.applyValue context (greeting.field? "value") =
      "Hi \x7b\x7bvars.first\x7d\x7d" := by
    decide +kernel
  rw [htemplate, hvalue] at hshown
  exact ⟨rfl, hname, hblank, hbrace, after, hrun, hshown⟩

end Node

end ChatFlow
