import ChatFlow.Proofs.Assignment

namespace ChatFlow

/-- What is written in the place of a placeholder: the text of what its path leads to, if that is
not null. -/
def Template.rendered : Option Json → List Char
  | none | some .null => []
  | some v => (Coercion.text v).toList

theorem Template.lookup_eq (context : Context) (path : List Char) :
    lookup context path = rendered (context.get? (.ofList (Text.trimBoth path))) := by
  simp only [lookup]
  cases context.get? (.ofList (Text.trimBoth path)) with
  | none => rfl
  | some v => cases v <;> rfl

namespace Path

/-- What stands at the end of some steps: a step goes to the member of its name in an object, and to
the item of its index in a list. -/
inductive Ends : Json → List String → Json → Prop
  | here (v : Json) : Ends v [] v
  | member {members : Keyed Json} {name : String} {next v : Json} {rest : List String} :
    Keyed.get? name members = some next → Ends next rest v → Ends (.object members) (name :: rest) v
  | item {items : List Json} {segment : String} {i : Nat} {next v : Json} {rest : List String} :
    index? segment = some i → items[i]? = some next → Ends next rest v →
      Ends (.list items) (segment :: rest) v

theorem ends_of_step {root next v : Json} {segment : String} {rest : List String}
    (hstep : step root segment = some next) (h : Ends next rest v) :
    Ends root (segment :: rest) v := by
  cases root with
  | object members => exact .member hstep h
  | list items =>
    obtain ⟨i, hindex, hitem⟩ := Option.bind_eq_some_iff.mp hstep
    exact .item hindex hitem h
  | null => cases hstep
  | bool b => cases hstep
  | number n => cases hstep
  | text s => cases hstep

/-- Following some steps finds exactly what stands at their end. -/
theorem follow_eq_some_iff {root v : Json} {p : List String} : follow root p = some v ↔
    Ends root p v := by
  constructor
  · intro h
    induction p generalizing root with
    | nil =>
      cases h
      exact .here v
    | cons segment rest ih =>
      obtain ⟨next, hstep, hrest⟩ := Option.bind_eq_some_iff.mp h
      exact ends_of_step hstep (ih hrest)
  · intro h
    induction h with
    | here v => rfl
    | member hget _ ih =>
      rw [follow_object_cons, hget]
      exact ih
    | item hindex hitem _ ih =>
      rw [follow, step, hindex]
      simpa [hitem] using ih

/-- The members of an object are read like the object as a value: at every path, whatever its
segments, both readers find what stands at its end. So a placeholder and a condition find in a
context what the mappings of a reply find in a value with the same members. -/
theorem readers_agree (root : Keyed Json) :
    (∀ path, getIn? root path = get? (.object root) path) ∧
      (∀ path v, getIn? root path = some v ↔ Ends (.object root) (Text.segments path) v) ∧
      (∀ path, Template.lookup ⟨root⟩ path =
        Template.rendered (get? (.object root) (.ofList (Text.trimBoth path)))) ∧
      (∀ condition : Condition, condition.holds ⟨root⟩ = condition.operator?.any fun op =>
        Condition.compare op (get? (.object root) (Text.trim condition.left))
          (condition.literal ⟨root⟩)) ∧
      ∀ (node : Node) (context : Context), node.takeReply context (.object root) =
        (Template.mappings (node.field? "mapResponse")).foldl
          (fun taken m => taken.set m.target (((⟨root⟩ : Context).get? m.source).getD .null))
            context := by
  have hreaders (path : String) : getIn? root path = get? (.object root) path :=
    getIn?_eq_follow root path
  have hcontext (path : String) : (⟨root⟩ : Context).get? path = get? (.object root) path :=
    hreaders path
  refine ⟨hreaders, fun path v => ?_, fun path => ?_, fun condition => ?_, fun node context => ?_⟩
  · rw [hreaders]
    exact follow_eq_some_iff
  · rw [Template.lookup_eq, hcontext]
  · rw [Condition.holds, hcontext]
    cases condition.operator? <;> rfl
  · simp only [Node.takeReply, hcontext]

/-- Segments may be empty, and one of digits is an index in a list but a name in an object. -/
example :
    let root :=
      Keyed.ofList [("", .ofMembers [("", .list [.text "x", .ofMembers [("0", .text "y")]])])]
    getIn? root "..0" = some (.text "x") ∧ getIn? root "..+1.0" = some (.text "y") ∧
      getIn? root "..2" = none ∧
      getIn? root "..0." = none ∧ getIn? root "" = Keyed.get? "" root := by
  decide +kernel

end Path

end ChatFlow
