import ChatFlow.Proofs.InPlace
import ChatFlow.Proofs.Leniency

namespace ChatFlow

def FlowError.IsAuthoring : FlowError → Prop
  | .unknownKind _ _ | .invalidConfig _ _ _ | .unknownOperator _ _ => True
  | _ => False

theorem FlowError.IsAuthoring.isMistake {e : FlowError} (h : e.IsAuthoring) : e.IsMistake := by
  cases e <;> first | exact h.elim | trivial

namespace Node

/-- The error that says of a node what an issue of it says. -/
def errorOf? (node : Node) : Issue → Option FlowError
  | .unknownKind id name => some (.unknownKind id name)
  | .missingField id field => some (.invalidConfig id node.kind.name field)
  | .unknownOperator id op => some (.unknownOperator id op)
  | _ => none

variable {node : Node}

theorem issues_of_known (h : ∀ name, node.kind ≠ .unknown name) :
    node.issues = (node.missingField?.map (.missingField node.id)).toList ++
      if node.kind = .branch then
        ((Condition.ofBlock (node.field? "conditions")).filter (·.operator?.isNone)).map fun c =>
          .unknownOperator node.id c.op
      else [] := by
  unfold issues
  split
  · next name hkind => exact absurd hkind (h name)
  · rfl

theorem refusal?_of_known (h : ∀ name, node.kind ≠ .unknown name) :
    node.refusal? = node.missingField?.map (.invalidConfig node.id node.kind.name) := by
  unfold refusal?
  split
  · next name hkind => exact absurd hkind (h name)
  · rfl

theorem exists_issue_of_refusal {e : FlowError} (h : node.refusal? = some e) :
    e.IsAuthoring ∧ ∃ issue rest, node.issues = issue :: rest ∧ node.errorOf? issue = some e := by
  by_cases hkind : ∃ name, node.kind = .unknown name
  · obtain ⟨name, hkind⟩ := hkind
    rw [refusal?, hkind] at h
    cases h
    exact ⟨trivial, .unknownKind node.id name, [], by rw [issues, hkind], rfl⟩
  · push Not at hkind
    rw [refusal?_of_known hkind] at h
    obtain ⟨field, hfield, rfl⟩ := Option.map_eq_some_iff.mp h
    rw [issues_of_known hkind, hfield]
    exact ⟨trivial, .missingField node.id field, _, rfl, rfl⟩

/-- Of a node that is not refused only its operators are left to be found wrong. -/
theorem issues_of_not_refused (h : node.refusal? = none) :
    node.issues = if node.kind = .branch then
      ((Condition.ofBlock (node.field? "conditions")).filter (·.operator?.isNone)).map fun c =>
        .unknownOperator node.id c.op
    else [] := by
  have hkind : ∀ name, node.kind ≠ .unknown name := by
    intro name hkind
    rw [refusal?, hkind] at h
    cases h
  rw [refusal?_of_known hkind, Option.map_eq_none_iff] at h
  rw [issues_of_known hkind, h]
  rfl

variable (settings : Settings) (sink : Sink) (context : Context)

theorem run_strict_of_issues {issue : Issue} {rest : List Issue} (h : node.issues = issue :: rest) :
    ∃ e, node.errorOf? issue = some e ∧ e.IsAuthoring ∧
      node.run (settings.under .strict) sink context = .done (.error e) := by
  cases hrefusal : node.refusal? with
  | some e =>
    obtain ⟨hauthoring, first, others, hissues, herror⟩ := exists_issue_of_refusal hrefusal
    cases h.symm.trans hissues
    exact ⟨e, herror, hauthoring, run_of_refused hrefusal _ _ _⟩
  | none =>
    rw [issues_of_not_refused hrefusal] at h
    split at h
    · next hkind =>
      -- the operator that the handler stumbles over is the first that is listed
      obtain ⟨c, others, hfilter, rfl, -⟩ := List.map_eq_cons_iff.mp h
      have hfind : (Condition.ofBlock (node.field? "conditions")).find? (·.operator?.isNone) =
          some c := by
        rw [← List.head?_filter, hfilter, List.head?_cons]
      refine ⟨.unknownOperator node.id c.op, rfl, trivial, ?_⟩
      simp only [run, hrefusal, handle, hkind, branch, Settings.under, hfind]
      rfl
    · cases h

theorem run_only_of_issues_eq_nil (h : node.issues = []) :
    (node.run (settings.under .strict) sink context).Only (fun _ => True) fun result =>
      ∀ e, result = .error e → ¬ e.IsAuthoring := by
  refine (visit_only_blameless h (settings.under .strict) sink false context).mono
    (fun _ _ => trivial) ?_
  exact fun result hresult e he hauthoring => hresult e he hauthoring.isMistake

/-- A node has no issues exactly if a strict run of it does not fail over how it was authored,
whatever the context is and whatever the world answers. If it has issues, the run fails with the
error that says what the first of them says, makes no call at all and leaves the context that it
works on as it was. -/
theorem run_strict_agrees (settings : Settings) (sink : Sink) (node : Node) (context : Context) :
    ((node.run (settings.under .strict) sink context).Only (fun _ => True) fun result =>
      node.issues = [] ↔ ∀ e, result = .error e → ¬ e.IsAuthoring) ∧
    ∀ issue rest, node.issues = issue :: rest → ∃ e, node.errorOf? issue = some e ∧
      node.run (settings.under .strict) sink context = .done (.error e) ∧
      (node.runInPlace (settings.under .strict) sink).on context = .done (.error e, context) := by
  constructor
  · cases hissues : node.issues with
    | nil =>
      refine (run_only_of_issues_eq_nil settings sink context hissues).mono
        (fun _ _ => trivial) fun _ hresult => ?_
      exact iff_of_true rfl hresult
    | cons issue rest =>
      obtain ⟨e, -, hauthoring, hrun⟩ := run_strict_of_issues settings sink context hissues
      rw [hrun]
      exact iff_of_false (List.cons_ne_nil _ _) fun h => h e rfl hauthoring
  · intro issue rest hissues
    obtain ⟨e, herror, -, hrun⟩ := run_strict_of_issues settings sink context hissues
    refine ⟨e, herror, hrun, ?_⟩
    rw [on_runInPlace, hrun]
    rfl

/-- A branch with two comparisons that there are not, and one in between that there is. -/
def tierCheck : Node :=
  ⟨"tier", .branch, [("conditions", .text "vars.age LT 3\ncontact.name EXISTS\nvars.age NEAR 4")]⟩

theorem run_strict_agrees_tierCheck :
    let settings : Settings := ⟨.permissive, 10, 15000⟩
    let context := Context.ofChannel "5511"
    tierCheck.issues = [.unknownOperator "tier" "LT", .unknownOperator "tier" "NEAR"] ∧
    (((tierCheck.run (settings.under .strict) .collector context).Only (fun _ => True) fun result =>
      tierCheck.issues = [] ↔ ∀ e, result = .error e → ¬ e.IsAuthoring) ∧
    ∃ e, tierCheck.errorOf? (.unknownOperator "tier" "LT") = some e ∧
      tierCheck.run (settings.under .strict) .collector context = .done (.error e) ∧
      (tierCheck.runInPlace (settings.under .strict) .collector).on context =
        .done (.error e, context)) := by
  intro settings context
  have hissues : tierCheck.issues =
      [.unknownOperator "tier" "LT", .unknownOperator "tier" "NEAR"] := by decide +kernel
  have hagrees := run_strict_agrees settings .collector tierCheck context
  exact ⟨hissues, hagrees.1, hagrees.2 _ _ hissues⟩

end Node

end ChatFlow
