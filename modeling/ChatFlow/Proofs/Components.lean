import ChatFlow.Flow.Issue
import ChatFlow.Proofs.Loops
import Mathlib.Data.Set.Subsingleton
import Mathlib.Data.String.Basic

namespace ChatFlow

open Relation

theorem Text.pairwise_mergeSort {ids : List String} (h : ids.Nodup) :
    (ids.mergeSort Text.le).Pairwise (· < ·) := by
  have htrans : ∀ a b c, Text.le a b = true → Text.le b c = true → Text.le a c = true :=
    fun a b c => by
    simpa [le] using fun hab hbc => le_trans hab hbc
  have htotal : ∀ a b, (Text.le a b || Text.le b a) = true :=
    fun a b => by simpa [le] using le_total a b
  have hsorted : (ids.mergeSort Text.le).Pairwise fun a b => Text.le a b = true :=
    List.pairwise_mergeSort htrans htotal ids
  have hnodup : (ids.mergeSort Text.le).Nodup := (List.mergeSort_perm ids Text.le).nodup_iff.mpr h
  refine (hsorted.and hnodup).imp fun hab => ?_
  exact lt_of_le_of_ne (by simpa [le] using hab.1) hab.2

def Issue.loop? : Issue → Option (List String)
  | cycle ids => some ids
  | _ => none

theorem Node.filterMap_loop?_issues (node : Node) : node.issues.filterMap Issue.loop? = [] := by
  unfold issues
  split
  · rfl
  · have hfield : (node.missingField?.map (Issue.missingField node.id)).toList.filterMap
        Issue.loop? = [] := by
      cases node.missingField? <;> rfl
    rw [List.filterMap_append, hfield, List.nil_append]
    split
    · rw [List.filterMap_map]
      exact List.filterMap_eq_nil_iff.mpr fun _ _ => rfl
    · rfl

namespace Flow

theorem filterMap_loop?_duplicates (seen : List String) (nodes : List Node) :
    (duplicates seen nodes).filterMap Issue.loop? = [] := by
  induction nodes generalizing seen with
  | nil => rfl
  | cons node rest ih =>
    rw [duplicates, List.filterMap_append, ih]
    split <;> rfl

theorem filterMap_loop?_issues (flow : Flow) : flow.issues.filterMap Issue.loop? = flow.cycles := by
  have hstart : (if !flow.nodes.isEmpty && (Index.ofFlow flow).starts.isEmpty then [Issue.noStart]
      else []).filterMap
      Issue.loop? = [] := by
    split <;> rfl
  have hnodes : (flow.nodes.flatMap Node.issues).filterMap Issue.loop? = [] := by
    simp [List.filterMap_flatMap, Node.filterMap_loop?_issues]
  have hdangling :
      ((Index.ofFlow flow).dangling.map fun e => Issue.danglingEdge e.source e.target).filterMap
      Issue.loop? = [] := by
    simp [List.filterMap_eq_nil_iff, Issue.loop?]
  have hcycles : (flow.cycles.map Issue.cycle).filterMap Issue.loop? = flow.cycles := by
    rw [List.filterMap_map]
    exact List.filterMap_some
  simp only [issues, List.filterMap_append, hstart, filterMap_loop?_duplicates, hnodes, hdangling,
    hcycles, List.nil_append]

variable {flow : Flow}

def Joins (flow : Flow) (a b : String) : Prop :=
  a ∈ flow.nodes.map (·.id) ∧ b ∈ flow.nodes.map (·.id) ∧ ∃ e ∈ flow.edges, e.source = a ∧
    e.target = b

/-- A strongly connected component: the ids to which a declared one leads and that lead to it. -/
def IsComponent (flow : Flow) (ids : Set String) : Prop :=
  ∃ a ∈ flow.nodes.map (·.id), ids = {b | ReflTransGen flow.Joins a b ∧ ReflTransGen flow.Joins b a}

theorem declares_iff {id : String} : flow.declares id = true ↔ id ∈ flow.nodes.map (·.id) := by
  simp [declares]

theorem leads_eq_joins (flow : Flow) : flow.Leads = flow.Joins := by
  funext a b
  rw [leads_iff, declares_iff, declares_iff, Joins]

theorem together_iff_joins {a b : String} :
    flow.together a b = true ↔ ReflTransGen flow.Joins a b ∧ ReflTransGen flow.Joins b a := by
  rw [together_iff, leads_eq_joins]

def componentOf (flow : Flow) (id : String) : List String :=
  (flow.ids.filter (flow.together id)).mergeSort Text.le

theorem mem_componentOf {id x : String} :
    x ∈ flow.componentOf id ↔ flow.declares x = true ∧ flow.together id x = true := by
  rw [componentOf, List.mem_mergeSort, List.mem_filter, mem_ids]

theorem pairwise_componentOf (flow : Flow) (id : String) : (flow.componentOf id).Pairwise (· < ·) :=
  Text.pairwise_mergeSort ((nodup_ids flow).filter _)

theorem components_eq (flow : Flow) : flow.components =
    ((flow.lastOfComponents flow.leavingOrder).map flow.componentOf).filter fun ids => 1 <
      ids.length := rfl

/-- Any declared id of a component tells what else is in it. -/
theorem componentOf_eq {id a : String} (ha : flow.declares a = true)
    (htogether : flow.together id a = true) :
    {b | b ∈ flow.componentOf id} =
      {b | ReflTransGen flow.Joins a b ∧ ReflTransGen flow.Joins b a} := by
  ext b
  rw [Set.mem_ofPred_eq, Set.mem_ofPred_eq, mem_componentOf, ← together_iff_joins]
  constructor
  · rintro ⟨-, hb⟩
    exact together_trans (together_symm htogether) hb
  · intro hab
    have hleads := (together_iff.mp hab).1
    exact ⟨declares_of_reflTransGen hleads ha, together_trans htogether hab⟩

theorem lastOfComponents_subset (order : List String) : flow.lastOfComponents order ⊆ order := by
  induction order with
  | nil => exact List.Subset.refl _
  | cons id rest ih =>
    rw [lastOfComponents]
    split
    · exact List.subset_cons_of_subset id ih
    · exact List.cons_subset_cons id ih

theorem pairwise_lastOfComponents (order : List String) :
    (flow.lastOfComponents order).Pairwise fun a b => ¬ flow.together a b = true := by
  induction order with
  | nil => exact .nil
  | cons id rest ih =>
    rw [lastOfComponents]
    split
    · exact ih
    · next hany =>
      refine List.pairwise_cons.mpr ⟨fun b hb htogether => ?_, ih⟩
      exact hany (List.any_eq_true.mpr ⟨b, lastOfComponents_subset rest hb, htogether⟩)

theorem nodup_components (flow : Flow) :
    (flow.components.map fun ids => {id | id ∈ ids}).Nodup := by
  rw [components_eq, List.Nodup, List.pairwise_map, List.pairwise_filter, List.pairwise_map]
  refine (pairwise_lastOfComponents flow.leavingOrder).imp fun {a b} hab hlength _ heq => hab ?_
  -- equal components have an id in common, which ties their last ids
  obtain ⟨x, hx⟩ := List.exists_mem_of_length_pos (Nat.lt_of_succ_lt (of_decide_eq_true hlength))
  have hx' : x ∈ flow.componentOf b := heq.subset hx
  exact together_trans (mem_componentOf.mp hx).2 (together_symm (mem_componentOf.mp hx').2)

/-- A list without repetition has more than one element exactly if its elements are not all the
same. -/
theorem nontrivial_iff_of_nodup {ids : List String} (h : ids.Nodup) :
    {id | id ∈ ids}.Nontrivial ↔ 1 < ids.length := by
  constructor
  · rintro ⟨x, hx, y, hy, hne⟩
    have hsub : [x, y] ⊆ ids := by simpa using And.intro hx hy
    exact (List.nodup_cons.mpr
      ⟨by simpa using hne, List.nodup_singleton y⟩).length_le_of_subset hsub
  · intro hlength
    match ids with
    | x :: y :: rest =>
      refine ⟨x, by simp, y, by simp, ?_⟩
      rintro rfl
      simp at h

theorem exists_mem_components_iff {C : Set String} :
    (∃ ids ∈ flow.components, {id | id ∈ ids} = C) ↔ flow.IsComponent C ∧ C.Nontrivial := by
  have hnodup : ∀ id, (flow.componentOf id).Nodup :=
    fun id => (pairwise_componentOf flow id).imp ne_of_lt
  rw [components_eq]
  constructor
  · rintro ⟨ids, hids, rfl⟩
    obtain ⟨hmem, hlength⟩ := List.mem_filter.mp hids
    obtain ⟨last, -, rfl⟩ := List.mem_map.mp hmem
    have hnontrivial := (nontrivial_iff_of_nodup (hnodup last)).mpr (of_decide_eq_true hlength)
    obtain ⟨x, hx⟩ := hnontrivial.nonempty
    obtain ⟨hdeclared, htogether⟩ := mem_componentOf.mp hx
    exact ⟨⟨x, declares_iff.mp hdeclared, componentOf_eq hdeclared htogether⟩, hnontrivial⟩
  · rintro ⟨⟨a, ha, rfl⟩, hnontrivial⟩
    obtain ⟨last, hlast, hlasta⟩ :=
      exists_mem_lastOfComponents (mem_leavingOrder (declares_iff.mpr ha))
    have heq := componentOf_eq (declares_iff.mpr ha) hlasta
    refine ⟨flow.componentOf last, List.mem_filter.mpr ⟨List.mem_map_of_mem hlast, ?_⟩, heq⟩
    rw [← heq, nontrivial_iff_of_nodup (hnodup last)] at hnontrivial
    exact decide_eq_true hnontrivial

theorem pairwise_selfLoops (flow : Flow) : flow.selfLoops.Pairwise (· < ·) :=
  Text.pairwise_mergeSort ((nodup_ids flow).filter _)

theorem mem_selfLoops {id : String} : id ∈ flow.selfLoops ↔ flow.Joins id id := by
  rw [selfLoops, List.mem_mergeSort, List.mem_filter, mem_ids, List.any_eq_true, Joins,
    declares_iff]
  simp

theorem cycles_eq_nil_iff : flow.cycles = [] ↔ ∀ id, ¬ TransGen flow.Joins id id := by
  constructor
  · intro h
    rw [← leads_eq_joins]
    exact not_transGen_self h
  · intro h
    rw [cycles, List.append_eq_nil_iff, List.map_eq_nil_iff]
    constructor
    · refine List.eq_nil_iff_forall_not_mem.mpr fun ids hids => ?_
      obtain ⟨⟨a, -, hC⟩, x, hx, y, hy, hne⟩ := exists_mem_components_iff.mp ⟨ids, hids, rfl⟩
      rw [hC] at hx hy
      rcases reflTransGen_iff_eq_or_transGen.mp (hx.2.trans hy.1) with heq | hxy
      · exact hne heq.symm
      · exact h x (hxy.trans_left (hy.2.trans hx.1))
    · exact List.eq_nil_iff_forall_not_mem.mpr fun id hid => h id (.single (mem_selfLoops.mp hid))

/-- The loops among the issues: of each strongly connected component with more than one id exactly
one, in order, and behind them of each declared id with an edge to itself exactly one, in order.
There is none exactly if no id leads back to itself. -/
theorem loops_of_issues (flow : Flow) :
    (∃ (components : List (List String)) (loops : List String),
      flow.issues.filterMap Issue.loop? = components ++ loops.map ([·]) ∧
      (∀ C : Set String, (∃ ids ∈ components, {id | id ∈ ids} = C) ↔ flow.IsComponent C ∧
        C.Nontrivial) ∧
      (components.map fun ids => {id | id ∈ ids}).Nodup ∧
        (∀ ids ∈ components, ids.Pairwise (· < ·)) ∧
      (∀ id, id ∈ loops ↔ flow.Joins id id) ∧ loops.Pairwise (· < ·)) ∧
    ((∀ ids, Issue.cycle ids ∉ flow.issues) ↔ ∀ id, ¬ TransGen flow.Joins id id) := by
  refine ⟨⟨flow.components, flow.selfLoops, filterMap_loop?_issues flow,
    fun _ => exists_mem_components_iff, nodup_components flow, fun ids hids => ?_,
      fun _ => mem_selfLoops, pairwise_selfLoops flow⟩, ?_⟩
  · rw [components_eq] at hids
    obtain ⟨last, -, rfl⟩ := List.mem_map.mp (List.mem_filter.mp hids).1
    exact pairwise_componentOf flow last
  · rw [← cycles_eq_nil_iff, ← filterMap_loop?_issues, List.filterMap_eq_nil_iff]
    constructor
    · intro h issue hissue
      cases issue with
      | cycle ids => exact absurd hissue (h ids)
      | _ => rfl
    · intro h ids hids
      cases h _ hids

end Flow

end ChatFlow
