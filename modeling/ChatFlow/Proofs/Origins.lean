import ChatFlow.Proofs.Components
import ChatFlow.Proofs.Index
import Mathlib.Order.WellFoundedSet

namespace ChatFlow

open Relation

theorem Node.noStart_notMem_issues (node : Node) : Issue.noStart ∉ node.issues := by
  unfold issues
  split
  · simp
  · rw [List.mem_append]
    rintro (h | h)
    · simp at h
    · split at h
      · simp at h
      · cases h

namespace Flow

variable {flow : Flow}

theorem Index.exists_mem_firstOfEachId {seen : List String} {nodes : List Node} {id : String} :
    (∃ node ∈ firstOfEachId seen nodes, node.id = id) ↔
      id ∉ seen ∧ ∃ node ∈ nodes, node.id = id := by
  induction nodes generalizing seen with
  | nil => simp [firstOfEachId]
  | cons first rest ih =>
    rw [firstOfEachId]
    split
    · next hseen =>
      rw [List.contains_iff_mem] at hseen
      rw [ih, List.exists_mem_cons_iff]
      refine and_congr_right fun hid => (or_iff_right ?_).symm
      rintro rfl
      exact hid hseen
    · next hseen =>
      rw [List.contains_iff_mem] at hseen
      rw [List.exists_mem_cons_iff, ih, List.exists_mem_cons_iff, List.mem_cons, not_or]
      by_cases hid : first.id = id
      · subst hid
        simp [hseen]
      · simp [hid, Ne.symm hid]

/-- The starts are the declared ids that no edge leads to. -/
theorem exists_mem_starts {id : String} :
    (∃ node ∈ (Index.ofFlow flow).starts, node.id = id) ↔
      id ∈ flow.nodes.map (·.id) ∧ ∀ e ∈ flow.edges, e.target ≠ id := by
  have hincoming (node : Node) :
      ((Index.ofFlow flow).incomingOf node.id).isEmpty = true ↔
        ∀ e ∈ flow.edges, e.target ≠ node.id := by
    rw [Index.incomingOf_ofFlow, List.isEmpty_iff, List.filter_eq_nil_iff]
    simp
  show (∃ node ∈ Index.firstOfEachId [] (flow.nodes.filter _), node.id = id) ↔ _
  rw [Index.exists_mem_firstOfEachId, List.mem_map]
  constructor
  · rintro ⟨-, node, hnode, rfl⟩
    obtain ⟨hmem, hempty⟩ := List.mem_filter.mp hnode
    exact ⟨⟨node, hmem, rfl⟩, (hincoming node).mp hempty⟩
  · rintro ⟨⟨node, hmem, rfl⟩, hnone⟩
    exact ⟨List.not_mem_nil, node, List.mem_filter.mpr ⟨hmem, (hincoming node).mpr hnone⟩, rfl⟩

theorem not_transGen_of_issues (h : ∀ ids, Issue.cycle ids ∉ flow.issues) (id : String) :
    ¬ TransGen flow.Joins id id := by
  refine cycles_eq_nil_iff.mp (List.eq_nil_iff_forall_not_mem.mpr fun ids hids => h ids ?_) id
  exact List.mem_append_right _ (List.mem_map_of_mem hids)

theorem joins_of_issues (h : ∀ source target, Issue.danglingEdge source target ∉ flow.issues)
    {edge : Edge} (hedge : edge ∈ flow.edges) : flow.Joins edge.source edge.target := by
  have hends : edge ∉ (Index.ofFlow flow).dangling := fun hdangling =>
    h edge.source edge.target (List.mem_append_left _ (List.mem_append_right _
      (List.mem_map_of_mem (f := fun e => Issue.danglingEdge e.source e.target) hdangling)))
  simp only [Index.dangling, List.mem_filter, Index.contains_ofFlow, not_and] at hends
  obtain ⟨hsource, htarget⟩ : flow.declares edge.source = true ∧
      flow.declares edge.target = true := by
    simpa using hends hedge
  exact ⟨declares_iff.mp hsource, declares_iff.mp htarget, edge, hedge, rfl, rfl⟩

theorem starts_eq_nil_of_noStart (h : Issue.noStart ∈ flow.issues) :
    flow.nodes ≠ [] ∧ (Index.ofFlow flow).starts = [] := by
  have hduplicates : ∀ seen nodes, Issue.noStart ∉ duplicates seen nodes := by
    intro seen nodes
    induction nodes generalizing seen with
    | nil => exact List.not_mem_nil
    | cons node rest ih =>
      rw [duplicates, List.mem_append, not_or]
      exact ⟨by split <;> simp, ih _⟩
  simp only [issues, List.mem_append, List.mem_flatMap, List.mem_map, hduplicates, reduceCtorEq,
    and_false, exists_false, or_false, Node.noStart_notMem_issues] at h
  split at h
  · next hstarts => simpa using hstarts
  · cases h

/-- Where no id leads back to itself, walking back comes to an end: there are only finitely many
declared ids. -/
theorem wellFoundedOn_joins (h : ∀ id, ¬ TransGen flow.Joins id id) :
    {id | id ∈ flow.ids}.WellFoundedOn (TransGen flow.Joins) := by
  have : IsStrictOrder String (TransGen flow.Joins) := { irrefl := h }
  exact (List.finite_toSet flow.ids).wellFoundedOn

/-- By walking back from an id: either no edge leads to it, or one does, from an id that was
reached. -/
theorem exists_start_reaches (hcycles : ∀ id, ¬ TransGen flow.Joins id id)
    (hends : ∀ e ∈ flow.edges, flow.Joins e.source e.target) {id : String} (hid : id ∈ flow.ids) :
    ∃ start ∈ (Index.ofFlow flow).starts, ReflTransGen flow.Joins start.id id := by
  refine (wellFoundedOn_joins hcycles).induction
    (P := fun id => ∃ start ∈ (Index.ofFlow flow).starts, ReflTransGen flow.Joins start.id id) hid
      fun id hid ih => ?_
  by_cases hincoming : ∃ e ∈ flow.edges, e.target = id
  · obtain ⟨e, he, rfl⟩ := hincoming
    have hjoins := hends e he
    obtain ⟨start, hstart, hreaches⟩ :=
      ih e.source (mem_ids.mpr (declares_iff.mpr hjoins.1)) (.single hjoins)
    exact ⟨start, hstart, hreaches.tail hjoins⟩
  · push Not at hincoming
    obtain ⟨start, hstart, rfl⟩ :=
      exists_mem_starts.mpr ⟨declares_iff.mp (mem_ids.mp hid), hincoming⟩
    exact ⟨start, hstart, .refl⟩

theorem exists_start_of_issues (hcycles : ∀ ids, Issue.cycle ids ∉ flow.issues)
    (hdangling : ∀ source target, Issue.danglingEdge source target ∉ flow.issues) {node : Node}
    (hnode : node ∈ flow.nodes) :
    ∃ start ∈ (Index.ofFlow flow).starts,
      (∀ e ∈ flow.edges, e.target ≠ start.id) ∧ ReflTransGen flow.Joins start.id node.id := by
  have hid : node.id ∈ flow.ids := mem_ids.mpr (declares_iff.mpr (List.mem_map_of_mem hnode))
  obtain ⟨start, hstart, hreaches⟩ :=
    exists_start_reaches (not_transGen_of_issues hcycles)
      (fun e he => joins_of_issues hdangling he) hid
  exact ⟨start, hstart, (exists_mem_starts.mp ⟨start, hstart, rfl⟩).2, hreaches⟩

theorem starts_ne_nil_of_issues (hnodes : flow.nodes ≠ [])
    (hcycles : ∀ ids, Issue.cycle ids ∉ flow.issues)
    (hdangling : ∀ source target, Issue.danglingEdge source target ∉ flow.issues) :
    (Index.ofFlow flow).starts ≠ [] := by
  obtain ⟨node, hnode⟩ := List.exists_mem_of_ne_nil _ hnodes
  obtain ⟨start, hstart, -⟩ := exists_start_of_issues hcycles hdangling hnode
  exact List.ne_nil_of_mem hstart

/-- A flow with nodes, without loops and without loose edges has start nodes, and every declared id
is reached along edges from one of them, which no edge leads to. So a flow that has no start has a
loop or a loose edge among its issues. -/
theorem startable_of_issues (flow : Flow) :
    (flow.nodes ≠ [] → (∀ ids, Issue.cycle ids ∉ flow.issues) →
      (∀ source target, Issue.danglingEdge source target ∉ flow.issues) →
      (Index.ofFlow flow).starts ≠ [] ∧
        ∀ node ∈ flow.nodes, ∃ start ∈ (Index.ofFlow flow).starts,
          (∀ e ∈ flow.edges, e.target ≠ start.id) ∧ ReflTransGen flow.Joins start.id node.id) ∧
    (Issue.noStart ∈ flow.issues →
      (∃ ids, Issue.cycle ids ∈ flow.issues) ∨
        ∃ source target, Issue.danglingEdge source target ∈ flow.issues) := by
  constructor
  · intro hnodes hcycles hdangling
    exact ⟨starts_ne_nil_of_issues hnodes hcycles hdangling,
      fun node => exists_start_of_issues hcycles hdangling⟩
  · intro hstart
    by_contra hneither
    push Not at hneither
    obtain ⟨hnodes, hnone⟩ := starts_eq_nil_of_noStart hstart
    exact starts_ne_nil_of_issues hnodes hneither.1 hneither.2 hnone

/-- A flow with two ways in, an id that is declared twice and a node of a kind that is not known. -/
def twoEntries : Flow where
  nodes :=
    [⟨"daily", .scheduled, []⟩, ⟨"start", .newMessage, []⟩, ⟨"agent", .humanTakeover, []⟩,
      ⟨"beam", .unknown "action:teleport", []⟩, ⟨"agent", .humanTakeover, []⟩]
  edges :=
    [⟨none, "daily", "beam", none⟩, ⟨none, "beam", "agent", none⟩, ⟨none, "start", "agent", none⟩]

def carousel : Flow where
  nodes := [⟨"left", .newMessage, []⟩, ⟨"right", .scheduled, []⟩]
  edges := [⟨none, "left", "right", none⟩, ⟨none, "right", "left", none⟩]

theorem startable_twoEntries :
    (twoEntries.issues = [.duplicateNode "agent", .unknownKind "beam" "action:teleport"] ∧
      (Index.ofFlow twoEntries).starts ≠ [] ∧
      ∀ node ∈ twoEntries.nodes, ∃ start ∈ (Index.ofFlow twoEntries).starts,
        (∀ e ∈ twoEntries.edges, e.target ≠ start.id) ∧
          ReflTransGen twoEntries.Joins start.id node.id) ∧
    (Issue.noStart ∈ carousel.issues ∧
      ((∃ ids, Issue.cycle ids ∈ carousel.issues) ∨
        ∃ source target, Issue.danglingEdge source target ∈ carousel.issues)) := by
  have hissues :
      twoEntries.issues = [.duplicateNode "agent", .unknownKind "beam" "action:teleport"] := by
    decide +kernel
  have hcarousel : Issue.noStart ∈ carousel.issues := by decide +kernel
  exact ⟨⟨hissues, (startable_of_issues twoEntries).1 (List.cons_ne_nil _ _) (by simp [hissues])
    (by simp [hissues])⟩,
    hcarousel, (startable_of_issues carousel).2 hcarousel⟩

end Flow

end ChatFlow
