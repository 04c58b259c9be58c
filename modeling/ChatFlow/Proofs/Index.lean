import ChatFlow.Flow.Component
import ChatFlow.Flow.Index

namespace ChatFlow.Flow

/-- The nodes at the places where none of the nodes in front has the same id, and to which no edge
leads. -/
def entries (flow : Flow) : List Node :=
  (flow.nodes.zipIdx.filter fun placed =>
    (flow.nodes.take placed.2).all (·.id != placed.1.id) &&
      flow.edges.all (·.target != placed.1.id)).map (·.1)

namespace Index

theorem get?_addNode (table : Keyed Node) (node : Node) (id : String) :
    Keyed.get? id (addNode table node) =
      (Keyed.get? id table).or (if node.id = id then some node else none) := by
  unfold addNode Keyed.contains
  by_cases hid : node.id = id
  · subst hid
    cases h : Keyed.get? node.id table <;> simp [h]
  · rw [if_neg hid, Option.or_none]
    split
    · rfl
    · exact Keyed.get?_insert_of_ne (Ne.symm hid) node table

theorem get?_foldl_addNode (nodes : List Node) (table : Keyed Node) (id : String) :
    Keyed.get? id (nodes.foldl addNode table) =
      (Keyed.get? id table).or (nodes.find? (·.id == id)) := by
  induction nodes generalizing table with
  | nil => simp
  | cons node rest ih =>
    rw [List.foldl_cons, ih, get?_addNode, Option.or_assoc, List.find?_cons]
    by_cases hid : node.id = id
    · simp [hid]
    · rw [if_neg hid, Option.none_or, beq_false_of_ne hid]

theorem node?_ofFlow (flow : Flow) (id : String) : (ofFlow flow).node? id = flow.node? id := by
  show Keyed.get? id (flow.nodes.foldl addNode []) = _
  rw [get?_foldl_addNode]
  rfl

theorem contains_ofFlow (flow : Flow) (id : String) :
    (ofFlow flow).contains id = flow.declares id := by
  show (Keyed.get? id (flow.nodes.foldl addNode [])).isSome = _
  rw [get?_foldl_addNode, Keyed.get?_nil, Option.none_or, Bool.eq_iff_iff, List.find?_isSome,
    declares, List.any_eq_true]

theorem addEdge_getD (key id : String) (table : Keyed (List Edge)) (edge : Edge) :
    (Keyed.get? id (addEdge key table edge)).getD [] =
      (Keyed.get? id table).getD [] ++ if key = id then [edge] else [] := by
  unfold addEdge
  by_cases hid : key = id
  · subst hid
    simp
  · rw [Keyed.get?_insert_of_ne (Ne.symm hid), if_neg hid, List.append_nil]

/-- Edges filed by one of their ends are those with that end, in the order of the flow. -/
theorem foldl_addEdge_getD (at_ : Edge → String) (edges : List Edge) (table : Keyed (List Edge))
    (id : String) :
    (Keyed.get? id (edges.foldl (fun table e => addEdge (at_ e) table e) table)).getD [] =
      (Keyed.get? id table).getD [] ++ edges.filter (at_ · == id) := by
  induction edges generalizing table with
  | nil => simp
  | cons edge rest ih =>
    rw [List.foldl_cons, ih, addEdge_getD, List.append_assoc, List.filter_cons]
    by_cases hid : at_ edge = id <;> simp [hid]

theorem outgoingOf_ofFlow (flow : Flow) (id : String) :
    (ofFlow flow).outgoingOf id = flow.edges.filter (·.source == id) := by
  exact foldl_addEdge_getD (·.source) flow.edges [] id

theorem incomingOf_ofFlow (flow : Flow) (id : String) :
    (ofFlow flow).incomingOf id = flow.edges.filter (·.target == id) := by
  exact foldl_addEdge_getD (·.target) flow.edges [] id

theorem mem_nodes_of_node? {flow : Flow} {id : String} {node : Node}
    (h : (ofFlow flow).node? id = some node) : node ∈ flow.nodes ∧ node.id = id := by
  rw [node?_ofFlow] at h
  exact ⟨List.mem_of_find?_eq_some h, by simpa using List.find?_some h⟩

theorem contains_of_node? {index : Index} {id : String} {node : Node}
    (h : index.node? id = some node) :
    index.contains id = true := by
  show (index.node? id).isSome = true
  rw [h]
  rfl

theorem contains_of_node?_eq_none {index : Index} {id : String} (h : index.node? id = none) :
    index.contains id = false := by
  show (index.node? id).isSome = false
  rw [h]
  rfl

theorem mem_edges_of_select {flow : Flow} {id : String} {handle : Handle} {edge : Edge}
    (h : (ofFlow flow).select id handle = some edge) : edge ∈ flow.edges ∧ edge.source = id := by
  have hmem : edge ∈ (ofFlow flow).outgoingOf id := by
    unfold select at h
    rcases Option.or_eq_some_iff.mp h with h | ⟨-, h⟩
    · exact List.mem_of_find?_eq_some h
    · split at h
      · exact List.mem_of_find?_eq_some h
      · cases h
  rw [outgoingOf_ofFlow, List.mem_filter] at hmem
  exact ⟨hmem.1, by simpa using hmem.2⟩

/-- Whether nodes are taken out by their id before or behind makes no difference to which is the
first of its id. -/
theorem firstOfEachId_filter {keeps : String → Bool} {seen seen' : List String} (nodes : List Node)
    (hseen : ∀ id, keeps id = true → (id ∈ seen ↔ id ∈ seen')) :
    firstOfEachId seen (nodes.filter fun node => keeps node.id) =
      (firstOfEachId seen' nodes).filter fun node => keeps node.id := by
  induction nodes generalizing seen seen' with
  | nil => rfl
  | cons node rest ih =>
    rw [firstOfEachId, List.filter_cons]
    by_cases hkeeps : keeps node.id = true
    · rw [if_pos hkeeps, firstOfEachId]
      simp only [List.contains_iff_mem, hseen node.id hkeeps]
      split
      · exact ih hseen
      · rw [List.filter_cons, if_pos hkeeps]
        refine congrArg (node :: ·) (ih fun id hid => ?_)
        rw [List.mem_cons, List.mem_cons, hseen id hid]
    · rw [if_neg hkeeps]
      split
      · exact ih hseen
      · rw [List.filter_cons, if_neg hkeeps]
        refine ih fun id hid => ?_
        have hne : id ≠ node.id := by
          rintro rfl
          exact hkeeps hid
        rw [List.mem_cons, hseen id hid, or_iff_right hne]

/-- Behind others, the first node of each id that is new stands at a place with no node of its id in
front. -/
theorem firstOfEachId_eq {seen : List String} (front nodes : List Node)
    (hseen : ∀ id, id ∈ seen ↔ id ∈ front.map (·.id)) :
    firstOfEachId seen nodes =
      ((nodes.zipIdx front.length).filter fun placed =>
        ((front ++ nodes).take placed.2).all (·.id != placed.1.id)).map (·.1) := by
  induction nodes generalizing front seen with
  | nil => rfl
  | cons node rest ih =>
    have hfront : ((front ++ node :: rest).take front.length).all (·.id != node.id) = true ↔
        node.id ∉ seen := by
      rw [List.take_left, List.all_eq_true, hseen]
      simp
    have hlength : front.length + 1 = (front ++ [node]).length := by simp
    have hsplit : front ++ node :: rest = front ++ [node] ++ rest := by simp
    rw [List.zipIdx_cons, firstOfEachId]
    simp only [List.contains_iff_mem]
    split
    · next hmem =>
      rw [List.filter_cons, if_neg fun h => hfront.mp h hmem, hlength, hsplit]
      refine ih (front ++ [node]) fun id => ?_
      rw [List.map_append, List.mem_append, ← hseen]
      refine (or_iff_left_of_imp fun h => ?_).symm
      rwa [List.mem_singleton.mp h]
    · next hmem =>
      rw [List.filter_cons, if_pos (hfront.mpr hmem), List.map_cons, hlength, hsplit]
      refine congrArg (node :: ·) (ih (front ++ [node]) fun id => ?_)
      rw [List.mem_cons, hseen, List.map_append, List.mem_append, List.map_singleton,
        List.mem_singleton, or_comm]

theorem starts_ofFlow (flow : Flow) : (ofFlow flow).starts = flow.entries := by
  have hincoming (node : Node) :
      ((ofFlow flow).incomingOf node.id).isEmpty = flow.edges.all (·.target != node.id) := by
    rw [incomingOf_ofFlow, Bool.eq_iff_iff, List.isEmpty_iff, List.filter_eq_nil_iff,
      List.all_eq_true]
    simp
  let keeps (id : String) : Bool := flow.edges.all (·.target != id)
  have hnone : ∀ id, id ∈ ([] : List String) ↔ id ∈ ([] : List Node).map (·.id) := fun _ => Iff.rfl
  calc (ofFlow flow).starts
      = firstOfEachId [] (flow.nodes.filter fun node => keeps node.id) :=
        congrArg (fun test => firstOfEachId [] (flow.nodes.filter test)) (funext hincoming)
    _ = (firstOfEachId [] flow.nodes).filter fun node => keeps node.id :=
        firstOfEachId_filter flow.nodes fun _ _ => Iff.rfl
    _ = flow.entries := by
        rw [firstOfEachId_eq [] flow.nodes hnone, List.filter_map, List.filter_filter]
        simp only [List.nil_append, List.length_nil, Function.comp_def, Bool.and_comm, keeps,
          entries]

theorem select_ofFlow (flow : Flow) (id : String) (handle : Handle) :
    (ofFlow flow).select id handle =
      (flow.edges.find? fun e => e.source == id && e.handle? == some handle).or
        (if handle = Handle.out then flow.edges.find? fun e => e.source == id &&
          e.handle?.isNone else none) := by
  unfold select
  simp only [outgoingOf_ofFlow, List.find?_filter, Bool.decide_and, Bool.decide_eq_true]

/-- The tables answer every question as a search through the nodes and the edges of the flow
does. -/
theorem agrees_with_lists (flow : Flow) (id : String) (handle : Handle) :
    (ofFlow flow).node? id = flow.node? id ∧
      ((ofFlow flow).contains id = true ↔ ∃ node ∈ flow.nodes, node.id = id) ∧
      (ofFlow flow).outgoingOf id = flow.edges.filter (·.source == id) ∧
      (ofFlow flow).incomingOf id = flow.edges.filter (·.target == id) ∧
      (ofFlow flow).starts = flow.entries ∧
      (ofFlow flow).select id handle =
        (flow.edges.find? fun e => e.source == id && e.handle? == some handle).or
          (if handle = Handle.out then flow.edges.find? fun e => e.source == id &&
            e.handle?.isNone else none) := by
  refine ⟨node?_ofFlow flow id, ?_, outgoingOf_ofFlow flow id, incomingOf_ofFlow flow id,
    starts_ofFlow flow, select_ofFlow flow id handle⟩
  rw [contains_ofFlow, declares, List.any_eq_true]
  simp

/-- An id that is declared twice and one that only an edge mentions: the flow starts at the first
node of the one id, and nowhere else. -/
example :
    let flow : Flow := ⟨[⟨"a", .newMessage, []⟩, ⟨"b", .branch, []⟩, ⟨"a", .scheduled, []⟩],
      [⟨none, "ghost", "b", none⟩]⟩
    flow.entries = [⟨"a", .newMessage, []⟩] := by decide

end Index

end ChatFlow.Flow
