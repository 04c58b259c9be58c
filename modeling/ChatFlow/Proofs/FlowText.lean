import ChatFlow.Flow.Codec
import ChatFlow.Proofs.Parsing
import ChatFlow.Proofs.ReadBack

namespace ChatFlow

theorem Except.exists_of_map {ε α β : Type} {f : α → β} {x : Except ε α} {b : β}
    (h : x.map f = .ok b) :
    ∃ a, x = .ok a ∧ f a = b := by
  cases x with
  | error e => cases h
  | ok a =>
    cases h
    exact ⟨a, rfl, rfl⟩

namespace Json

namespace Decoder

variable {α β : Type} {room : Nat}

section Record

/- What a record keeps while its fields are read. -/
variable {fields : List (Field α)} {P : α → Prop}
  (hread : ∀ field ∈ fields, ∀ o, Outline.Sound o → ∀ a a', P a →
    field.read room o a = .ok a' → P a')

include hread

theorem of_readMembers {members : List (Except Break String × Outline)}
    (hmembers : Outline.SoundMembers members) {seen seen' : List String} {a a' : α} (ha : P a)
    (h : readMembers fields room members seen a = .ok (seen', a')) : P a' := by
  induction members generalizing seen a with
  | nil =>
    cases h
    exact ha
  | cons member members ih =>
    obtain ⟨key, value⟩ := member
    obtain ⟨k, -, h⟩ := Except.bind_eq_ok h
    cases hfield : fields.find? (·.name == k) with
    | none =>
      -- an unknown member is passed over
      rw [hfield] at h
      obtain ⟨_, -, h⟩ := Except.bind_eq_ok h
      exact ih hmembers.2 ha h
    | some field =>
      simp only [hfield] at h
      split at h
      · cases h
      · obtain ⟨b, hb, h⟩ := Except.bind_eq_ok h
        exact ih hmembers.2
          (hread field (List.mem_of_find?_eq_some hfield) value hmembers.1 a b ha hb) h

theorem of_readItems {fault : Option Fault} {due : List (Field α)} (hdue : due ⊆ fields)
    {items rest : List Outline} (hitems : Outline.SoundItems items) {a a' : α} (ha : P a)
    (h : readItems room fault due items a = .ok (rest, a')) : P a' := by
  induction due generalizing items a with
  | nil =>
    cases h
    exact ha
  | cons field due ih =>
    obtain ⟨hfield, hdue⟩ := List.cons_subset.mp hdue
    cases items with
    | nil =>
      obtain ⟨_, -, h⟩ := Except.bind_eq_ok h
      split at h
      · exact ih hdue hitems ha h
      · cases h
    | cons value items =>
      obtain ⟨b, hb, h⟩ := Except.bind_eq_ok h
      exact ih hdue hitems.2 (hread field hfield value hitems.1 a b ha hb) h

/-- What holds of a record at first, and is kept by every field that is read, holds of the record in
the end. -/
theorem of_record {initial a : α} (hinitial : P initial) {o : Outline} (ho : o.Sound)
    (h : record fields initial (room + 1) o = .ok a) : P a := by
  cases o with
  | object members fault =>
    obtain ⟨⟨seen, b⟩, hmembers, h⟩ := Except.bind_eq_ok h
    obtain ⟨_, -, h⟩ := Except.bind_eq_ok h
    split at h
    · cases h
      exact of_readMembers hread ho hinitial hmembers
    · cases h
  | list items fault =>
    obtain ⟨⟨rest, b⟩, hitems, h⟩ := Except.bind_eq_ok h
    dsimp only at h
    split at h
    · cases h
    · obtain ⟨_, -, h⟩ := Except.bind_eq_ok h
      cases h
      exact of_readItems hread (List.Subset.refl _) ho hinitial hitems
  | _ => cases h

end Record

theorem record_zero (fields : List (Field α)) (initial a : α) (o : Outline) :
    record fields initial 0 o ≠ .ok a := by
  cases o <;> exact nofun

theorem exists_of_required {name : String} {d : Decoder β} {set : β → α → α} {o : Outline}
    {a a' : α} (h : (required name d set).read room o a = .ok a') : ∃ b, d room o = .ok b ∧
      set b a = a' :=
  Except.exists_of_map h

theorem exists_of_defaulted {name : String} {d : Decoder β} {set : β → α → α} {o : Outline}
    {a a' : α} (h : (defaulted name d set).read room o a = .ok a') : ∃ b, d room o = .ok b ∧
      set b a = a' :=
  Except.exists_of_map h

theorem exists_of_optional {d : Decoder α} {o : Outline} {a : α}
    (h : optional d room o = .ok (some a)) :
    d room o = .ok a := by
  unfold optional at h
  split at h
  · cases h
  · obtain ⟨b, hb, hsome⟩ := Except.exists_of_map h
    cases hsome
    exact hb

/-- Every item of a list was read from an item of the text. -/
theorem exists_of_mem_list {d : Decoder α} {o : Outline} (ho : o.Sound) {values : List α}
    (h : list d (room + 1) o = .ok values) {a : α} (ha : a ∈ values) : ∃ o, Outline.Sound o ∧
      d room o = .ok a := by
  have hitems : ∀ (outlines : List Outline) (values : List α), Outline.SoundItems outlines →
      items d room outlines = .ok values → a ∈ values → ∃ o, Outline.Sound o ∧
        d room o = .ok a := by
    intro outlines
    induction outlines with
    | nil =>
      rintro values - ⟨⟩ ha
      cases ha
    | cons o outlines ih =>
      intro values hsound h ha
      obtain ⟨first, hfirst, h⟩ := Except.bind_eq_ok h
      obtain ⟨rest, hrest, h⟩ := Except.bind_eq_ok h
      cases h
      rcases List.mem_cons.mp ha with rfl | ha
      · exact ⟨o, hsound.1, hfirst⟩
      · exact ih rest hsound.2 hrest ha
  cases o with
  | list outlines fault =>
    obtain ⟨read, hread, h⟩ := Except.bind_eq_ok h
    obtain ⟨_, -, h⟩ := Except.bind_eq_ok h
    cases h
    exact hitems outlines values ho hread ha
  | _ => cases h

/-- Members that were read make a proper object, no deeper than there was room for. -/
theorem of_members {o : Outline} (ho : o.Sound) {read : Keyed Json}
    (h : members room o = .ok read) :
    (object read).WellFormed ∧ (object read).depth ≤ room := by
  refine ⟨?_, depthMembers_lt_of_members h⟩
  cases room with
  | zero => cases o <;> cases h
  | succ room =>
    cases o with
    | object outlines fault =>
      obtain ⟨values, hvalues, h⟩ := Except.bind_eq_ok h
      obtain ⟨_, -, h⟩ := Except.bind_eq_ok h
      cases h
      exact wellFormed_ofMembers (Outline.wellFormed_of_toMembers outlines ho hvalues)
    | _ => cases h

end Decoder

end Json

open Json (Outline)

/-- The node is read from its value, wherever there is room for so many lists and objects. -/
structure Node.Readable (room : Nat) (node : Node) : Prop where
  kind : NodeKind.ofName node.kind.name = node.kind
  config : (Json.object node.config).WellFormed
  depth : (Json.object node.config).depth < room

def Flow.Proper (flow : Flow) : Prop := ∀ node ∈ flow.nodes, (Json.object node.config).WellFormed

def Flow.Readable (flow : Flow) : Prop := ∀ node ∈ flow.nodes, node.Readable (Json.maxDepth - 2)

/-- Every number in the fields of the nodes is read back as it is printed. -/
def Flow.Kept (flow : Flow) : Prop := ∀ node ∈ flow.nodes, (Json.object node.config).Kept

instance (flow : Flow) : Decidable flow.Kept :=
  inferInstanceAs (Decidable (∀ node ∈ flow.nodes, (Json.object node.config).Kept))

namespace Node

variable {room : Nat} {o : Outline}

structure Draft.Fits (room : Nat) (d : Draft) : Prop where
  kind : NodeKind.ofName d.kind.name = d.kind
  config : ∀ config, d.config = some config ∨ d.nested = some (some config) →
    (Json.object config).WellFormed ∧ (Json.object config).depth ≤ room

theorem of_configDecoder (ho : o.Sound) {config : Keyed Json}
    (h : configDecoder room o = .ok (some config)) :
    (Json.object config).WellFormed ∧ (Json.object config).depth ≤ room :=
  Json.Decoder.of_members ho (Json.Decoder.exists_of_optional h)

theorem of_nestedDecoder (ho : o.Sound) {config : Keyed Json}
    (h : nestedDecoder room o = .ok (some config)) :
    (Json.object config).WellFormed ∧ (Json.object config).depth ≤ room := by
  cases room with
  | zero => exact absurd h (Json.Decoder.record_zero _ _ _ _)
  | succ room =>
    refine Json.Decoder.of_record (P := fun read => ∀ config, read = some config →
      (Json.object config).WellFormed ∧ (Json.object config).depth ≤ room + 1) ?_
        (by simp) ho h config rfl
    intro field hfield o ho a a' ha hread
    rw [List.mem_singleton.mp hfield] at hread
    obtain ⟨read, hconfig, rfl⟩ := Json.Decoder.exists_of_defaulted hread
    rintro config rfl
    obtain ⟨hwellFormed, hdepth⟩ := of_configDecoder ho hconfig
    exact ⟨hwellFormed, Nat.le_succ_of_le hdepth⟩

theorem Draft.fits_of_draftDecoder (ho : o.Sound) {d : Draft}
    (h : draftDecoder (room + 1) o = .ok d) :
    d.Fits room := by
  refine Json.Decoder.of_record ?_ ⟨by decide, by simp⟩ ho h
  intro field hfield o ho d d' hd hread
  simp only [List.mem_cons, List.not_mem_nil, or_false] at hfield
  rcases hfield with rfl | rfl | rfl | rfl
  · obtain ⟨id, -, rfl⟩ := Json.Decoder.exists_of_required hread
    exact ⟨hd.kind, hd.config⟩
  · obtain ⟨kind, hkind, rfl⟩ := Json.Decoder.exists_of_required hread
    obtain ⟨name, -, rfl⟩ := Except.exists_of_map hkind
    exact ⟨congrArg NodeKind.ofName (NodeKind.name_ofName name), hd.config⟩
  · obtain ⟨config, hconfig, rfl⟩ := Json.Decoder.exists_of_defaulted hread
    refine ⟨hd.kind, ?_⟩
    rintro read (rfl | hnested)
    · exact of_configDecoder ho hconfig
    · exact hd.config read (.inr hnested)
  · obtain ⟨nested, hnested, rfl⟩ := Json.Decoder.exists_of_defaulted hread
    refine ⟨hd.kind, ?_⟩
    rintro read (hconfig | rfl)
    · exact hd.config read (.inl hconfig)
    · exact of_nestedDecoder ho (Json.Decoder.exists_of_optional hnested)

/-- The fields of a node are those in `config`, or else those in `data`, or none. -/
theorem readable_of_decoder (ho : o.Sound) {node : Node} (h : decoder (room + 2) o = .ok node) :
    node.Readable (room + 2) := by
  obtain ⟨d, hd, rfl⟩ := Except.exists_of_map h
  have hfits := Draft.fits_of_draftDecoder ho hd
  cases hconfig : d.config.or d.nested.join with
  | none =>
    have hnone : d.toNode.config = [] := congrArg (Option.getD · []) hconfig
    refine ⟨hfits.kind, ?_, ?_⟩
    · rw [hnone]
      exact Json.wellFormed_nil
    · rw [hnone]
      show 1 < room + 2
      omega
  | some config =>
    have hsome : d.toNode.config = config := congrArg (Option.getD · []) hconfig
    have hread : d.config = some config ∨ d.config = none ∧ d.nested = some (some config) := by
      simpa [Option.or_eq_some_iff, Option.join_eq_some_iff] using hconfig
    obtain ⟨hwellFormed, hdepth⟩ := hfits.config config (hread.imp_right And.right)
    rw [← hsome] at hwellFormed hdepth
    exact ⟨hfits.kind, hwellFormed, Nat.lt_succ_of_le hdepth⟩

end Node

/-- A flow that was read from a text can be read from its own. -/
theorem Flow.readable_of_ofText {text : String} {flow : Flow} (h : ofText text = .ok flow) :
    flow.Readable := by
  obtain ⟨read, hread, h⟩ := Except.bind_eq_ok h
  split at h
  · cases h
  · cases h
    refine Json.Decoder.of_record (P := Flow.Readable) ?_ (by simp [Readable])
      (Outline.sound_read _) hread
    intro field hfield o ho f f' hf hread
    simp only [List.mem_cons, List.not_mem_nil, or_false] at hfield
    rcases hfield with rfl | rfl
    · obtain ⟨nodes, hnodes, rfl⟩ := Json.Decoder.exists_of_defaulted hread
      intro node hnode
      obtain ⟨o, ho, hnode⟩ := Json.Decoder.exists_of_mem_list ho hnodes hnode
      exact Node.readable_of_decoder ho hnode
    · obtain ⟨edges, -, rfl⟩ := Json.Decoder.exists_of_defaulted hread
      exact hf

namespace Json.Decoder

variable {α β : Type}

theorem items_map {d : Decoder α} {room : Nat} {toJson : α → Json} {values : List α}
    (h : ∀ a ∈ values, d room (.ofJson (toJson a)) = .ok a) :
    items d room (Outline.ofItems (values.map toJson)) = .ok values := by
  induction values with
  | nil => rfl
  | cons a values ih =>
    obtain ⟨ha, hvalues⟩ := List.forall_mem_cons.mp h
    simp only [List.map_cons, Outline.ofItems, items, ha, ih hvalues]
    rfl

theorem list_ofJson {d : Decoder α} {room : Nat} {toJson : α → Json} {values : List α}
    (h : ∀ a ∈ values, d room (.ofJson (toJson a)) = .ok a) :
    list d (room + 1) (.ofJson (.list (values.map toJson))) = .ok values := by
  simp only [Outline.ofJson, list, items_map h]
  rfl

theorem read_defaulted {d : Decoder β} {room : Nat} {o : Outline} {b : β} (h : d room o = .ok b)
    {name : String} {set : β → α → α} {a : α} : (defaulted name d set).read room o a = .ok
    (set b a) :=
  congrArg (Except.map fun b => set b a) h

theorem read_required {d : Decoder β} {room : Nat} {o : Outline} {b : β} (h : d room o = .ok b)
    {name : String} {set : β → α → α} {a : α} : (required name d set).read room o a = .ok
    (set b a) :=
  congrArg (Except.map fun b => set b a) h

section Record

variable {fields : List (Field α)} {room : Nat} {members : List (Except Break String × Outline)}

theorem readMembers_cons {name : String} {o : Outline} {field : Field α} {seen : List String}
    {a a' : α} (hfield : fields.find? (·.name == name) = some field)
    (hseen : seen.contains name = false) (hread : field.read room o a = .ok a') :
    readMembers fields room ((.ok name, o) :: members) seen a =
      readMembers fields room members (name :: seen) a' := by
  rw [readMembers]
  simp only [bind, Except.bind, hfield, hseen, hread, Bool.false_eq_true, if_false]

theorem record_object {initial a : α} {seen : List String}
    (hmembers : readMembers fields room members [] initial = .ok (seen, a))
    (hseen : (fields.all fun f => f.optional || seen.contains f.name) = true) :
    record fields initial (room + 1) (.object members none) = .ok a := by
  rw [record]
  simp only [hmembers]
  exact if_pos hseen

end Record

end Json.Decoder

namespace Edge

theorem toJson_eq (edge : Edge) :
    edge.toJson = .object ((edge.id?.map fun id => ("id", .text id)).toList ++
      [("source", .text edge.source)] ++
      (edge.handle?.map fun handle => ("sourceHandle", .text handle)).toList ++
      [("target", .text edge.target)]) := by
  obtain ⟨id?, source, target, handle?⟩ := edge
  cases id? <;> cases handle? <;> rfl

theorem decoder_ofJson (edge : Edge) (room : Nat) :
    decoder (room + 1) (.ofJson edge.toJson) = .ok edge := by
  rw [toJson_eq]
  obtain ⟨id?, source, target, handle?⟩ := edge
  cases id? <;> cases handle? <;> rfl

theorem reread_toJson (edge : Edge) : edge.toJson.reread = edge.toJson := by
  rw [toJson_eq]
  obtain ⟨id?, source, target, handle?⟩ := edge
  cases id? <;> cases handle? <;> rfl

theorem wellFormed_toJson (edge : Edge) : edge.toJson.WellFormed := by
  refine Json.wellFormed_ofMembers ?_
  obtain ⟨id?, source, target, handle?⟩ := edge
  cases id? <;> cases handle? <;> simp [Json.WellFormed]

end Edge

namespace Node

theorem toJson_eq (node : Node) :
    node.toJson =
      .object
        [("config", .object node.config), ("id", .text node.id), ("type", .text node.kind.name)] :=
  rfl

section Fields

variable {node : Node} {room : Nat}

theorem configDecoder_ofJson (h : node.Readable (room + 1)) :
    configDecoder room (.ofJson (.object node.config)) = .ok (some node.config) := by
  show (Json.Decoder.members room (.ofJson (.object node.config))).map some = _
  rw [Json.Decoder.members_ofJson h.config, if_pos (Nat.le_of_lt_succ h.depth)]
  rfl

theorem kind_ofJson (h : node.Readable (room + 1)) :
    NodeKind.decoder room (.ofJson (.text node.kind.name)) = .ok node.kind :=
  congrArg Except.ok h.kind

/-- A node is read if a draft is that has all its fields in `config`. -/
theorem decoder_of_draft {o : Json.Outline}
    (h : draftDecoder room o = .ok ⟨node.id, node.kind, some node.config, none⟩) :
    decoder room o = .ok node := by
  show (draftDecoder room o).map Draft.toNode = _
  rw [h]
  rfl

theorem decoder_ofJson (h : node.Readable (room + 1)) :
    decoder (room + 1) (.ofJson node.toJson) = .ok node := by
  apply decoder_of_draft
  rw [toJson_eq]
  exact Json.Decoder.record_object
    ((Json.Decoder.readMembers_cons rfl rfl
      (Json.Decoder.read_defaulted (configDecoder_ofJson h))).trans
      ((Json.Decoder.readMembers_cons rfl rfl rfl).trans
        (Json.Decoder.readMembers_cons rfl rfl (Json.Decoder.read_required (kind_ofJson h))))) rfl

end Fields

/-- The node that is read from the text of the node: a kind is known by its name. -/
def reread (node : Node) : Node :=
  { node with kind := NodeKind.ofName node.kind.name, config := Json.rereadMembers node.config }

theorem reread_toJson (node : Node) : node.toJson.reread = node.reread.toJson := by
  rw [toJson_eq, toJson_eq, reread, NodeKind.name_ofName]
  rfl

theorem Readable.reread {node : Node} {room : Nat} (h : node.Readable room) :
    node.reread.Readable room where
  kind := congrArg NodeKind.ofName (NodeKind.name_ofName _)
  config := h.config.reread
  depth := (Json.depth_reread (.object node.config)).symm ▸ h.depth

theorem Readable.reread_eq_iff {node : Node} {room : Nat} (h : node.Readable room) :
    node.reread = node ↔ (Json.object node.config).Kept := by
  have hkind := h.kind
  obtain ⟨id, kind, config⟩ := node
  simp only [Node.reread, Node.mk.injEq, hkind, true_and, Json.Kept, Json.reread, Json.object.injEq]

theorem wellFormed_toJson {node : Node} (h : (Json.object node.config).WellFormed) :
    node.toJson.WellFormed := by
  refine Json.wellFormed_ofMembers ?_
  simp only [Json.WellFormed] at h
  simp [Json.WellFormed, NodeKind.toJson, h]

end Node

namespace Flow

theorem toJson_eq (flow : Flow) :
    flow.toJson = .object [("edges", .list (flow.edges.map Edge.toJson)),
      ("nodes", .list (flow.nodes.map Node.toJson))] :=
  rfl

variable {flow : Flow}

theorem Readable.proper (h : flow.Readable) : flow.Proper := fun node hnode => (h node hnode).config

theorem wellFormed_toJson (h : flow.Proper) : flow.toJson.WellFormed := by
  have hnodes : (Json.list (flow.nodes.map Node.toJson)).WellFormed := by
    refine Json.wellFormedItems_iff.mpr (List.forall_mem_map.mpr ?_)
    intro node hnode
    exact Node.wellFormed_toJson (h node hnode)
  have hedges : (Json.list (flow.edges.map Edge.toJson)).WellFormed := by
    refine Json.wellFormedItems_iff.mpr (List.forall_mem_map.mpr ?_)
    intro edge _
    exact Edge.wellFormed_toJson edge
  exact Json.wellFormed_ofMembers (by simp [hnodes, hedges])

section Lists

variable {room : Nat} (h : ∀ node ∈ flow.nodes, node.Readable (room + 1))

include h

/-- A flow is read wherever there is room for its nodes within two lists and objects more. -/
theorem decoder_ofJson_of_room : decoder (room + 3) (.ofJson flow.toJson) = .ok flow := by
  have hnodes :
      Json.Decoder.list Node.decoder (room + 2) (.ofJson (.list (flow.nodes.map Node.toJson))) =
      .ok flow.nodes :=
        Json.Decoder.list_ofJson fun node hnode => Node.decoder_ofJson (h node hnode)
  have hedges :
      Json.Decoder.list Edge.decoder (room + 2) (.ofJson (.list (flow.edges.map Edge.toJson))) =
      .ok flow.edges := Json.Decoder.list_ofJson fun edge _ => edge.decoder_ofJson room
  rw [toJson_eq]
  -- the members stand in the order of their names
  exact Json.Decoder.record_object
    ((Json.Decoder.readMembers_cons rfl rfl (Json.Decoder.read_defaulted hedges)).trans
      (Json.Decoder.readMembers_cons rfl rfl (Json.Decoder.read_defaulted hnodes))) rfl

end Lists

theorem decoder_ofJson (h : flow.Readable) :
    decoder Json.maxDepth (.ofJson flow.toJson) = .ok flow :=
  decoder_ofJson_of_room h

def reread (flow : Flow) : Flow := { flow with nodes := flow.nodes.map Node.reread }

theorem reread_toJson (flow : Flow) : flow.toJson.reread = flow.reread.toJson := by
  have hnodes : Json.rereadItems (flow.nodes.map Node.toJson) =
      (flow.nodes.map Node.reread).map Node.toJson := by
    rw [Json.rereadItems_eq_map, List.map_map, List.map_map]
    exact List.map_congr_left fun node _ => node.reread_toJson
  have hedges : Json.rereadItems (flow.edges.map Edge.toJson) = flow.edges.map Edge.toJson := by
    rw [Json.rereadItems_eq_map, List.map_map]
    exact List.map_congr_left fun edge _ => edge.reread_toJson
  simp only [toJson_eq, reread, Json.reread, Json.rereadMembers, hnodes, hedges]

theorem Readable.reread (h : flow.Readable) : flow.reread.Readable :=
  List.forall_mem_map.mpr fun node hnode => (h node hnode).reread

theorem Readable.reread_eq_iff (h : flow.Readable) : flow.reread = flow ↔ flow.Kept := by
  have hnodes : flow.reread = flow ↔ ∀ node ∈ flow.nodes, node.reread = node := by
    obtain ⟨nodes, edges⟩ := flow
    simp only [Flow.reread, Flow.mk.injEq, and_true]
    rw [← List.map_inj_left, List.map_id']
  rw [hnodes]
  exact forall₂_congr fun node hnode => (h node hnode).reread_eq_iff

/-- A flow is read back from the column that holds its text. -/
theorem Readable.ofColumn_compact (h : flow.Readable) :
    decoder.ofColumn flow.toJson.compact = .ok flow.reread := by
  rw [Json.Decoder.ofColumn_object decoder (toJson_eq flow),
    Json.Decoder.ofText_compact decoder (wellFormed_toJson h.proper), reread_toJson,
      decoder_ofJson h.reread]
  rfl

end Flow

end ChatFlow
