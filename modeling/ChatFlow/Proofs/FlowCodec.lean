import ChatFlow.Proofs.Rejection
import ChatFlow.Proofs.Restart

namespace ChatFlow

open Json (Outline)

namespace Edge

/-- An edge with its members in the order of their declaration. -/
def declared (edge : Edge) : Json :=
  .object ((edge.id?.map fun id => ("id", .text id)).toList ++
    [("source", .text edge.source), ("target", .text edge.target)] ++
    (edge.handle?.map fun handle => ("sourceHandle", .text handle)).toList)

theorem legible_declared (edge : Edge) : edge.declared.Legible := by
  obtain ⟨id?, source, target, handle?⟩ := edge
  cases id? <;> cases handle? <;> simp [declared, Json.Legible, Json.LegibleMembers]

theorem reread_declared (edge : Edge) : edge.declared.reread = edge.declared := by
  obtain ⟨id?, source, target, handle?⟩ := edge
  cases id? <;> cases handle? <;> rfl

theorem decoder_declared (edge : Edge) (room : Nat) :
    decoder (room + 1) (.ofJson edge.declared) = .ok edge := by
  obtain ⟨id?, source, target, handle?⟩ := edge
  cases id? <;> cases handle? <;> rfl

end Edge

namespace Node

/-- A node with its members in the order of their declaration. -/
def declared (node : Node) : Json :=
  .object [("id", .text node.id), ("type", node.kind.toJson), ("config", .object node.config)]

variable {node : Node} {room : Nat}

theorem legible_declared (h : (Json.object node.config).WellFormed) : node.declared.Legible := by
  have hconfig : (Json.object node.config).Legible := h.legible
  simpa [declared, NodeKind.toJson, Json.Legible, Json.LegibleMembers] using hconfig

theorem reread_declared (node : Node) : node.declared.reread = node.reread.declared := by
  simp only [declared, NodeKind.toJson, reread, NodeKind.name_ofName]
  rfl

theorem decoder_declared (h : node.Readable (room + 1)) :
    decoder (room + 1) (.ofJson node.declared) = .ok node := by
  apply decoder_of_draft
  exact Json.Decoder.record_object
    ((Json.Decoder.readMembers_cons rfl rfl rfl).trans
      ((Json.Decoder.readMembers_cons rfl rfl (Json.Decoder.read_required (kind_ofJson h))).trans
        (Json.Decoder.readMembers_cons rfl rfl
          (Json.Decoder.read_defaulted (configDecoder_ofJson h))))) rfl

end Node

namespace Flow

/-- A flow with its members in the order of their declaration. -/
def declared (flow : Flow) : Json :=
  .object [("nodes", .list (flow.nodes.map Node.declared)),
    ("edges", .list (flow.edges.map Edge.declared))]

variable {flow : Flow}

theorem legible_declared (h : flow.Proper) : flow.declared.Legible := by
  have hnodes : (Json.list (flow.nodes.map Node.declared)).Legible := by
    apply Json.legibleItems_iff.mpr
    refine List.forall_mem_map.mpr ?_
    intro node hnode
    exact Node.legible_declared (h node hnode)
  have hedges : (Json.list (flow.edges.map Edge.declared)).Legible := by
    apply Json.legibleItems_iff.mpr
    refine List.forall_mem_map.mpr ?_
    intro edge _
    exact edge.legible_declared
  exact ⟨hnodes, hedges, trivial⟩

theorem reread_declared (flow : Flow) : flow.declared.reread = flow.reread.declared := by
  have hnodes : Json.rereadItems (flow.nodes.map Node.declared) =
      (flow.nodes.map Node.reread).map Node.declared := by
    rw [Json.rereadItems_eq_map, List.map_map, List.map_map]
    exact List.map_congr_left fun node _ => node.reread_declared
  have hedges : Json.rereadItems (flow.edges.map Edge.declared) = flow.edges.map Edge.declared := by
    rw [Json.rereadItems_eq_map, List.map_map]
    exact List.map_congr_left fun edge _ => edge.reread_declared
  simp only [declared, reread, Json.reread, Json.rereadMembers, hnodes, hedges]

theorem decoder_declared (h : flow.Readable) :
    decoder Json.maxDepth (.ofJson flow.declared) = .ok flow := by
  have hnodes :
      Json.Decoder.list Node.decoder 126 (.ofJson (.list (flow.nodes.map Node.declared))) =
      .ok flow.nodes :=
        Json.Decoder.list_ofJson fun node hnode => Node.decoder_declared (h node hnode)
  have hedges :
      Json.Decoder.list Edge.decoder 126 (.ofJson (.list (flow.edges.map Edge.declared))) =
      .ok flow.edges := Json.Decoder.list_ofJson fun edge _ => edge.decoder_declared 124
  exact Json.Decoder.record_object
    ((Json.Decoder.readMembers_cons rfl rfl (Json.Decoder.read_defaulted hnodes)).trans
      (Json.Decoder.readMembers_cons rfl rfl (Json.Decoder.read_defaulted hedges))) rfl

namespace Readable

theorem ofText_toJson (h : flow.Readable) : ofText flow.toJson.compact = .ok flow.reread := by
  rw [ofText, Json.Decoder.ofText_compact decoder (wellFormed_toJson h.proper), reread_toJson,
    decoder_ofJson h.reread]

theorem ofText_declared (h : flow.Readable) : ofText flow.declared.compact = .ok flow.reread := by
  rw [ofText, Json.Decoder.ofText_of_legible decoder (legible_declared h.proper), reread_declared,
    decoder_declared h.reread]

/-- A value in memory has no limit to its depth: the room that a flow is given is what it takes. -/
theorem ofValue_toJson (h : flow.Readable) : decoder.ofValue flow.toJson = .ok flow := by
  obtain ⟨room, hroom⟩ : ∃ room, flow.toJson.depth + 1 = room + 3 := by
    rw [toJson_eq]
    simp only [Json.depth, Json.depthMembers]
    -- a flow without nodes and edges still is an object with two lists
    exact ⟨_, (Nat.sub_add_cancel (by omega)).symm⟩
  have hnodes : ∀ node ∈ flow.nodes, node.Readable (room + 1) := by
    intro node hnode
    have hdepth := depth_toJson_le_iff.mp (Nat.le_of_succ_le hroom.le) node hnode
    exact ⟨(h node hnode).kind, (h node hnode).config, Nat.lt_succ_of_le hdepth⟩
  have hread := decoder_ofJson_of_room hnodes
  rw [← hroom] at hread
  unfold Json.Decoder.ofValue
  rw [hread]

theorem version?_saveVersion (h : flow.Readable) (archive : Archive) (botId version : String) :
    (archive.saveVersion botId version flow).version? botId version = .ok (some flow.reread) := by
  rw [Archive.version?, Archive.definition?_saveVersion_self]
  exact congrArg (Except.map some) h.ofColumn_compact

/-- A version may as well be stored in the order of declaration. -/
theorem version?_declared (h : flow.Readable) (archive : Archive) (botId version : String) :
    (archive.define botId version flow.declared.compact).version? botId version =
      .ok (some flow.reread) := by
  have hcolumn : decoder.ofColumn flow.declared.compact = .ok flow.reread := by
    have htext : decoder.ofText flow.declared.compact = .ok flow.reread := h.ofText_declared
    rw [Json.Decoder.ofColumn_object decoder (show flow.declared = .object _ from rfl), htext]
    rfl
  rw [Archive.version?, Archive.definition?_define_self]
  exact congrArg (Except.map some) hcolumn

end Readable

/-- Whatever text a flow was read from, what is written of it is read as the same flow: as a value
always, as a text and as a version in any archive exactly if the numbers in it are read back as they
are printed. It does not matter to that in which order the members stand. -/
theorem read_again_of_ofText {text : String} (h : ofText text = .ok flow) :
    decoder.ofValue flow.toJson = .ok flow ∧
      (ofText flow.toJson.compact = .ok flow ↔ flow.Kept) ∧
      (ofText flow.declared.compact = .ok flow ↔ flow.Kept) ∧
      ∀ (archive : Archive) (botId version : String),
        ((archive.saveVersion botId version flow).version? botId version = .ok (some flow) ↔
          flow.Kept) ∧
          ((archive.define botId version flow.declared.compact).version? botId version =
            .ok (some flow) ↔
            flow.Kept) := by
  have hreadable : flow.Readable := readable_of_ofText h
  have hkept := hreadable.reread_eq_iff
  refine ⟨hreadable.ofValue_toJson, ?_, ?_, fun archive botId version => ⟨?_, ?_⟩⟩
  · rw [hreadable.ofText_toJson, Except.ok.injEq, hkept]
  · rw [hreadable.ofText_declared, Except.ok.injEq, hkept]
  · rw [hreadable.version?_saveVersion, Except.ok.injEq, Option.some.injEq, hkept]
  · rw [hreadable.version?_declared, Except.ok.injEq, Option.some.injEq, hkept]

/-- A flow as an editor may send it: fields in `config`, in `data`, in both and in neither, a node
and an edge as lists, a kind that is not known, members that are `null` and members that mean
nothing. -/
def editorForm : Json :=
  .object
    [("version", .ofNat 7),
      ("nodes", .list
        [.object [("id", .text "start"), ("type", .text "trigger:newMessage"),
            ("data", .object [("config", .object [("note", .text "old")])]),
            ("config", .object [("note", .text "new"), ("limit", .ofInt (-3))])],
          .object [("position", .object [("x", .ofNat 4)]), ("type", .text "logic:delay"),
            ("id", .text "wait"),
            ("data", .object [("label", .text "Wait"), ("config", .object [("ms", .ofNat 60)])])],
          .list [.text "nudge", .text "custom:nudge", .object [("text", .text "Still \"there\"?")]],
          .object [("id", .text "last"), ("type", .text "action:sendMessage"), ("config", .null),
            ("data", .null)]]),
      ("edges", .list
        [.object [("id", .null), ("source", .text "start"), ("target", .text "wait"),
          ("colour", .text "red")], .list [.text "e2", .text "wait", .text "nudge", .text "out"],
          .object
            [("target", .text "last"), ("source", .text "nudge"), ("sourceHandle", .text "true")]])]

def ofEditor : Flow where
  nodes :=
    [⟨"start", .newMessage, [("limit", .ofInt (-3)), ("note", .text "new")]⟩,
      ⟨"wait", .delay, [("ms", .ofNat 60)]⟩,
      ⟨"nudge", .unknown "custom:nudge", [("text", .text "Still \"there\"?")]⟩,
      ⟨"last", .sendMessage, []⟩]
  edges :=
    [⟨none, "start", "wait", none⟩, ⟨some "e2", "wait", "nudge", some "out"⟩,
      ⟨none, "nudge", "last", some "true"⟩]

theorem read_again_ofEditor :
    ofText editorForm.compact = .ok ofEditor ∧ ofText ofEditor.toJson.compact = .ok ofEditor ∧
      ofText ofEditor.declared.compact = .ok ofEditor ∧
      (Archive.empty.saveVersion "bot" "v1" ofEditor).version? "bot" "v1" =
        .ok (some ofEditor) := by
  have hlegible : editorForm.Legible := by
    simp [editorForm, Json.Legible, Json.LegibleItems, Json.LegibleMembers, Json.ofNat, Json.ofInt,
      Number.Valid, maxWord, maxSignedWord]
  have hread : ofText editorForm.compact = .ok ofEditor :=
    (Json.Decoder.ofText_of_legible decoder hlegible).trans (by decide +kernel)
  have hkept : ofEditor.Kept := by decide +kernel
  obtain ⟨-, htext, hdeclared, harchive⟩ := read_again_of_ofText hread
  exact ⟨hread, htext.mpr hkept, hdeclared.mpr hkept, (harchive .empty "bot" "v1").1.mpr hkept⟩

end Flow

end ChatFlow
