import ChatFlow.Proofs.Restart

namespace ChatFlow

theorem Except.eq_error_of_map {ε α β : Type} {f : α → β} {x : Except ε α} {e : ε}
    (h : x.map f = .error e) :
    x = .error e := by
  cases x with
  | error _ =>
    cases h
    rfl
  | ok _ => cases h

namespace Json

variable {α : Type} {n room : Nat}

theorem depthItems_le_iff {values : List Json} : depthItems values ≤ n ↔
    ∀ v ∈ values, v.depth ≤ n := by
  induction values with
  | nil => simp [depthItems]
  | cons v values ih => rw [depthItems, Nat.max_le, ih, List.forall_mem_cons]

namespace Decoder

/-- Of the members of an object that was read each known one was. -/
theorem exists_read_of_readMembers {fields : List (Field α)}
    {members : List (Except Break String × Outline)} (name : String) {o : Outline} {field : Field α}
    (hfield : fields.find? (·.name == name) = some field) (hmember : (.ok name, o) ∈ members)
    {seen seen' : List String} {a a' : α} (h : readMembers fields room members seen a =
      .ok (seen', a')) : ∃ b b', field.read room o b = .ok b' := by
  induction members generalizing seen a with
  | nil => cases hmember
  | cons member members ih =>
    obtain ⟨key, value⟩ := member
    obtain ⟨k, hkey, h⟩ := Except.bind_eq_ok h
    rcases List.mem_cons.mp hmember with heq | hmember
    · cases heq
      cases hkey
      simp only [hfield] at h
      split at h
      · cases h
      · obtain ⟨b, hb, -⟩ := Except.bind_eq_ok h
        exact ⟨a, b, hb⟩
    · cases hfound : fields.find? (·.name == k) with
      | none =>
        rw [hfound] at h
        obtain ⟨_, -, h⟩ := Except.bind_eq_ok h
        exact ih hmember h
      | some other =>
        simp only [hfound] at h
        split at h
        · cases h
        · obtain ⟨b, -, h⟩ := Except.bind_eq_ok h
          exact ih hmember h

theorem exists_read_of_record {fields : List (Field α)}
    {members : List (Except Break String × Outline)} (name : String) {o : Outline} {field : Field α}
    (hfield : fields.find? (·.name == name) = some field) (hmember : (.ok name, o) ∈ members)
    {initial a : α} (h : record fields initial (room + 1) (.object members none) = .ok a) :
    ∃ b b', field.read room o b = .ok b' := by
  obtain ⟨⟨seen, b⟩, hmembers, -⟩ := Except.bind_eq_ok h
  exact exists_read_of_readMembers name hfield hmember hmembers

theorem exists_of_items_ofItems {d : Decoder α} {values : List Json} {read : List α}
    (h : items d room (Outline.ofItems values) = .ok read) :
    ∀ v ∈ values, ∃ a, d room (.ofJson v) = .ok a := by
  induction values generalizing read with
  | nil => exact List.forall_mem_nil _
  | cons v values ih =>
    obtain ⟨a, ha, h⟩ := Except.bind_eq_ok h
    obtain ⟨rest, hrest, -⟩ := Except.bind_eq_ok h
    exact List.forall_mem_cons.mpr ⟨⟨a, ha⟩, ih hrest⟩

theorem exists_of_list_ofJson {d : Decoder α} {values : List Json} {read : List α}
    (h : list d (room + 1) (.ofJson (.list values)) = .ok read) :
    ∀ v ∈ values, ∃ a, d room (.ofJson v) = .ok a := by
  obtain ⟨read, hread, -⟩ := Except.bind_eq_ok h
  exact exists_of_items_ofItems hread

end Decoder

end Json

namespace Node

theorem depth_le_of_decoder {node read : Node} {room : Nat}
    (hconfig : (Json.object node.config).WellFormed) (h : decoder (room + 1) (.ofJson node.toJson) =
      .ok read) : (Json.object node.config).depth ≤ room := by
  obtain ⟨draft, hdraft, -⟩ := Except.exists_of_map h
  rw [toJson_eq] at hdraft
  obtain ⟨_, _, hfield⟩ :=
    Json.Decoder.exists_read_of_record "config" rfl (List.mem_cons_self ..) hdraft
  obtain ⟨_, hread, -⟩ := Json.Decoder.exists_of_defaulted hfield
  obtain ⟨_, hmembers, -⟩ := Except.exists_of_map hread
  rw [Json.Decoder.members_ofJson hconfig] at hmembers
  split at hmembers
  · assumption
  · cases hmembers

end Node

namespace Flow

variable {flow : Flow} {room : Nat}

/-- A node opens three more lists and objects than its fields, and an edge does not open any
more. -/
theorem depth_toJson_le_iff :
    flow.toJson.depth ≤ room + 3 ↔ ∀ node ∈ flow.nodes, (Json.object node.config).depth ≤ room := by
  have hedges : Json.depthItems (flow.edges.map Edge.toJson) ≤ 1 := by
    apply Json.depthItems_le_iff.mpr
    refine List.forall_mem_map.mpr ?_
    intro edge _
    rw [Edge.toJson_eq]
    obtain ⟨id?, source, target, handle?⟩ := edge
    cases id? <;> cases handle? <;> simp [Json.depth, Json.depthMembers]
  have hnodes : Json.depthItems (flow.nodes.map Node.toJson) ≤ room + 1 ↔
      ∀ node ∈ flow.nodes, (Json.object node.config).depth ≤ room := by
    rw [Json.depthItems_le_iff, List.forall_mem_map]
    apply forall₂_congr
    intro node _
    rw [Node.toJson_eq]
    simp [Json.depth, Json.depthMembers]
  rw [← hnodes, toJson_eq]
  simp only [Json.depth, Json.depthMembers]
  omega

theorem Readable.depth_le (h : flow.Readable) : flow.toJson.depth ≤ Json.maxDepth :=
  depth_toJson_le_iff.mpr fun node hnode => Nat.le_of_lt_succ (h node hnode).depth

theorem depth_le_of_decoder {read : Flow} (hproper : flow.Proper)
    (h : decoder Json.maxDepth (.ofJson flow.toJson) = .ok read) :
    flow.toJson.depth ≤ Json.maxDepth := by
  rw [toJson_eq] at h
  obtain ⟨_, _, hfield⟩ := Json.Decoder.exists_read_of_record "nodes" rfl
    (List.mem_cons_of_mem _ (List.mem_cons_self ..)) h
  obtain ⟨_, hread, -⟩ := Json.Decoder.exists_of_defaulted hfield
  apply depth_toJson_le_iff.mpr
  intro node hnode
  obtain ⟨_, hdecoder⟩ := Json.Decoder.exists_of_list_ofJson hread _ (List.mem_map_of_mem hnode)
  exact Node.depth_le_of_decoder (hproper node hnode) hdecoder

theorem depth_reread (flow : Flow) : flow.reread.toJson.depth = flow.toJson.depth := by
  rw [← reread_toJson, Json.depth_reread]

theorem Proper.reread (h : flow.Proper) : flow.reread.Proper :=
  List.forall_mem_map.mpr fun node hnode => (h node hnode).reread

/-- The text of a flow can be read as long as it opens no more lists and objects at a time than are
followed. -/
theorem ofColumn_toJson (hproper : flow.Proper) :
    decoder.ofColumn flow.toJson.compact =
      if flow.toJson.depth ≤ Json.maxDepth then .ok flow.reread else .error .undecodable := by
  rw [Json.Decoder.ofColumn_object decoder (toJson_eq flow),
    Json.Decoder.ofText_compact decoder (wellFormed_toJson hproper), reread_toJson, ← depth_reread]
  split
  · next hdepth =>
    have hreadable : flow.reread.Readable := by
      refine List.forall_mem_map.mpr ?_
      intro node hnode
      have hnode' := List.mem_map_of_mem (f := Node.reread) hnode
      refine ⟨congrArg NodeKind.ofName (NodeKind.name_ofName _), hproper.reread _ hnode', ?_⟩
      exact Nat.lt_succ_of_le (depth_toJson_le_iff.mp hdepth _ hnode')
    rw [decoder_ofJson hreadable]
    rfl
  · next hdepth =>
    cases hread : decoder Json.maxDepth (.ofJson flow.reread.toJson) with
    | ok read => exact absurd (depth_le_of_decoder hproper.reread hread) hdepth
    | error b => rfl

end Flow

namespace Archive

variable {archive : Archive} {botId version : String} {flow : Flow}

/-- A version that was just stored can be made the active one if its text can be read. -/
theorem setActive_saveVersion (archive : Archive) (botId version : String) (hproper : flow.Proper) :
    (archive.saveVersion botId version flow).setActive botId version =
      if flow.toJson.depth ≤ Json.maxDepth then
        .ok { archive.saveVersion botId version flow with
          active := Keyed.insert botId version archive.active }
      else .error .undecodable := by
  rw [setActive, requireVersion, version?, definition?_saveVersion_self]
  dsimp only
  rw [Flow.ofColumn_toJson hproper]
  split <;> rfl

/-- If one active version cannot be read, the active ones cannot be read. -/
theorem readActive_ne_ok {entries : Keyed String} {definition : String} {failure : Failure}
    (hactive : (botId, version) ∈ entries)
    (hdefinition : archive.definition? botId version = some definition)
    (hfailure : Flow.decoder.ofColumn definition = .error failure) {stored : List StoredFlow} :
    archive.readActive entries ≠ .ok stored := by
  intro h
  induction entries generalizing stored with
  | nil => cases hactive
  | cons e rest ih =>
    obtain ⟨other, otherVersion⟩ := e
    rw [readActive] at h
    rcases List.mem_cons.mp hactive with heq | hmem
    · cases heq
      rw [hdefinition] at h
      dsimp only at h
      rw [hfailure] at h
      cases h
    · cases hother : archive.definition? other otherVersion with
      | none =>
        rw [hother] at h
        exact ih hmem h
      | some text =>
        rw [hother] at h
        obtain ⟨_, -, h⟩ := Except.bind_eq_ok h
        obtain ⟨_, hrest, -⟩ := Except.bind_eq_ok h
        exact ih hmem hrest

end Archive

namespace Registry

variable {policy : Policy} {r : Registry} {botId version : String} {flow : Flow}
    {active : ActiveFlow}
  {failure : Failure}

/-- What can be asked of a registry and its archive, and turned down. -/
inductive Request
  | publish (botId version : String) (flow : Flow)
  | activate (botId version : String)
  | setActive (botId version : String)
  | delete (botId version : String)
  deriving DecidableEq

inductive Reply
  /-- the flow is in use -/
  | running (active : ActiveFlow)
  | pointed
  /-- whether the version was there -/
  | deleted (was : Bool)
  deriving DecidableEq

def setActive (r : Registry) (botId version : String) : Except Failure Unit × Registry :=
  match r.archive.setActive botId version with
  | .error failure => (.error failure, r)
  | .ok archive => (.ok (), { r with archive })

def deleteVersion (r : Registry) (botId version : String) : Except Failure Bool × Registry :=
  match r.archive.deleteVersion botId version with
  | .error failure => (.error failure, r)
  | .ok (was, archive) => (.ok was, { r with archive })

def carryOut (policy : Policy) (r : Registry) : Request → Except Failure Reply × Registry
  | .publish botId version flow =>
    (publish policy r botId version flow).map (Except.map .running) id
  | .activate botId version => (activate policy r botId version).map (Except.map .running) id
  | .setActive botId version => (r.setActive botId version).map (Except.map fun () => .pointed) id
  | .delete botId version => (r.deleteVersion botId version).map (Except.map .deleted) id

def Request.Proper : Request → Prop
  | .publish _ _ flow => flow.Proper
  | _ => True

/-- A flow is to be published that passes the checks, but nests too deep to be read back. -/
def Request.Strands (policy : Policy) : Request → Prop
  | .publish botId version flow =>
    (compile policy botId version flow).isOk ∧ Json.maxDepth < flow.toJson.depth
  | _ => False

theorem switchTo_of_error (h : (r.switchTo botId version active).1 = .error failure) :
    (r.switchTo botId version active).2 = r := by
  unfold switchTo at h ⊢
  split at h
  · rfl
  · cases h

theorem activate_of_error (h : (activate policy r botId version).1 = .error failure) :
    (activate policy r botId version).2 = r := by
  unfold activate at h ⊢
  split at h
  · rfl
  · split at h
    · rfl
    · exact switchTo_of_error h

theorem setActive_of_error (h : (r.setActive botId version).1 = .error failure) :
    (r.setActive botId version).2 = r := by
  unfold setActive at h ⊢
  split at h
  · rfl
  · cases h

theorem deleteVersion_of_error (h : (r.deleteVersion botId version).1 = .error failure) :
    (r.deleteVersion botId version).2 = r := by
  unfold deleteVersion at h ⊢
  split at h
  · rfl
  · cases h

/-- A flow that passes the checks is put to use, or else its text is left behind. -/
theorem publish_of_compile (hproper : flow.Proper)
    (hcompile : compile policy botId version flow = .ok active) :
    publish policy r botId version flow =
      let archive := r.archive.saveVersion botId version flow
      if flow.toJson.depth ≤ Json.maxDepth then
        (.ok active, ⟨{ archive with active := Keyed.insert botId version r.archive.active },
          Keyed.insert botId active r.flows⟩)
      else (.error .undecodable, { r with archive }) := by
  unfold publish switchTo
  rw [hcompile]
  dsimp only
  rw [Archive.setActive_saveVersion r.archive botId version hproper]
  by_cases hdepth : flow.toJson.depth ≤ Json.maxDepth
  · rw [if_pos hdepth, if_pos hdepth]
    rfl
  · rw [if_neg hdepth, if_neg hdepth]

theorem publish_of_error (hproper : flow.Proper)
    (hstrands : ¬ Request.Strands policy (.publish botId version flow))
    (h : (publish policy r botId version flow).1 = .error failure) :
    (publish policy r botId version flow).2 = r := by
  cases hcompile : compile policy botId version flow with
  | error failure => rw [publish, hcompile]
  | ok active =>
    have hdepth : flow.toJson.depth ≤ Json.maxDepth := by
      apply Nat.not_lt.mp
      intro hdeep
      apply hstrands
      exact ⟨by rw [hcompile]; rfl, hdeep⟩
    rw [publish_of_compile hproper hcompile, if_pos hdepth] at h
    cases h

/-- A request that strands is turned down, and leaves the text of its flow behind. -/
theorem carryOut_publish_of_strands (r : Registry) (hproper : flow.Proper)
    (h : Request.Strands policy (.publish botId version flow)) :
    r.carryOut policy (.publish botId version flow) =
      (.error .undecodable, { r with archive := r.archive.saveVersion botId version flow }) := by
  obtain ⟨hok, hdepth⟩ := h
  cases hcompile : compile policy botId version flow with
  | error failure =>
    rw [hcompile] at hok
    cases hok
  | ok active =>
    rw [carryOut, publish_of_compile hproper hcompile, if_neg (Nat.not_le.mpr hdepth)]
    rfl

/-- A request that is turned down changes nothing, unless it strands. -/
theorem carryOut_of_error {request : Request} (hproper : request.Proper)
    (hstrands : ¬ request.Strands policy) (h : (r.carryOut policy request).1 = .error failure) :
    (r.carryOut policy request).2 = r := by
  cases request with
  | publish botId version flow => exact publish_of_error hproper hstrands (Except.eq_error_of_map h)
  | activate botId version => exact activate_of_error (Except.eq_error_of_map h)
  | setActive botId version => exact setActive_of_error (Except.eq_error_of_map h)
  | delete botId version => exact deleteVersion_of_error (Except.eq_error_of_map h)

/-- Whenever a request is turned down, what is in use stays, and so do the active versions. The
archive stays as well, unless the request strands: then it holds the text of the flow that was to be
published. -/
theorem unchanged_or_strands_of_error {request : Request} (hproper : request.Proper)
    (h : (r.carryOut policy request).1 = .error failure) :
    (r.carryOut policy request).2.flows = r.flows ∧
      (r.carryOut policy request).2.archive.active = r.archive.active ∧
      (¬ request.Strands policy → (r.carryOut policy request).2 = r) ∧
      (request.Strands policy → ∃ botId version flow, request = .publish botId version flow ∧
        (r.carryOut policy request).2 =
          { r with archive := r.archive.saveVersion botId version flow }) := by
  by_cases hstrands : request.Strands policy
  · cases request with
    | publish botId version flow =>
      rw [carryOut_publish_of_strands r hproper hstrands]
      exact ⟨rfl, rfl, absurd hstrands, fun _ => ⟨botId, version, flow, rfl, rfl⟩⟩
    | activate botId version => cases hstrands
    | setActive botId version => cases hstrands
    | delete botId version => cases hstrands
  · have hsame := carryOut_of_error hproper hstrands h
    exact ⟨congrArg flows hsame, congrArg (·.archive.active) hsame,
      fun _ => hsame, fun hs => absurd hs hstrands⟩

theorem not_strands_of_readable (h : flow.Readable) :
    ¬ Request.Strands policy (.publish botId version flow) := by
  intro hstrands
  exact Nat.not_lt.mpr h.depth_le hstrands.2

def served (policy : Policy) (r : Registry) (requests : List Request) : Registry :=
  requests.foldl (fun r request => (r.carryOut policy request).2) r

def met (policy : Policy) : Registry → List Request → List Request
  | _, [] => []
  | r, request :: requests =>
    if (r.carryOut policy request).1.isOk then
      request :: met policy (r.carryOut policy request).2 requests
    else met policy (r.carryOut policy request).2 requests

/-- Requests that are turned down can be left out, as long as none strands. -/
theorem served_met {requests : List Request}
    (h : ∀ request ∈ requests, request.Proper ∧ ¬ request.Strands policy) :
    r.served policy (r.met policy requests) = r.served policy requests := by
  induction requests generalizing r with
  | nil => rfl
  | cons request requests ih =>
    obtain ⟨⟨hproper, hstrands⟩, hrest⟩ := List.forall_mem_cons.mp h
    cases hresult : (r.carryOut policy request).1 with
    | ok reply =>
      rw [met, hresult]
      exact ih hrest
    | error failure =>
      have hsame := carryOut_of_error hproper hstrands hresult
      rw [met, hresult, hsame]
      show r.served policy (r.met policy requests) =
          (r.carryOut policy request).2.served policy requests
      rw [hsame]
      exact ih hrest

theorem Consistent.load_self (h : r.Consistent policy) : r.load policy = .ok r := h.load_eq r.flows

/-- If the version that a bot runs is published anew and strands, the flows in use cannot be loaded
any more. -/
theorem load_ne_ok_of_strands (hproper : flow.Proper)
    (hstrands : Request.Strands policy (.publish botId version flow))
    (hactive : (botId, version) ∈ r.archive.active) (loaded : Registry) :
    (r.carryOut policy (.publish botId version flow)).2.load policy ≠ .ok loaded := by
  rw [carryOut_publish_of_strands r hproper hstrands]
  intro hload
  obtain ⟨stored, hstored, -⟩ := Except.bind_eq_ok hload
  have hfailure : Flow.decoder.ofColumn flow.toJson.compact = .error .undecodable := by
    rw [Flow.ofColumn_toJson hproper, if_neg (Nat.not_le.mpr hstrands.2)]
  exact Archive.readActive_ne_ok hactive
    (Archive.definition?_saveVersion_self r.archive botId version flow) hfailure
    hstored

def boxed : Nat → Json
  | 0 => .null
  | n + 1 => .list [boxed n]

theorem wellFormed_boxed (n : Nat) : (boxed n).WellFormed := by
  induction n with
  | zero => trivial
  | succ n ih => exact ⟨ih, trivial⟩

theorem depth_boxed (n : Nat) : (boxed n).depth = n := by
  induction n with
  | zero => rfl
  | succ n ih => simp [boxed, Json.depth, Json.depthItems, ih]

def annotated (n : Nat) : Flow := ⟨[⟨"start", .newMessage, [("note", boxed n)]⟩], []⟩

theorem proper_annotated (n : Nat) : (annotated n).Proper := by
  intro node hnode
  rw [List.mem_singleton.mp hnode]
  exact ⟨List.pairwise_singleton _ _, wellFormed_boxed n, trivial⟩

theorem depth_annotated (n : Nat) : (annotated n).toJson.depth = n + 4 := by
  rw [Flow.toJson_eq]
  simp [annotated, Node.toJson_eq, Json.depth, Json.depthItems, Json.depthMembers, depth_boxed]

def noted : Registry := (publish .strict empty "bot" "v1" (annotated 0)).2

/-- The flow is to be published with a note that nests too deep. -/
def annotate : Request := .publish "bot" "v1" (annotated 124)

theorem strands_annotate : annotate.Strands .strict := by
  refine ⟨?_, ?_⟩
  · decide +kernel
  · rw [depth_annotated]
    decide

theorem carryOut_annotate : (noted.carryOut .strict annotate).1 = .error .undecodable := by
  rw [annotate, carryOut_publish_of_strands noted (proper_annotated 124) strands_annotate]

theorem unchanged_or_strands_annotate :
    annotate.Proper ∧ (noted.carryOut .strict annotate).1 = .error .undecodable ∧
      (noted.carryOut .strict annotate).2.flows = noted.flows := by
  have hproper : annotate.Proper := proper_annotated 124
  exact ⟨hproper, carryOut_annotate, (unchanged_or_strands_of_error hproper carryOut_annotate).1⟩

/-- It is turned down; but before, what was in use could be loaded, and afterwards it cannot. -/
theorem not_unchanged_annotate :
    (noted.carryOut .strict annotate).1 = .error .undecodable ∧
      (noted.carryOut .strict annotate).2 ≠ noted ∧
      noted.load .strict = .ok noted ∧
        (noted.carryOut .strict annotate).2.load .strict ≠ .ok noted := by
  have hreadable : (annotated 0).Readable := by
    intro node hnode
    rw [List.mem_singleton.mp hnode]
    exact ⟨rfl, proper_annotated 0 _ (List.mem_singleton_self _), by decide⟩
  have hkept : (annotated 0).Kept := by decide
  have hconsistent : noted.Consistent .strict :=
    (consistent_empty .strict).publish "bot" "v1" hreadable hkept
  have hactive : ("bot", "v1") ∈ noted.archive.active := by
    have hcompile : compile .strict "bot" "v1" (annotated 0) =
        .ok (.ofFlow "v1" (annotated 0)) := by decide +kernel
    rw [noted, publish_of_compile (proper_annotated 0) hcompile,
      if_pos (by rw [depth_annotated]; decide)]
    exact List.mem_singleton_self _
  have hlost : (noted.carryOut .strict annotate).2.load .strict ≠ .ok noted :=
    load_ne_ok_of_strands (proper_annotated 124) strands_annotate hactive noted
  refine ⟨carryOut_annotate, ?_, hconsistent.load_self, hlost⟩
  intro hsame
  apply hlost
  rw [hsame]
  exact hconsistent.load_self

end Registry

end ChatFlow
