import ChatFlow.Proofs.Rejection
import ChatFlow.Proofs.Stamp

namespace ChatFlow

namespace Json.Decoder

variable {α β : Type}

@[simp] theorem text_ofJson (room : Nat) (s : String) : text room (.ofJson (.text s)) = .ok s := rfl

section Record

variable (fields : List (Field α)) (room : Nat) (seen : List String) (a : α)

@[simp] theorem readMembers_ofMembers_nil :
    readMembers fields room (Outline.ofMembers []) seen a = .ok (seen, a) :=
  rfl

@[simp] theorem readMembers_ofMembers_cons (name : String) (v : Json)
    (members : List (String × Json)) :
    readMembers fields room (Outline.ofMembers ((name, v) :: members)) seen a =
      match fields.find? (·.name == name) with
      | none => (Outline.ofJson v).skip.bind fun _ =>
        readMembers fields room (Outline.ofMembers members) seen a
      | some field =>
        if seen.contains name then .error .mismatch
        else (field.read room (.ofJson v) a).bind
          (readMembers fields room (Outline.ofMembers members) (name :: seen)) :=
  rfl

theorem record_ofJson (members : List (String × Json)) :
    record fields a (room + 1) (.ofJson (.object members)) =
      (readMembers fields room (Outline.ofMembers members) [] a).bind fun read =>
        if fields.all fun f => f.optional || read.1.contains f.name then .ok read.2
          else .error .mismatch :=
  rfl

end Record

namespace Field

def Apart (f g : Field α) : Prop :=
  ∀ room o o' a b c, f.read room o a = .ok b → g.read room o' b = .ok c →
    ∃ b', g.read room o' a = .ok b' ∧ f.read room o b' = .ok c

theorem apart_required {β' : Type} {name name' : String} {d : Decoder β} {d' : Decoder β'}
    {set : β → α → α} {set' : β' → α → α} (h : ∀ x y a, set' y (set x a) = set x (set' y a)) :
    (required name d set).Apart (required name' d' set') := by
  intro room o o' a b c hb hc
  obtain ⟨x, hx, rfl⟩ := exists_of_required hb
  obtain ⟨y, hy, rfl⟩ := exists_of_required hc
  exact ⟨set' y a, read_required hy, by rw [h, read_required hx]⟩

end Field

section Order

variable {fields : List (Field α)} {room : Nat} {members members' : List (String × Json)}

theorem readMembers_cons_eq_ok_iff {name : String} {v : Json} {field : Field α}
    {seen : List String} {a : α} {read : List String × α}
    (hfield : fields.find? (·.name == name) = some field) :
    readMembers fields room (Outline.ofMembers ((name, v) :: members)) seen a = .ok read ↔
      name ∉ seen ∧ ∃ b, field.read room (.ofJson v) a = .ok b ∧
        readMembers fields room (Outline.ofMembers members) (name :: seen) b = .ok read := by
  rw [readMembers_ofMembers_cons, hfield]
  dsimp only
  split
  · next hseen =>
    have hmem : name ∈ seen := by simpa using hseen
    exact ⟨nofun, fun h => absurd hmem h.1⟩
  · next hseen =>
    have hmem : name ∉ seen := by simpa using hseen
    cases hread : field.read room (.ofJson v) a with
    | error b => simp [Except.bind]
    | ok b => simp [Except.bind, hmem]

variable (hknown : ∀ m ∈ members, ∃ field, fields.find? (·.name == m.1) = some field)

include hknown

/-- In which order the fields before were read makes no difference. -/
theorem readMembers_of_seen_perm {seen seen' : List String} (hseen : seen.Perm seen') {a b : α}
    {names : List String}
    (h : readMembers fields room (Outline.ofMembers members) seen a = .ok (names, b)) :
    ∃ names', names.Perm names' ∧
      readMembers fields room (Outline.ofMembers members) seen' a = .ok (names', b) := by
  induction members generalizing seen seen' a with
  | nil =>
    cases h
    exact ⟨seen', hseen, rfl⟩
  | cons m members ih =>
    obtain ⟨⟨field, hfield⟩, hknown⟩ := List.forall_mem_cons.mp hknown
    obtain ⟨hm, a', ha', h⟩ := (readMembers_cons_eq_ok_iff hfield).mp h
    obtain ⟨names', hnames, hread⟩ := ih hknown (hseen.cons m.1) h
    exact ⟨names', hnames,
      (readMembers_cons_eq_ok_iff hfield).mpr ⟨mt hseen.mem_iff.mpr hm, a', ha', hread⟩⟩

variable (hapart : ∀ f ∈ fields, ∀ g ∈ fields, f.name ≠ g.name → f.Apart g)

include hapart

theorem readMembers_perm (hperm : members.Perm members') {seen names : List String} {a b : α}
    (h : readMembers fields room (Outline.ofMembers members) seen a = .ok (names, b)) :
    ∃ names', names.Perm names' ∧
      readMembers fields room (Outline.ofMembers members') seen a = .ok (names', b) := by
  induction hperm generalizing seen names a with
  | nil => exact ⟨names, .refl _, h⟩
  | cons m _ ih =>
    obtain ⟨⟨field, hfield⟩, hknown⟩ := List.forall_mem_cons.mp hknown
    obtain ⟨hm, a', ha', h⟩ := (readMembers_cons_eq_ok_iff hfield).mp h
    obtain ⟨names', hnames, hread⟩ := ih hknown h
    exact ⟨names', hnames, (readMembers_cons_eq_ok_iff hfield).mpr ⟨hm, a', ha', hread⟩⟩
  | swap x y rest =>
    obtain ⟨⟨f, hf⟩, hknown⟩ := List.forall_mem_cons.mp hknown
    obtain ⟨⟨g, hg⟩, hknown⟩ := List.forall_mem_cons.mp hknown
    obtain ⟨hy, a₁, ha₁, h⟩ := (readMembers_cons_eq_ok_iff hf).mp h
    obtain ⟨hx, a₂, ha₂, h⟩ := (readMembers_cons_eq_ok_iff hg).mp h
    obtain ⟨hne, hx⟩ := not_or.mp (mt List.mem_cons.mpr hx)
    have hnames : f.name ≠ g.name := by
      have hfname : f.name = y.1 := by simpa using List.find?_some hf
      have hgname : g.name = x.1 := by simpa using List.find?_some hg
      rw [hfname, hgname]
      exact Ne.symm hne
    -- the two fields are read the other way round, and the rest with their names the other way
    -- round
    obtain ⟨a₁', ha₁', ha₂'⟩ :=
      hapart f (List.mem_of_find?_eq_some hf) g (List.mem_of_find?_eq_some hg) hnames _ _ _ _ _
        _ ha₁ ha₂
    obtain ⟨names', hnames', hread⟩ := readMembers_of_seen_perm hknown (.swap y.1 x.1 seen) h
    refine ⟨names', hnames', (readMembers_cons_eq_ok_iff hg).mpr ⟨hx, a₁', ha₁', ?_⟩⟩
    refine (readMembers_cons_eq_ok_iff hf).mpr ⟨?_, a₂, ha₂', hread⟩
    exact fun hmem => (List.mem_cons.mp hmem).elim (fun h => hne h.symm) hy
  | trans hperm _ ih ih' =>
    obtain ⟨names', hnames, hread⟩ := ih hknown h
    obtain ⟨names'', hnames', hread⟩ := ih' (fun m hm => hknown m (hperm.mem_iff.mpr hm)) hread
    exact ⟨names'', hnames.trans hnames', hread⟩

theorem record_perm (hperm : members.Perm members') {initial a : α}
    (h : record fields initial (room + 1) (.ofJson (.object members)) = .ok a) :
    record fields initial (room + 1) (.ofJson (.object members')) = .ok a := by
  rw [record_ofJson] at h ⊢
  obtain ⟨⟨names, b⟩, hread, h⟩ := Except.bind_eq_ok h
  obtain ⟨names', hnames, hread'⟩ := readMembers_perm hknown hapart hperm hread
  rw [hread']
  have hall : (fields.all fun f => f.optional || names'.contains f.name) =
      fields.all fun f => f.optional || names.contains f.name := by
    simp only [List.contains_eq_mem, hnames.mem_iff]
  show (if _ then _ else _) = _
  rwa [hall]

end Order

theorem mem_ofMembers {name : String} {v : Json} {members : List (String × Json)}
    (h : (name, v) ∈ members) :
    (.ok name, .ofJson v) ∈ Outline.ofMembers members := by
  induction members with
  | nil => cases h
  | cons m members ih =>
    rcases List.mem_cons.mp h with rfl | h
    · exact List.mem_cons_self
    · exact List.mem_cons_of_mem _ (ih h)

theorem refine_text {f : String → Option β} {s : String} {b : β} (h : f s = some b) (room : Nat) :
    text.refine f room (.ofJson (.text s)) = .ok b := by
  simp only [refine, text_ofJson, h, bind, Except.bind, pure, Except.pure]

/-- A value is read if there is room for all that it holds. -/
theorem ofValue_of_room {d : Decoder α} {v : Json} {a : α}
    (h : d (v.depth + 1) (.ofJson v) = .ok a) :
    d.ofValue v = .ok a := by
  unfold ofValue
  rw [h]

end Json.Decoder

namespace Instant

theorem decoder_ofJson {t : Instant} (h : t.Proper) (room : Nat) :
    decoder room (.ofJson t.toJson) = .ok t :=
  Json.Decoder.refine_text (ofStamp?_stamp h) room

end Instant

namespace Identifier

theorem decoder_ofJson {id : Identifier} (h : id.value < 2 ^ 128) (room : Nat) :
    decoder room (.ofJson (.text id.text)) = .ok id :=
  Json.Decoder.refine_text (ofText?_text h) room

end Identifier

namespace Context

/-- The context is a JSON value in which the namespaces are objects. -/
structure Lasting (c : Context) : Prop where
  wellFormed : c.toJson.WellFormed
  namespaces : c.HasNamespaces

variable {c : Context} {room : Nat}

theorem Lasting.reread (h : c.Lasting) : c.reread.Lasting :=
  ⟨h.wellFormed.reread, h.namespaces.reread⟩

theorem depth_reread (c : Context) : c.reread.toJson.depth = c.toJson.depth :=
  Json.depth_reread c.toJson

theorem decoder_ofJson (h : c.Lasting) (hroom : c.toJson.depth ≤ room) :
    decoder room (.ofJson c.toJson) = .ok c := by
  have hmembers : Json.Decoder.members room (.ofJson c.toJson) = .ok c.root :=
    (Json.Decoder.members_ofJson h.wellFormed room).trans (if_pos hroom)
  unfold decoder
  rw [hmembers]
  exact congrArg Except.ok (ofMembers_root h.namespaces)

theorem depth_le_of_decoder_ofJson (h : c.toJson.WellFormed) {c' : Context}
    (hread : decoder room (.ofJson c.toJson) = .ok c') : c.toJson.depth ≤ room := by
  obtain ⟨root, hroot, -⟩ := Except.exists_of_map hread
  by_contra hdeep
  have hmembers : Json.Decoder.members room (.ofJson c.toJson) = .error .malformed :=
    (Json.Decoder.members_ofJson h room).trans (if_neg hdeep)
  rw [hmembers] at hroot
  cases hroot

section Record

variable {α : Type} {fields : List (Json.Decoder.Field α)} {initial a : α}
    {members : List (String × Json)}
  {set : Context → α → α}
  (hfield : fields.find? (·.name == "context") = some (Json.Decoder.required "context" decoder set))
  (hmember : ("context", c.toJson) ∈ members) (hc : c.toJson.WellFormed)

include hfield hmember hc

/-- A record is read only if there is room for its context in it. -/
theorem depth_le_of_record
    (h : Json.Decoder.record fields initial (room + 1) (.ofJson (.object members)) = .ok a) :
    c.toJson.depth ≤ room := by
  obtain ⟨_, _, hread⟩ :=
    Json.Decoder.exists_read_of_record "context" hfield (Json.Decoder.mem_ofMembers hmember) h
  obtain ⟨_, hcontext, -⟩ := Json.Decoder.exists_of_required hread
  exact depth_le_of_decoder_ofJson hc hcontext

/-- The text of a record is read as another record if there is room for its context; this is the
same one if the numbers in the context are read back. -/
theorem ofText_record_iff {a' : α} (hlegible : (Json.object members).Legible)
    (hsame : a' = a ↔ c.Kept) (hread : ∀ room, c.toJson.depth ≤ room →
      Json.Decoder.record fields initial (room + 1)
        (.ofJson (.object (Json.rereadMembers members))) = .ok a') :
    Json.Decoder.ofText (.record fields initial) (Json.object members).compact = .ok a ↔
      c.toJson.depth < Json.maxDepth ∧ c.Kept := by
  have hmember' : ("context", c.reread.toJson) ∈ Json.rereadMembers members := by
    rw [Json.rereadMembers_eq_map]
    exact List.mem_map_of_mem (f := fun m : String × Json => (m.1, m.2.reread)) hmember
  rw [Json.Decoder.ofText_of_legible _ hlegible, ← hsame, ← depth_reread]
  -- a text has room for `maxDepth` levels, and the first of them is the record itself
  constructor
  · intro h
    have hdepth := depth_le_of_record hfield hmember' hc.reread h
    have hread := hread _ ((depth_reread c).symm.trans_le hdepth)
    exact ⟨Nat.lt_succ_of_le hdepth, Except.ok.inj (hread.symm.trans h)⟩
  · rintro ⟨hdepth, rfl⟩
    exact hread _ ((depth_reread c).symm.trans_le (Nat.le_of_lt_succ hdepth))

end Record

end Context

namespace SuspendRequest

/-- A request with its members in the order of their declaration. -/
def declared (r : SuspendRequest) : Json :=
  .object
    [("type", .text reason), ("nodeId", .text r.nodeId), ("resumeAt", r.resumeAt.toJson),
      ("context", r.context.toJson)]

structure Proper (r : SuspendRequest) : Prop where
  context : r.context.Lasting
  resumeAt : r.resumeAt.Proper

def members (r : SuspendRequest) : List (String × Json) :=
  [("context", r.context.toJson), ("nodeId", .text r.nodeId), ("resumeAt", r.resumeAt.toJson),
    ("type", .text reason)]

def reread (r : SuspendRequest) : SuspendRequest := { r with context := r.context.reread }

variable {r : SuspendRequest} {room : Nat} {members' : List (String × Json)}

theorem reread_eq_iff : r.reread = r ↔ r.context.Kept := by
  rw [Context.kept_iff]
  exact ⟨congrArg context, fun h => congrArg (fun c => { r with context := c }) h⟩

theorem toJson_eq (r : SuspendRequest) : r.toJson = .object r.members := rfl

theorem depth_toJson (r : SuspendRequest) : r.toJson.depth = r.context.toJson.depth + 1 := by
  simp [toJson_eq, members, Json.depth, Json.depthMembers, Instant.toJson]

theorem legible_members (h : r.Proper) : (Json.object r.members).Legible := by
  have hcontext := h.context.wellFormed.legible
  simp [members, Json.Legible, Json.LegibleMembers, Instant.toJson, hcontext]

theorem decoder_of_perm (h : r.Proper) (hroom : r.context.toJson.depth ≤ room)
    (hperm : r.members.Perm members') :
    decoder (room + 1) (.ofJson (.object members')) = .ok r := by
  refine Json.Decoder.record_perm ?_ ?_ hperm ?_
  · intro m hm
    simp only [members, List.mem_cons, List.not_mem_nil, or_false] at hm
    rcases hm with rfl | rfl | rfl | rfl <;> exact ⟨_, rfl⟩
  · intro f hf g hg hne
    simp only [List.mem_cons, List.not_mem_nil, or_false] at hf hg
    rcases hf with rfl | rfl | rfl | rfl <;> rcases hg with rfl | rfl | rfl | rfl <;>
      first | exact absurd rfl hne | exact Json.Decoder.Field.apart_required fun _ _ _ => rfl
  · have hcontext := Context.decoder_ofJson h.context hroom
    have hresumeAt := Instant.decoder_ofJson h.resumeAt room
    have htype : Json.Decoder.variant (fun name => if name = reason then some () else none) room
        (.ofJson (.text reason)) = .ok () := rfl
    rw [members, Json.Decoder.record_ofJson]
    simp [hcontext, hresumeAt, htype, Json.Decoder.required, Except.map, Except.bind]

theorem ofText_iff (h : r.Proper) (hperm : r.members.Perm members') :
    decoder.ofText (Json.object members').compact = .ok r ↔
      r.context.toJson.depth < Json.maxDepth ∧ r.context.Kept := by
  have hmember : ("context", r.context.toJson) ∈ members' := hperm.mem_iff.mp (by simp [members])
  refine Context.ofText_record_iff rfl hmember h.context.wellFormed ?_ reread_eq_iff ?_
  · exact Json.legible_of_perm hperm (legible_members h)
  · intro room hroom
    refine decoder_of_perm (r := r.reread) ⟨h.context.reread, h.resumeAt⟩
      ((Context.depth_reread r.context).trans_le hroom) ?_
    have hreread := hperm.map fun m => (m.1, m.2.reread)
    rwa [← Json.rereadMembers_eq_map, ← Json.rereadMembers_eq_map] at hreread

theorem perm_declared (r : SuspendRequest) : ∃ members', r.declared = .object members' ∧
    r.members.Perm members' := by
  refine ⟨_, rfl, List.perm_iff_count.mpr fun m => ?_⟩
  simp only [members, List.count_cons]
  omega

theorem ofValue_toJson (h : r.Proper) : decoder.ofValue r.toJson = .ok r := by
  apply Json.Decoder.ofValue_of_room
  rw [depth_toJson, toJson_eq]
  exact decoder_of_perm h (Nat.le_succ _) (.refl _)

end SuspendRequest

namespace Suspension

/-- A record with its members in the order of their declaration. -/
def declared (s : Suspension) : Json :=
  .object
    [("id", .text s.id.text), ("botId", .text s.botId), ("conversationId", .text s.conversationId),
      ("flowVersionId", .text s.version), ("nodeId", .text s.nodeId), ("context", s.context.toJson),
      ("resumeAt", s.resumeAt.toJson), ("createdAt", s.createdAt.toJson)]

structure Proper (s : Suspension) : Prop where
  id : s.id.value < 2 ^ 128
  context : s.context.Lasting
  resumeAt : s.resumeAt.Proper
  createdAt : s.createdAt.Proper

def members (s : Suspension) : List (String × Json) :=
  [("botId", .text s.botId), ("context", s.context.toJson),
    ("conversationId", .text s.conversationId), ("createdAt", s.createdAt.toJson),
    ("flowVersionId", .text s.version), ("id", .text s.id.text), ("nodeId", .text s.nodeId),
    ("resumeAt", s.resumeAt.toJson)]

variable {s : Suspension} {room : Nat} {members' : List (String × Json)}

theorem toJson_eq (s : Suspension) : s.toJson = .object s.members := rfl

theorem depth_toJson (s : Suspension) : s.toJson.depth = s.context.toJson.depth + 1 := by
  simp [toJson_eq, members, Json.depth, Json.depthMembers, Instant.toJson]

theorem legible_members (h : s.Proper) : (Json.object s.members).Legible := by
  have hcontext := h.context.wellFormed.legible
  simp [members, Json.Legible, Json.LegibleMembers, Instant.toJson, hcontext]

theorem decoder_of_perm (h : s.Proper) (hroom : s.context.toJson.depth ≤ room)
    (hperm : s.members.Perm members') :
    decoder (room + 1) (.ofJson (.object members')) = .ok s := by
  refine Json.Decoder.record_perm ?_ ?_ hperm ?_
  · intro m hm
    simp only [members, List.mem_cons, List.not_mem_nil, or_false] at hm
    rcases hm with rfl | rfl | rfl | rfl | rfl | rfl | rfl | rfl <;> exact ⟨_, rfl⟩
  · intro f hf g hg hne
    simp only [List.mem_cons, List.not_mem_nil, or_false] at hf hg
    rcases hf with rfl | rfl | rfl | rfl | rfl | rfl | rfl | rfl <;>
      rcases hg with rfl | rfl | rfl | rfl | rfl | rfl | rfl | rfl <;>
        first | exact absurd rfl hne | exact Json.Decoder.Field.apart_required fun _ _ _ => rfl
  · have hcontext := Context.decoder_ofJson h.context hroom
    have hid := Identifier.decoder_ofJson h.id room
    have hresumeAt := Instant.decoder_ofJson h.resumeAt room
    have hcreatedAt := Instant.decoder_ofJson h.createdAt room
    rw [members, Json.Decoder.record_ofJson]
    simp [hcontext, hid, hresumeAt, hcreatedAt, Json.Decoder.required, Except.map, Except.bind]

theorem ofText_iff (h : s.Proper) (hperm : s.members.Perm members') :
    decoder.ofText (Json.object members').compact = .ok s ↔
      s.context.toJson.depth < Json.maxDepth ∧ s.context.Kept := by
  have hmember : ("context", s.context.toJson) ∈ members' := hperm.mem_iff.mp (by simp [members])
  refine Context.ofText_record_iff rfl hmember h.context.wellFormed ?_ reread_eq_iff ?_
  · exact Json.legible_of_perm hperm (legible_members h)
  · intro room hroom
    refine decoder_of_perm (s := s.reread) ⟨h.id, h.context.reread, h.resumeAt, h.createdAt⟩
      ((Context.depth_reread s.context).trans_le hroom) ?_
    have hreread := hperm.map fun m => (m.1, m.2.reread)
    rwa [← Json.rereadMembers_eq_map, ← Json.rereadMembers_eq_map] at hreread

theorem perm_declared (s : Suspension) : ∃ members', s.declared = .object members' ∧
    s.members.Perm members' := by
  refine ⟨_, rfl, List.perm_iff_count.mpr fun m => ?_⟩
  simp only [members, List.count_cons]
  omega

theorem ofValue_toJson (h : s.Proper) : decoder.ofValue s.toJson = .ok s := by
  apply Json.Decoder.ofValue_of_room
  rw [depth_toJson, toJson_eq]
  exact decoder_of_perm h (Nat.le_succ _) (.refl _)

/-- Whatever a paused run asks for and whatever is kept of it is read as it was written: from memory
always, and from its text, in either order of the members, exactly if its context has room in it and
the numbers in the context are read back as they are printed. -/
theorem paused_read_again {r : SuspendRequest} {s : Suspension} (hr : r.Proper) (hs : s.Proper) :
    ((∀ v ∈ [r.toJson, r.declared],
        SuspendRequest.decoder.ofText v.compact = .ok r ↔
          r.context.toJson.depth < Json.maxDepth ∧ r.context.Kept) ∧
      SuspendRequest.decoder.ofValue r.toJson = .ok r) ∧
    (∀ v ∈ [s.toJson, s.declared],
        decoder.ofText v.compact = .ok s ↔ s.context.toJson.depth < Json.maxDepth ∧
          s.context.Kept) ∧
      decoder.ofValue s.toJson = .ok s := by
  obtain ⟨requestMembers, hrequest, hrequestPerm⟩ := r.perm_declared
  obtain ⟨recordMembers, hrecord, hrecordPerm⟩ := s.perm_declared
  simp only [List.forall_mem_cons, List.not_mem_nil, false_imp_iff, implies_true, and_true]
  refine ⟨⟨⟨?_, ?_⟩, SuspendRequest.ofValue_toJson hr⟩, ⟨?_, ?_⟩, ofValue_toJson hs⟩
  · rw [SuspendRequest.toJson_eq]
    exact SuspendRequest.ofText_iff hr (.refl _)
  · rw [hrequest]
    exact SuspendRequest.ofText_iff hr hrequestPerm
  · rw [toJson_eq]
    exact ofText_iff hs (.refl _)
  · rw [hrecord]
    exact ofText_iff hs hrecordPerm

/-- A request for the end of time, from a context with a value that is not in any namespace. -/
def endless : SuspendRequest where
  nodeId := "wait \"a\n bit\" \u0001 – å"
  resumeAt := .latest
  context :=
    ⟨[("contact", .object [("wa_id", .text "5511")]), ("meta", .object []),
      ("trace", .list [.ofInt (-7), .null]),
      ("vars", .object [("tags", .list [.object [("", .bool true)]])])]⟩

/-- Its record, made before 1970 and between two microseconds. -/
def endlessRecord : Suspension := ofRequest ⟨2 ^ 128 - 1⟩ "bot" "\\5511" "" ⟨-1, 123456789⟩ endless

theorem paused_read_again_endless :
    SuspendRequest.decoder.ofText endless.declared.compact = .ok endless ∧
      decoder.ofText endlessRecord.declared.compact = .ok endlessRecord ∧
      decoder.ofValue endlessRecord.toJson = .ok endlessRecord := by
  have hcontext : endless.context.Lasting := by
    refine ⟨?_, by decide⟩
    simp only [endless, Context.toJson, Json.WellFormed, Json.WellFormedMembers,
      Json.WellFormedItems, Keyed.Sorted, Json.ofInt, Number.Valid]
    decide +kernel
  obtain ⟨⟨hrequest, -⟩, hrecord, hvalue⟩ :=
    paused_read_again (r := endless) (s := endlessRecord) ⟨hcontext, Instant.proper_latest⟩
      ⟨by decide, hcontext, Instant.proper_latest, ⟨by decide, by decide, by decide⟩⟩
  exact ⟨(hrequest _ (by simp)).mpr (by decide), (hrecord _ (by simp)).mpr (by decide), hvalue⟩

end Suspension

end ChatFlow
