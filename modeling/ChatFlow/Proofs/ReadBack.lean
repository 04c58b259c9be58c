import ChatFlow.Proofs.JsonText
import ChatFlow.Proofs.Suspensions

namespace ChatFlow

theorem Text.length_hexDigits_le {n : Nat} (h : n < 16 ^ 32) : (hexDigits n).length ≤ 32 :=
  (Nat.length_toDigits_le_iff (by decide) (by decide)).mpr h

theorem Identifier.getElem?_group {ds : List Char} (h : ds.length = 32) :
    ∀ i ∈ [8, 13, 18, 23], (group ds)[i]? = some '-' := by
  have h8 : (ds.take 8).length = 8 := by simp [h]
  have h12 : ((ds.drop 8).take 4).length = 4 := by simp [h]
  have h16 : ((ds.drop 12).take 4).length = 4 := by simp [h]
  have h20 : ((ds.drop 16).take 4).length = 4 := by simp [h]
  simp [group, List.getElem?_append, h]

theorem Identifier.ofText?_text {id : Identifier} (h : id.value < 2 ^ 128) :
    ofText? id.text = some id := by
  have hlength : id.digits.length = 32 := by
    have hle := Text.length_hexDigits_le (n := id.value) h
    rw [digits, List.length_append, List.length_replicate]
    omega
  have hgroup : (group id.digits).length = 36 := by rw [length_group (by omega), hlength]
  have hhyphens : ([8, 13, 18, 23].all fun i => (group id.digits)[i]? == some '-') = true :=
    List.all_eq_true.mpr fun i hi => beq_iff_eq.mpr (getElem?_group hlength i hi)
  have hhex : id.digits.all Text.isHex = true := List.all_eq_true.mpr fun _ => isHex_of_mem_digits
  have hread : ofGroups? (group id.digits) = ofDigits? (ungroup (group id.digits)) :=
    if_pos (by rw [hgroup, hhyphens]; decide)
  have hdigits : ofDigits? id.digits = some ⟨Text.hexNumber id.digits⟩ :=
    if_pos (by rw [hlength, hhex]; decide)
  unfold ofText?
  simp only [toList_text, hgroup]
  rw [hread, ungroup_group (by omega), hdigits, hexNumber_digits]

namespace Column

theorem spellsNumber_eq_false {c : Char} (hspace : isSpace c = false)
    (hdigit : Decimal.isDigit c = false) (hsign : c ≠ '+' ∧ c ≠ '-') (hpoint : c ≠ '.')
    (cs : List Char) : spellsNumber (.ofList (c :: cs)) = false := by
  have hback : (((c :: cs).reverse.dropWhile isSpace).reverse) =
      c :: (cs.reverse.dropWhile isSpace).reverse := by
    have hend : (cs.reverse ++ [c]).dropWhile isSpace = cs.reverse.dropWhile isSpace ++ [c] := by
      rw [List.dropWhile_append]
      split
      · next hempty =>
        rw [List.isEmpty_iff.mp hempty]
        exact List.dropWhile_cons_of_neg (by simp [hspace])
      · rfl
    rw [List.reverse_cons, hend, List.reverse_append]
    rfl
  have hfront : (c :: cs).dropWhile isSpace = c :: cs :=
    List.dropWhile_cons_of_neg (by simp [hspace])
  have hunsigned : ∀ rest, unsigned (c :: rest) = c :: rest := by
    intro rest
    unfold unsigned
    split
    · next heq => exact absurd (List.cons.inj heq).1 hsign.1
    · next heq => exact absurd (List.cons.inj heq).1 hsign.2
    · rfl
  rw [spellsNumber, String.toList_ofList, hfront, hback, hunsigned, digits,
    List.takeWhile_cons_of_neg (by simp [hdigit]), List.dropWhile_cons_of_neg (by simp [hdigit])]
  dsimp only
  split
  · next heq => exact absurd (List.cons.inj heq).1 hpoint
  · rfl

theorem read?_object (cs : List Char) : read? (.ofList ('\x7b' :: cs)) = some
    (.ofList ('\x7b' :: cs)) := by
  rw [read?, spellsNumber_eq_false (by decide) (by decide) (by decide) (by decide)]
  rfl

end Column

theorem Json.Decoder.ofColumn_object {α : Type} (d : Json.Decoder α) {v : Json}
    {members : Keyed Json} (hv : v = .object members) :
    d.ofColumn v.compact = (d.ofText v.compact).mapError fun _ => .undecodable := by
  obtain ⟨cs, hcompact⟩ := Json.exists_compact_object members
  have hcolumn : Column.read? v.compact = some v.compact := by
    rw [hv, hcompact]
    exact Column.read?_object cs
  unfold ofColumn
  rw [hcolumn]
  dsimp only
  cases d.ofText v.compact <;> rfl

namespace Instant

def IsWhole (t : Instant) : Prop := ∃ ms, ofMillis? ms = some t

variable {t : Instant}

theorem toMillis_of_ofMillis? {ms : Int} (h : ofMillis? ms = some t) : t.toMillis = ms := by
  unfold ofMillis? at h
  split at h
  · cases h
    simp only [toMillis]
    omega
  · cases h

theorem ofMillis?_toMillis (h : t.IsWhole) : ofMillis? t.toMillis = some t := by
  obtain ⟨ms, hms⟩ := h
  rw [toMillis_of_ofMillis? hms, hms]

theorem toMillis_le (h : t.IsWhole) {now : Instant} (hle : t.le now = true) :
    t.toMillis ≤ now.toMillis := by
  obtain ⟨ms, hms⟩ := h
  have hnanos : t.nanos < nanosPerSecond := by
    unfold ofMillis? at hms
    split at hms
    · cases hms
      simp only [nanosPerSecond]
      omega
    · cases hms
  simp only [le, nanosPerSecond, Bool.or_eq_true, Bool.and_eq_true, decide_eq_true_eq, beq_iff_eq]
    at hle hnanos
  simp only [toMillis]
  omega

end Instant

namespace Context

def HasNamespaces (c : Context) : Prop :=
  ∀ name ∈ [contact, vars, meta_], ∃ members, Keyed.get? name c.root = some (.object members)

theorem hasNamespaces_iff {c : Context} :
    (∀ name ∈ [contact, vars, meta_], (Keyed.get? name c.root).any Json.isObject = true) ↔
      c.HasNamespaces := by
  refine forall₂_congr fun name _ => ?_
  constructor
  · intro h
    obtain ⟨v, hget, hobject⟩ := (Option.any_eq_true _ _).mp h
    cases v with
    | object members => exact ⟨members, hget⟩
    | _ => cases hobject
  · rintro ⟨members, hget⟩
    rw [hget]
    rfl

instance (c : Context) : Decidable c.HasNamespaces := decidable_of_iff _ hasNamespaces_iff

theorem ofMembers_root {c : Context} (h : c.HasNamespaces) : ofMembers c.root = c := by
  have hensure : ∀ name ∈ [contact, vars, meta_], ensureObject name c.root = c.root := by
    intro name hname
    obtain ⟨members, hget⟩ := h name hname
    rw [ensureObject, hget]
  rw [ofMembers, hensure contact (by simp), hensure vars (by simp), hensure meta_ (by simp)]

def reread (c : Context) : Context := ⟨Json.rereadMembers c.root⟩

/-- Every number in the context is read back as it is printed. -/
def Kept (c : Context) : Prop := c.toJson.Kept

instance (c : Context) : Decidable c.Kept := inferInstanceAs (Decidable c.toJson.Kept)

theorem Kept.reread_eq {c : Context} (h : c.Kept) : c.reread = c :=
  congrArg Context.mk (Json.object.inj h)

theorem kept_iff {c : Context} : c.Kept ↔ c.reread = c :=
  ⟨Kept.reread_eq, congrArg Context.toJson⟩

theorem HasNamespaces.reread {c : Context} (h : c.HasNamespaces) : c.reread.HasNamespaces := by
  intro name hname
  obtain ⟨members, hget⟩ := h name hname
  exact ⟨Json.rereadMembers members, by rw [Context.reread, Json.get?_rereadMembers, hget]; rfl⟩

theorem depthMembers_ensureObject {n : Nat} (hn : 1 ≤ n) (name : String) {root : Keyed Json}
    (h : Json.depthMembers root ≤ n) : Json.depthMembers (ensureObject name root) ≤ n := by
  unfold ensureObject
  split
  · exact h
  · exact Json.depthMembers_insert hn h

/-- A context that was read is no deeper than there was room for. -/
theorem depth_le_of_decoder {room : Nat} {o : Json.Outline} {c : Context} (hroom : 2 ≤ room)
    (h : decoder room o = .ok c) : c.toJson.depth ≤ room := by
  unfold decoder at h
  cases hmembers : Json.Decoder.members room o with
  | error e =>
    rw [hmembers] at h
    cases h
  | ok root =>
    rw [hmembers] at h
    cases h
    have hdepth := Json.Decoder.depthMembers_lt_of_members hmembers
    have hone : 1 ≤ room - 1 := by omega
    have hroot : Json.depthMembers (ofMembers root).root ≤ room - 1 :=
      depthMembers_ensureObject hone _ (depthMembers_ensureObject hone _
        (depthMembers_ensureObject hone _ (by omega)))
    show Json.depthMembers (ofMembers root).root + 1 ≤ room
    omega

theorem depth_le_of_ofColumn {stored : String} {c : Context} (h : decoder.ofColumn stored = .ok c) :
    c.toJson.depth ≤ Json.maxDepth := by
  unfold Json.Decoder.ofColumn at h
  split at h
  · cases h
  · split at h
    · next hread =>
      cases h
      obtain ⟨a, hdecoded, hrest⟩ := Except.bind_eq_ok hread
      split at hrest
      · cases hrest
      · cases hrest
        exact depth_le_of_decoder (by decide) hdecoded
    · cases h

/-- The context of a column is read if it is not too deep. -/
theorem ofColumn_compact {c : Context} (hc : c.toJson.WellFormed) (h : c.HasNamespaces) :
    (decoder.ofColumn c.toJson.compact).toOption =
      if c.toJson.depth ≤ Json.maxDepth then some c.reread else none := by
  have hmembers : decoder Json.maxDepth (.ofJson c.reread.toJson) =
      (if c.reread.toJson.depth ≤ Json.maxDepth then .ok c.reread.root else .error .malformed :
        Except _ _).map ofMembers :=
    congrArg (Except.map ofMembers) (Json.Decoder.members_ofJson hc.reread Json.maxDepth)
  have hobject : c.toJson = .object c.root := rfl
  have hreread : c.toJson.reread = c.reread.toJson := rfl
  have hdepth : c.reread.toJson.depth = c.toJson.depth := Json.depth_reread c.toJson
  rw [Json.Decoder.ofColumn_object decoder hobject, Json.Decoder.ofText_compact decoder hc, hreread,
    hmembers, hdepth]
  by_cases hroom : c.toJson.depth ≤ Json.maxDepth
  · rw [if_pos hroom, if_pos hroom]
    exact congrArg some (ofMembers_root h.reread)
  · rw [if_neg hroom, if_neg hroom]
    rfl

end Context

/-- A record as the program holds it between whole milliseconds: its identifier has 128 bits, its
context is a JSON value with the three namespaces. -/
structure Suspension.Storable (s : Suspension) : Prop where
  id : s.id.value < 2 ^ 128
  context : s.context.toJson.WellFormed
  namespaces : s.context.HasNamespaces
  resumeAt : s.resumeAt.IsWhole
  createdAt : s.createdAt.IsWhole

def Suspension.reread (s : Suspension) : Suspension := { s with context := s.context.reread }

theorem Suspension.reread_eq_iff {s : Suspension} : s.reread = s ↔ s.context.Kept := by
  rw [Context.kept_iff]
  exact ⟨congrArg Suspension.context, fun h => congrArg (fun c => { s with context := c }) h⟩

namespace SuspensionRow

theorem toSuspension?_ofSuspension {s : Suspension} (h : s.Storable) :
    (ofSuspension s).toSuspension? =
      if s.context.toJson.depth ≤ Json.maxDepth then some s.reread else none := by
  have hcontext := Context.ofColumn_compact h.context h.namespaces
  simp only [toSuspension?, ofSuspension, Identifier.ofText?_text h.id, hcontext,
    Instant.ofMillis?_toMillis h.resumeAt, Instant.ofMillis?_toMillis h.createdAt]
  split <;> rfl

/-- The context of a record that was read is no deeper than a text may be. -/
theorem depth_le_of_toSuspension? {row : SuspensionRow} {s : Suspension}
    (h : row.toSuspension? = some s) :
    s.context.toJson.depth ≤ Json.maxDepth := by
  simp only [toSuspension?, Option.bind_eq_bind, Option.bind_eq_some_iff, Option.pure_def,
    Option.some.injEq] at h
  obtain ⟨id, -, context, hcontext, resumeAt, -, createdAt, -, rfl⟩ := h
  cases hstored : Context.decoder.ofColumn row.context with
  | error e =>
    rw [hstored] at hcontext
    cases hcontext
  | ok c =>
    rw [hstored] at hcontext
    cases hcontext
    exact Context.depth_le_of_ofColumn hstored

theorem earlier_total (a b : SuspensionRow) : (earlier a b || earlier b a) = true := by
  unfold earlier
  rw [Bool.or_eq_true]
  split <;> split <;> simp only [decide_eq_true_eq] <;> omega

theorem earlier_trans {a b c : SuspensionRow} (h : earlier a b = true) (h' : earlier b c = true) :
    earlier a c = true := by
  unfold earlier at *
  split at h <;> split at h' <;> split <;> simp only [decide_eq_true_eq] at * <;> omega

end SuspensionRow

/-- An element is among the first of a sorted list if there are not too many that do not come
after it. -/
theorem mem_take_mergeSort {α : Type} {le : α → α → Bool}
    (htotal : ∀ a b, (le a b || le b a) = true) (htrans : ∀ a b c, le a b = true → le b c = true →
      le a c = true) {l : List α} {x : α} (hx : x ∈ l)
    {limit : Nat} (hlimit : (l.filter fun y => le y x).length ≤ limit) :
    x ∈ (l.mergeSort le).take limit := by
  have hperm := List.mergeSort_perm l le
  have hsorted := List.pairwise_mergeSort htrans htotal l
  obtain ⟨before, behind, hsplit⟩ := List.append_of_mem (hperm.mem_iff.mpr hx)
  rw [hsplit] at hsorted
  have hbefore : ∀ y ∈ before, le y x = true := fun y hy =>
    (List.pairwise_append.mp hsorted).2.2 y hy x List.mem_cons_self
  have hself : le x x = true := by simpa using htotal x x
  have hcount : before.length + 1 ≤ (l.filter fun y => le y x).length := by
    have hlength := (hperm.filter fun y => le y x).length_eq
    have hhead : (x :: behind).filter (fun y => le y x) = x :: behind.filter (fun y => le y x) :=
      List.filter_cons_of_pos hself
    rw [hsplit, List.filter_append, List.filter_eq_self.mpr hbefore, hhead, List.length_append,
      List.length_cons] at hlength
    omega
  obtain ⟨room, hroom⟩ : ∃ room, limit - before.length = room + 1 :=
    ⟨limit - before.length - 1, by omega⟩
  rw [hsplit, List.take_append, hroom, List.take_succ_cons]
  exact List.mem_append_right _ List.mem_cons_self

namespace SuspensionRows

/-- The place of a row among those that are due: how many do not come after it, the row itself among
them. -/
def place (rows : SuspensionRows) (now : Instant) (row : SuspensionRow) : Nat :=
  ((rows.filter (·.resumeAt ≤ now.toMillis)).filter fun other => other.earlier row).length

variable {rows : SuspensionRows} {s : Suspension} {now : Instant} {limit : Nat}

theorem mem_chosen (hrow : SuspensionRow.ofSuspension s ∈ rows) (hs : s.Storable)
    (hdue : s.isDue now = true) (hplace : rows.place now (.ofSuspension s) ≤ limit) :
    SuspensionRow.ofSuspension s ∈
      ((rows.filter (·.resumeAt ≤ now.toMillis)).mergeSort SuspensionRow.earlier).take limit := by
  refine mem_take_mergeSort SuspensionRow.earlier_total (fun _ _ _ => SuspensionRow.earlier_trans)
    ?_ hplace
  exact List.mem_filter.mpr ⟨hrow, decide_eq_true (Instant.toMillis_le hs.resumeAt hdue)⟩

/-- A record whose context is not too deep is loaded when it is due, and stays. -/
theorem due_of_depth_le (hdistinct : (rows.map (·.id)).Nodup)
    (hrow : SuspensionRow.ofSuspension s ∈ rows) (hs : s.Storable) (hdue : s.isDue now = true)
    (hplace : rows.place now (.ofSuspension s) ≤ limit)
    (hdepth : s.context.toJson.depth ≤ Json.maxDepth) :
    s.reread ∈ (rows.due now limit).1 ∧ SuspensionRow.ofSuspension s ∈ (rows.due now limit).2 := by
  have hchosen := mem_chosen hrow hs hdue hplace
  have hread := SuspensionRow.toSuspension?_ofSuspension hs
  rw [if_pos hdepth] at hread
  refine ⟨List.mem_filterMap.mpr ⟨_, hchosen, hread⟩, List.mem_filter.mpr ⟨hrow, ?_⟩⟩
  rw [Bool.not_eq_true', List.any_eq_false]
  intro other hother hid
  obtain ⟨hmem, hbroken⟩ := List.mem_filter.mp hother
  -- a broken row of that id would be this one
  have hrows : other ∈ rows :=
    (List.mem_filter.mp (List.mem_mergeSort.mp (List.mem_of_mem_take hmem))).1
  rw [List.inj_on_of_nodup_map hdistinct hrows hrow (eq_of_beq hid), hread] at hbroken
  cases hbroken

/-- From the row of a record whose context is too deep nothing is loaded, and it is removed when it
is due. -/
theorem due_of_lt_depth (hrow : SuspensionRow.ofSuspension s ∈ rows) (hs : s.Storable)
    (hdue : s.isDue now = true) (hplace : rows.place now (.ofSuspension s) ≤ limit)
    (hdepth : Json.maxDepth < s.context.toJson.depth) :
    s ∉ (rows.due now limit).1 ∧ s.reread ∉ (rows.due now limit).1 ∧
      SuspensionRow.ofSuspension s ∉ (rows.due now limit).2 := by
  have hchosen := mem_chosen hrow hs hdue hplace
  have hread := SuspensionRow.toSuspension?_ofSuspension hs
  rw [if_neg (Nat.not_le.mpr hdepth)] at hread
  have hshallow : ∀ t ∈ (rows.due now limit).1, t.context.toJson.depth ≤ Json.maxDepth := by
    intro t ht
    obtain ⟨row, -, hrow⟩ := List.mem_filterMap.mp ht
    exact SuspensionRow.depth_le_of_toSuspension? hrow
  have hdeep : Json.maxDepth < s.reread.context.toJson.depth :=
    (Json.depth_reread s.context.toJson).symm ▸ hdepth
  refine ⟨fun hmem => ?_, fun hmem => ?_, fun hmem => ?_⟩
  · exact Nat.not_le.mpr hdepth (hshallow s hmem)
  · exact Nat.not_le.mpr hdeep (hshallow s.reread hmem)
  · obtain ⟨-, hkept⟩ := List.mem_filter.mp hmem
    rw [Bool.not_eq_true', List.any_eq_false] at hkept
    refine hkept _ (List.mem_filter.mpr ⟨hchosen, ?_⟩) (beq_self_eq_true _)
    rw [hread]
    rfl

end SuspensionRows

end ChatFlow
