import ChatFlow.Proofs.ReadBack

namespace ChatFlow

namespace Instant

variable {a b c : Instant}

theorem le_iff : a.le b = true ↔ a.seconds < b.seconds ∨ a.seconds = b.seconds ∧
    a.nanos ≤ b.nanos := by
  simp [le]

theorem le_total (a b : Instant) : a.le b = true ∨ b.le a = true := by
  rw [le_iff, le_iff]
  omega

theorem le_trans (hab : a.le b = true) (hbc : b.le c = true) : a.le c = true := by
  rw [le_iff] at *
  omega

theorem le_antisymm (hab : a.le b = true) (hba : b.le a = true) : a = b := by
  obtain ⟨s, n⟩ := a
  obtain ⟨s', n'⟩ := b
  rw [le_iff] at *
  simp only [Instant.mk.injEq] at *
  omega

theorem IsWhole.nanos_eq (h : a.IsWhole) : ∃ n < 1000, a.nanos = n * 1000000 := by
  obtain ⟨ms, hms⟩ := h
  unfold ofMillis? at hms
  split at hms
  · cases hms
    exact ⟨(ms % 1000).toNat, by omega, rfl⟩
  · cases hms

/-- Whole instants are as far apart as their milliseconds. -/
theorem toMillis_le_iff (ha : a.IsWhole) (hb : b.IsWhole) : a.toMillis ≤ b.toMillis ↔
    a.le b = true := by
  obtain ⟨n, hn, hna⟩ := ha.nanos_eq
  obtain ⟨m, hm, hmb⟩ := hb.nanos_eq
  rw [le_iff, toMillis, toMillis, hna, hmb]
  omega

theorem toMillis_inj (ha : a.IsWhole) (hb : b.IsWhole) : a.toMillis = b.toMillis ↔ a = b := by
  constructor
  · intro h
    apply le_antisymm
    · exact (toMillis_le_iff ha hb).mp h.le
    · exact (toMillis_le_iff hb ha).mp h.ge
  · intro h
    rw [h]

def Before (a b : Instant) : Prop := a.le b = true ∧ a ≠ b

end Instant

namespace Suspension

/-- A record comes before another one: by the time to go on, then by the time when it was made. -/
def Before (a b : Suspension) : Prop :=
  a.resumeAt.Before b.resumeAt ∨ a.resumeAt = b.resumeAt ∧ a.createdAt.Before b.createdAt

/-- The records are those among all whose time has come, in order and up to a number. -/
def FirstDue (all : List Suspension) (now : Instant) (limit : Nat)
    (records : List Suspension) : Prop :=
  ∃ later, (records ++ later).Perm (all.filter (·.isDue now)) ∧ (records ++ later).Pairwise Before ∧
    records.length = min limit (all.filter (·.isDue now)).length

/-- A record that is read back from its row: its context is its own round trip through JSON. -/
structure Restorable (s : Suspension) : Prop where
  id : s.id.value < 2 ^ 128
  context : Context.decoder.ofText s.context.toJson.compact = .ok s.context
  resumeAt : s.resumeAt.IsWhole
  createdAt : s.createdAt.IsWhole

theorem Restorable.ofColumn {s : Suspension} (h : s.Restorable) :
    Context.decoder.ofColumn s.context.toJson.compact = .ok s.context := by
  have hobject : s.context.toJson = .object s.context.root := rfl
  rw [Json.Decoder.ofColumn_object Context.decoder hobject, h.context]
  rfl

theorem Restorable.toSuspension? {s : Suspension} (h : s.Restorable) :
    (SuspensionRow.ofSuspension s).toSuspension? = some s := by
  simp only [SuspensionRow.toSuspension?, SuspensionRow.ofSuspension, Identifier.ofText?_text h.id,
    h.ofColumn, Instant.ofMillis?_toMillis h.resumeAt, Instant.ofMillis?_toMillis h.createdAt]
  rfl

end Suspension

namespace SuspensionTable

theorem earlier_iff {a b : Suspension} : earlier a b = true ↔
    if a.resumeAt = b.resumeAt then a.createdAt.le b.createdAt = true
      else a.resumeAt.le b.resumeAt = true := by
  unfold earlier
  split <;> rfl

theorem earlier_total (a b : Suspension) : (earlier a b || earlier b a) = true := by
  rw [Bool.or_eq_true, earlier_iff, earlier_iff]
  by_cases h : a.resumeAt = b.resumeAt
  · rw [if_pos h, if_pos h.symm]
    exact Instant.le_total _ _
  · rw [if_neg h, if_neg (Ne.symm h)]
    exact Instant.le_total _ _

theorem earlier_trans {a b c : Suspension} (hab : earlier a b = true) (hbc : earlier b c = true) :
    earlier a c = true := by
  rw [earlier_iff] at *
  by_cases h : a.resumeAt = b.resumeAt
  · rw [if_pos h] at hab
    rw [h]
    split at hbc
    · next h' =>
      rw [if_pos h']
      exact Instant.le_trans hab hbc
    · next h' => rwa [if_neg h']
  · rw [if_neg h] at hab
    by_cases h' : b.resumeAt = c.resumeAt
    · rw [← h', if_neg h]
      exact hab
    · rw [if_neg h'] at hbc
      have hne : a.resumeAt ≠ c.resumeAt := by
        intro heq
        rw [heq] at hab
        exact h' (Instant.le_antisymm hbc hab)
      rw [if_neg hne]
      exact Instant.le_trans hab hbc

theorem pairwise_mergeSort (l : List Suspension) :
    (l.mergeSort earlier).Pairwise fun a b => earlier a b = true :=
  List.pairwise_mergeSort (fun a b c => @earlier_trans a b c) earlier_total l

theorem before_of_earlier {a b : Suspension} (h : earlier a b = true)
    (hne : ¬ (a.resumeAt = b.resumeAt ∧ a.createdAt = b.createdAt)) : a.Before b := by
  rw [earlier_iff] at h
  split at h
  · next heq => exact .inr ⟨heq, h, fun heq' => hne ⟨heq, heq'⟩⟩
  · next hne => exact .inl ⟨h, hne⟩

end SuspensionTable

namespace SuspensionRow

theorem earlier_iff {a b : SuspensionRow} : earlier a b = true ↔
    if a.resumeAt = b.resumeAt then a.createdAt ≤ b.createdAt else a.resumeAt ≤ b.resumeAt := by
  unfold earlier
  split <;> exact decide_eq_true_iff

theorem pairwise_mergeSort (l : List SuspensionRow) :
    (l.mergeSort earlier).Pairwise fun a b => earlier a b = true :=
  List.pairwise_mergeSort (fun a b c => @earlier_trans a b c) earlier_total l

end SuspensionRow

namespace SuspensionStore

inductive Request
  | save (record : Suspension)
  | due (now : Instant) (limit : Nat)
  | delete (id : Identifier)
  | cancel (botId conversationId : String)
  | pending (botId conversationId : String)
  deriving DecidableEq

inductive Reply
  | saved
  | found (records : List Suspension)
  | deleted (was : Bool)
  | cancelled (count : Nat)
  deriving DecidableEq

def respond (store : SuspensionStore) : Request → Reply × SuspensionStore
  | .save record => (.saved, store.save record)
  | .due now limit => (store.due now limit).map .found id
  | .delete identifier => (store.delete identifier).map .deleted id
  | .cancel botId conversationId => (store.cancel botId conversationId).map .cancelled id
  | .pending botId conversationId => (.found (store.pending botId conversationId), store)

def replies (store : SuspensionStore) : List Request → List Reply
  | [] => []
  | request :: requests => (store.respond request).1 :: (store.respond request).2.replies requests

def behind (store : SuspensionStore) (requests : List Request) : SuspensionStore :=
  requests.foldl (fun store request => (store.respond request).2) store

/-- What may be asked of a store that holds some records: what is saved can be restored, has an
identifier of its own, and is told from the others by its times; and the clock shows whole
milliseconds. -/
def Request.Admissible (records : List Suspension) : Request → Prop
  | .save record => record.Restorable ∧
      ∀ s ∈ records, s.id ≠ record.id ∧
        ¬ (s.resumeAt = record.resumeAt ∧ s.createdAt = record.createdAt)
  | .due now _ => now.IsWhole
  | _ => True

def Admits (store : SuspensionStore) : List Request → Prop
  | [] => True
  | request :: requests =>
    request.Admissible store.records ∧ (store.respond request).2.Admits requests

/-- The rows stand for the records of the table, in any order; records can be restored and told from
each other. -/
structure Mirrors (table : SuspensionTable) (rows : SuspensionRows) : Prop where
  perm : rows.Perm (table.map SuspensionRow.ofSuspension)
  restorable : ∀ s ∈ table, s.Restorable
  ids : (table.map (·.id)).Nodup
  apart : ∀ a ∈ table, ∀ b ∈ table, a.resumeAt = b.resumeAt → a.createdAt = b.createdAt → a = b

section Mirrors

variable {table : SuspensionTable} {rows : SuspensionRows} {record : Suspension}

theorem mirrors_empty : Mirrors [] [] := by
  refine ⟨.refl _, List.forall_mem_nil _, .nil, ?_⟩
  intro a ha
  cases ha

theorem Mirrors.earlier_iff (h : Mirrors table rows) {a b : Suspension} (ha : a ∈ table)
    (hb : b ∈ table) :
    SuspensionRow.earlier (.ofSuspension a) (.ofSuspension b) = true ↔
      SuspensionTable.earlier a b = true := by
  have hresumeAt := (h.restorable a ha).resumeAt
  have hresumeAt' := (h.restorable b hb).resumeAt
  have hcreatedAt := (h.restorable a ha).createdAt
  have hcreatedAt' := (h.restorable b hb).createdAt
  rw [SuspensionRow.earlier_iff, SuspensionTable.earlier_iff]
  simp only [SuspensionRow.ofSuspension, Instant.toMillis_inj hresumeAt hresumeAt',
    Instant.toMillis_le_iff hresumeAt hresumeAt', Instant.toMillis_le_iff hcreatedAt hcreatedAt']

theorem Mirrors.eq_of_earlier (h : Mirrors table rows) {a b : Suspension} (ha : a ∈ table)
    (hb : b ∈ table) (hab : SuspensionTable.earlier a b = true)
    (hba : SuspensionTable.earlier b a = true) : a = b := by
  rw [SuspensionTable.earlier_iff] at hab hba
  have hresumeAt : a.resumeAt = b.resumeAt := by
    by_contra hne
    rw [if_neg hne] at hab
    rw [if_neg (Ne.symm hne)] at hba
    exact hne (Instant.le_antisymm hab hba)
  rw [if_pos hresumeAt] at hab
  rw [if_pos hresumeAt.symm] at hba
  exact h.apart a ha b hb hresumeAt (Instant.le_antisymm hab hba)

/-- Sorting does not depend on the order before, as no two records have the same times. -/
theorem Mirrors.mergeSort_eq (h : Mirrors table rows) {l : List Suspension} (hl : l ⊆ table)
    {r : List SuspensionRow} (hperm : r.Perm (l.map .ofSuspension)) :
    r.mergeSort SuspensionRow.earlier =
      (l.mergeSort SuspensionTable.earlier).map .ofSuspension := by
  have hmem : ∀ {s}, s ∈ l.mergeSort SuspensionTable.earlier → s ∈ table :=
    fun hs => hl (List.mem_mergeSort.mp hs)
  have hperm' : (r.mergeSort SuspensionRow.earlier).Perm
      ((l.mergeSort SuspensionTable.earlier).map .ofSuspension) :=
    ((List.mergeSort_perm r _).trans hperm).trans ((List.mergeSort_perm l _).map _).symm
  refine List.Perm.eq_of_pairwise ?_ (SuspensionRow.pairwise_mergeSort r) ?_ hperm'
  · intro x y hx hy hxy hyx
    obtain ⟨a, ha, rfl⟩ := List.mem_map.mp (hperm'.mem_iff.mp hx)
    obtain ⟨b, hb, rfl⟩ := List.mem_map.mp hy
    rw [h.earlier_iff (hmem ha) (hmem hb)] at hxy
    rw [h.earlier_iff (hmem hb) (hmem ha)] at hyx
    rw [h.eq_of_earlier (hmem ha) (hmem hb) hxy hyx]
  · apply List.pairwise_map.mpr
    apply (SuspensionTable.pairwise_mergeSort l).imp_of_mem
    intro a b ha hb hab
    exact (h.earlier_iff (hmem ha) (hmem hb)).mpr hab

theorem Mirrors.filterMap_eq (h : Mirrors table rows) {l : List Suspension} (hl : l ⊆ table) :
    (l.map .ofSuspension).filterMap SuspensionRow.toSuspension? = l := by
  rw [List.filterMap_map]
  have hsame : ∀ s ∈ l, (SuspensionRow.toSuspension? ∘ .ofSuspension) s = some s :=
    fun s hs => (h.restorable s (hl hs)).toSuspension?
  rw [List.filterMap_congr hsame, List.filterMap_some]

theorem Mirrors.filter_perm (h : Mirrors table rows) {p : Suspension → Bool}
    {q : SuspensionRow → Bool} (hpq : ∀ s ∈ table, q (.ofSuspension s) = p s) :
    (rows.filter q).Perm ((table.filter p).map .ofSuspension) := by
  have hperm := h.perm.filter q
  rw [List.filter_map] at hperm
  rwa [List.filter_congr (p := q ∘ .ofSuspension) hpq] at hperm

theorem Mirrors.filter (h : Mirrors table rows) {p : Suspension → Bool} {q : SuspensionRow → Bool}
    (hpq : ∀ s ∈ table, q (.ofSuspension s) = p s) : Mirrors (table.filter p) (rows.filter q) := by
  refine ⟨h.filter_perm hpq, ?_, h.ids.sublist (List.filter_sublist.map _), ?_⟩
  · intro s hs
    exact h.restorable s (List.mem_of_mem_filter hs)
  · intro a ha b hb
    exact h.apart a (List.mem_of_mem_filter ha) b (List.mem_of_mem_filter hb)

theorem Mirrors.any_eq (h : Mirrors table rows) {p : Suspension → Bool} {q : SuspensionRow → Bool}
    (hpq : ∀ s, q (.ofSuspension s) = p s) : rows.any q = table.any p := by
  rw [h.perm.any_eq, List.any_map]
  exact congrArg table.any (funext hpq)

theorem Mirrors.due_eq (h : Mirrors table rows) {now : Instant} (hnow : now.IsWhole) (limit : Nat) :
    rows.due now limit = (table.due now limit, rows) := by
  have hdue : ∀ s ∈ table, decide ((SuspensionRow.ofSuspension s).resumeAt ≤ now.toMillis) =
      s.isDue now := by
    intro s hs
    rw [Bool.eq_iff_iff, decide_eq_true_iff]
    exact Instant.toMillis_le_iff (h.restorable s hs).resumeAt hnow
  have hsub : table.due now limit ⊆ table := by
    intro s hs
    exact List.mem_of_mem_filter (List.mem_mergeSort.mp (List.mem_of_mem_take hs))
  have hchosen :
      ((rows.filter (·.resumeAt ≤ now.toMillis)).mergeSort SuspensionRow.earlier).take limit =
      (table.due now limit).map .ofSuspension := by
    rw [h.mergeSort_eq (List.filter_subset_self _) (h.filter_perm hdue), SuspensionTable.due,
      List.map_take]
  have hbroken : ((table.due now limit).map SuspensionRow.ofSuspension).filter
      (·.toSuspension?.isNone) = [] := by
    rw [List.filter_eq_nil_iff, List.forall_mem_map]
    intro s hs
    rw [(h.restorable s (hsub hs)).toSuspension?]
    exact Bool.false_ne_true
  unfold SuspensionRows.due
  simp only [hchosen, hbroken, h.filterMap_eq hsub, List.any_nil, Bool.not_false, List.filter_true]

theorem Mirrors.pending_eq (h : Mirrors table rows) (botId conversationId : String) :
    rows.pending botId conversationId = table.pending botId conversationId := by
  have hsub : table.pending botId conversationId ⊆ table :=
    fun s hs => List.mem_of_mem_filter (List.mem_mergeSort.mp hs)
  have hperm := h.filter_perm (p := SuspensionTable.belongs botId conversationId)
    (q := SuspensionRows.belongs botId conversationId) fun s _ => rfl
  rw [SuspensionRows.pending, h.mergeSort_eq (List.filter_subset_self _) hperm]
  exact h.filterMap_eq hsub

theorem Mirrors.delete (h : Mirrors table rows) (id : Identifier) :
    (rows.delete id).1 = (table.delete id).1 ∧ Mirrors (table.delete id).2 (rows.delete id).2 := by
  have hid : ∀ s : Suspension, ((SuspensionRow.ofSuspension s).id == id.text) = (s.id == id) := by
    intro s
    rw [Bool.eq_iff_iff, beq_iff_eq, beq_iff_eq]
    exact ⟨Identifier.text_injective, congrArg Identifier.text⟩
  refine ⟨h.any_eq hid, h.filter fun s _ => ?_⟩
  exact congrArg not (hid s)

theorem Mirrors.cancel (h : Mirrors table rows) (botId conversationId : String) :
    (rows.cancel botId conversationId).1 = (table.cancel botId conversationId).1 ∧
      Mirrors (table.cancel botId conversationId).2 (rows.cancel botId conversationId).2 := by
  have hperm := h.filter_perm (p := SuspensionTable.belongs botId conversationId)
    (q := SuspensionRows.belongs botId conversationId) fun s _ => rfl
  refine ⟨?_, h.filter fun s _ => rfl⟩
  rw [SuspensionRows.cancel, SuspensionTable.cancel, hperm.length_eq, List.length_map]

theorem Mirrors.save (h : Mirrors table rows) (hrecord : (Request.save record).Admissible table) :
    Mirrors (table.save record) (rows.save record) := by
  obtain ⟨hrestorable, hapart⟩ := hrecord
  have hnew : record.id.text ∉ table.map fun (s : Suspension) => s.id.text := by
    intro hmem
    obtain ⟨s, hs, htext⟩ := List.mem_map.mp hmem
    exact (hapart s hs).1 (Identifier.text_injective htext)
  have hnew' : record.id.text ∉ rows.map fun (row : SuspensionRow) => row.id := by
    rw [(h.perm.map _).mem_iff, List.map_map]
    exact hnew
  rw [SuspensionTable.save_eq_append hnew, SuspensionRows.save_eq_append hnew']
  constructor
  · rw [List.map_append]
    exact h.perm.append_right _
  · intro s hs
    rcases List.mem_append.mp hs with hs | hs
    · exact h.restorable s hs
    · rw [List.mem_singleton.mp hs]
      exact hrestorable
  · rw [List.map_append]
    apply h.ids.append (List.nodup_singleton _)
    intro id hid hrecord
    obtain ⟨s, hs, rfl⟩ := List.mem_map.mp hid
    exact (hapart s hs).1 (List.mem_singleton.mp hrecord)
  · intro a ha b hb hresumeAt hcreatedAt
    rw [List.mem_append, List.mem_singleton] at ha hb
    rcases ha with ha | rfl
    · rcases hb with hb | rfl
      · exact h.apart a ha b hb hresumeAt hcreatedAt
      · exact absurd ⟨hresumeAt, hcreatedAt⟩ (hapart a ha).2
    · rcases hb with hb | rfl
      · exact absurd ⟨hresumeAt.symm, hcreatedAt.symm⟩ (hapart b hb).2
      · rfl

/-- A request is answered alike, and the rows stand for the records afterwards. -/
theorem Mirrors.respond (h : Mirrors table rows) {request : Request}
    (hrequest : request.Admissible table) :
    ∃ reply table' rows', (memory table).respond request = (reply, memory table') ∧
      (SuspensionStore.rows rows).respond request = (reply, .rows rows') ∧
        Mirrors table' rows' := by
  cases request with
  | save record => exact ⟨_, _, _, rfl, rfl, h.save hrequest⟩
  | due now limit =>
    refine ⟨_, _, _, rfl, ?_, h⟩
    simp only [SuspensionStore.respond, SuspensionStore.due, h.due_eq hrequest]
    rfl
  | delete id =>
    obtain ⟨hreply, hmirrors⟩ := h.delete id
    refine ⟨_, _, _, rfl, ?_, hmirrors⟩
    simp only [SuspensionStore.respond, SuspensionStore.delete, hreply]
    rfl
  | cancel botId conversationId =>
    obtain ⟨hreply, hmirrors⟩ := h.cancel botId conversationId
    refine ⟨_, _, _, rfl, ?_, hmirrors⟩
    simp only [SuspensionStore.respond, SuspensionStore.cancel, hreply]
    rfl
  | pending botId conversationId =>
    refine ⟨_, _, _, rfl, ?_, h⟩
    simp only [SuspensionStore.respond, SuspensionStore.pending, h.pending_eq]

theorem Mirrors.firstDue (h : Mirrors table rows) (now : Instant) (limit : Nat) :
    Suspension.FirstDue table now limit (table.due now limit) := by
  have hperm := List.mergeSort_perm (table.filter (·.isDue now)) SuspensionTable.earlier
  have hsub : ∀ {s}, s ∈ (table.filter (·.isDue now)).mergeSort SuspensionTable.earlier →
      s ∈ table :=
    fun hs => List.mem_of_mem_filter (hperm.mem_iff.mp hs)
  have hnodup : ((table.filter (·.isDue now)).mergeSort SuspensionTable.earlier).Nodup :=
    hperm.nodup_iff.mpr (h.ids.of_map.sublist List.filter_sublist)
  refine ⟨((table.filter (·.isDue now)).mergeSort SuspensionTable.earlier).drop limit, ?_, ?_, ?_⟩
  · rw [SuspensionTable.due, List.take_append_drop]
    exact hperm
  · rw [SuspensionTable.due, List.take_append_drop]
    refine ((SuspensionTable.pairwise_mergeSort _).and hnodup).imp_of_mem ?_
    rintro a b ha hb ⟨hearlier, hne⟩
    apply SuspensionTable.before_of_earlier hearlier
    rintro ⟨hresumeAt, hcreatedAt⟩
    exact hne (h.apart a (hsub ha) b (hsub hb) hresumeAt hcreatedAt)
  · rw [SuspensionTable.due, List.length_take, hperm.length_eq]

/-- What is found does not depend on the order in which memory lists its records. -/
theorem Mirrors.found_eq_of_perm (h : Mirrors table rows) {table' : SuspensionTable}
    (hperm : table'.Perm table) :
    (∀ now limit, now.IsWhole → table'.due now limit = table.due now limit) ∧
      ∀ botId conversationId, table'.pending botId conversationId =
        table.pending botId conversationId := by
  have h' : Mirrors table' rows := by
    refine ⟨h.perm.trans (hperm.symm.map _), fun s hs => h.restorable s (hperm.subset hs),
      (hperm.map _).nodup_iff.mpr h.ids, ?_⟩
    intro a ha b hb
    exact h.apart a (hperm.subset ha) b (hperm.subset hb)
  constructor
  · intro now limit hnow
    exact congrArg Prod.fst ((h'.due_eq hnow limit).symm.trans (h.due_eq hnow limit))
  · intro botId conversationId
    rw [← h'.pending_eq, h.pending_eq]

theorem Mirrors.replies_eq (h : Mirrors table rows) {requests : List Request}
    (hrequests : (memory table).Admits requests) :
    (SuspensionStore.rows rows).replies requests = (memory table).replies requests ∧
      ∃ table' rows', (memory table).behind requests = memory table' ∧
        (SuspensionStore.rows rows).behind requests = .rows rows' ∧ Mirrors table' rows' := by
  induction requests generalizing table rows with
  | nil => exact ⟨rfl, table, rows, rfl, rfl, h⟩
  | cons request requests ih =>
    obtain ⟨hrequest, hrest⟩ := hrequests
    obtain ⟨reply, table', rows', hmemory, hrows, hmirrors⟩ := h.respond hrequest
    rw [hmemory] at hrest
    obtain ⟨hreplies, hbehind⟩ := ih hmirrors hrest
    constructor
    · rw [replies, replies, hmemory, hrows, hreplies]
    · simp only [behind, List.foldl_cons, hmemory, hrows]
      exact hbehind

end Mirrors

/-- Whatever is saved, deleted, cancelled and looked up in a store that is empty at first, rows
answer as memory does: records are told from each other, and each is its own round trip. At any time
both load the first records whose time has come, in order. -/
theorem rows_agree_with_memory {requests : List Request} (h : (memory []).Admits requests) :
    (SuspensionStore.rows []).replies requests = (memory []).replies requests ∧
      ∀ now limit, now.IsWhole →
        (((SuspensionStore.rows []).behind requests).due now limit).1 =
          (((memory []).behind requests).due now limit).1 ∧
        Suspension.FirstDue ((memory []).behind requests).records now limit
          (((memory []).behind requests).due now limit).1 := by
  obtain ⟨hreplies, table, rows, hmemory, hrows, hmirrors⟩ := mirrors_empty.replies_eq h
  refine ⟨hreplies, ?_⟩
  intro now limit hnow
  rw [hmemory, hrows]
  refine ⟨?_, hmirrors.firstDue now limit⟩
  show (rows.due now limit).1 = table.due now limit
  rw [hmirrors.due_eq hnow limit]

def waiting (number : Nat) (conversationId : String) (resumeAt : Int) : Suspension :=
  ⟨⟨number⟩, "bot", conversationId, "v1", "wait", .ofChannel conversationId, ⟨resumeAt, 0⟩,
    ⟨1893488400, 0⟩⟩

/-- Two runs wait, and the later one is saved first. One is loaded and deleted, the other is called
off. -/
def twoWaiting : List Request :=
  [.save (waiting 1 "5511" 1893488460), .save (waiting 2 "5522" 1893488430), .due ⟨1893488460, 0⟩ 1,
    .cancel "bot" "5511", .pending "bot" "5522", .delete ⟨2⟩, .pending "bot" "5522",
    .due ⟨1893488460, 0⟩ 2]

theorem rows_agree_with_memory_twoWaiting :
    (memory []).Admits twoWaiting ∧
      (SuspensionStore.rows []).replies twoWaiting =
        [.saved, .saved, .found [waiting 2 "5522" 1893488430], .cancelled 1,
          .found [waiting 2 "5522" 1893488430], .deleted true, .found [], .found []] := by
  have hfirst : (waiting 1 "5511" 1893488460).Restorable :=
    ⟨by decide, by decide +kernel, ⟨1893488460000, by decide⟩, ⟨1893488400000, by decide⟩⟩
  have hsecond : (waiting 2 "5522" 1893488430).Restorable :=
    ⟨by decide, by decide +kernel, ⟨1893488430000, by decide⟩, ⟨1893488400000, by decide⟩⟩
  have hadmits : (memory []).Admits twoWaiting := by
    refine ⟨⟨hfirst, List.forall_mem_nil _⟩, ⟨hsecond, ?_⟩, ⟨1893488460000, by decide⟩, trivial,
      trivial, trivial, trivial, ⟨1893488460000, by decide⟩, trivial⟩
    intro s hs
    rw [List.mem_singleton.mp hs]
    decide
  have hdue : SuspensionTable.due [waiting 1 "5511" 1893488460, waiting 2 "5522" 1893488430]
      ⟨1893488460, 0⟩ 1 =
      [waiting 2 "5522" 1893488430] := by
    simp [SuspensionTable.due, Suspension.isDue, Instant.le, List.mergeSort,
      SuspensionTable.earlier, waiting]
  have hpending : SuspensionTable.pending [waiting 2 "5522" 1893488430] "bot" "5522" =
      [waiting 2 "5522" 1893488430] := by
    simp [SuspensionTable.pending, SuspensionTable.belongs, waiting]
  have hnothing : SuspensionTable.due [] ⟨1893488460, 0⟩ 2 = [] ∧
      SuspensionTable.pending [] "bot" "5522" = [] := by
    simp [SuspensionTable.due, SuspensionTable.pending]
  refine ⟨hadmits, ?_⟩
  rw [(rows_agree_with_memory hadmits).1]
  show [.saved, .saved,
      .found (SuspensionTable.due [waiting 1 "5511" 1893488460, waiting 2 "5522" 1893488430]
    ⟨1893488460, 0⟩ 1), .cancelled 1,
    .found (SuspensionTable.pending [waiting 2 "5522" 1893488430] "bot" "5522"),
    Reply.deleted true, .found (SuspensionTable.pending [] "bot" "5522"),
    .found (SuspensionTable.due [] ⟨1893488460, 0⟩ 2)] = _
  rw [hdue, hpending, hnothing.1, hnothing.2]

end SuspensionStore

end ChatFlow
