import ChatFlow.Proofs.Identifier
import ChatFlow.Store.Suspensions
import Mathlib.Data.List.Nodup
import Mathlib.Data.List.Perm.Subperm

namespace ChatFlow

/-- Filtering before a partial map is filtering behind it by a test that agrees on what is
mapped. -/
theorem filterMap_filter_eq {α β : Type} {l : List α} {p : α → Bool} {q : β → Bool}
    {f : α → Option β} (h : ∀ a ∈ l, ∀ b, f a = some b → q b = p a) :
    (l.filter p).filterMap f = (l.filterMap f).filter q := by
  induction l with
  | nil => rfl
  | cons a rest ih =>
    have ih := ih fun b hb => h b (List.mem_cons_of_mem a hb)
    cases hf : f a with
    | none =>
      rw [List.filterMap_cons_none hf, ← ih, List.filter_cons]
      split
      · exact List.filterMap_cons_none hf
      · rfl
    | some b =>
      have hq := h a List.mem_cons_self b hf
      rw [List.filterMap_cons_some hf, List.filter_cons, List.filter_cons, hq, ← ih]
      split
      · exact List.filterMap_cons_some hf
      · rfl

theorem Instant.ofMillis_le {ms : Int} {now : Instant} (h : ms ≤ now.toMillis)
    (hnow : now.nanos < nanosPerSecond) : (ofMillis ms).le now = true := by
  simp only [toMillis, nanosPerSecond] at h hnow
  have hms : ms / 1000 < now.seconds ∨
      ms / 1000 = now.seconds ∧ (ms % 1000).toNat * 1000000 ≤ now.nanos := by omega
  unfold le
  rw [Bool.or_eq_true, Bool.and_eq_true, beq_iff_eq]
  rcases hms with hlt | ⟨heq, hnanos⟩
  · exact .inl (decide_eq_true hlt)
  · exact .inr ⟨heq, decide_eq_true hnanos⟩

namespace Suspension

theorem find?_eq_some_of_nodup {l : List Suspension} {s : Suspension} (h : (l.map (·.id)).Nodup)
    (hs : s ∈ l) : l.find? (·.id == s.id) = some s := by
  induction l with
  | nil => cases hs
  | cons a rest ih =>
    rw [List.map_cons, List.nodup_cons] at h
    rcases List.mem_cons.mp hs with rfl | hs
    · simp
    · have hne : a.id ≠ s.id := fun heq => h.1 (heq ▸ List.mem_map_of_mem hs)
      rw [List.find?_cons_of_neg (by simpa using hne), ih h.2 hs]

theorem eq_of_id_eq {l : List Suspension} {s s' : Suspension} (h : (l.map (·.id)).Nodup)
    (hs : s ∈ l) (hs' : s' ∈ l) (hid : s.id = s'.id) : s = s' :=
  List.inj_on_of_nodup_map h hs hs' hid

end Suspension

namespace SuspensionRow

theorem id_ofSuspension (s : Suspension) : (ofSuspension s).id = s.id.text := rfl

theorem id_of_toSuspension? {row : SuspensionRow} {s : Suspension}
    (h : row.toSuspension? = some s) :
    Identifier.ofText? row.id = some s.id := by
  simp only [toSuspension?, Option.bind_eq_bind, Option.bind_eq_some_iff, Option.pure_def,
    Option.some.injEq] at h
  obtain ⟨id, hid, context, -, resumeAt, -, createdAt, -, rfl⟩ := h
  exact hid

theorem owner_of_toSuspension? {row : SuspensionRow} {s : Suspension}
    (h : row.toSuspension? = some s) :
    s.botId = row.botId ∧ s.conversationId = row.conversationId := by
  simp only [toSuspension?, Option.bind_eq_bind, Option.bind_eq_some_iff, Option.pure_def,
    Option.some.injEq] at h
  obtain ⟨id, -, context, -, resumeAt, -, createdAt, -, rfl⟩ := h
  exact ⟨rfl, rfl⟩

theorem isDue_of_toSuspension? {row : SuspensionRow} {s : Suspension} {now : Instant}
    (h : row.toSuspension? = some s) (hrow : row.resumeAt ≤ now.toMillis)
    (hnow : now.nanos < Instant.nanosPerSecond) : s.isDue now = true := by
  simp only [toSuspension?, Option.bind_eq_bind, Option.bind_eq_some_iff, Option.pure_def,
    Option.some.injEq] at h
  obtain ⟨id, -, context, -, resumeAt, hresumeAt, createdAt, -, rfl⟩ := h
  unfold Instant.ofMillis? at hresumeAt
  split at hresumeAt
  · cases hresumeAt
    exact Instant.ofMillis_le hrow hnow
  · cases hresumeAt

theorem eq_of_nodup {rows : List SuspensionRow}
    (h : ((rows.filterMap (·.toSuspension?)).map (·.id)).Nodup) {a b : SuspensionRow}
    {s s' : Suspension} (ha : a ∈ rows) (hb : b ∈ rows) (hs : a.toSuspension? = some s)
    (hs' : b.toSuspension? = some s') (hid : s.id = s'.id) : a = b := by
  rw [List.nodup_iff_pairwise_ne, List.pairwise_map, List.pairwise_filterMap] at h
  -- the ids are distinct by position, so a row is compared with itself and with those before and
  -- behind it
  let same (a b : SuspensionRow) : Prop :=
    ∀ s, a.toSuspension? = some s → ∀ s', b.toSuspension? = some s' → s.id = s'.id → a = b
  have hsame : ∀ x ∈ rows, ∀ y ∈ rows, same x y := fun x hx y hy =>
    List.Pairwise.forall_of_forall_of_flip (fun _ _ _ _ _ _ _ => rfl)
      (h.imp fun hab s hs s' hs' heq => absurd heq (hab s hs s' hs'))
      (h.imp fun hab s hs s' hs' heq => absurd heq.symm (hab s' hs' s hs)) hx hy
  exact hsame a ha b hb s hs s' hs' hid

end SuspensionRow

theorem SuspensionTable.save_eq_append {table : SuspensionTable} {record : Suspension}
    (h : record.id.text ∉ table.map fun (s : Suspension) => s.id.text) :
    table.save record = table ++ [record] := by
  refine if_neg fun hany => h ?_
  obtain ⟨s, hs, hid⟩ := List.any_eq_true.mp hany
  exact List.mem_map.mpr ⟨s, hs, congrArg Identifier.text (by simpa using hid)⟩

theorem SuspensionRows.save_eq_append {rows : SuspensionRows} {record : Suspension}
    (h : record.id.text ∉ rows.map fun (row : SuspensionRow) => row.id) :
    rows.save record = rows ++ [SuspensionRow.ofSuspension record] := by
  refine if_neg fun hany => h ?_
  obtain ⟨row, hrow, hid⟩ := List.any_eq_true.mp hany
  exact List.mem_map.mpr ⟨row, hrow, eq_of_beq hid⟩

namespace SuspensionStore

/-- The records that can be read, in the order in which they are kept. -/
def records : SuspensionStore → List Suspension
  | memory table => table
  | rows r => r.filterMap (·.toSuspension?)

def readBack : SuspensionStore → Suspension → Option Suspension
  | memory _, record => some record
  | rows _, record => (SuspensionRow.ofSuspension record).toSuspension?

/-- The texts under which all is kept, also what cannot be read. -/
def keys : SuspensionStore → List String
  | memory table => table.map fun (s : Suspension) => s.id.text
  | rows r => r.map fun (row : SuspensionRow) => row.id

structure Distinct (store : SuspensionStore) : Prop where
  keys : store.keys.Nodup
  ids : (store.records.map (·.id)).Nodup

structure FreshFrom (n : Nat) (store : SuspensionStore) : Prop where
  keys : ∀ id : Identifier, n ≤ id.value → id.text ∉ store.keys
  ids : ∀ s ∈ store.records, s.id.value < n

variable {store : SuspensionStore} {n : Nat} {record : Suspension}

theorem FreshFrom.mono {m : Nat} (h : store.FreshFrom n) (hm : n ≤ m) : store.FreshFrom m :=
  ⟨fun id hid => h.keys id (Nat.le_trans hm hid), fun s hs => Nat.lt_of_lt_of_le (h.ids s hs) hm⟩

theorem readBack_id {s : Suspension} (h : store.readBack record = some s) : s.id = record.id := by
  cases store with
  | memory table =>
    cases h
    rfl
  | rows r =>
    unfold readBack at h
    have hid := SuspensionRow.id_of_toSuspension? h
    rw [SuspensionRow.id_ofSuspension] at hid
    exact Identifier.eq_of_ofText?_text hid

theorem keys_save (h : record.id.text ∉ store.keys) :
    (store.save record).keys = store.keys ++ [record.id.text] := by
  cases store with
  | memory table =>
    show (table.save record).map (fun (s : Suspension) => s.id.text) = _
    rw [SuspensionTable.save_eq_append h, List.map_append, List.map_singleton, keys]
  | rows r =>
    show (r.save record).map (fun (row : SuspensionRow) => row.id) = _
    rw [SuspensionRows.save_eq_append h, List.map_append, List.map_singleton, keys]
    rfl

theorem records_save (h : record.id.text ∉ store.keys) :
    (store.save record).records = store.records ++ (store.readBack record).toList := by
  cases store with
  | memory table => exact SuspensionTable.save_eq_append h
  | rows r =>
    show (r.save record).filterMap _ = _
    rw [SuspensionRows.save_eq_append h, List.filterMap_append]
    refine congrArg (_ ++ ·) ?_
    show List.filterMap _ [_] = Option.toList (SuspensionRow.toSuspension? _)
    cases hread : (SuspensionRow.ofSuspension record).toSuspension? with
    | none => exact List.filterMap_cons_none hread
    | some s => exact List.filterMap_cons_some hread

theorem readBack_save (saved : Suspension) : (store.save saved).readBack = store.readBack := by
  cases store <;> rfl

theorem Distinct.save_of_new (h : store.Distinct) (hnew : record.id.text ∉ store.keys)
    (hids : ∀ s ∈ store.records, s.id ≠ record.id) : (store.save record).Distinct := by
  constructor
  · rw [keys_save hnew]
    exact h.keys.append (List.nodup_singleton _) (by simpa using hnew)
  · rw [records_save hnew]
    cases hread : store.readBack record with
    | none => simpa using h.ids
    | some s =>
      rw [← readBack_id hread] at hids
      rw [List.map_append]
      exact h.ids.append (List.nodup_singleton _) (by simpa using hids)

theorem Distinct.save (h : store.Distinct) (hfresh : store.FreshFrom record.id.value) :
    (store.save record).Distinct := by
  refine h.save_of_new (hfresh.keys record.id (Nat.le_refl _)) fun s hs heq => ?_
  have hlt := hfresh.ids s hs
  rw [heq] at hlt
  exact Nat.lt_irrefl _ hlt

theorem FreshFrom.save (h : store.FreshFrom record.id.value) :
    (store.save record).FreshFrom (record.id.value + 1) := by
  have hnew := h.keys record.id (Nat.le_refl _)
  constructor
  · intro id hid hmem
    rw [keys_save hnew, List.mem_append, List.mem_singleton] at hmem
    rcases hmem with hmem | hmem
    · exact h.keys id (by omega) hmem
    · rw [Identifier.text_injective hmem] at hid
      omega
  · intro s hs
    rw [records_save hnew, List.mem_append, Option.mem_toList] at hs
    rcases hs with hs | hs
    · have := h.ids s hs
      omega
    · rw [readBack_id hs]
      omega

inductive Within : SuspensionStore → SuspensionStore → Prop
  | memory {table' table : SuspensionTable} (h : table'.Sublist table) :
    Within (.memory table') (.memory table)
  | rows {r' r : SuspensionRows} (h : r'.Sublist r) : Within (.rows r') (.rows r)

theorem within_refl (store : SuspensionStore) : store.Within store := by
  cases store with
  | memory table => exact .memory (List.Sublist.refl _)
  | rows r => exact .rows (List.Sublist.refl _)

theorem within_due (store : SuspensionStore) (now : Instant) (limit : Nat) :
    (store.due now limit).2.Within store := by
  cases store with
  | memory table => exact .memory (List.Sublist.refl _)
  | rows r => exact .rows List.filter_sublist

theorem within_delete (store : SuspensionStore) (id : Identifier) :
    (store.delete id).2.Within store := by
  cases store with
  | memory table => exact .memory List.filter_sublist
  | rows r => exact .rows List.filter_sublist

theorem within_cancel (store : SuspensionStore) (botId conversationId : String) :
    (store.cancel botId conversationId).2.Within store := by
  cases store with
  | memory table => exact .memory List.filter_sublist
  | rows r => exact .rows List.filter_sublist

theorem Within.keys {store' : SuspensionStore} (h : store'.Within store) :
    store'.keys.Sublist store.keys := by
  cases h with
  | memory h => exact h.map _
  | rows h => exact h.map _

theorem Within.records {store' : SuspensionStore} (h : store'.Within store) :
    store'.records.Sublist store.records := by
  cases h with
  | memory h => exact h
  | rows h => exact h.filterMap _

theorem keys_delete (id : Identifier) : ((store.delete id).2.keys).Sublist store.keys :=
  (store.within_delete id).keys

theorem records_delete (h : store.Distinct) (id : Identifier) :
    ∃ keeps : Suspension → Bool, (store.delete id).2.records = store.records.filter keeps ∧
      ∀ s, keeps s = false → s.id = id := by
  cases store with
  | memory table => exact ⟨(·.id != id), rfl, by simp⟩
  | rows r =>
    refine ⟨fun s => !r.any fun row => row.id == id.text && row.toSuspension? == some s, ?_, ?_⟩
    · refine filterMap_filter_eq fun row hrow s hs => ?_
      rw [bne, Bool.not_inj_iff, Bool.eq_iff_iff, List.any_eq_true]
      constructor
      · rintro ⟨other, hother, hid⟩
        simp only [Bool.and_eq_true, beq_iff_eq] at hid
        rw [SuspensionRow.eq_of_nodup h.ids hrow hother hs hid.2 rfl]
        simpa using hid.1
      · intro hid
        exact ⟨row, hrow, by simpa [hs] using hid⟩
    · intro s hs
      simp only [Bool.not_eq_false', List.any_eq_true, Bool.and_eq_true, beq_iff_eq] at hs
      obtain ⟨row, -, hid, hread⟩ := hs
      have := SuspensionRow.id_of_toSuspension? hread
      rw [hid] at this
      exact Identifier.eq_of_ofText?_text this

theorem readBack_delete (id : Identifier) : (store.delete id).2.readBack = store.readBack := by
  cases store <;> rfl

/-- What has lost some of its keys and records is as distinct and as fresh as before. -/
theorem Distinct.sublist {store' : SuspensionStore} (h : store.Distinct)
    (hkeys : store'.keys.Sublist store.keys) (hrecords : store'.records.Sublist store.records) :
    store'.Distinct :=
  ⟨h.keys.sublist hkeys, h.ids.sublist (hrecords.map _)⟩

theorem FreshFrom.sublist {store' : SuspensionStore} (h : store.FreshFrom n)
    (hkeys : store'.keys.Sublist store.keys) (hrecords : store'.records.Sublist store.records) :
    store'.FreshFrom n :=
  ⟨fun id hid hmem => h.keys id hid (hkeys.subset hmem), fun s hs => h.ids s (hrecords.subset hs)⟩

theorem keys_due (now : Instant) (limit : Nat) :
    ((store.due now limit).2.keys).Sublist store.keys :=
  (store.within_due now limit).keys

theorem readBack_due (now : Instant) (limit : Nat) :
    (store.due now limit).2.readBack = store.readBack := by
  cases store <;> rfl

theorem records_due (h : store.Distinct) (now : Instant) (limit : Nat) :
    (store.due now limit).2.records = store.records := by
  cases store with
  | memory table => rfl
  | rows r =>
    refine (filterMap_filter_eq (q := fun _ => true) fun row hrow s hs => ?_).trans
      (List.filter_true _)
    rw [eq_comm, Bool.not_eq_true', List.any_eq_false]
    intro other hother hid
    rw [List.mem_filter] at hother
    -- a row that was removed with a broken one has its key, and so it is the broken one
    have hmem : other ∈ r :=
      (List.mem_filter.mp (List.mem_mergeSort.mp (List.mem_of_mem_take hother.1))).1
    have heq := List.inj_on_of_nodup_map h.keys hmem hrow (by simpa using hid)
    rw [heq, hs] at hother
    exact absurd hother.2 (by simp)

theorem mem_due {s : Suspension} {now : Instant} {limit : Nat} (h : s ∈ (store.due now limit).1)
    (hnow : now.nanos < Instant.nanosPerSecond) : s.isDue now = true := by
  cases store with
  | memory table =>
    have hmem := List.mem_mergeSort.mp (List.mem_of_mem_take h)
    exact (List.mem_filter.mp hmem).2
  | rows r =>
    obtain ⟨row, hrow, hread⟩ := List.mem_filterMap.mp h
    have hmem := List.mem_mergeSort.mp (List.mem_of_mem_take hrow)
    exact SuspensionRow.isDue_of_toSuspension? hread
      (by simpa using (List.mem_filter.mp hmem).2) hnow

theorem due_subperm (store : SuspensionStore) (now : Instant) (limit : Nat) :
    (store.due now limit).1.Subperm store.records := by
  cases store with
  | memory table =>
    refine (List.take_sublist _ _).subperm.trans ?_
    exact (List.mergeSort_perm _ _).subperm.trans List.filter_sublist.subperm
  | rows r =>
    refine ((List.take_sublist _ _).filterMap _).subperm.trans ?_
    exact ((List.mergeSort_perm _ _).filterMap _).subperm.trans
      (List.filter_sublist.filterMap _).subperm

theorem owner_of_mem_pending {botId conversationId : String} {s : Suspension}
    (h : s ∈ store.pending botId conversationId) :
    s.botId = botId ∧ s.conversationId = conversationId := by
  cases store with
  | memory table =>
    have hmem := List.mem_mergeSort.mp h
    simpa [SuspensionTable.belongs] using (List.mem_filter.mp hmem).2
  | rows r =>
    obtain ⟨row, hrow, hread⟩ := List.mem_filterMap.mp h
    have hmem := List.mem_mergeSort.mp hrow
    have howner : row.botId = botId ∧ row.conversationId = conversationId := by
      simpa [SuspensionRows.belongs] using (List.mem_filter.mp hmem).2
    obtain ⟨hbot, hconversation⟩ := SuspensionRow.owner_of_toSuspension? hread
    exact ⟨hbot.trans howner.1, hconversation.trans howner.2⟩

theorem find?_pending (h : store.Distinct) {s : Suspension} (hs : s ∈ store.records) :
    (store.pending s.botId s.conversationId).find? (·.id == s.id) = some s := by
  cases store with
  | memory table =>
    have hperm := List.mergeSort_perm
      (table.filter (SuspensionTable.belongs s.botId s.conversationId)) SuspensionTable.earlier
    refine Suspension.find?_eq_some_of_nodup ?_ ?_
    · exact (hperm.map _).nodup_iff.mpr (h.ids.sublist (List.filter_sublist.map _))
    · refine hperm.mem_iff.mpr (List.mem_filter.mpr ⟨hs, ?_⟩)
      simp [SuspensionTable.belongs]
  | rows r =>
    have hperm := List.mergeSort_perm
      (r.filter (SuspensionRows.belongs s.botId s.conversationId)) SuspensionRow.earlier
    refine Suspension.find?_eq_some_of_nodup ?_ ?_
    · exact ((hperm.filterMap _).map _).nodup_iff.mpr
        (h.ids.sublist ((List.filter_sublist.filterMap _).map _))
    · obtain ⟨row, hrow, hread⟩ := List.mem_filterMap.mp hs
      obtain ⟨hbot, hconversation⟩ := SuspensionRow.owner_of_toSuspension? hread
      refine List.mem_filterMap.mpr ⟨row, hperm.mem_iff.mpr (List.mem_filter.mpr ⟨hrow, ?_⟩), hread⟩
      simp [SuspensionRows.belongs, hbot, hconversation]

theorem mem_records_of_mem_pending {botId conversationId : String} {s : Suspension}
    (h : s ∈ store.pending botId conversationId) : s ∈ store.records := by
  cases store with
  | memory table => exact (List.mem_filter.mp (List.mem_mergeSort.mp h)).1
  | rows r =>
    obtain ⟨row, hrow, hread⟩ := List.mem_filterMap.mp h
    exact List.mem_filterMap.mpr ⟨row, (List.mem_filter.mp (List.mem_mergeSort.mp hrow)).1, hread⟩

/-- What can be read of rows stands under the text of its id, as it does when it was saved. -/
def Tidy : SuspensionStore → Prop
  | memory _ => True
  | rows r => ∀ row ∈ r, ∀ s, row.toSuspension? = some s → row.id = s.id.text

/-- A store as saving under identifiers below a number leaves it. -/
structure Sound (n : Nat) (store : SuspensionStore) : Prop where
  distinct : store.Distinct
  tidy : store.Tidy
  fresh : store.FreshFrom n

variable {store' : SuspensionStore} {s : Suspension}

theorem Sound.within (hsound : store.Sound n) (h : store'.Within store) : store'.Sound n := by
  refine ⟨hsound.distinct.sublist h.keys h.records, ?_, hsound.fresh.sublist h.keys h.records⟩
  cases h with
  | memory h => trivial
  | rows h => exact fun row hrow => hsound.tidy row (h.subset hrow)

theorem Sound.mono {m : Nat} (h : store.Sound n) (hm : n ≤ m) : store.Sound m :=
  ⟨h.distinct, h.tidy, h.fresh.mono hm⟩

theorem Sound.mem_keys (h : store.Sound n) (hs : s ∈ store.records) : s.id.text ∈ store.keys := by
  cases store with
  | memory table => exact List.mem_map.mpr ⟨s, hs, rfl⟩
  | rows r =>
    obtain ⟨row, hrow, hread⟩ := List.mem_filterMap.mp hs
    exact List.mem_map.mpr ⟨row, hrow, h.tidy row hrow s hread⟩

/-- Under an identifier that was given but not used before a record may be saved. -/
theorem Sound.save (h : store.Sound n) (hnew : record.id.text ∉ store.keys)
    (hn : record.id.value < n) :
    (store.save record).Sound n := by
  have hids : ∀ s ∈ store.records, s.id ≠ record.id := fun s hs heq => hnew (heq ▸ h.mem_keys hs)
  refine ⟨h.distinct.save_of_new hnew hids, ?_, ?_, ?_⟩
  · cases store with
    | memory table => trivial
    | rows r =>
      show ∀ row ∈ r.save record, _
      rw [SuspensionRows.save_eq_append hnew]
      intro row hrow s hread
      rcases List.mem_append.mp hrow with hrow | hrow
      · exact h.tidy row hrow s hread
      · cases List.mem_singleton.mp hrow
        have hid : s.id = record.id :=
          readBack_id (show (SuspensionStore.rows r).readBack record = some s from hread)
        rw [hid]
        rfl
  · intro id hid hmem
    rw [keys_save hnew, List.mem_append, List.mem_singleton] at hmem
    rcases hmem with hmem | hmem
    · exact h.fresh.keys id hid hmem
    · rw [Identifier.text_injective hmem] at hid
      exact Nat.not_lt.mpr hid hn
  · intro s hs
    rw [records_save hnew, List.mem_append, Option.mem_toList] at hs
    rcases hs with hs | hs
    · exact h.fresh.ids s hs
    · rwa [readBack_id hs]

theorem Within.not_mem_keys (h : store'.Within store) (hsound : store.Sound n)
    (hs : s ∈ store.records) (hgone : s ∉ store'.records) : s.id.text ∉ store'.keys := by
  intro hmem
  cases h with
  | memory h =>
    obtain ⟨s', hs', htext⟩ := List.mem_map.mp hmem
    have heq :=
      Suspension.eq_of_id_eq hsound.distinct.ids (h.subset hs') hs (Identifier.text_injective htext)
    exact hgone (heq ▸ hs')
  | rows h =>
    obtain ⟨row', hrow', htext⟩ := List.mem_map.mp hmem
    obtain ⟨row, hrow, hread⟩ := List.mem_filterMap.mp hs
    have heq : row' = row := List.inj_on_of_nodup_map hsound.distinct.keys (h.subset hrow') hrow
      (htext.trans (hsound.tidy row hrow s hread).symm)
    exact hgone (List.mem_filterMap.mpr ⟨row', hrow', heq ▸ hread⟩)

theorem not_mem_keys_delete (store : SuspensionStore) (id : Identifier) :
    id.text ∉ (store.delete id).2.keys := by
  intro hmem
  cases store with
  | memory table =>
    obtain ⟨s, hs, htext⟩ := List.mem_map.mp hmem
    have hid := (List.mem_filter.mp hs).2
    rw [Identifier.text_injective htext] at hid
    simp at hid
  | rows r =>
    obtain ⟨row, hrow, htext⟩ := List.mem_map.mp hmem
    have hid := (List.mem_filter.mp hrow).2
    rw [htext] at hid
    simp at hid

/-- Only the records of the conversation are removed with it. -/
theorem mem_records_cancel {botId conversationId : String} (hs : s ∈ store.records)
    (howner : ¬ (s.botId = botId ∧ s.conversationId = conversationId)) :
    s ∈ (store.cancel botId conversationId).2.records := by
  cases store with
  | memory table =>
    exact List.mem_filter.mpr ⟨hs, by simpa [SuspensionTable.belongs, imp_iff_not_or] using howner⟩
  | rows r =>
    obtain ⟨row, hrow, hread⟩ := List.mem_filterMap.mp hs
    obtain ⟨hbot, hconversation⟩ := SuspensionRow.owner_of_toSuspension? hread
    rw [hbot, hconversation] at howner
    exact List.mem_filterMap.mpr
      ⟨row, List.mem_filter.mpr
        ⟨hrow, by simpa [SuspensionRows.belongs, imp_iff_not_or] using howner⟩, hread⟩

end SuspensionStore

end ChatFlow
