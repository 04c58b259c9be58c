import ChatFlow.Proofs.SuspensionAgreement

namespace ChatFlow

open scoped List

/-- Where every key occurs once, to edit the element of one key is to put it anew in front of the
others. -/
theorem map_edit_perm {α κ : Type} [DecidableEq κ] {key : α → κ} {l : List α}
    (h : (l.map key).Nodup) (edit : α → α) {a : α} (ha : a ∈ l) :
    (l.map fun b => if key b = key a then edit b else b).Perm
      (edit a :: l.filter fun b => key b != key a) := by
  induction l with
  | nil => cases ha
  | cons b rest ih =>
    obtain ⟨hb, hrest⟩ := List.nodup_cons.mp h
    rw [List.map_cons, List.filter_cons]
    rcases List.mem_cons.mp ha with rfl | ha
    · have hne : ∀ c ∈ rest, key c ≠ key a := fun c hc heq => hb (heq ▸ List.mem_map_of_mem hc)
      have hmap : (rest.map fun c => if key c = key a then edit c else c) = rest := by
        rw [List.map_congr_left fun c hc => if_neg (hne c hc), List.map_id']
      have hfilter : (rest.filter fun c => key c != key a) = rest :=
        List.filter_eq_self.mpr fun c hc => by simpa using hne c hc
      simp only [hmap, hfilter, if_true, bne_self_eq_false, Bool.false_eq_true, if_false,
        List.Perm.refl]
    · have hne : key b ≠ key a := fun heq => hb (heq ▸ List.mem_map_of_mem ha)
      rw [if_neg hne, if_pos (by simpa using hne)]
      exact ((ih hrest ha).cons b).trans (.swap _ _ _)

theorem SuspensionTable.save_perm {table : SuspensionTable} (h : (table.map (·.id)).Nodup)
    (record : Suspension) :
    (table.save record).Perm (record :: (table.delete record.id).2) := by
  unfold save
  split
  · next htaken =>
    obtain ⟨old, hold, hid⟩ := List.any_eq_true.mp htaken
    rw [← eq_of_beq hid]
    exact map_edit_perm h (fun _ => record) hold
  · next hfree =>
    have hothers : (table.delete record.id).2 = table := by
      refine List.filter_eq_self.mpr fun s hs => ?_
      rw [bne_iff_ne]
      exact fun heq => hfree (List.any_eq_true.mpr ⟨s, hs, beq_iff_eq.mpr heq⟩)
    rw [hothers]
    exact List.perm_append_comm

namespace SuspensionRow

def renew (old : SuspensionRow) (record : Suspension) : SuspensionRow :=
  { old with
    nodeId := record.nodeId, context := record.context.toJson.compact,
    resumeAt := record.resumeAt.toMillis }

/-- The row and the record have one owner and one version, and were made at one time. -/
structure Suits (old : SuspensionRow) (record : Suspension) : Prop where
  botId : old.botId = record.botId
  conversationId : old.conversationId = record.conversationId
  version : old.version = record.version
  createdAt : old.createdAt = record.createdAt.toMillis

theorem suits_of_toSuspension? {row : SuspensionRow} {s : Suspension}
    (h : row.toSuspension? = some s) :
    row.Suits s := by
  simp only [toSuspension?, Option.bind_eq_bind, Option.bind_eq_some_iff, Option.pure_def,
    Option.some.injEq] at h
  obtain ⟨id, -, context, -, resumeAt, -, createdAt, hcreatedAt, rfl⟩ := h
  exact ⟨rfl, rfl, rfl, (Instant.toMillis_of_ofMillis? hcreatedAt).symm⟩

/-- What is read from a renewed row: the new record, but with the owner, the version and the time of
making that the row has. -/
theorem toSuspension?_renew {old : SuspensionRow} {record : Suspension} (h : record.Restorable)
    (hid : old.id = record.id.text) :
    (old.renew record).toSuspension? = (Instant.ofMillis? old.createdAt).map fun createdAt =>
      { record with
        botId := old.botId, conversationId := old.conversationId, version := old.version,
        createdAt } := by
  simp only [toSuspension?, renew, hid, Identifier.ofText?_text h.id, h.ofColumn,
    Instant.ofMillis?_toMillis h.resumeAt]
  cases Instant.ofMillis? old.createdAt <;> rfl

theorem toSuspension?_renew_eq_some_iff {old : SuspensionRow} {record : Suspension}
    (h : record.Restorable) (hid : old.id = record.id.text) :
    (old.renew record).toSuspension? = some record ↔ old.Suits record := by
  constructor
  · intro hread
    obtain ⟨hbot, hconversation, hversion, hcreatedAt⟩ := suits_of_toSuspension? hread
    exact ⟨hbot, hconversation, hversion, hcreatedAt⟩
  · rintro ⟨hbot, hconversation, hversion, hcreatedAt⟩
    rw [toSuspension?_renew h hid, hbot, hconversation, hversion, hcreatedAt,
      Instant.ofMillis?_toMillis h.createdAt]
    rfl

end SuspensionRow

namespace SuspensionRows

def standing (rows : SuspensionRows) (record : Suspension) : SuspensionRow :=
  match rows.find? (·.id == record.id.text) with
  | some old => old.renew record
  | none => .ofSuspension record

variable {rows : SuspensionRows} {record : Suspension}

theorem standing_of_mem (h : (rows.map (·.id)).Nodup) {old : SuspensionRow} (hold : old ∈ rows)
    (hid : old.id = record.id.text) : rows.standing record = old.renew record := by
  unfold standing
  split
  · next other hfound =>
    have hother : other.id = record.id.text := by simpa using List.find?_some hfound
    rw [List.inj_on_of_nodup_map h (List.mem_of_find?_eq_some hfound) hold (hother.trans hid.symm)]
  · next hfree => exact absurd (beq_iff_eq.mpr hid) (List.find?_eq_none.mp hfree old hold)

theorem standing_of_free (h : record.id.text ∉ rows.map fun (row : SuspensionRow) => row.id) :
    rows.standing record = .ofSuspension record := by
  unfold standing
  split
  · next other hfound =>
    have hother : other.id = record.id.text := by simpa using List.find?_some hfound
    exact absurd (List.mem_map.mpr ⟨other, List.mem_of_find?_eq_some hfound, hother⟩) h
  · rfl

theorem id_standing (h : (rows.map (·.id)).Nodup) (record : Suspension) :
    (rows.standing record).id = record.id.text := by
  by_cases htaken : record.id.text ∈ rows.map fun (row : SuspensionRow) => row.id
  · obtain ⟨old, hold, hid⟩ := List.mem_map.mp htaken
    rw [standing_of_mem h hold hid]
    exact hid
  · rw [standing_of_free htaken]
    rfl

theorem save_perm (h : (rows.map (·.id)).Nodup) (record : Suspension) :
    (rows.save record).Perm (rows.standing record :: (rows.delete record.id).2) := by
  by_cases htaken : record.id.text ∈ rows.map fun (row : SuspensionRow) => row.id
  · obtain ⟨old, hold, hid⟩ := List.mem_map.mp htaken
    have hany : rows.any (·.id == (SuspensionRow.ofSuspension record).id) = true :=
      List.any_eq_true.mpr ⟨old, hold, beq_iff_eq.mpr hid⟩
    have hedit := map_edit_perm h (·.renew record) hold
    rw [hid] at hedit
    rw [standing_of_mem h hold hid]
    exact (List.Perm.of_eq (if_pos hany)).trans hedit
  · have hothers : (rows.delete record.id).2 = rows := by
      refine List.filter_eq_self.mpr fun row hrow => ?_
      rw [bne_iff_ne]
      exact fun hid => htaken (List.mem_map.mpr ⟨row, hrow, hid⟩)
    rw [save_eq_append htaken, standing_of_free htaken, hothers]
    exact List.perm_append_comm

end SuspensionRows

namespace SuspensionStore

/-- What is read under the identifier of a record when it has been saved. -/
def kept (record : Suspension) : SuspensionStore → Option Suspension
  | memory _ => some record
  | rows r => (r.standing record).toSuspension?

/-- What is kept under the identifier of a record, if anything, has its owner, its version and its
time of making, or gives way to it altogether. -/
def Suits (record : Suspension) : SuspensionStore → Prop
  | memory _ => True
  | rows r => ∀ old ∈ r, old.id = record.id.text → old.Suits record

/-- The records with the identifier of a record that stand under another spelling of it. -/
def namesakes (record : Suspension) (store : SuspensionStore) : List Suspension :=
  (store.delete record.id).2.records.filter (·.id == record.id)

variable {store : SuspensionStore} {record : Suspension}

theorem pending_perm (store : SuspensionStore) (botId conversationId : String) :
    (store.pending botId conversationId).Perm
      (store.records.filter (SuspensionTable.belongs botId conversationId)) := by
  cases store with
  | memory table => exact List.mergeSort_perm _ _
  | rows r =>
    have hbelongs : ∀ row ∈ r, ∀ s, row.toSuspension? = some s →
        SuspensionTable.belongs botId conversationId s =
          SuspensionRows.belongs botId conversationId row := by
      intro row _ s hread
      obtain ⟨hbot, hconversation⟩ := SuspensionRow.owner_of_toSuspension? hread
      rw [SuspensionTable.belongs, SuspensionRows.belongs, hbot, hconversation]
    exact ((List.mergeSort_perm _ _).filterMap _).trans (.of_eq (filterMap_filter_eq hbelongs))

/-- What satisfies a property is looked up among all that satisfies it. -/
theorem pending_filter_perm (store : SuspensionStore) (botId conversationId : String)
    (p : Suspension → Bool) :
    ((store.pending botId conversationId).filter p).Perm
      ((store.records.filter p).filter (SuspensionTable.belongs botId conversationId)) :=
  ((store.pending_perm botId conversationId).filter p).trans (.of_eq (List.filter_comm ..))

theorem nodup_ids_of_keys {table : SuspensionTable} (h : (memory table).keys.Nodup) :
    (table.map (·.id)).Nodup := by
  have hkeys : (memory table).keys = (table.map (·.id)).map Identifier.text := by
    rw [List.map_map]
    rfl
  rw [hkeys] at h
  exact h.of_map

theorem records_save_perm (h : store.keys.Nodup) (record : Suspension) :
    (store.save record).records.Perm
      ((store.kept record).toList ++ (store.delete record.id).2.records) := by
  cases store with
  | memory table => exact SuspensionTable.save_perm (nodup_ids_of_keys h) record
  | rows r =>
    refine ((SuspensionRows.save_perm h record).filterMap _).trans (.of_eq ?_)
    rw [List.filterMap_cons]
    show _ = ((r.standing record).toSuspension?).toList ++ _
    cases (r.standing record).toSuspension? <;> rfl

theorem id_of_kept (hkeys : store.keys.Nodup) {s : Suspension} (h : store.kept record = some s) :
    s.id = record.id := by
  cases store with
  | memory table =>
    cases h
    rfl
  | rows r =>
    have hid := SuspensionRow.id_of_toSuspension? h
    rw [SuspensionRows.id_standing hkeys] at hid
    exact Identifier.eq_of_ofText?_text hid

/-- With the identifier itself only records of that identifier go. -/
theorem records_delete_filter (store : SuspensionStore) (id : Identifier) :
    (store.delete id).2.records.filter (·.id != id) = store.records.filter (·.id != id) := by
  cases store with
  | memory table => exact (List.filter_filter).trans (List.filter_congr fun s _ => Bool.and_self _)
  | rows r =>
    show ((r.filter (·.id != id.text)).filterMap (·.toSuspension?)).filter (·.id != id) = _
    rw [List.filterMap_filter, List.filter_filterMap, records, List.filter_filterMap]
    refine List.filterMap_congr fun row _ => ?_
    split
    · rfl
    · next hkey =>
      have hid : row.id = id.text := by simpa using hkey
      -- what is read from the row that goes has the identifier
      cases hread : row.toSuspension? with
      | none => rfl
      | some s =>
        have hs := SuspensionRow.id_of_toSuspension? hread
        rw [hid] at hs
        simp [Identifier.eq_of_ofText?_text hs, Option.filter]

theorem namesakes_eq_nil (h : store.Tidy) (record : Suspension) : store.namesakes record = [] := by
  refine List.filter_eq_nil_iff.mpr fun s hs hid => ?_
  have hid : s.id = record.id := eq_of_beq hid
  cases store with
  | memory table => exact absurd hid (by simpa using (List.mem_filter.mp hs).2)
  | rows r =>
    obtain ⟨row, hrow, hread⟩ := List.mem_filterMap.mp hs
    obtain ⟨hmem, hother⟩ := List.mem_filter.mp hrow
    have htext := h row hmem s hread
    rw [hid] at htext
    exact absurd htext (by simpa using hother)

theorem kept_eq_some_iff (hkeys : store.keys.Nodup) (h : record.Restorable) :
    store.kept record = some record ↔ store.Suits record := by
  cases store with
  | memory table => exact iff_of_true rfl trivial
  | rows r =>
    by_cases htaken : record.id.text ∈ r.map fun (row : SuspensionRow) => row.id
    · obtain ⟨old, hold, hid⟩ := List.mem_map.mp htaken
      rw [kept, SuspensionRows.standing_of_mem hkeys hold hid,
        SuspensionRow.toSuspension?_renew_eq_some_iff h hid]
      constructor
      · intro hsuits other hother hotherid
        rwa [List.inj_on_of_nodup_map hkeys hother hold (hotherid.trans hid.symm)]
      · intro hall
        exact hall old hold hid
    · rw [kept, SuspensionRows.standing_of_free htaken]
      exact iff_of_true h.toSuspension? fun old hold hid =>
        absurd (List.mem_map.mpr ⟨old, hold, hid⟩) htaken

theorem pending_save_others (h : store.keys.Nodup) (record : Suspension)
    (botId conversationId : String) :
    (((store.save record).pending botId conversationId).filter (·.id != record.id)).Perm
      ((store.pending botId conversationId).filter (·.id != record.id)) := by
  have hkept : ((store.kept record).toList.filter (·.id != record.id)) = [] := by
    refine List.filter_eq_nil_iff.mpr fun s hs => ?_
    simp [id_of_kept h (Option.mem_toList.mp hs)]
  have hrecords : ((store.save record).records.filter (·.id != record.id)).Perm
      (store.records.filter (·.id != record.id)) := by
    refine ((records_save_perm h record).filter _).trans (.of_eq ?_)
    rw [List.filter_append, hkept, List.nil_append, records_delete_filter]
  calc ((store.save record).pending botId conversationId).filter (·.id != record.id)
      ~ ((store.save record).records.filter (·.id != record.id)).filter
          (SuspensionTable.belongs botId conversationId) := pending_filter_perm ..
    _ ~ (store.records.filter (·.id != record.id)).filter
      (SuspensionTable.belongs botId conversationId) :=
        hrecords.filter _
    _ ~ (store.pending botId conversationId).filter (·.id != record.id) :=
      (pending_filter_perm ..).symm

/-- Of the identifier there is found what is kept under it, and what stands under other
spellings. -/
theorem pending_save_self (h : store.keys.Nodup) (record : Suspension)
    (botId conversationId : String) :
    (((store.save record).pending botId conversationId).filter (·.id == record.id)).Perm
      (((store.kept record).toList ++ store.namesakes record).filter
        (SuspensionTable.belongs botId conversationId)) := by
  have hkept : ((store.kept record).toList.filter (·.id == record.id)) =
      (store.kept record).toList :=
    List.filter_eq_self.mpr fun s hs => by simp [id_of_kept h (Option.mem_toList.mp hs)]
  have hrecords : ((store.save record).records.filter (·.id == record.id)).Perm
      ((store.kept record).toList ++ store.namesakes record) := by
    refine ((records_save_perm h record).filter _).trans (.of_eq ?_)
    rw [List.filter_append, hkept, namesakes]
  exact (pending_filter_perm ..).trans (hrecords.filter _)

theorem keys_save_perm (h : store.keys.Nodup) (record : Suspension) :
    (store.save record).keys.Perm (record.id.text :: (store.delete record.id).2.keys) := by
  cases store with
  | memory table => exact (SuspensionTable.save_perm (nodup_ids_of_keys h) record).map fun (s :
    Suspension) => s.id.text
  | rows r =>
    refine ((SuspensionRows.save_perm h record).map fun (row : SuspensionRow) => row.id).trans
      (.of_eq ?_)
    rw [List.map_cons, SuspensionRows.id_standing h]
    rfl

theorem nodup_keys_save (h : store.keys.Nodup) (record : Suspension) :
    (store.save record).keys.Nodup := by
  rw [(keys_save_perm h record).nodup_iff, List.nodup_cons]
  exact ⟨store.not_mem_keys_delete record.id, h.sublist (store.keys_delete record.id)⟩

theorem tidy_save (hkeys : store.keys.Nodup) (h : store.Tidy) (record : Suspension) :
    (store.save record).Tidy := by
  cases store with
  | memory table => trivial
  | rows r =>
    intro row hrow s hread
    rcases List.mem_cons.mp
      ((SuspensionRows.save_perm hkeys record).mem_iff.mp hrow) with rfl | hrow
    · have hid := @id_of_kept (rows r) record hkeys s hread
      rw [SuspensionRows.id_standing hkeys, hid]
    · exact h row (List.mem_filter.mp hrow).1 s hread

theorem Within.tidy {store' : SuspensionStore} (h : store'.Within store) (htidy : store.Tidy) :
    store'.Tidy := by
  cases h with
  | memory h => trivial
  | rows h => exact fun row hrow => htidy row (h.subset hrow)

/-- Whatever is asked of a store, every key occurs once, and what can be read stands under the text
of its identifier. -/
theorem tidy_behind (hkeys : store.keys.Nodup) (h : store.Tidy) (requests : List Request) :
    (store.behind requests).keys.Nodup ∧ (store.behind requests).Tidy := by
  induction requests generalizing store with
  | nil => exact ⟨hkeys, h⟩
  | cons request requests ih =>
    have hless {store' : SuspensionStore} (hwithin : store'.Within store) :
        (store'.behind requests).keys.Nodup ∧ (store'.behind requests).Tidy :=
      ih (hkeys.sublist hwithin.keys) (hwithin.tidy h)
    cases request with
    | save record => exact ih (nodup_keys_save hkeys record) (tidy_save hkeys h record)
    | due now limit => exact hless (store.within_due now limit)
    | delete id => exact hless (store.within_delete id)
    | cancel botId conversationId => exact hless (store.within_cancel botId conversationId)
    | pending botId conversationId => exact ih hkeys h

/-- Saving leaves the records of other identifiers as they are. Under its own identifier the new
record stands as it is in memory; as a row it stands with the owner, the version and the time of
making that stood there before, if anything did. So just if it agrees with these it is found again
among the records of its owner, once and as it was saved. This is so in every state in which what
can be read stands under the text of its identifier, as in all that requests lead to; what else
reads as the same identifier is found besides. -/
theorem saved_read_back_iff (hkeys : store.keys.Nodup) (h : record.Restorable) :
    (∀ botId conversationId,
      (((store.save record).pending botId conversationId).filter (·.id != record.id)).Perm
        ((store.pending botId conversationId).filter (·.id != record.id))) ∧
    (∀ botId conversationId,
      (((store.save record).pending botId conversationId).filter (·.id == record.id)).Perm
        (((store.kept record).toList ++ store.namesakes record).filter
          (SuspensionTable.belongs botId conversationId))) ∧
    (store.kept record = some record ↔ store.Suits record) ∧
    (∀ r, store = .rows r → ∀ old ∈ r, old.id = record.id.text →
      store.kept record = (Instant.ofMillis? old.createdAt).map fun createdAt =>
        { record with
          botId := old.botId, conversationId := old.conversationId, version :=
            old.version, createdAt }) ∧
    (store.Tidy →
      (((store.save record).pending record.botId record.conversationId).filter (·.id == record.id) =
        [record] ↔
        store.Suits record)) ∧
    ∀ empty ∈ [memory [], .rows []], ∀ requests,
      (empty.behind requests).keys.Nodup ∧ (empty.behind requests).Tidy := by
  have hkept := kept_eq_some_iff hkeys h
  refine ⟨pending_save_others hkeys record, pending_save_self hkeys record, hkept, ?_, ?_, ?_⟩
  · rintro r rfl old hold hid
    rw [kept, SuspensionRows.standing_of_mem hkeys hold hid]
    exact SuspensionRow.toSuspension?_renew h hid
  · intro htidy
    have hself := pending_save_self hkeys record record.botId record.conversationId
    rw [namesakes_eq_nil htidy record, List.append_nil] at hself
    rw [← hkept, ← List.perm_singleton, hself.congr_left]
    cases store.kept record with
    | none => simp
    | some s =>
      constructor
      · intro hperm
        have hmem := List.mem_of_mem_filter (hperm.mem_iff.mpr (List.mem_singleton_self record))
        rw [Option.mem_toList.mp hmem]
      · intro hsame
        cases hsame
        simp [SuspensionTable.belongs]
  · intro empty hempty requests
    rcases List.mem_cons.mp hempty with rfl | hempty
    · exact @tidy_behind (memory []) .nil trivial requests
    · rw [List.mem_singleton.mp hempty]
      exact @tidy_behind (rows []) .nil (List.forall_mem_nil _) requests

/-- A run that waits is put off to a later time and another delay, next to one that stays. -/
theorem saved_read_back_iff_putOff :
    let store := SuspensionStore.rows
      ([waiting 1 "5511" 1893488460, waiting 2 "5511" 1893488430].map .ofSuspension)
    let record := { waiting 1 "5511" 1893492000 with nodeId := "wait again" }
    (store.keys.Nodup ∧ record.Restorable ∧ store.Tidy) ∧
      ((store.save record).pending "bot" "5511").filter (·.id == ⟨1⟩) = [record] ∧
      (((store.save record).pending "bot" "5511").filter (·.id != ⟨1⟩)).Perm
        ((store.pending "bot" "5511").filter (·.id != ⟨1⟩)) := by
  intro store record
  have hkeys : store.keys.Nodup := by decide +kernel
  have hrecord : record.Restorable :=
    ⟨by decide, by decide +kernel, ⟨1893492000000, by decide⟩, ⟨1893488400000, by decide⟩⟩
  have htidy : store.Tidy := by
    intro row hrow s hread
    obtain ⟨saved, -, rfl⟩ := List.mem_map.mp hrow
    have hid := SuspensionRow.id_of_toSuspension? hread
    rw [SuspensionRow.id_ofSuspension] at hid ⊢
    rw [Identifier.eq_of_ofText?_text hid]
  have hsuits : store.Suits record := by
    intro old hold hid
    rcases List.mem_cons.mp hold with rfl | hold
    · exact ⟨rfl, rfl, rfl, rfl⟩
    · rw [List.mem_singleton.mp hold] at hid
      exact absurd hid (by decide +kernel)
  obtain ⟨hothers, -, -, -, hself, -⟩ := saved_read_back_iff hkeys hrecord
  exact ⟨⟨hkeys, hrecord, htidy⟩, (hself htidy).mpr hsuits, hothers "bot" "5511"⟩

/-- A record that is saved a second time for another conversation stays with the first one in rows,
and moves on in memory. -/
theorem not_read_back_moved :
    let first := waiting 1 "5511" 1893488460
    let moved := waiting 1 "5522" 1893488460
    (SuspensionStore.rows [.ofSuspension first]).keys.Nodup ∧ moved.Restorable ∧
      ((SuspensionStore.rows [.ofSuspension first]).save moved).pending "bot" "5522" = [] ∧
      ((SuspensionStore.rows [.ofSuspension first]).save moved).pending "bot" "5511" =
        [{ moved with conversationId := "5511" }] ∧
      ((memory [first]).save moved).pending "bot" "5522" = [moved] := by
  intro first moved
  have hrecord : moved.Restorable :=
    ⟨by decide, by decide +kernel, ⟨1893488460000, by decide⟩, ⟨1893488400000, by decide⟩⟩
  have hsave : SuspensionRows.save [.ofSuspension first] moved =
      [(SuspensionRow.ofSuspension first).renew moved] := by
    decide +kernel
  have hread : ((SuspensionRow.ofSuspension first).renew moved).toSuspension? =
      some { moved with conversationId := "5511" } := by
    have hid : (SuspensionRow.ofSuspension first).id = moved.id.text := rfl
    rw [SuspensionRow.toSuspension?_renew hrecord hid]
    decide +kernel
  refine ⟨List.nodup_singleton _, hrecord, ?_, ?_, ?_⟩
  · show SuspensionRows.pending (SuspensionRows.save [.ofSuspension first] moved) "bot" "5522" = []
    rw [hsave, SuspensionRows.pending, List.filter_cons_of_neg (by decide +kernel), List.filter_nil,
      List.mergeSort_nil, List.filterMap_nil]
  · show SuspensionRows.pending (SuspensionRows.save [.ofSuspension first] moved) "bot" "5511" = _
    rw [hsave, SuspensionRows.pending, List.filter_cons_of_pos (by decide +kernel), List.filter_nil,
      List.mergeSort_singleton, List.filterMap_cons_some hread, List.filterMap_nil]
  · show SuspensionTable.pending (SuspensionTable.save [first] moved) "bot" "5522" = _
    have hmemory : SuspensionTable.save [first] moved = [moved] := by decide +kernel
    rw [hmemory, SuspensionTable.pending, List.filter_cons_of_pos (by decide +kernel),
      List.filter_nil, List.mergeSort_singleton]

end SuspensionStore

end ChatFlow
