import ChatFlow.Proofs.Turn

namespace ChatFlow

open World

def SweepReport.total (report : SweepReport) : Nat :=
  report.resumed + report.failed + report.discarded

namespace Dispatch

/-- The record of a turn was dealt with and removed: its bot runs no flow or its run went on without
an error, and no fault was in the way. -/
structure Turn.Settled (settings : Settings) (t : Turn) : Prop where
  done : t.active? = none ∨ ∃ run, t.resumption? settings = some (.ok run)
  reread : .pending ∉ t.world.failing
  deleted : .delete ∉ t.world.failing

/-- What turns have done to the store: of the records from before those are gone that were settled,
the others are unchanged, and those that the runs have left are added. -/
def Accounts (settings : Settings) (turns : List Turn) (before after : SuspensionStore) : Prop :=
  ∃ keeps : Suspension → Bool,
    after.records = before.records.filter keeps ++
      (turns.filterMap (Turn.saved? settings)).filterMap before.readBack ∧
    ∀ s ∈ before.records, keeps s = false → ∃ t ∈ turns, t.queued = s ∧ t.Settled settings

/-- The records from before are still there unchanged, but for some that may be gone, and behind
them is what was added. -/
def AccountsFor (gone : Suspension → Prop) (added : List Suspension)
    (before after : SuspensionStore) : Prop :=
  ∃ keeps : Suspension → Bool,
    after.records = before.records.filter keeps ++ added.filterMap before.readBack ∧
    ∀ s ∈ before.records, keeps s = false → gone s

/-- A record that was loaded is not passed over when its turn comes: it is due by the clock, or it
cannot be read again. -/
def Counted (w : World) (queued : Suspension) : Bool :=
  queued.isDue w.clock || w.failing.contains .pending

/-- What a turn leaves as it was, and what the next one relies on. -/
structure Steady (w w' : World) : Prop where
  clock : w'.clock = w.clock
  failing : w'.failing = w.failing
  registry : w'.registry = w.registry
  sweeping : w'.sweeping = w.sweeping
  distinct : w'.suspensions.Distinct
  fresh : w'.suspensions.FreshFrom w'.nextId.value
  nextId : w.nextId.value ≤ w'.nextId.value
  readBack : w'.suspensions.readBack = w.suspensions.readBack

theorem Steady.trans {w w₁ w₂ : World} (h : Steady w w₁) (h' : Steady w₁ w₂) : Steady w w₂ where
  clock := h'.clock.trans h.clock
  failing := h'.failing.trans h.failing
  registry := h'.registry.trans h.registry
  sweeping := h'.sweeping.trans h.sweeping
  distinct := h'.distinct
  fresh := h'.fresh
  nextId := Nat.le_trans h.nextId h'.nextId
  readBack := h'.readBack.trans h.readBack

/-- What a turn has done, by the time at which its lock is given up. -/
structure Turn.Dealt (settings : Settings) (t : Turn) (w : World) : Prop where
  steady : Steady t.world w
  locks : w.locks = t.world.locks
  accounts : Accounts settings [t] t.world.suspensions w.suspensions

/-- The record of a turn is still in the store when its turn comes, and can be found there. -/
structure Turn.Standing (now : Instant) (t : Turn) : Prop where
  now : t.now = now
  distinct : t.world.suspensions.Distinct
  mem : t.queued ∈ t.world.suspensions.records

structure Swept (settings : Settings) (w : World) (due : List Suspension)
    (report report' : SweepReport) (w' : World) : Prop where
  steady : Steady w w'
  queue : w'.locks.queue = []
  queued : (turns settings w.clock w due).map (·.queued) = due
  worlds : ∀ t ∈ turns settings w.clock w due,
    t.world.registry = w.registry ∧ t.world.failing = w.failing
  standing : ∀ t ∈ turns settings w.clock w due, t.Standing w.clock
  accounts : Accounts settings (turns settings w.clock w due) w.suspensions w'.suspensions
  skipped : report'.skipped = report.skipped
  total : report'.total = report.total + (due.filter (Counted w)).length

variable {settings : Settings}

namespace AccountsFor

variable {gone gone' : Suspension → Prop} {added added' : List Suspension}
  {a b c : SuspensionStore}

theorem of_eq_append (h : b.records = a.records ++ added.filterMap a.readBack) :
    AccountsFor gone added a b := by
  refine ⟨fun _ => true, ?_, fun _ _ hgone => nomatch hgone⟩
  rw [h, List.filter_true]

theorem mono (h : AccountsFor gone added a b) (hgone : ∀ s, gone s → gone' s) :
    AccountsFor gone' added a b := by
  obtain ⟨keeps, hkept, hlost⟩ := h
  exact ⟨keeps, hkept, fun s hs hkeeps => hgone s (hlost s hs hkeeps)⟩

theorem mem (h : AccountsFor gone added a b) {s : Suspension} (hs : s ∈ a.records)
    (hstays : ¬ gone s) : s ∈ b.records := by
  obtain ⟨keeps, hkept, hlost⟩ := h
  rw [hkept]
  refine List.mem_append_left _ (List.mem_filter.mpr ⟨hs, ?_⟩)
  by_contra hgone
  exact hstays (hlost s hs (by simpa using hgone))

/-- What is done afterwards may let further records go, but none of those that were added. -/
theorem append (h : AccountsFor gone added a b) (h' : AccountsFor gone' added' b c)
    (hread : b.readBack = a.readBack) (hnew : ∀ s ∈ added.filterMap a.readBack, ¬ gone' s) :
    AccountsFor (fun s => gone s ∨ gone' s) (added ++ added') a c := by
  obtain ⟨keeps, hkept, hlost⟩ := h
  obtain ⟨keeps', hkept', hlost'⟩ := h'
  refine ⟨fun s => keeps' s && keeps s, ?_, fun s hs hgone => ?_⟩
  · have hadded : (added.filterMap a.readBack).filter keeps' = added.filterMap a.readBack := by
      refine List.filter_eq_self.mpr fun s hs => ?_
      by_contra hgone
      have hmem : s ∈ b.records := hkept ▸ List.mem_append_right _ hs
      exact hnew s hs (hlost' s hmem (by simpa using hgone))
    rw [hkept', hkept, hread, List.filter_append, List.filter_filter, hadded, List.filterMap_append,
      List.append_assoc]
  · cases hs' : keeps s with
    | false => exact .inl (hlost s hs hs')
    | true =>
      have hmem : s ∈ b.records := hkept ▸ List.mem_append_left _ (List.mem_filter.mpr ⟨hs, hs'⟩)
      exact .inr (hlost' s hmem (by simpa [hs'] using hgone))

end AccountsFor

theorem filterMap_toList {α β : Type} (a? : Option α) (f : α → Option β) :
    a?.toList.filterMap f = (a?.bind f).toList := by
  cases a? with
  | none => rfl
  | some a => cases h : f a <;> simp [h]

theorem Steady.refl {w : World} (hdistinct : w.suspensions.Distinct)
    (hfresh : w.suspensions.FreshFrom w.nextId.value) : Steady w w :=
  ⟨rfl, rfl, rfl, rfl, hdistinct, hfresh, Nat.le_refl _, rfl⟩

/-- What a run leaves is a new record, so that the store is as good as before. -/
theorem steady_of_parked {w w' : World} (hdistinct : w.suspensions.Distinct)
    (hfresh : w.suspensions.FreshFrom w.nextId.value) {record? : Option Suspension}
    (h : w.Parked record? w') (hid : ∀ s, record? = some s → s.id = w.nextId) :
    Steady w w' ∧ w'.suspensions.records =
      w.suspensions.records ++ record?.toList.filterMap w.suspensions.readBack := by
  obtain ⟨hclock, hfailing, hregistry, -, hsweeping, hsuspensions, hnextId, htaken⟩ := h
  cases record? with
  | none =>
    rw [Option.elim_none] at hsuspensions
    rw [hsuspensions]
    refine ⟨⟨hclock, hfailing, hregistry, hsweeping, ?_, ?_, hnextId, ?_⟩, by simp⟩
    · rwa [hsuspensions]
    · rw [hsuspensions]
      exact hfresh.mono hnextId
    · rw [hsuspensions]
  | some s =>
    have hs := hid s rfl
    have htaken := htaken rfl
    rw [← hs] at hfresh htaken
    rw [Option.elim_some] at hsuspensions
    rw [hsuspensions]
    refine ⟨⟨hclock, hfailing, hregistry, hsweeping, ?_, ?_, hnextId, ?_⟩, ?_⟩
    · rw [hsuspensions]
      exact hdistinct.save hfresh
    · rw [hsuspensions, htaken]
      exact hfresh.save
    · rw [hsuspensions, SuspensionStore.readBack_save]
    · rw [filterMap_toList]
      exact SuspensionStore.records_save (hfresh.keys _ (Nat.le_refl _))

/-- What is added under a fresh id is none of the records that were there before. -/
theorem not_mem_added {w : World} (hfresh : w.suspensions.FreshFrom w.nextId.value)
    {added : List Suspension} (hids : ∀ s ∈ added, s.id = w.nextId) {q : Suspension}
    (hq : q ∈ w.suspensions.records) : q ∉ added.filterMap w.suspensions.readBack := by
  intro hadded
  obtain ⟨s, hs, hread⟩ := List.mem_filterMap.mp hadded
  have hlt := hfresh.ids q hq
  rw [SuspensionStore.readBack_id hread, hids s hs] at hlt
  exact Nat.lt_irrefl _ hlt

/-- A record can be removed behind its run, and what the run has added stays. -/
theorem steady_delete {w w₁ : World} {queued : Suspension} {saved? : Option Suspension}
    (hdistinct : w.suspensions.Distinct) (hfresh : w.suspensions.FreshFrom w.nextId.value)
    (hmem : queued ∈ w.suspensions.records) (hid : ∀ s, saved? = some s → s.id = w.nextId)
    (hsteady : Steady w w₁) (hrecords : w₁.suspensions.records =
      w.suspensions.records ++ saved?.toList.filterMap w.suspensions.readBack) :
    Steady w { w₁ with suspensions := (w₁.suspensions.delete queued.id).2 } ∧
      AccountsFor (· = queued) saved?.toList w.suspensions
        (w₁.suspensions.delete queued.id).2 := by
  obtain ⟨keeps, hkept, hgone⟩ := SuspensionStore.records_delete hsteady.distinct queued.id
  have hkeys := @SuspensionStore.keys_delete w₁.suspensions queued.id
  have hsublist : (w₁.suspensions.delete queued.id).2.records.Sublist w₁.suspensions.records :=
    hkept ▸ List.filter_sublist
  refine ⟨⟨hsteady.clock, hsteady.failing, hsteady.registry, hsteady.sweeping,
    hsteady.distinct.sublist hkeys hsublist, hsteady.fresh.sublist hkeys hsublist,
    hsteady.nextId, (SuspensionStore.readBack_delete _).trans hsteady.readBack⟩, keeps, ?_, ?_⟩
  · have hadded : (saved?.toList.filterMap w.suspensions.readBack).filter keeps =
        saved?.toList.filterMap w.suspensions.readBack := by
      -- the new record has a fresh id, so it is not deleted in place of the old one
      refine List.filter_eq_self.mpr fun s hs => ?_
      by_contra hlost
      have hids : ∀ s ∈ saved?.toList, s.id = w.nextId := fun s hs =>
        hid s (Option.mem_toList.mp hs)
      obtain ⟨saved, hsaved, hread⟩ := List.mem_filterMap.mp hs
      have hqueued := hgone s (by simpa using hlost)
      rw [SuspensionStore.readBack_id hread, hids saved hsaved] at hqueued
      exact Nat.lt_irrefl _ (hqueued ▸ hfresh.ids queued hmem)
    rw [hkept, hrecords, List.filter_append, hadded]
  · intro s hs hlost
    exact (Suspension.eq_of_id_eq hdistinct.ids hmem hs (hgone s hlost).symm).symm

section Turn

variable {t : Turn} (hdistinct : t.world.suspensions.Distinct)
  (hfresh : t.world.suspensions.FreshFrom t.world.nextId.value)
  (hmem : t.queued ∈ t.world.suspensions.records)

theorem Turn.id_of_saved? {s : Suspension} (h : t.saved? settings = some s) :
    s.id = t.world.nextId := by
  simp only [Turn.saved?, Option.bind_eq_some_iff] at h
  obtain ⟨record, -, active, -, result, -, run, -, h⟩ := h
  unfold Suspension.ofRun at h
  obtain ⟨traversal, -, h⟩ := Option.bind_eq_some_iff.mp h
  unfold Suspension.ofEnding at h
  split at h
  · cases h
  · cases h
    rfl

theorem saved_singleton (t : Turn) :
    [t].filterMap (Turn.saved? settings) = (t.saved? settings).toList := by
  cases h : t.saved? settings with
  | none => exact List.filterMap_cons_none h
  | some s => exact List.filterMap_cons_some h

theorem accounts_unchanged (h : t.saved? settings = none) {store : SuspensionStore} :
    Accounts settings [t] store store := by
  refine AccountsFor.of_eq_append ?_
  rw [saved_singleton, h, Option.toList_none, List.filterMap_nil, List.append_nil]

include hdistinct hfresh hmem

/-- Behind the run of a turn its record is removed, unless that cannot be done. -/
theorem runs_remove {w : World} (hsteady : Steady t.world w) (hlocks : w.locks = t.world.locks)
    (hrecords : w.suspensions.records = t.world.suspensions.records ++
      (t.saved? settings).toList.filterMap t.world.suspensions.readBack)
    (hdone : t.active? = none ∨ ∃ run, t.resumption? settings = some (.ok run))
    (hreread : .pending ∉ t.world.failing) {success : Resumption} (hsuccess : success ≠ .gone) :
    ∃ r w', w.Runs (remove t.queued success) r w' ∧ t.Dealt settings w' ∧ r ≠ .gone := by
  by_cases hdelete : w.failing.contains .delete = true
  · refine ⟨.failed, w, runs_call (if_pos hdelete) rfl, ⟨hsteady, hlocks, ?_⟩, nofun⟩
    exact AccountsFor.of_eq_append (by rw [hrecords, saved_singleton])
  · have hanswer : w.answer (.delete t.queued.id) =
        (some (.ok (w.suspensions.delete t.queued.id).1),
          { w with suspensions := (w.suspensions.delete t.queued.id).2 }) := if_neg hdelete
    obtain ⟨hsteady', haccounts⟩ := steady_delete hdistinct hfresh hmem
      (fun s => Turn.id_of_saved?) hsteady hrecords
    refine ⟨success, _, runs_call hanswer rfl, ⟨hsteady', hlocks, ?_⟩, hsuccess⟩
    rw [← saved_singleton] at haccounts
    refine haccounts.mono fun s hs => ⟨t, List.mem_singleton_self t, hs.symm, hdone, hreread, ?_⟩
    simpa [hsteady.failing] using hdelete

omit hfresh in
theorem record?_of_mem (hreread : ¬ t.world.failing.contains .pending = true) :
    t.record? = some t.queued ↔ t.queued.isDue t.now = true := by
  rw [Turn.record?, if_neg hreread, SuspensionStore.find?_pending hdistinct hmem]
  simp

theorem runs_resume_turn (hrecord : t.record? = some t.queued)
    (hreread : .pending ∉ t.world.failing) :
    ∃ r w', t.world.Runs (resume settings t.queued) r w' ∧ t.Dealt settings w' ∧ r ≠ .gone := by
  cases hactive : t.active? with
  | none =>
    have hsaved : t.saved? settings = none := by
      rw [Turn.saved?, hrecord, Option.bind_some, hactive, Option.bind_none]
    have hrecords : t.world.suspensions.records = t.world.suspensions.records ++
        (t.saved? settings).toList.filterMap t.world.suspensions.readBack := by simp [hsaved]
    obtain ⟨r, w', hruns, hrest⟩ :=
      runs_remove hdistinct hfresh hmem (Steady.refl hdistinct hfresh) rfl
      hrecords (.inl hactive) hreread (nofun : Resumption.discarded ≠ .gone)
    exact ⟨r, w', Turn.runs_resume_of_none hrecord hactive hruns, hrest⟩
  | some active =>
    obtain ⟨result, w₁, hcourse, hparked⟩ : ∃ result w₁,
        t.world.Runs (Turn.course settings t.queued active) result w₁ ∧
        t.world.Parked (result.toOption.bind (Suspension.ofRun t.world.nextId t.queued.botId
          t.queued.conversationId active.version t.world.clock)) w₁ :=
      runs_resume active.flow t.queued.nodeId t.queued.context t.world
    have hresumption : t.resumption? settings = some result := by
      rw [Turn.resumption?, Turn.course?_of_some hrecord hactive, Option.bind_some]
      exact congrArg Prod.fst hcourse.attempt
    have hsaved : t.saved? settings = result.toOption.bind (Suspension.ofRun t.world.nextId
        t.queued.botId t.queued.conversationId active.version t.world.clock) := by
      rw [Turn.saved?, hrecord, Option.bind_some, hactive, Option.bind_some, hresumption]
      rfl
    rw [← hsaved] at hparked
    obtain ⟨hsteady, hrecords⟩ :=
      steady_of_parked hdistinct hfresh hparked fun s => Turn.id_of_saved?
    cases result with
    | error e =>
      refine ⟨.failed, w₁, Turn.runs_resume_of_some hrecord hactive hcourse ⟨rfl, rfl⟩,
        ⟨hsteady, hparked.locks, ?_⟩, nofun⟩
      exact AccountsFor.of_eq_append (by rw [hrecords, saved_singleton])
    | ok run =>
      obtain ⟨r, w', hruns, hrest⟩ := runs_remove hdistinct hfresh hmem hsteady hparked.locks
        hrecords (.inr ⟨run, hresumption⟩) hreread (nofun : Resumption.resumed ≠ .gone)
      exact ⟨r, w', Turn.runs_resume_of_some hrecord hactive hcourse hruns, hrest⟩

theorem runs_reclaim (hnow : t.now = t.world.clock) :
    ∃ r w', t.world.Runs (reclaim settings t.now t.queued) r w' ∧ t.Dealt settings w' ∧
      (r ≠ .gone ↔ Counted t.world t.queued = true) := by
  have hsteady := Steady.refl hdistinct hfresh
  by_cases hpending : t.world.failing.contains .pending = true
  · have hsaved : t.saved? settings = none := by
      rw [Turn.saved?, Turn.record?, if_pos hpending, Option.bind_none]
    exact ⟨.failed, t.world, Turn.runs_reclaim_of_failing hpending,
      ⟨hsteady, rfl, accounts_unchanged hsaved⟩,
      iff_of_true (by decide) ((congrArg (_ || ·) hpending).trans (Bool.or_true _))⟩
  · have hrecord := record?_of_mem hdistinct hmem hpending
    have hcounted : Counted t.world t.queued = true ↔ t.queued.isDue t.now = true := by
      rw [Counted, Bool.or_eq_true, or_iff_left hpending, hnow]
    by_cases hdue : t.queued.isDue t.now = true
    · obtain ⟨r, w', hruns, hdealt, hcount⟩ :=
        runs_resume_turn hdistinct hfresh hmem (hrecord.mpr hdue) (by simpa using hpending)
      exact ⟨r, w', Turn.runs_reclaim_of_some (hrecord.mpr hdue) hruns, hdealt,
        iff_of_true hcount (hcounted.mpr hdue)⟩
    · have hnone : t.record? = none := by
        rw [Turn.record?, if_neg hpending, SuspensionStore.find?_pending hdistinct hmem]
        simp [hdue]
      have hsaved : t.saved? settings = none := by rw [Turn.saved?, hnone, Option.bind_none]
      exact ⟨.gone, t.world, Turn.runs_reclaim_of_none hpending hnone,
        ⟨hsteady, rfl, accounts_unchanged hsaved⟩,
        iff_of_false (fun h => h rfl) fun h => hdue (hcounted.mp h)⟩

end Turn

theorem runs_take {w : World} {queued : Suspension} (hqueue : w.locks.queue = [])
    (hdistinct : w.suspensions.Distinct) (hfresh : w.suspensions.FreshFrom w.nextId.value)
    (hmem : queued ∈ w.suspensions.records) :
    ∃ r w', w.Runs (take settings w.clock queued) r w' ∧ Steady w w' ∧ w'.locks.queue = [] ∧
      Accounts settings [⟨queued, w.clock, w.hold (lockKey queued.botId queued.conversationId)⟩]
        w.suspensions w'.suspensions ∧ (r ≠ .gone ↔ Counted w queued = true) := by
  let t : Turn := ⟨queued, w.clock, w.hold (lockKey queued.botId queued.conversationId)⟩
  have hdistinct' : t.world.suspensions.Distinct := hdistinct
  obtain ⟨r, w₁, hruns, ⟨hsteady, hlocks, haccounts⟩, hcount⟩ :=
    runs_reclaim hdistinct' hfresh hmem rfl
  obtain ⟨locks, hempty, htake⟩ := runs_locked hqueue hruns hlocks
  exact ⟨r, { w₁ with locks }, htake,
    ⟨hsteady.clock, hsteady.failing, hsteady.registry, hsteady.sweeping, hsteady.distinct,
      hsteady.fresh, hsteady.nextId, hsteady.readBack⟩, hempty, haccounts, hcount⟩

/-- Turns and further turns, none of which is that of a record that was added. -/
theorem Accounts.append {ts ts' : List Turn} {a b c : SuspensionStore}
    (h : Accounts settings ts a b) (h' : Accounts settings ts' b c)
    (hread : b.readBack = a.readBack)
    (hnew : ∀ t ∈ ts', t.queued ∉ (ts.filterMap (Turn.saved? settings)).filterMap a.readBack) :
    Accounts settings (ts ++ ts') a c := by
  have hboth := AccountsFor.append h h' hread fun s hs ⟨t, ht, hqueued, _⟩ =>
    hnew t ht (hqueued ▸ hs)
  rw [← List.filterMap_append] at hboth
  refine hboth.mono fun s hgone => ?_
  rcases hgone with ⟨t, ht, hrest⟩ | ⟨t, ht, hrest⟩
  · exact ⟨t, List.mem_append_left _ ht, hrest⟩
  · exact ⟨t, List.mem_append_right _ ht, hrest⟩

theorem Accounts.mem_of_ne {t : Turn} {a b : SuspensionStore} (h : Accounts settings [t] a b)
    {s : Suspension} (hs : s ∈ a.records) (hne : s ≠ t.queued) : s ∈ b.records := by
  refine AccountsFor.mem h hs ?_
  rintro ⟨t', ht', heq, -⟩
  rw [List.mem_singleton.mp ht'] at heq
  exact hne heq.symm

theorem total_count {r : Resumption} (h : r ≠ .gone) (report : SweepReport) :
    (r.count report).total = report.total + 1 := by
  cases r with
  | gone => exact absurd rfl h
  | _ =>
    simp only [Resumption.count, SweepReport.total]
    omega

/-- The total grows with a turn just if the turn is one of those that are counted. -/
theorem total_add_length {α : Type} {counted : α → Bool} {a : α} {r : Resumption}
    (h : r ≠ .gone ↔ counted a = true) (report : SweepReport) (rest : List α) :
    (r.count report).total + (rest.filter counted).length =
      report.total + ((a :: rest).filter counted).length := by
  by_cases hcounted : counted a = true
  · rw [total_count (h.mpr hcounted), List.filter_cons_of_pos hcounted, List.length_cons]
    omega
  · have hgone : r = .gone := by
      by_contra hne
      exact hcounted (h.mp hne)
    rw [hgone, Resumption.count, List.filter_cons_of_neg hcounted]

theorem skipped_count (r : Resumption) (report : SweepReport) :
    (r.count report).skipped = report.skipped := by
  cases r <;> rfl

/-- The turns of records that are there, each once, come to their end, and the store can be
accounted for. -/
theorem runs_sweepAll {w : World} (hqueue : w.locks.queue = []) (hdistinct : w.suspensions.Distinct)
    (hfresh : w.suspensions.FreshFrom w.nextId.value) {due : List Suspension}
    (hmem : ∀ q ∈ due, q ∈ w.suspensions.records) (hnodup : due.Nodup) (report : SweepReport) :
    ∃ report' w', w.Runs (sweepAll settings w.clock report due) report' w' ∧
      Swept settings w due report report' w' := by
  induction due generalizing w report with
  | nil =>
    refine ⟨report, w, rfl, ⟨rfl, rfl, rfl, rfl, hdistinct, hfresh, Nat.le_refl _, rfl⟩,
      hqueue, rfl, List.forall_mem_nil _, List.forall_mem_nil _, ?_, rfl, rfl⟩
    exact AccountsFor.of_eq_append (List.append_nil _).symm
  | cons queued rest ih =>
    have hqueued := hmem queued List.mem_cons_self
    obtain ⟨hnot, hrest⟩ := List.nodup_cons.mp hnodup
    obtain ⟨r, w₁, hruns, hsteady, hqueue₁, haccounts, hcount⟩ :=
      @runs_take settings w queued hqueue hdistinct hfresh hqueued
    have hmem₁ : ∀ q ∈ rest, q ∈ w₁.suspensions.records := by
      intro q hq
      refine haccounts.mem_of_ne (hmem q (List.mem_cons_of_mem _ hq)) ?_
      rintro rfl
      exact hnot hq
    obtain ⟨report', w', hruns', hswept⟩ :=
      ih hqueue₁ hsteady.distinct hsteady.fresh hmem₁ hrest (r.count report)
    have hturns := turns_cons hruns rest
    rw [← hsteady.clock] at hturns
    obtain ⟨hsteady', hqueue', hqueueds, hworlds, hstanding, haccounts', hskipped, htotal⟩ := hswept
    refine ⟨report', w', hruns.bind (hsteady.clock ▸ hruns'), hsteady.trans hsteady', hqueue', ?_,
      ?_, ?_, ?_, hskipped.trans (skipped_count r report), ?_⟩
    · rw [← hsteady.clock, hturns, List.map_cons, hqueueds]
    · rw [← hsteady.clock, hturns]
      intro t ht
      rcases List.mem_cons.mp ht with rfl | ht
      · exact ⟨rfl, rfl⟩
      · obtain ⟨hregistry, hfailing⟩ := hworlds t ht
        exact ⟨hregistry.trans hsteady.registry, hfailing.trans hsteady.failing⟩
    · rw [← hsteady.clock, hturns]
      exact List.forall_mem_cons.mpr ⟨⟨rfl, hdistinct, hqueued⟩, hstanding⟩
    · rw [← hsteady.clock, hturns, hsteady.clock]
      rw [hsteady.clock] at haccounts' hqueueds
      -- what this turn has added is not among the records that were loaded before
      refine haccounts.append haccounts' hsteady.readBack fun t ht hadded => ?_
      have hrest : t.queued ∈ rest := hqueueds ▸ List.mem_map_of_mem ht
      rw [saved_singleton] at hadded
      exact not_mem_added hfresh (fun s hs => Turn.id_of_saved? (Option.mem_toList.mp hs))
        (hmem _ (List.mem_cons_of_mem _ hrest)) hadded
    · have hsame : Counted w₁ = Counted w := by
        funext q
        rw [Counted, Counted, hsteady.clock, hsteady.failing]
      rw [htotal, hsame, total_add_length hcount]

theorem loaded_nodup {batch : Nat} {w : World} (h : w.suspensions.Distinct) :
    (loaded batch w).Nodup := by
  have hsub := SuspensionStore.due_subperm w.suspensions w.clock (max batch 1)
  obtain ⟨l, hperm, hsublist⟩ := hsub
  exact hperm.nodup_iff.mp (hsublist.nodup (List.Nodup.of_map _ h.ids))

theorem records_afterLoading (batch : Nat) {w : World} (h : w.suspensions.Distinct) :
    (afterLoading batch w).suspensions.records = w.suspensions.records :=
  SuspensionStore.records_due h w.clock (max batch 1)

/-- Loading leaves a store that is as good as before, and the loaded records are in it. -/
theorem standing_afterLoading (batch : Nat) {w : World} (hdistinct : w.suspensions.Distinct)
    (hfresh : w.suspensions.FreshFrom w.nextId.value) :
    (afterLoading batch w).suspensions.Distinct ∧
      (afterLoading batch w).suspensions.FreshFrom (afterLoading batch w).nextId.value ∧
      ∀ q ∈ loaded batch w, q ∈ (afterLoading batch w).suspensions.records := by
  have hrecords := records_afterLoading batch hdistinct
  have hsublist : (afterLoading batch w).suspensions.records.Sublist w.suspensions.records := by
    rw [hrecords]
  have hkeys := @SuspensionStore.keys_due w.suspensions w.clock (max batch 1)
  refine ⟨hdistinct.sublist hkeys hsublist, hfresh.sublist hkeys hsublist, fun q hq => ?_⟩
  exact hrecords ▸ (SuspensionStore.due_subperm _ _ _).subset hq

theorem runs_sweepAll_loaded (batch : Nat) {w : World} (hqueue : w.locks.queue = [])
    (hdistinct : w.suspensions.Distinct) (hfresh : w.suspensions.FreshFrom w.nextId.value) :
    ∃ report w',
    (afterLoading batch w).Runs (sweepAll settings w.clock .zero (loaded batch w)) report w' ∧
      Swept settings (afterLoading batch w) (loaded batch w) .zero report w' := by
  obtain ⟨hdistinct', hfresh', hmem⟩ := standing_afterLoading batch hdistinct hfresh
  exact @runs_sweepAll settings (afterLoading batch w) hqueue hdistinct' hfresh' _ hmem
    (loaded_nodup hdistinct) .zero

/-- A sweep beside which nothing else happens comes to its end. A record leaves the store only in
its own turn, if its bot runs no flow or its run went on without an error and it could then be
deleted; all others stay as they are. Added are the records that the runs of the turns have left,
and nothing else. The counts of the report add up to the records that were loaded, but for those
that are passed over. There are none of these unless the clock stands in a leap second, in which
rows are taken for due that are not. -/
theorem sweep_accounts (settings : Settings) (batch : Nat) (w : World) (hquiet : w.Quiet)
    (hdistinct : w.suspensions.Distinct) (hfresh : w.suspensions.FreshFrom w.nextId.value) :
    ∃ outcome w', w.attempt (sweep settings batch) = (some outcome, w') ∧ w'.Quiet ∧
      Accounts settings (sweepTurns settings batch w) w.suspensions w'.suspensions ∧
      (∀ t ∈ sweepTurns settings batch w, t.world.registry = w.registry ∧
        t.world.failing = w.failing) ∧
      match outcome with
      | .error _ => .loadDue ∈ w.failing ∧ sweepTurns settings batch w = []
      | .ok report =>
        .loadDue ∉ w.failing ∧ (sweepTurns settings batch w).map (·.queued) = loaded batch w ∧
        report.skipped = false ∧
        report.resumed + report.failed + report.discarded =
          ((loaded batch w).filter (Counted w)).length ∧
        (w.clock.nanos < Instant.nanosPerSecond →
          report.resumed + report.failed + report.discarded = (loaded batch w).length) := by
  have hgate : w.answer .tryGate = (some true, { w with sweeping := true }) := by
    show (some (!w.sweeping), _) = _
    rw [hquiet.sweeping]
    rfl
  unfold sweepTurns
  rw [hquiet.sweeping, Bool.false_or]
  by_cases hfailing : w.failing.contains .loadDue = true
  · rw [if_pos hfailing]
    refine ⟨.error (.unavailable "load_due"), { w with sweeping := false }, ?_,
      ⟨rfl, hquiet.queue⟩, ?_, List.forall_mem_nil _, by simpa using hfailing, rfl⟩
    · refine Runs.attempt (runs_call hgate (runs_call rfl (runs_call (if_pos hfailing) ?_)))
      exact runs_call rfl rfl
    · exact AccountsFor.of_eq_append (List.append_nil _).symm
  · rw [if_neg hfailing]
    have hrecords := records_afterLoading batch hdistinct
    have hread : (afterLoading batch w).suspensions.readBack = w.suspensions.readBack :=
      SuspensionStore.readBack_due w.clock (max batch 1)
    obtain ⟨report, w', hruns, hswept⟩ :=
      @runs_sweepAll_loaded settings batch w hquiet.queue hdistinct hfresh
    refine ⟨.ok report, { w' with sweeping := false }, ?_, ⟨rfl, hswept.queue⟩, ?_, hswept.worlds,
      by simpa using hfailing, hswept.queued, hswept.skipped, ?_⟩
    · have hload : { w with sweeping := true }.answer (.loadDue w.clock (max batch 1)) =
          (some (.ok (loaded batch w)), afterLoading batch w) := if_neg hfailing
      refine Runs.attempt (runs_call hgate (runs_call rfl (runs_call hload ?_)))
      exact hruns.bind (runs_call rfl rfl)
    · have haccounts := hswept.accounts
      unfold Accounts at haccounts
      rwa [hrecords, hread] at haccounts
    · have htotal : report.resumed + report.failed + report.discarded =
          ((loaded batch w).filter (Counted w)).length := hswept.total.trans (Nat.zero_add _)
      refine ⟨htotal, fun hclock => ?_⟩
      have hall : (loaded batch w).filter (Counted w) = loaded batch w := by
        refine List.filter_eq_self.mpr fun q hq => ?_
        rw [Counted, SuspensionStore.mem_due hq hclock, Bool.true_or]
      rw [htotal, hall]

/-- A conversation that waits for a minute at nine o'clock, and another that waits for an hour. -/
def waiting : World :=
  { World.start ⟨1893488400, 0⟩ (.memory [])
      (.memory
        [⟨⟨1⟩, "bot", "ana", "v1", "wait", .ofChannel "ana", ⟨1893488400, 0⟩, ⟨1893488340, 0⟩⟩,
          ⟨⟨2⟩, "bot", "rui", "v1", "wait", .ofChannel "rui", ⟨1893492000, 0⟩, ⟨1893488400, 0⟩⟩])
      ⟨3⟩ with
    registry := Registry.empty.install "bot" (.ofFlow "v1"
      ⟨[⟨"wait", .delay, [("ms", .ofNat 1)]⟩, ⟨"agent", .humanTakeover, []⟩],
        [⟨none, "wait", "agent", none⟩]⟩) }

theorem sweep_accounts_waiting :
    waiting.Quiet ∧ waiting.suspensions.Distinct ∧
      waiting.suspensions.FreshFrom waiting.nextId.value ∧
      ∃ w', waiting.attempt (sweep ⟨.strict, 10, 15000⟩ 100) = (some (.ok ⟨1, 0, 0, false⟩), w') ∧
        Accounts ⟨.strict, 10, 15000⟩ (sweepTurns ⟨.strict, 10, 15000⟩ 100 waiting)
          waiting.suspensions
          w'.suspensions ∧
        w'.suspensions.records.map (·.id) = [⟨2⟩] := by
  have hquiet : waiting.Quiet := ⟨rfl, rfl⟩
  have hids : ∀ s ∈ waiting.suspensions.records, s.id.value < 3 := by decide
  have hdistinct : waiting.suspensions.Distinct :=
    ⟨by decide +kernel, by decide⟩
  have hfresh : waiting.suspensions.FreshFrom waiting.nextId.value := by
    refine ⟨fun id hid hmem => ?_, hids⟩
    obtain ⟨s, hs, htext⟩ := List.mem_map.mp hmem
    have hlt := hids s hs
    rw [Identifier.text_injective htext] at hlt
    exact Nat.not_lt.mpr hid hlt
  have hran : (waiting.attempt (sweep ⟨.strict, 10, 15000⟩ 100)).1 = some (.ok ⟨1, 0, 0, false⟩) ∧
      (waiting.attempt (sweep ⟨.strict, 10, 15000⟩ 100)).2.suspensions.records.map (·.id) =
        [⟨2⟩] := by
    decide +kernel
  obtain ⟨outcome, w', hattempt, -, haccounts, -, -⟩ :=
    sweep_accounts ⟨.strict, 10, 15000⟩ 100 waiting hquiet hdistinct hfresh
  rw [hattempt] at hran
  obtain ⟨houtcome, hleft⟩ := hran
  rw [Option.some.inj houtcome] at hattempt
  exact ⟨hquiet, hdistinct, hfresh, w', hattempt, haccounts, hleft⟩

end Dispatch

end ChatFlow
