import ChatFlow.Proofs.Durability
import ChatFlow.Proofs.Queueing
import Mathlib.Algebra.BigOperators.Group.Finset.Basic

namespace ChatFlow

open World

def SweepReport.removed (report : SweepReport) : Nat := report.resumed + report.discarded

namespace Dispatch

def Resumption.leaves (r : Resumption) (id : Identifier) (store : SuspensionStore) :
    SuspensionStore :=
  match r with
  | resumed | discarded => (store.delete id).2
  | failed | gone => store

theorem Resumption.within_leaves (r : Resumption) (id : Identifier) (store : SuspensionStore) :
    (r.leaves id store).Within store := by
  cases r with
  | resumed => exact store.within_delete id
  | discarded => exact store.within_delete id
  | failed => exact store.within_refl
  | gone => exact store.within_refl

variable {settings : Settings} {t : Turn} {record : Suspension} {batch : Nat} {w w' : World}

theorem runs_remove_leaving (w : World) (record : Suspension) {success : Resumption}
    (hsuccess : success = .resumed ∨ success = .discarded) :
    ∃ r w', w.Runs (remove record success) r w' ∧
      w'.suspensions = r.leaves record.id w.suspensions := by
  by_cases hdelete : w.failing.contains .delete = true
  · exact ⟨.failed, w, runs_call (if_pos hdelete) rfl, rfl⟩
  · have hanswer : w.answer (.delete record.id) = (some (.ok (w.suspensions.delete record.id).1),
        { w with suspensions := (w.suspensions.delete record.id).2 }) := if_neg hdelete
    refine ⟨success, _, runs_call hanswer rfl, ?_⟩
    rcases hsuccess with rfl | rfl <;> rfl

theorem runs_resume_leaving (hrecord : t.record? = some record)
    (hsaved : t.saved? settings = none) :
    ∃ r w', t.world.Runs (resume settings record) r w' ∧
      w'.suspensions = r.leaves record.id t.world.suspensions := by
  cases hactive : t.active? with
  | none =>
    obtain ⟨r, w', hremove, hleaves⟩ := runs_remove_leaving t.world record (.inr rfl)
    exact ⟨r, w', Turn.runs_resume_of_none hrecord hactive hremove, hleaves⟩
  | some active =>
    obtain ⟨result, w₁, hcourse, hparked⟩ : ∃ result w₁,
        t.world.Runs (Turn.course settings record active) result w₁ ∧
        t.world.Parked (result.toOption.bind (Suspension.ofRun t.world.nextId record.botId
          record.conversationId active.version t.world.clock)) w₁ :=
      runs_resume active.flow record.nodeId record.context t.world
    have hresumption : t.resumption? settings = some result := by
      rw [Turn.resumption?, Turn.course?_of_some hrecord hactive, Option.bind_some]
      exact congrArg Prod.fst hcourse.attempt
    rw [Turn.saved?, hrecord, Option.bind_some, hactive, Option.bind_some, hresumption,
      Option.bind_some] at hsaved
    -- nothing was saved on the way, so the store is as it was until the record is removed
    have hsame : w₁.suspensions = t.world.suspensions := by
      rw [hparked.suspensions, hsaved, Option.elim_none]
    cases result with
    | error e =>
      exact ⟨.failed, w₁, Turn.runs_resume_of_some hrecord hactive hcourse ⟨rfl, rfl⟩, hsame⟩
    | ok run =>
      obtain ⟨r, w', hremove, hleaves⟩ := runs_remove_leaving w₁ record (.inl rfl)
      exact ⟨r, w', Turn.runs_resume_of_some hrecord hactive hcourse hremove, hsame ▸ hleaves⟩

theorem runs_reclaim_leaving (hsaved : t.saved? settings = none) :
    ∃ r w', t.world.Runs (reclaim settings t.now t.queued) r w' ∧
      w'.suspensions = r.leaves t.queued.id t.world.suspensions := by
  by_cases hpending : t.world.failing.contains .pending = true
  · exact ⟨.failed, t.world, Turn.runs_reclaim_of_failing hpending, rfl⟩
  · cases hrecord : t.record? with
    | none => exact ⟨.gone, t.world, Turn.runs_reclaim_of_none hpending hrecord, rfl⟩
    | some record =>
      have hid : record.id = t.queued.id := by
        rw [Turn.record?, if_neg hpending] at hrecord
        simpa using List.find?_some (Option.filter_eq_some_iff.mp hrecord).1
      obtain ⟨r, w', hresume, hleaves⟩ := runs_resume_leaving hrecord hsaved
      exact ⟨r, w', Turn.runs_reclaim_of_some hrecord hresume, hid ▸ hleaves⟩

/-- A turn whose run saves nothing touches at most its own record, and only if it is counted as
dealt with. -/
theorem leaves_of_runs_take {queued : Suspension} {r : Resumption} (hqueue : w.locks.queue = [])
    (hdistinct : w.suspensions.Distinct) (hfresh : w.suspensions.FreshFrom w.nextId.value)
    (hmem : queued ∈ w.suspensions.records)
    (hsaved : Turn.saved? settings
      ⟨queued, w.clock, w.hold (lockKey queued.botId queued.conversationId)⟩ = none)
    (h : w.Runs (take settings w.clock queued) r w') :
    w'.suspensions = r.leaves queued.id w.suspensions := by
  let t : Turn := ⟨queued, w.clock, w.hold (lockKey queued.botId queued.conversationId)⟩
  have hdistinct' : t.world.suspensions.Distinct := hdistinct
  obtain ⟨r₁, w₁, hruns, hdealt, -⟩ := @runs_reclaim settings t hdistinct' hfresh hmem rfl
  obtain ⟨locks, -, htake⟩ := runs_locked hqueue hruns hdealt.locks
  obtain ⟨r₂, w₂, hruns₂, hleaves⟩ := runs_reclaim_leaving hsaved
  obtain ⟨rfl, rfl⟩ := hruns.unique hruns₂
  obtain ⟨rfl, rfl⟩ := h.unique htake
  exact hleaves

/-- A record in line either stays there or is counted as removed. -/
theorem Resumption.line_leaves (r : Resumption) {id : Identifier} {store : SuspensionStore}
    {now : Instant} {kept behind : List String} (hdistinct : store.Distinct)
    (hline : store.line now = kept ++ id.text :: behind) (report : SweepReport) :
    ∃ kept', (r.leaves id store).line now = kept' ++ behind ∧
      kept'.length + (r.count report).removed = kept.length + report.removed + 1 := by
  have hnodup : (kept ++ id.text :: behind).Nodup :=
    hline ▸ SuspensionStore.line_nodup hdistinct now
  have hnot : id.text ∉ kept := fun hmem =>
    List.disjoint_of_nodup_append hnodup hmem List.mem_cons_self
  have hdelete : (store.delete id).2.line now = kept ++ behind := by
    rw [SuspensionStore.line_delete, hline, ← hnodup.erase_eq_filter,
      List.erase_append_right _ hnot, List.erase_cons_head]
  have hstays : store.line now = (kept ++ [id.text]) ++ behind := by simp [hline]
  have hlength : (kept ++ [id.text]).length = kept.length + 1 := by simp
  unfold SweepReport.removed count
  cases r with
  | resumed =>
    refine ⟨kept, hdelete, ?_⟩
    dsimp only
    omega
  | discarded => exact ⟨kept, hdelete, rfl⟩
  | failed =>
    refine ⟨kept ++ [id.text], hstays, ?_⟩
    dsimp only
    omega
  | gone =>
    refine ⟨kept ++ [id.text], hstays, ?_⟩
    dsimp only
    omega

/-- The turns of records at the head of the line, behind some that stay there: those that stay now
stay behind them, the others leave the line. -/
theorem line_of_runs_sweepAll {now : Instant} {due : List Suspension} {report report' : SweepReport}
    {kept behind : List String} (h : w.Runs (sweepAll settings now report due) report' w')
    (hnow : w.clock = now) (hqueue : w.locks.queue = [])
    (hsound : w.suspensions.Sound w.nextId.value) (hmem : ∀ q ∈ due, q ∈ w.suspensions.records)
    (hnodup : due.Nodup) (hsaved : ∀ t ∈ turns settings now w due, t.saved? settings = none)
    (hline : w.suspensions.line now = kept ++ (due.map (·.id.text) ++ behind)) :
    w'.suspensions.Sound w'.nextId.value ∧ ∃ kept', w'.suspensions.line now = kept' ++ behind ∧
      kept'.length + report'.removed = kept.length + report.removed + due.length := by
  -- by induction on what was loaded; between what has stayed and what was not loaded the line is
  -- what is still to come
  induction due generalizing w report kept with
  | nil =>
    obtain ⟨rfl, rfl⟩ := h.of_done
    exact ⟨hsound, kept, hline, rfl⟩
  | cons queued rest ih =>
    subst hnow
    have hqueued := hmem queued List.mem_cons_self
    obtain ⟨r, w₁, htake, hsteady, hqueue₁, haccounts, -⟩ :=
      @runs_take settings w queued hqueue hsound.distinct hsound.fresh hqueued
    obtain ⟨r', w₁', htake', hrest⟩ := h.of_bind
    obtain ⟨rfl, rfl⟩ := htake'.unique htake
    rw [turns_cons htake] at hsaved
    obtain ⟨hsaved₁, hsaved⟩ := List.forall_mem_cons.mp hsaved
    obtain ⟨hnot, hnodup⟩ := List.nodup_cons.mp hnodup
    have hleaves := leaves_of_runs_take hqueue hsound.distinct hsound.fresh hqueued hsaved₁ htake
    have hsound₁ : w₁.suspensions.Sound w₁.nextId.value := by
      rw [hleaves]
      exact (hsound.within (r.within_leaves _ _)).mono hsteady.nextId
    have hmem₁ : ∀ q ∈ rest, q ∈ w₁.suspensions.records := by
      intro q hq
      apply haccounts.mem_of_ne (hmem q (List.mem_cons_of_mem _ hq))
      rintro rfl
      exact hnot hq
    obtain ⟨kept₁, hline₁, hlength₁⟩ := r.line_leaves hsound.distinct hline report
    rw [← hleaves] at hline₁
    obtain ⟨hsound', kept', hline', hlength⟩ :=
      ih hrest hsteady.clock hqueue₁ hsound₁ hmem₁ hnodup hsaved hline₁
    refine ⟨hsound', kept', hline', ?_⟩
    rw [List.length_cons]
    omega

/-- What a sweep has done, in which no run was paused again: those that stayed are at the head of
the line, before all that were not taken. They are those that failed, but for records that are
passed over in a leap second. -/
structure Advances (batch : Nat) (w : World) (report : SweepReport) (w' : World) : Prop where
  quiet : w'.Quiet
  sound : w'.suspensions.Sound w'.nextId.value
  clock : w'.clock = w.clock
  registry : w'.registry = w.registry
  line :
    ∃ kept, w'.suspensions.line w.clock = kept ++ (w.suspensions.line w.clock).drop (max batch 1) ∧
    kept.length + report.removed = (loaded batch w).length
  failed : w.clock.nanos < Instant.nanosPerSecond →
    report.failed + report.removed = (loaded batch w).length
  stays : ∀ s ∈ w.suspensions.records, s ∉ loaded batch w → s ∈ w'.suspensions.records

theorem sweepTurns_eq (hquiet : w.Quiet) (hload : .loadDue ∉ w.failing) :
    sweepTurns settings batch w =
      turns settings w.clock (afterLoading batch w) (loaded batch w) := by
  apply if_neg
  rw [hquiet.sweeping, Bool.false_or]
  simpa using hload

theorem attempt_sweep (hquiet : w.Quiet) (hload : .loadDue ∉ w.failing) {report : SweepReport}
    (h : (afterLoading batch w).Runs (sweepAll settings w.clock .zero (loaded batch w)) report w') :
    w.attempt (sweep settings batch) = (some (.ok report), { w' with sweeping := false }) := by
  have hgate : w.answer .tryGate = (some true, { w with sweeping := true }) := by
    show (some (!w.sweeping), _) = _
    rw [hquiet.sweeping]
    rfl
  have hanswer : { w with sweeping := true }.answer (.loadDue w.clock (max batch 1)) =
      (some (.ok (loaded batch w)), afterLoading batch w) := if_neg (by simpa using hload)
  exact Runs.attempt
    (runs_call hgate (runs_call rfl (runs_call hanswer (h.bind (runs_call rfl rfl)))))

theorem exists_attempt_sweep (hquiet : w.Quiet) (hsound : w.suspensions.Sound w.nextId.value)
    (hload : .loadDue ∉ w.failing)
    (hsaved : ∀ t ∈ sweepTurns settings batch w, t.saved? settings = none) :
    ∃ report w', w.attempt (sweep settings batch) = (some (.ok report), w') ∧
      Advances batch w report w' := by
  have hrecords : (afterLoading batch w).suspensions.records = w.suspensions.records :=
    SuspensionStore.records_due hsound.distinct w.clock (max batch 1)
  have hmem : ∀ q ∈ loaded batch w, q ∈ (afterLoading batch w).suspensions.records := fun q hq =>
    hrecords ▸ (SuspensionStore.due_subperm _ _ _).subset hq
  obtain ⟨report, w', hruns, hswept⟩ :=
    @runs_sweepAll_loaded settings batch w hquiet.queue hsound.distinct hsound.fresh
  rw [sweepTurns_eq hquiet hload] at hsaved
  have hline : (afterLoading batch w).suspensions.line w.clock =
      [] ++ ((loaded batch w).map (·.id.text) ++ (w.suspensions.line w.clock).drop (max batch 1)) :=
    SuspensionStore.line_due hsound
  have hsound' : (afterLoading batch w).suspensions.Sound (afterLoading batch w).nextId.value :=
    hsound.within (w.suspensions.within_due _ _)
  obtain ⟨hsound'', kept, hkept, hlength⟩ :=
    line_of_runs_sweepAll hruns rfl hquiet.queue hsound' hmem
    (loaded_nodup hsound.distinct) hsaved hline
  refine ⟨report, { w' with sweeping := false }, attempt_sweep hquiet hload hruns,
    ⟨rfl, hswept.queue⟩, hsound'', hswept.steady.clock, hswept.steady.registry,
    ⟨kept, hkept, ?_⟩, ?_, ?_⟩
  · rwa [List.length_nil, Nat.zero_add, show SweepReport.zero.removed = 0 from rfl, Nat.zero_add]
      at hlength
  · intro hclock
    have hall : (loaded batch w).filter (Counted (afterLoading batch w)) = loaded batch w := by
      apply List.filter_eq_self.mpr
      intro q hq
      rw [Counted, show q.isDue (afterLoading batch w).clock =
        true from SuspensionStore.mem_due hq hclock, Bool.true_or]
    have htotal := hswept.total
    rw [hall, SweepReport.total, SweepReport.total] at htotal
    simp only [SweepReport.zero] at htotal
    rw [SweepReport.removed]
    omega
  · -- a record leaves the store only in its own turn, and one that was not loaded has none
    intro s hs hnot
    obtain ⟨keeps, hkeeps, hlost⟩ := hswept.accounts
    rw [← hrecords] at hs
    show s ∈ w'.suspensions.records
    rw [hkeeps]
    apply List.mem_append_left
    apply List.mem_filter.mpr
    refine ⟨hs, ?_⟩
    by_contra hgone
    obtain ⟨t, ht, rfl, -⟩ := hlost s hs (by simpa using hgone)
    exact hnot (hswept.queued ▸ List.mem_map_of_mem ht)

/-- The run of the record goes on in its turn in the sweep. -/
def Attempts (settings : Settings) (batch : Nat) (w : World) (s : Suspension) : Prop :=
  ∃ t ∈ sweepTurns settings batch w, t.queued = s ∧
    ∃ active, t.active? = some active ∧ t.course? settings = some (Turn.course settings s active)

def ahead (w : World) (s : Suspension) : Nat := (w.suspensions.line w.clock).idxOf s.id.text

/-- How many of the records that the sweep takes stay in line. -/
def staying (settings : Settings) (batch : Nat) (w : World) : Nat :=
  match (w.attempt (sweep settings batch)).1 with
  | some (.ok report) => (loaded batch w).length - report.removed
  | some (.error _) | none => 0

section Place

variable {s : Suspension} (hsound : w.suspensions.Sound w.nextId.value)
    (hs : s ∈ w.suspensions.records)
  (hdue : s.isDue w.clock = true)

include hsound hs hdue

theorem mem_loaded_iff : s ∈ loaded batch w ↔ ahead w s < max batch 1 :=
  (SuspensionStore.mem_due_iff hsound hs).trans
    (List.mem_take_iff_idxOf_lt (SuspensionStore.mem_line hsound hs hdue))

omit hs in
theorem attempts_iff_mem_loaded (hquiet : w.Quiet) (hload : .loadDue ∉ w.failing)
    (hpending : .pending ∉ w.failing) {active : ActiveFlow}
    (hactive : w.registry.active? s.botId = some active) :
    Attempts settings batch w s ↔ s ∈ loaded batch w := by
  obtain ⟨report, w', -, hswept⟩ :=
    @runs_sweepAll_loaded settings batch w hquiet.queue hsound.distinct hsound.fresh
  have hturns : sweepTurns settings batch w =
      turns settings w.clock (afterLoading batch w) (loaded batch w) :=
    sweepTurns_eq hquiet hload
  constructor
  · rintro ⟨t, ht, rfl, -⟩
    rw [hturns] at ht
    exact hswept.queued ▸ List.mem_map_of_mem ht
  · intro hmem
    obtain ⟨t, ht, rfl, hcourse⟩ :=
      exists_turn settings hquiet hsound.distinct hsound.fresh hload hpending hmem hdue
    -- flows are not exchanged while a sweep is under way
    have hactive' : t.active? = some active := by
      rw [hturns] at ht
      rw [Turn.active?, (hswept.worlds t ht).1]
      exact hactive
    exact ⟨t, ht, rfl, active, hactive', by rw [hcourse, hactive', Option.map_some]⟩

/-- A record that was not taken moves ahead by a batch, less those that have stayed. -/
theorem ahead_of_advances {report : SweepReport} (h : Advances batch w report w')
    (hnot : s ∉ loaded batch w) :
    ahead w' s + max batch 1 + report.removed = ahead w s + (loaded batch w).length := by
  obtain ⟨kept, hline, hlength⟩ := h.line
  have hmem := SuspensionStore.mem_line hsound hs hdue
  have hwait : s.id.text ∉ (w.suspensions.line w.clock).take (max batch 1) :=
    mt (SuspensionStore.mem_due_iff hsound hs).mpr hnot
  -- the record is not among those that stayed, so that it waits behind them as it did behind the
  -- batch
  have hkept : s.id.text ∉ kept := by
    intro hkept
    have hnodup := SuspensionStore.line_nodup h.sound.distinct w.clock
    rw [hline] at hnodup
    rw [← List.take_append_drop (max batch 1) (w.suspensions.line w.clock), List.mem_append] at hmem
    exact List.disjoint_of_nodup_append hnodup hkept (hmem.resolve_left hwait)
  have hbefore :
      ahead w s = max batch 1 + ((w.suspensions.line w.clock).drop (max batch 1)).idxOf s.id.text :=
    idxOf_eq_add_idxOf_drop hmem hwait
  have hafter : ahead w' s =
      kept.length + ((w.suspensions.line w.clock).drop (max batch 1)).idxOf s.id.text := by
    rw [ahead, h.clock, hline]
    exact List.idxOf_append_of_notMem hkept
  omega

end Place

/-- Between two sweeps the clock stands still, and nothing is done to paused runs, flows or locks.
What else there is may have changed: what was said, what requests are answered with, what is out of
service. -/
structure Undisturbed (w w' : World) : Prop where
  clock : w'.clock = w.clock
  registry : w'.registry = w.registry
  suspensions : w'.suspensions = w.suspensions
  locks : w'.locks = w.locks
  sweeping : w'.sweeping = w.sweeping
  nextId : w'.nextId = w.nextId

/-- So many sweeps one after the other, from a world at rest. The records can be read in each, and
no run of them is paused again. -/
structure Series (settings : Settings) (batch : Nat) (ws : Nat → World) (k : Nat) : Prop where
  quiet : (ws 0).Quiet
  sound : (ws 0).suspensions.Sound (ws 0).nextId.value
  follows : ∀ j < k, Undisturbed ((ws j).attempt (sweep settings batch)).2 (ws (j + 1))
  load : ∀ j < k, .loadDue ∉ (ws j).failing
  pending : ∀ j < k, .pending ∉ (ws j).failing
  saved : ∀ j < k, ∀ t ∈ sweepTurns settings batch (ws j), t.saved? settings = none

structure AtRest (w₀ w : World) : Prop where
  quiet : w.Quiet
  sound : w.suspensions.Sound w.nextId.value
  clock : w.clock = w₀.clock
  registry : w.registry = w₀.registry

namespace Series

variable {ws : Nat → World} {k j : Nat} {s : Suspension}

/-- Every sweep comes to its end, if the one before has left the world at rest. -/
theorem sweep (h : Series settings batch ws k) (hj : j < k) (hrest : AtRest (ws 0) (ws j)) :
    ∃ report, (ws j).attempt (Dispatch.sweep settings batch) =
        (some (.ok report), ((ws j).attempt (Dispatch.sweep settings batch)).2) ∧
      Advances batch (ws j) report ((ws j).attempt (Dispatch.sweep settings batch)).2 := by
  obtain ⟨report, w', hattempt, hadvances⟩ :=
    exists_attempt_sweep hrest.quiet hrest.sound (h.load j hj) (h.saved j hj)
  rw [hattempt]
  exact ⟨report, rfl, hadvances⟩

theorem atRest (h : Series settings batch ws k) (hj : j ≤ k) : AtRest (ws 0) (ws j) := by
  induction j with
  | zero => exact ⟨h.quiet, h.sound, rfl, rfl⟩
  | succ j ih =>
    have hrest := ih (Nat.le_of_succ_le hj)
    obtain ⟨report, -, hadvances⟩ := h.sweep hj hrest
    have hnext := h.follows j hj
    refine ⟨⟨?_, ?_⟩, ?_, ?_, ?_⟩
    · rw [hnext.sweeping, hadvances.quiet.sweeping]
    · rw [hnext.locks, hadvances.quiet.queue]
    · rw [hnext.suspensions, hnext.nextId]
      exact hadvances.sound
    · rw [hnext.clock, hadvances.clock, hrest.clock]
    · rw [hnext.registry, hadvances.registry, hrest.registry]

theorem attempts_iff (h : Series settings batch ws k) {active : ActiveFlow}
    (hactive : (ws 0).registry.active? s.botId = some active) (hdue : s.isDue (ws 0).clock = true)
    (hj : j < k) :
    Attempts settings batch (ws j) s ↔ s ∈ loaded batch (ws j) := by
  have hrest := h.atRest (Nat.le_of_lt hj)
  rw [← hrest.registry] at hactive
  rw [← hrest.clock] at hdue
  exact attempts_iff_mem_loaded hrest.sound hdue hrest.quiet (h.load j hj) (h.pending j hj) hactive

/-- As long as its run does not go on, a record stays, and moves ahead by a batch in each sweep,
less what stays. -/
theorem ahead_of_not_attempts (h : Series settings batch ws k) {active : ActiveFlow}
    (hactive : (ws 0).registry.active? s.botId = some active) (hs : s ∈ (ws 0).suspensions.records)
    (hdue : s.isDue (ws 0).clock = true) (hj : j ≤ k)
    (hnot : ∀ i < j, ¬ Attempts settings batch (ws i) s) :
    s ∈ (ws j).suspensions.records ∧
      ahead (ws j) s + j * max batch 1 =
        ahead (ws 0) s + ∑ i ∈ Finset.range j, staying settings batch (ws i) := by
  induction j with
  | zero => exact ⟨hs, by simp⟩
  | succ j ih =>
    obtain ⟨hmem, hplace⟩ := ih (Nat.le_of_succ_le hj) fun i hi => hnot i (Nat.lt_succ_of_lt hi)
    have hrest := h.atRest (Nat.le_of_succ_le hj)
    have hdue' : s.isDue (ws j).clock = true := hrest.clock ▸ hdue
    obtain ⟨report, hattempt, hadvances⟩ := h.sweep hj hrest
    have hwaits : s ∉ loaded batch (ws j) := by
      rw [← h.attempts_iff hactive hdue hj]
      exact hnot j (Nat.lt_succ_self j)
    have hnext := h.follows j hj
    have hahead := ahead_of_advances hrest.sound hmem hdue' hadvances hwaits
    have hstaying :
        staying settings batch (ws j) = (loaded batch (ws j)).length - report.removed := by
      rw [staying, hattempt]
    obtain ⟨kept, -, hkept⟩ := hadvances.line
    have hsame :
        ahead (ws (j + 1)) s = ahead ((ws j).attempt (Dispatch.sweep settings batch)).2 s := by
      rw [ahead, hnext.suspensions, hnext.clock, ahead]
    refine ⟨hnext.suspensions ▸ hadvances.stays s hmem hwaits, ?_⟩
    rw [Finset.sum_range_succ, hstaying, hsame, Nat.succ_mul]
    omega

/-- The first time, a record is got to when its place in line falls within the batches so far. -/
theorem attempts_iff_of_not_attempts (h : Series settings batch ws k) {active : ActiveFlow}
    (hactive : (ws 0).registry.active? s.botId = some active) (hs : s ∈ (ws 0).suspensions.records)
    (hdue : s.isDue (ws 0).clock = true) (hj : j < k)
    (hnot : ∀ i < j, ¬ Attempts settings batch (ws i) s) :
    Attempts settings batch (ws j) s ↔
      ahead (ws 0) s + ∑ i ∈ Finset.range j, staying settings batch (ws i) <
        (j + 1) * max batch 1 := by
  obtain ⟨hmem, hahead⟩ := h.ahead_of_not_attempts hactive hs hdue (Nat.le_of_lt hj) hnot
  have hrest := h.atRest (Nat.le_of_lt hj)
  rw [h.attempts_iff hactive hdue hj, mem_loaded_iff hrest.sound hmem (hrest.clock ▸ hdue),
    ← hahead, Nat.succ_mul]
  omega

theorem exists_attempts_iff (h : Series settings batch ws k) {active : ActiveFlow}
    (hactive : (ws 0).registry.active? s.botId = some active) (hs : s ∈ (ws 0).suspensions.records)
    (hdue : s.isDue (ws 0).clock = true) :
    (∃ j < k, Attempts settings batch (ws j) s) ↔
      ∃ j < k, ahead (ws 0) s + ∑ i ∈ Finset.range j, staying settings batch (ws i) <
        (j + 1) * max batch 1 := by
  constructor
  · -- the law is that of the first sweep that gets to the record
    intro hex
    classical
    obtain ⟨hj, hattempts⟩ := Nat.find_spec hex
    refine ⟨Nat.find hex, hj, (h.attempts_iff_of_not_attempts hactive hs hdue hj ?_).mp hattempts⟩
    intro i hi hearlier
    exact Nat.find_min hex hi ⟨Nat.lt_trans hi hj, hearlier⟩
  · rintro ⟨j, hj, hlt⟩
    by_contra hnone
    have hnot : ∀ i < k, ¬ Attempts settings batch (ws i) s :=
      fun i hi hattempts => hnone ⟨i, hi, hattempts⟩
    have hnext :=
      h.attempts_iff_of_not_attempts hactive hs hdue hj fun i hi => hnot i (Nat.lt_trans hi hj)
    exact hnot j hj (hnext.mpr hlt)

end Series

/-- Sweeps one after the other, beside which nothing else is done to paused runs, come to their
ends. Whether they get to a record that is due, whose bot runs a flow, depends on its place in line
and on how many of the others stay there, which are those that fail: every sweep takes a batch from
the head of the line, and those that fail go back there. So all that are due are got to if the
failures leave enough room, as they do if there are none; where each time a whole batch fails, no
other record is ever got to. -/
theorem attempts_iff_of_series (settings : Settings) (batch k : Nat) (ws : Nat → World)
    (s : Suspension) (active : ActiveFlow) (h : Series settings batch ws k)
    (hs : s ∈ (ws 0).suspensions.records) (hdue : s.isDue (ws 0).clock = true)
    (hactive : (ws 0).registry.active? s.botId = some active) :
    (∀ j < k, ∃ report, ((ws j).attempt (sweep settings batch)).1 = some (.ok report) ∧
        ((ws 0).clock.nanos < Instant.nanosPerSecond →
          staying settings batch (ws j) = report.failed)) ∧
      ((∃ j < k, Attempts settings batch (ws j) s) ↔
        ∃ j < k, ahead (ws 0) s + ∑ i ∈ Finset.range j, staying settings batch (ws i) <
          (j + 1) * max batch 1) ∧
      (((ws 0).suspensions.line (ws 0).clock).length + ∑ i ∈ Finset.range k,
        staying settings batch (ws i) ≤
        k * max batch 1 → ∃ j < k, Attempts settings batch (ws j) s) := by
  refine ⟨?_, h.exists_attempts_iff hactive hs hdue, ?_⟩
  · intro j hj
    have hrest := h.atRest (Nat.le_of_lt hj)
    obtain ⟨report, hattempt, hadvances⟩ := h.sweep hj hrest
    refine ⟨report, congrArg Prod.fst hattempt, fun hclock => ?_⟩
    have hfailed := hadvances.failed (hrest.clock ▸ hclock)
    rw [staying, hattempt]
    dsimp only
    omega
  · intro hroom
    have hlong : ahead (ws 0) s < ((ws 0).suspensions.line (ws 0).clock).length :=
      List.idxOf_lt_length_of_mem (SuspensionStore.mem_line h.sound hs hdue)
    cases k with
    | zero =>
      rw [Nat.zero_mul] at hroom
      omega
    | succ k =>
      -- the last of the sweeps is late enough
      rw [Finset.sum_range_succ] at hroom
      exact (h.exists_attempts_iff hactive hs hdue).mpr ⟨k, Nat.lt_succ_self k, by omega⟩

def hopeless : Flow where
  nodes :=
    [⟨"wait", .delay, [("ms", .ofNat 60)]⟩, ⟨"call", .apiRequest, [("url", .text "not a url")]⟩]
  edges := [⟨none, "wait", "call", none⟩]

def nudge : Flow where
  nodes :=
    [⟨"wait", .delay, [("ms", .ofNat 60)]⟩,
      ⟨"remind", .sendMessage, [("text", .text "Are you still there?")]⟩]
  edges := [⟨none, "wait", "remind", none⟩]

/-- A run that has waited for a minute since nine o'clock, and cannot go on. -/
def stuck : Suspension :=
  ⟨⟨1⟩, "lookup", "ana", "v1", "wait", .ofChannel "ana", ⟨1893488460, 0⟩, ⟨1893488400, 0⟩⟩

/-- A run that has waited for a second less, and could go on. -/
def patient : Suspension :=
  ⟨⟨2⟩, "bot", "rui", "v1", "wait", .ofChannel "rui", ⟨1893488461, 0⟩, ⟨1893488401, 0⟩⟩

def backlog : World :=
  { World.start ⟨1893488520, 0⟩ (.memory []) (.memory [stuck, patient]) ⟨3⟩ with
    registry :=
      (Registry.empty.install "lookup" (.ofFlow "v1" hopeless)).install "bot" (.ofFlow "v1" nudge) }

def sweeps (settings : Settings) (batch : Nat) (w : World) : Nat → World
  | 0 => w
  | j + 1 => ((sweeps settings batch w j).attempt (sweep settings batch)).2

theorem loaded_backlog (hstore : w.suspensions = .memory [stuck, patient])
    (hclock : w.clock = backlog.clock) (batch : Nat) : loaded batch w = [stuck, patient].take
    (max batch 1) := by
  have hsorted :
      ([stuck, patient].filter (·.isDue backlog.clock)).mergeSort SuspensionTable.earlier =
      [stuck, patient] := List.mergeSort_of_pairwise (by decide)
  rw [loaded, hstore, hclock]
  exact congrArg (List.take _) hsorted

theorem sound_backlog : backlog.suspensions.Sound backlog.nextId.value := by
  have hids : ∀ s ∈ backlog.suspensions.records, s.id.value < 3 := by decide
  refine ⟨⟨by decide +kernel, by decide⟩, trivial, fun id hid hmem => ?_, hids⟩
  obtain ⟨s, hs, htext⟩ := List.mem_map.mp hmem
  have hlt := hids s hs
  rw [Identifier.text_injective htext] at hlt
  exact Nat.not_lt.mpr hid hlt

theorem quiet_backlog : backlog.Quiet := ⟨rfl, rfl⟩

def strictly : Settings := ⟨.strict, 10, 15000⟩

theorem attempts_iff_of_series_backlog :
    Series strictly 2 (sweeps strictly 2 backlog) 1 ∧
      ∃ j < 1, Attempts strictly 2 (sweeps strictly 2 backlog j) patient := by
  have hloaded : loaded 2 backlog = [stuck, patient] := loaded_backlog rfl rfl 2
  have hsaved : ∀ t ∈ sweepTurns strictly 2 backlog, t.saved? strictly = none := by
    rw [sweepTurns_eq quiet_backlog List.not_mem_nil, hloaded]
    decide +kernel
  have hseries : Series strictly 2 (sweeps strictly 2 backlog) 1 := by
    refine ⟨quiet_backlog, sound_backlog, fun _ _ => ⟨rfl, rfl, rfl, rfl, rfl, rfl⟩, ?_, ?_, ?_⟩
    · exact Nat.forall_lt_succ_right.mpr ⟨nofun, List.not_mem_nil⟩
    · exact Nat.forall_lt_succ_right.mpr ⟨nofun, List.not_mem_nil⟩
    · exact Nat.forall_lt_succ_right.mpr ⟨nofun, hsaved⟩
  have hmem : patient ∈ backlog.suspensions.records := List.mem_cons_of_mem _ List.mem_cons_self
  have hdue : patient.isDue backlog.clock = true := by decide
  have hplace : ahead (sweeps strictly 2 backlog 0) patient < max 2 1 := by
    apply (mem_loaded_iff sound_backlog hmem hdue).mp
    rw [hloaded]
    exact hmem
  obtain ⟨-, hlaw, -⟩ :=
    attempts_iff_of_series strictly 2 1 _ patient (.ofFlow "v1" nudge) hseries hmem hdue rfl
  exact ⟨hseries, hlaw.mpr ⟨0, Nat.zero_lt_one, by simpa using hplace⟩⟩

/-- The world behind a sweep that has taken only the run that cannot go on. -/
theorem sweeps_backlog : sweeps strictly 1 backlog 1 =
    { ((afterLoading 1 backlog).attempt (sweepAll strictly backlog.clock .zero [stuck])).2
      with sweeping := false } := by
  have hloaded : loaded 1 backlog = [stuck] := loaded_backlog rfl rfl 1
  have hruns : (afterLoading 1 backlog).Runs
      (sweepAll strictly backlog.clock .zero (loaded 1 backlog)) ⟨0, 1, 0, false⟩
      ((afterLoading 1 backlog).attempt (sweepAll strictly backlog.clock .zero [stuck])).2 := by
    rw [hloaded]
    exact runs_of_attempt (by decide +kernel)
  rw [sweeps, sweeps, attempt_sweep quiet_backlog List.not_mem_nil hruns]

/-- The sweep leaves the store as it was, and so the next one takes the same record. -/
theorem loaded_sweeps_backlog : ∀ j < 2, loaded 1 (sweeps strictly 1 backlog j) = [stuck] := by
  have hstore : (sweeps strictly 1 backlog 1).suspensions = .memory [stuck, patient] := by
    rw [sweeps_backlog]
    with_unfolding_all rfl
  have hclock : (sweeps strictly 1 backlog 1).clock = backlog.clock := by
    rw [sweeps_backlog]
    with_unfolding_all rfl
  exact Nat.forall_lt_succ_right.mpr
    ⟨Nat.forall_lt_succ_right.mpr ⟨nofun, loaded_backlog rfl rfl 1⟩, loaded_backlog hstore hclock 1⟩

theorem series_backlog : Series strictly 1 (sweeps strictly 1 backlog) 2 := by
  have hfailing : (sweeps strictly 1 backlog 1).failing = [] := by
    rw [sweeps_backlog]
    with_unfolding_all rfl
  have hservice : ∀ (op : Operation), ∀ j < 2, op ∉ (sweeps strictly 1 backlog j).failing := by
    intro op
    exact Nat.forall_lt_succ_right.mpr
      ⟨Nat.forall_lt_succ_right.mpr ⟨nofun, List.not_mem_nil⟩, hfailing ▸ List.not_mem_nil⟩
  have hquiet : (sweeps strictly 1 backlog 1).Quiet := by
    rw [sweeps_backlog]
    exact ⟨rfl, by with_unfolding_all rfl⟩
  have hsaved : ∀ t ∈ sweepTurns strictly 1 backlog, t.saved? strictly = none := by
    rw [sweepTurns_eq quiet_backlog List.not_mem_nil, loaded_backlog rfl rfl 1]
    decide +kernel
  have hsaved' : ∀ t ∈ sweepTurns strictly 1 (sweeps strictly 1 backlog 1), t.saved? strictly =
      none := by
    rw [sweepTurns_eq hquiet (hservice _ 1 (by decide)), loaded_sweeps_backlog 1 (by decide),
      sweeps_backlog]
    decide +kernel
  refine ⟨quiet_backlog, sound_backlog, fun _ _ => ⟨rfl, rfl, rfl, rfl, rfl, rfl⟩, hservice _,
    hservice _, ?_⟩
  exact Nat.forall_lt_succ_right.mpr ⟨Nat.forall_lt_succ_right.mpr ⟨nofun, hsaved⟩, hsaved'⟩

/-- One by one, two sweeps are not enough for the two: both take the run that cannot go on. -/
theorem not_attempts_backlog :
    Series strictly 1 (sweeps strictly 1 backlog) 2 ∧
      backlog.suspensions.records = [stuck, patient] ∧
      (∀ s ∈ [stuck, patient], s.isDue backlog.clock = true ∧
        (backlog.registry.active? s.botId).isSome) ∧
      ¬ ∃ j < 2, Attempts strictly 1 (sweeps strictly 1 backlog j) patient := by
  refine ⟨series_backlog, rfl, by decide +kernel, ?_⟩
  rintro ⟨j, hj, hattempts⟩
  have hactive : backlog.registry.active? patient.botId = some (.ofFlow "v1" nudge) := rfl
  rw [series_backlog.attempts_iff hactive (by decide) hj, loaded_sweeps_backlog j hj,
    List.mem_singleton] at hattempts
  exact absurd (congrArg Suspension.id hattempts) (by decide)

end Dispatch

end ChatFlow
