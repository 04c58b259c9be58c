import ChatFlow.Proofs.Sweep

namespace ChatFlow

open World

namespace Dispatch

/-- What came of a record in its turn, with what its run saved. -/
structure Fate where
  queued : Suspension
  result : Resumption
  saved? : Option Suspension

namespace Fate

def Removed (f : Fate) : Prop := f.result = .resumed ∨ f.result = .discarded

/-- How fates come about at a time, with the flows in use then, whichever calls fail. -/
inductive Possible (settings : Settings) (now : Instant) (registry : Registry) : Fate → Prop
  /-- the record could not be read again or not be discarded, or its run failed -/
  | failed {queued : Suspension} : Possible settings now registry ⟨queued, .failed, none⟩
  | early {queued : Suspension} :
    queued.isDue now = false → Possible settings now registry ⟨queued, .gone, none⟩
  | discarded {queued : Suspension} :
    registry.active? queued.botId = none →
    Possible settings now registry ⟨queued, .discarded, none⟩
  /-- the run went on without an error, and behind it the record was removed or could not be -/
  | ran {queued : Suspension} {result : Resumption} {active : ActiveFlow} {run : FlowRun}
    {s s' : Outages × World} :
    result = .resumed ∨ result = .failed → registry.active? queued.botId = some active →
    amid.Runs s (Turn.course settings queued active) (.ok run) s' →
    Possible settings now registry ⟨queued, result, Suspension.ofRun s.2.nextId queued.botId
      queued.conversationId active.version now run⟩

end Fate

/-- The store behind some turns: gone are records whose fate it was to be removed. -/
def Accounted (fates : List Fate) : SuspensionStore → SuspensionStore → Prop :=
  AccountsFor (fun q => ∃ f ∈ fates, f.queued = q ∧ f.Removed) (fates.filterMap (·.saved?))

/-- What a turn has done by the time at which its lock is given up. -/
structure Fate.Befalls (settings : Settings) (f : Fate) (w w' : World) : Prop where
  possible : f.Possible settings w.clock w.registry
  steady : Steady w w'
  locks : w'.locks = w.locks
  accounts : Accounted [f] w.suspensions w'.suspensions
  ids : ∀ saved, f.saved? = some saved → saved.id = w.nextId

variable {settings : Settings} {s : Outages × World} {queued : Suspension}

theorem accounted_of_eq {f : Fate} {a b : SuspensionStore}
    (h : b.records = a.records ++ f.saved?.toList.filterMap a.readBack) : Accounted [f] a b := by
  refine AccountsFor.of_eq_append ?_
  rw [h]
  cases hsaved : f.saved? <;> simp [hsaved]

theorem accounted_of_removed {f : Fate} (hremoved : f.Removed) {a b : SuspensionStore}
    (h : AccountsFor (· = f.queued) f.saved?.toList a b) : Accounted [f] a b := by
  have hsaved : [f].filterMap (·.saved?) = f.saved?.toList := by
    cases hsaved : f.saved? <;> simp [hsaved]
  rw [Accounted, hsaved]
  exact h.mono fun q hq => ⟨f, List.mem_singleton_self f, hq.symm, hremoved⟩

/-- Behind the run of a turn its record is removed, unless the call that removes it fails. -/
theorem runs_remove_amid {w : World} {saved? : Option Suspension} {success : Resumption}
    (hdistinct : w.suspensions.Distinct) (hfresh : w.suspensions.FreshFrom w.nextId.value)
    (hmem : queued ∈ w.suspensions.records) (hid : ∀ s, saved? = some s → s.id = w.nextId)
    (hsteady : Steady w s.2) (hlocks : s.2.locks = w.locks) (hrecords : s.2.suspensions.records =
      w.suspensions.records ++ saved?.toList.filterMap w.suspensions.readBack)
    (hsuccess : success = .resumed ∨ success = .discarded)
    (hpossible : ∀ r, r = success ∨ r = .failed →
      Fate.Possible settings w.clock w.registry ⟨queued, r, saved?⟩) :
    ∃ r s', amid.Runs s (remove queued success) r s' ∧
      Fate.Befalls settings ⟨queued, r, saved?⟩ w s'.2 := by
  by_cases hdelete : .delete ∈ s.2.failing ++ s.1 0
  · have hfailed : amid s (.delete queued.id) =
        (some (.error (.unavailable "delete")), s.1.later, s.2) := lapse_serve_of_mem hdelete _
    exact ⟨.failed, (s.1.later, s.2), .call hfailed (.done _ _),
      hpossible .failed (.inr rfl), hsteady, hlocks, accounted_of_eq hrecords, hid⟩
  · let w' : World := { s.2 with suspensions := (s.2.suspensions.delete queued.id).2 }
    have hanswer : amid s (.delete queued.id) =
        (some (.ok (s.2.suspensions.delete queued.id).1), s.1.later, w') :=
      lapse_serve_of_not_mem hdelete _
    have hremoved : Fate.Removed ⟨queued, success, saved?⟩ := hsuccess
    obtain ⟨hsteady', haccounts⟩ := steady_delete hdistinct hfresh hmem hid hsteady hrecords
    exact ⟨success, (s.1.later, w'), .call hanswer (.done _ _), hpossible success (.inl rfl),
      hsteady', hlocks, accounted_of_removed hremoved haccounts, hid⟩

theorem id_of_ofRun {id : Identifier} {botId conversationId version : String} {now : Instant}
    {run : FlowRun} {saved : Suspension}
    (h : Suspension.ofRun id botId conversationId version now run = some saved) :
    saved.id = id := by
  unfold Suspension.ofRun at h
  obtain ⟨traversal, -, h⟩ := Option.bind_eq_some_iff.mp h
  unfold Suspension.ofEnding at h
  split at h
  · cases h
  · cases h
    rfl

section Turn

variable (hdistinct : s.2.suspensions.Distinct)
  (hfresh : s.2.suspensions.FreshFrom s.2.nextId.value) (hmem : queued ∈ s.2.suspensions.records)

include hdistinct hfresh hmem

theorem runs_resume_turn_amid :
    ∃ (f : Fate) (s' : Outages × World), f.queued = queued ∧
      amid.Runs s (resume settings queued) f.result s' ∧ f.Befalls settings s.2 s'.2 := by
  have hsteady := Steady.refl hdistinct hfresh
  cases hactive : s.2.registry.active? queued.botId with
  | none =>
    have hcall : amid s (.activeFlow queued.botId) = (some none, s.1.later, s.2) :=
      congrArg (fun active? => (some active?, s.1.later, s.2)) hactive
    have hrecords : s.2.suspensions.records = s.2.suspensions.records ++
        (none : Option Suspension).toList.filterMap s.2.suspensions.readBack := by simp
    obtain ⟨r, s', hruns, hbefalls⟩ := @runs_remove_amid settings (s.1.later, s.2) queued s.2 none
      .discarded hdistinct hfresh hmem nofun hsteady rfl hrecords (.inr rfl) fun r hr => by
        rcases hr with rfl | rfl
        · exact .discarded hactive
        · exact .failed
    exact ⟨⟨queued, r, none⟩, s', rfl, .call hcall hruns, hbefalls⟩
  | some active =>
    have hcall : amid s (.activeFlow queued.botId) = (some (some active), s.1.later, s.2) :=
      congrArg (fun active? => (some active?, s.1.later, s.2)) hactive
    obtain ⟨result, s₁, hcourse, hparked⟩ : ∃ result s₁,
        amid.Runs (s.1.later, s.2) (Turn.course settings queued active) result s₁ ∧
        s.2.Parked (result.toOption.bind (Suspension.ofRun s.2.nextId queued.botId
          queued.conversationId active.version s.2.clock)) s₁.2 :=
      runs_resume_amid active.flow queued.nodeId queued.context (s.1.later, s.2)
    obtain ⟨hsteady₁, hrecords⟩ := steady_of_parked hdistinct hfresh hparked fun saved hsaved => by
      obtain ⟨_, -, hrun⟩ := Option.bind_eq_some_iff.mp hsaved
      exact id_of_ofRun hrun
    cases result with
    | error e =>
      refine ⟨⟨queued, .failed, none⟩, s₁, rfl, .call hcall (hcourse.bind (.done _ _)),
        .failed, hsteady₁, hparked.locks, accounted_of_eq hrecords, nofun⟩
    | ok run =>
      obtain ⟨r, s', hruns, hbefalls⟩ := @runs_remove_amid settings s₁ queued s.2 _ .resumed
        hdistinct hfresh hmem (fun saved => id_of_ofRun) hsteady₁ hparked.locks hrecords
        (.inl rfl) fun r hr =>
          @Fate.Possible.ran settings s.2.clock s.2.registry queued r active run (s.1.later, s.2)
            s₁ hr hactive hcourse
      exact ⟨⟨queued, r, _⟩, s', rfl, .call hcall (hcourse.bind hruns), hbefalls⟩

theorem runs_reclaim_amid :
    ∃ (f : Fate) (s' : Outages × World), f.queued = queued ∧
      amid.Runs s (reclaim settings s.2.clock queued) f.result s' ∧
      f.Befalls settings s.2 s'.2 := by
  have hsteady := Steady.refl hdistinct hfresh
  have hrecords : s.2.suspensions.records = s.2.suspensions.records ++
      (none : Option Suspension).toList.filterMap s.2.suspensions.readBack := by simp
  by_cases hpending : .pending ∈ s.2.failing ++ s.1 0
  · have hfailed : amid s (.pending queued.botId queued.conversationId) =
        (some (.error (.unavailable "pending")), s.1.later, s.2) := lapse_serve_of_mem hpending _
    exact ⟨⟨queued, .failed, none⟩, (s.1.later, s.2), rfl, .call hfailed (.done _ _), .failed,
      hsteady, rfl, accounted_of_eq hrecords, nofun⟩
  · have hread : amid s (.pending queued.botId queued.conversationId) =
        (some (.ok (s.2.suspensions.pending queued.botId queued.conversationId)), s.1.later, s.2) :=
      lapse_serve_of_not_mem hpending _
    have hfound := SuspensionStore.find?_pending hdistinct hmem
    cases hdue : queued.isDue s.2.clock with
    | false =>
      refine ⟨⟨queued, .gone, none⟩, (s.1.later, s.2), rfl, .call hread ?_, .early hdue, hsteady,
        rfl, accounted_of_eq hrecords, nofun⟩
      simp only [Activity.done_bind, hfound, hdue]
      exact .done _ _
    | true =>
      obtain ⟨f, s', hqueued, hruns, hbefalls⟩ :=
        @runs_resume_turn_amid settings (s.1.later, s.2) queued hdistinct hfresh hmem
      refine ⟨f, s', hqueued, .call hread ?_, hbefalls⟩
      simpa only [Activity.done_bind, hfound, hdue, if_pos] using hruns

/-- A turn comes to its end under the lock of its conversation, which is free again behind it. -/
theorem runs_take_amid (hqueue : s.2.locks.queue = []) :
    ∃ (f : Fate) (s' : Outages × World), f.queued = queued ∧
      amid.Runs s (take settings s.2.clock queued) f.result s' ∧ s'.2.locks.queue = [] ∧
      f.Possible settings s.2.clock s.2.registry ∧ Steady s.2 s'.2 ∧
      Accounted [f] s.2.suspensions s'.2.suspensions ∧
      ∀ saved, f.saved? = some saved → saved.id = s.2.nextId := by
  let held : Outages × World :=
    (s.1.later.later, s.2.hold (lockKey queued.botId queued.conversationId))
  have hdistinct' : held.2.suspensions.Distinct := hdistinct
  obtain ⟨f, s₁, hqueued, hruns, hpossible, hsteady, hlocks, haccounts, hids⟩ :=
    @runs_reclaim_amid settings held queued hdistinct' hfresh hmem
  obtain ⟨locks, hempty, htake⟩ := runs_locked_amid hqueue hruns hlocks
  exact ⟨f, (s₁.1.later.later, { s₁.2 with locks }), hqueued, htake, hempty, hpossible,
    ⟨hsteady.clock, hsteady.failing, hsteady.registry, hsteady.sweeping, hsteady.distinct,
      hsteady.fresh, hsteady.nextId, hsteady.readBack⟩, haccounts, hids⟩

end Turn

theorem Accounted.append {fs fs' : List Fate} {a b c : SuspensionStore} (h : Accounted fs a b)
    (h' : Accounted fs' b c) (hread : b.readBack = a.readBack)
    (hnew : ∀ f ∈ fs', f.queued ∉ (fs.filterMap (·.saved?)).filterMap a.readBack) :
    Accounted (fs ++ fs') a c := by
  have hboth := AccountsFor.append h h' hread fun q hq ⟨f, hf, hqueued, _⟩ =>
    hnew f hf (hqueued ▸ hq)
  rw [← List.filterMap_append] at hboth
  refine hboth.mono fun q hgone => ?_
  rcases hgone with ⟨f, hf, hrest⟩ | ⟨f, hf, hrest⟩
  · exact ⟨f, List.mem_append_left _ hf, hrest⟩
  · exact ⟨f, List.mem_append_right _ hf, hrest⟩

/-- What the turns of records have come to, one after the other, in a world. -/
structure Met (settings : Settings) (w : World) (due : List Suspension) (fates : List Fate)
    (w' : World) : Prop where
  queued : fates.map (·.queued) = due
  possible : ∀ f ∈ fates, f.Possible settings w.clock w.registry
  steady : Steady w w'
  queue : w'.locks.queue = []
  accounts : Accounted fates w.suspensions w'.suspensions

def tally (fates : List Fate) (report : SweepReport) : SweepReport :=
  fates.foldl (fun report f => f.result.count report) report

theorem runs_sweepAll_amid {due : List Suspension} (hqueue : s.2.locks.queue = [])
    (hdistinct : s.2.suspensions.Distinct) (hfresh : s.2.suspensions.FreshFrom s.2.nextId.value)
    (hmem : ∀ q ∈ due, q ∈ s.2.suspensions.records) (hnodup : due.Nodup) (report : SweepReport) :
    ∃ fates s', amid.Runs s (sweepAll settings s.2.clock report due) (tally fates report) s' ∧
      Met settings s.2 due fates s'.2 := by
  induction due generalizing s report with
  | nil =>
    exact ⟨[], s, .done _ _, rfl, List.forall_mem_nil _, .refl hdistinct hfresh, hqueue,
      AccountsFor.of_eq_append (List.append_nil _).symm⟩
  | cons queued rest ih =>
    have hqueued := hmem queued List.mem_cons_self
    obtain ⟨hnot, hrest⟩ := List.nodup_cons.mp hnodup
    obtain ⟨f, s₁, rfl, hruns, hqueue₁, hpossible, hsteady, haccounts, hids⟩ :=
      @runs_take_amid settings s queued hdistinct hfresh hqueued hqueue
    have hmem₁ : ∀ q ∈ rest, q ∈ s₁.2.suspensions.records := by
      intro q hq
      refine AccountsFor.mem haccounts (hmem q (List.mem_cons_of_mem _ hq)) ?_
      rintro ⟨f', hf', rfl, -⟩
      rw [List.mem_singleton.mp hf'] at hq
      exact hnot hq
    obtain ⟨fates, s', hruns', hmet⟩ :=
      ih hqueue₁ hsteady.distinct hsteady.fresh hmem₁ hrest (f.result.count report)
    rw [hsteady.clock] at hruns'
    refine ⟨f :: fates, s', hruns.bind hruns', ?_, ?_, hsteady.trans hmet.steady, hmet.queue, ?_⟩
    · rw [List.map_cons, hmet.queued]
    · have hothers := hmet.possible
      rw [hsteady.clock, hsteady.registry] at hothers
      exact List.forall_mem_cons.mpr ⟨hpossible, hothers⟩
    · -- what this turn has added is not among the records that were loaded before
      refine haccounts.append hmet.accounts hsteady.readBack fun f' hf' hadded => ?_
      have hrest : f'.queued ∈ rest := hmet.queued ▸ List.mem_map_of_mem hf'
      refine not_mem_added hfresh (fun saved hsaved => ?_) (hmem _ (List.mem_cons_of_mem _ hrest))
        hadded
      obtain ⟨f'', hf'', hsaved⟩ := List.mem_filterMap.mp hsaved
      exact hids saved (List.mem_singleton.mp hf'' ▸ hsaved)

/-- A record is passed over in its turn only if it is not due. -/
theorem Fate.Possible.isDue {now : Instant} {registry : Registry} {f : Fate}
    (h : f.Possible settings now registry) (hgone : f.result = .gone) :
    f.queued.isDue now = false := by
  cases h with
  | early hdue => exact hdue
  | failed => cases hgone
  | discarded => cases hgone
  | ran hresult =>
    dsimp only at hgone
    rcases hresult with rfl | rfl <;> cases hgone

theorem total_tally (fates : List Fate) (report : SweepReport) :
    (tally fates report).total =
      report.total + (fates.filter (·.result != .gone)).length := by
  induction fates generalizing report with
  | nil => rfl
  | cons f rest ih =>
    rw [tally, List.foldl_cons, ← tally, ih]
    exact @total_add_length Fate (·.result != .gone) f f.result bne_iff_ne.symm report rest

theorem skipped_tally (fates : List Fate) (report : SweepReport) :
    (tally fates report).skipped = report.skipped := by
  induction fates generalizing report with
  | nil => rfl
  | cons f rest ih =>
    rw [tally, List.foldl_cons, ← tally, ih]
    exact skipped_count f.result report

/-- Every turn is counted, unless the clock stands in a leap second. -/
theorem length_counted {fates : List Fate} {batch : Nat} {w : World}
    (hqueued : fates.map (·.queued) = loaded batch w)
    (hpossible : ∀ f ∈ fates, f.Possible settings w.clock w.registry)
    (hclock : w.clock.nanos < Instant.nanosPerSecond) :
    (fates.filter (·.result != .gone)).length = (loaded batch w).length := by
  have hall : fates.filter (·.result != .gone) = fates := by
    refine List.filter_eq_self.mpr fun f hf => ?_
    have hdue := SuspensionStore.mem_due (hqueued ▸ List.mem_map_of_mem hf) hclock
    rw [bne_iff_ne]
    intro hgone
    rw [(hpossible f hf).isDue hgone] at hdue
    cases hdue
  rw [hall, ← hqueued, List.length_map]

/-- A sweep comes to its end, whichever of its calls fail, and be it only for once. A record leaves
the store only in its own turn, if its bot runs no flow or its run went on without an error and it
could then be deleted; all others stay as they are. Added are the records that the runs of the turns
have saved, at most one for each, and nothing else. The counts of the report add up to the records
that were loaded, but for those that are passed over; there are none of these unless the clock
stands in a leap second. -/
theorem sweep_accounts_amid (settings : Settings) (batch : Nat) (s : Outages × World)
    (hquiet : s.2.Quiet) (hdistinct : s.2.suspensions.Distinct)
    (hfresh : s.2.suspensions.FreshFrom s.2.nextId.value) :
    ∃ outcome s', amid.Runs s (sweep settings batch) outcome s' ∧ s'.2.Quiet ∧
      match outcome with
      | .error _ => s'.2.suspensions = s.2.suspensions
      | .ok report => ∃ fates : List Fate,
        fates.map (·.queued) = loaded batch s.2 ∧
        (∀ f ∈ fates, f.Possible settings s.2.clock s.2.registry) ∧
        Accounted fates s.2.suspensions s'.2.suspensions ∧
        report = tally fates .zero ∧ report.skipped = false ∧
        report.resumed + report.failed + report.discarded =
          (fates.filter (·.result != .gone)).length ∧
        (s.2.clock.nanos < Instant.nanosPerSecond →
          report.resumed + report.failed + report.discarded = (loaded batch s.2).length) := by
  have hgate : amid s .tryGate = (some true, s.1.later, { s.2 with sweeping := true }) := by
    show (some (!s.2.sweeping), _) = _
    rw [hquiet.sweeping]
    rfl
  by_cases hload : .loadDue ∈ s.2.failing ++ s.1 2
  · have hfailed : amid (s.1.later.later, { s.2 with sweeping := true })
        (.loadDue s.2.clock (max batch 1)) =
        (some (.error (.unavailable "load_due")), s.1.later.later.later,
          { s.2 with sweeping := true }) := lapse_serve_of_mem hload _
    exact ⟨_, _, .call hgate (.call rfl (.call hfailed (.call rfl (.done _ _)))),
      ⟨rfl, hquiet.queue⟩, rfl⟩
  · have hloaded : amid (s.1.later.later, { s.2 with sweeping := true })
        (.loadDue s.2.clock (max batch 1)) =
        (some (.ok (loaded batch s.2)), s.1.later.later.later, afterLoading batch s.2) :=
      lapse_serve_of_not_mem hload _
    obtain ⟨hdistinct', hfresh', hmem⟩ := standing_afterLoading batch hdistinct hfresh
    obtain ⟨fates, s', hruns, hmet⟩ :=
      @runs_sweepAll_amid settings (s.1.later.later.later, afterLoading batch s.2) _ hquiet.queue
        hdistinct' hfresh' hmem (loaded_nodup hdistinct) .zero
    have htotal : (tally fates .zero).resumed + (tally fates .zero).failed +
        (tally fates .zero).discarded = (fates.filter (·.result != .gone)).length :=
      (total_tally fates .zero).trans (Nat.zero_add _)
    refine ⟨.ok (tally fates .zero), (s'.1.later, { s'.2 with sweeping := false }),
      .call hgate (.call rfl (.call hloaded (hruns.bind (.call rfl (.done _ _))))),
      ⟨rfl, hmet.queue⟩, fates, hmet.queued, hmet.possible, ?_, rfl, skipped_tally fates .zero,
      htotal, fun hclock => htotal.trans (length_counted hmet.queued hmet.possible hclock)⟩
    have haccounts := hmet.accounts
    unfold Accounted AccountsFor at haccounts
    rw [records_afterLoading batch hdistinct, show (afterLoading batch s.2).suspensions.readBack =
      s.2.suspensions.readBack from SuspensionStore.readBack_due _ _] at haccounts
    exact haccounts

-- The record whose deletion fails, and nothing else does, stays beside the one that is not due yet.
example :
    (amid.perform (sweep ⟨.strict, 10, 15000⟩ 100)
      (fun n => if n = 9 then [.delete] else [], waiting)).2.2.suspensions.records.map (·.id) =
        [⟨1⟩, ⟨2⟩] := by
  decide +kernel

end Dispatch

end ChatFlow
