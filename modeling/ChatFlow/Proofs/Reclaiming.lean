import ChatFlow.Proofs.Minting
import ChatFlow.Proofs.Workers

namespace ChatFlow

open World

variable {reserved reserved' : Identifier → Prop} {w w' : World} {settings : Settings} {batch : Nat}

namespace Reclaim

variable {now : Instant} {queued : Suspension} {b : Reclaim} {c : Call} {next : c.Answer → Reclaim}
  {answer : c.Answer}

/-- What is dealt with is kept, and its run saves under spare identifiers. -/
def Proper (reserved : Identifier → Prop) (w : World) (queued : Suspension) : Reclaim → Prop
  | rereading | ended _ => True
  | choosing record | discarding record => w.Retains queued record
  | resuming record course =>
    w.Retains queued record ∧ ∃ held, course.Mints held ∧ ∀ id ∈ held, w.Spare reserved id

theorem Proper.retains (h : b.Proper reserved w queued) {record : Suspension}
    (hb : b.record? = some record) :
    w.Retains queued record := by
  cases b with
  | choosing record =>
    cases hb
    exact h
  | resuming record course =>
    cases hb
    exact h.1
  | discarding record =>
    cases hb
    exact h
  | rereading => cases hb
  | ended r => cases hb

theorem Proper.mono (h : b.Proper reserved w queued)
    (hretains : ∀ record, w.Retains queued record → w'.Retains queued record)
    (hspare : ∀ id, w.Spare reserved id → w'.Spare reserved' id) :
    b.Proper reserved' w' queued := by
  cases b with
  | choosing record => exact hretains record h
  | resuming record course =>
    obtain ⟨hmem, held, hmints, hheld⟩ := h
    exact ⟨hretains record hmem, held, hmints, fun id hid => hspare id (hheld id hid)⟩
  | discarding record => exact hretains record h
  | rereading => trivial
  | ended r => trivial

/-- Only a run saves, and it does so under a spare identifier. -/
theorem Proper.spare (h : b.Proper reserved w queued) {record : Suspension}
    {next : Except Failure Unit → Reclaim} (hview : b.view settings now queued =
      .ask (.save record) next) : w.Spare reserved record.id := by
  cases b with
  | resuming record' course =>
    obtain ⟨-, held, hmints, hheld⟩ := h
    rcases course with (e | run) | ⟨c, next'⟩
    · cases hview
    · cases hview
    · cases hview
      cases hmints with
      | save heq => exact hheld _ heq
      | talk hc => exact hc.elim
  | rereading => cases hview
  | choosing record' => cases hview
  | discarding record' => cases hview
  | ended r => cases hview

/-- Nothing that is done with a record touches locks or the gate. -/
theorem Proper.not_isClaim (h : b.Proper reserved w queued)
    (hview : b.view settings now queued = .ask c next) :
    ¬ c.IsClaim ∧ c ≠ .tryGate ∧ c ≠ .leaveGate := by
  cases b with
  | resuming record course =>
    obtain ⟨-, held, hmints, -⟩ := h
    rcases course with (e | run) | ⟨c', next'⟩
    · cases hview
    · cases hview
      exact ⟨id, nofun, nofun⟩
    · cases hview
      cases hmints with
      | take => exact ⟨id, nofun, nofun⟩
      | save => exact ⟨id, nofun, nofun⟩
      | talk hc => exact hc.not_isClaim
  | rereading =>
    cases hview
    exact ⟨id, nofun, nofun⟩
  | choosing record =>
    cases hview
    exact ⟨id, nofun, nofun⟩
  | discarding record =>
    cases hview
    exact ⟨id, nofun, nofun⟩
  | ended r => cases hview

theorem proper_removed (success : Dispatch.Resumption) (removal : Except Failure Bool) :
    (removed success removal).Proper reserved w queued := by
  cases removal <;> trivial

theorem proper_choose (reserved : Identifier → Prop) (w : World) (now : Instant)
    (queued : Suspension) :
    (choose now queued (.ok (w.suspensions.pending queued.botId queued.conversationId))).Proper
      reserved w queued := by
  unfold choose
  dsimp only
  split
  · trivial
  · next record hfind =>
    split
    · have hmem := List.mem_of_find?_eq_some hfind
      obtain ⟨hbot, hconversation⟩ := SuspensionStore.owner_of_mem_pending hmem
      exact ⟨SuspensionStore.mem_records_of_mem_pending hmem, hbot, hconversation⟩
    · trivial

theorem proper_start {record : Suspension} (h : w.Retains queued record)
    (active? : Option ActiveFlow) :
    (start settings record active?).Proper reserved w queued := by
  cases active? with
  | none => exact h
  | some active => exact ⟨h, none, Flow.execute_resume_mints _ _ _, nofun⟩

theorem Proper.goOn {record : Suspension} {next : c.Answer → Activity (Except FlowError FlowRun)}
    (hw : w.Orderly reserved) (h : (resuming record (.call c next)).Proper reserved w queued)
    (hanswer : (w.answer c).1 = some answer) :
    (resuming record (next answer)).Proper reserved (w.answer c).2 queued := by
  obtain ⟨hretains, held, hmints, hheld⟩ := h
  cases hmints with
  | take hnext =>
    cases hanswer
    refine ⟨⟨hretains.mem, hretains.botId, hretains.conversationId⟩, some w.nextId,
      hnext w.nextId, ?_⟩
    -- what was given before, kept or reserved, is below the new identifier
    rintro id ⟨⟩
    exact ⟨hw.sound.fresh.keys _ (Nat.le_refl _), Nat.lt_succ_self _,
      fun hid => Nat.lt_irrefl _ (hw.given _ hid)⟩
  | save heq hnext =>
    refine ⟨⟨?_, hretains.botId, hretains.conversationId⟩, none, hnext answer, nofun⟩
    rw [suspensions_answer hw.unfailing]
    show record ∈ (w.suspensions.save _).records
    rw [SuspensionStore.records_save (hheld _ heq).new]
    exact List.mem_append_left _ hretains.mem
  | talk hc hnext =>
    have htalked := w.talked_answer hc
    refine ⟨⟨?_, hretains.botId, hretains.conversationId⟩, held, hnext answer, fun id hid => ?_⟩
    · rw [htalked.suspensions]
      exact hretains.mem
    · obtain ⟨hnew, hgiven, hunreserved⟩ := hheld id hid
      rw [← htalked.suspensions] at hnew
      rw [← htalked.nextId] at hgiven
      exact ⟨hnew, hgiven, hunreserved⟩

/-- The next thing that is done with a record is proper again. -/
theorem Proper.of_view (hw : w.Orderly reserved) (h : b.Proper reserved w queued)
    (hview : b.view settings now queued = .ask c next) (hanswer : (w.answer c).1 = some answer) :
    (next answer).Proper reserved (w.answer c).2 queued := by
  cases b with
  | rereading =>
    cases hview
    have hserve := serve_of_unfailing hw.unfailing .pending
      (Except.ok (w.suspensions.pending queued.botId queued.conversationId), w)
    have hworld : (w.answer (.pending queued.botId queued.conversationId)).2 = w :=
      congrArg Prod.snd hserve
    have hrecords : answer = .ok (w.suspensions.pending queued.botId queued.conversationId) :=
      Option.some.inj (hanswer.symm.trans (congrArg Prod.fst hserve))
    rw [hworld, hrecords]
    exact proper_choose reserved w now queued
  | choosing record =>
    cases hview
    exact proper_start h answer
  | resuming record course =>
    rcases course with (e | run) | ⟨c', next'⟩
    · cases hview
    · cases hview
      exact proper_removed _ _
    · cases hview
      exact h.goOn hw hanswer
  | discarding record =>
    cases hview
    exact proper_removed _ _
  | ended r => cases hview

end Reclaim

namespace Worker

variable {p p' : Worker} {c : Call} {next : c.Answer → Worker} {answer : c.Answer}

/-- Tickets are for the lock of the conversation, and what is done under it is proper. -/
def Proper (reserved : Identifier → Prop) (w : World) : Worker → Prop
  | turn _ _ queued _ s =>
    s.Keyed (lockKey queued.botId queued.conversationId) ∧ ∀ b ∈ s.body?, b.Proper reserved w queued
  | removal botId conversationId s => s.Keyed (lockKey botId conversationId)
  | _ => True

theorem proper_start (reserved : Identifier → Prop) (w : World) (task : Task) :
    task.start.Proper reserved w := by
  cases task with
  | sweep => trivial
  | cancel botId conversationId => exact nofun

theorem proper_queue (now : Instant) (report : SweepReport) (due : List Suspension) :
    (queue now report due).Proper reserved w := by
  cases due with
  | nil => trivial
  | cons queued rest => exact ⟨nofun, nofun⟩

theorem leads (hp : p.Proper reserved w) (hview : p.view settings batch = .ask c next)
    (answer : c.Answer) :
    p.claim.Leads c answer (next answer).claim := by
  have hqueue : ∀ now report due, (queue now report due).claim = .none := by
    rintro now report (_ | _) <;> rfl
  cases p with
  | entering =>
    cases hview
    cases answer <;> exact .stay id
  | timing =>
    cases hview
    exact .stay id
  | loading now =>
    cases hview
    cases answer with
    | error f => exact .stay id
    | ok due =>
      rw [load, hqueue]
      exact .stay id
  | turn now report queued rest s =>
    exact Section.leads hview (fun _ => rfl) (fun _ => hqueue _ _ _)
      (fun b hb c next hview => ((hp.2 b hb).not_isClaim hview).1) answer
  | closing outcome =>
    cases hview
    exact .stay id
  | swept outcome => cases hview
  | removal botId conversationId s =>
    refine Section.leads hview (fun _ => rfl) (fun _ => rfl) ?_ answer
    rintro (_ | _) - c next ⟨⟩
    exact id
  | removed outcome => cases hview

theorem passes (hp : p.Proper reserved w) (hview : p.view settings batch = .ask c next)
    (answer : c.Answer) :
    Passes p.inside c answer (next answer).inside := by
  have hqueue : ∀ now report due, (queue now report due).inside = true := by
    rintro now report (_ | _) <;> rfl
  cases p with
  | entering =>
    cases hview
    cases answer with
    | false => exact .refused
    | true => exact .enter
  | timing =>
    cases hview
    exact .stay nofun nofun
  | loading now =>
    cases hview
    cases answer with
    | error f => exact .stay nofun nofun
    | ok due =>
      rw [load, hqueue]
      exact .stay nofun nofun
  | turn now report queued rest s =>
    exact Section.passes hview (fun _ => rfl) (fun _ => hqueue _ _ _)
      (fun b hb c next hview => ((hp.2 b hb).not_isClaim hview).2) answer
  | closing outcome =>
    cases hview
    exact .leave
  | swept outcome => cases hview
  | removal botId conversationId s =>
    refine Section.passes hview (fun _ => rfl) (fun _ => rfl) ?_ answer
    rintro (_ | _) - c next ⟨⟩
    exact ⟨nofun, nofun⟩
  | removed outcome => cases hview

theorem Proper.of_view (hw : w.Orderly reserved) (hp : p.Proper reserved w)
    (hview : p.view settings batch = .ask c next) (hanswer : (w.answer c).1 = some answer) :
    (next answer).Proper reserved (w.answer c).2 := by
  cases p with
  | entering =>
    cases hview
    cases answer <;> trivial
  | timing =>
    cases hview
    trivial
  | loading now =>
    cases hview
    cases answer with
    | error f => trivial
    | ok due => exact proper_queue now .zero due
  | turn now report queued rest s =>
    refine Section.of_view (P := Proper reserved (w.answer c).2)
      (Reclaim.Proper reserved (w.answer c).2 queued) hview
      hanswer hp.1 (fun _ hkeyed hbody => ⟨hkeyed, hbody⟩) (fun _ => proper_queue _ _ _) trivial ?_
    exact fun b hb next hview => (hp.2 b hb).of_view hw hview hanswer
  | closing outcome =>
    cases hview
    trivial
  | swept outcome => cases hview
  | removal botId conversationId s =>
    exact Section.of_view (P := Proper reserved (w.answer c).2) (fun _ => True) hview hanswer hp
      (fun _ hkeyed _ => hkeyed) (fun _ => trivial) trivial fun _ _ _ _ => trivial
  | removed outcome => cases hview

theorem Proper.spare (hp : p.Proper reserved w) {record : Suspension}
    {next : Except Failure Unit → Worker}
    (hview : p.view settings batch = .ask (.save record) next) : w.Spare reserved record.id := by
  cases p with
  | turn now report queued rest s =>
    cases s with
    | inside t b =>
      simp only [view, Section.view] at hview
      split at hview
      · next hb =>
        cases hview
        exact (hp.2 b rfl).spare hb
      · cases hview
    | asking => cases hview
    | waiting t => cases hview
    | parting key r => cases hview
  | removal botId conversationId s =>
    rcases s with _ | t | ⟨t, _ | r⟩ | ⟨key, r⟩ <;> cases hview
  | entering => cases hview
  | timing => cases hview
  | loading now => cases hview
  | closing outcome => cases hview
  | swept outcome => cases hview
  | removed outcome => cases hview

/-- Outside the gate only a removal that holds its lock changes the store. -/
theorem onSuspensions_of_outside (hview : p.view settings batch = .ask c next)
    (hout : p.inside = false) :
    (∀ store, c.onSuspensions store = store) ∨
      ∃ botId conversationId t, p = removal botId conversationId (.inside t .removing) ∧
        c = .cancel botId conversationId := by
  cases p with
  | entering =>
    cases hview
    exact .inl fun _ => rfl
  | removal botId conversationId s =>
    rcases s with _ | t | ⟨t, _ | r⟩ | ⟨key, r⟩
    · cases hview
      exact .inl fun _ => rfl
    · cases hview
      exact .inl fun _ => rfl
    · cases hview
      exact .inr ⟨botId, conversationId, t, rfl, rfl⟩
    · cases hview
      exact .inl fun _ => rfl
    · cases hview
      exact .inl fun _ => rfl
  | swept outcome => cases hview
  | removed outcome => cases hview
  | timing => cases hout
  | loading now => cases hout
  | turn now report queued rest s => cases hout
  | closing outcome => cases hout

/-- A worker is proper in another world in which what it holds is kept and what is spare is
spare. -/
theorem Proper.mono (hp : p.Proper reserved w)
    (hretains : ∀ now report queued rest t b, p = turn now report queued rest (.inside t b) →
      ∀ record, w.Retains queued record → w'.Retains queued record)
    (hspare : p.inside = true → ∀ id, w.Spare reserved id → w'.Spare reserved' id) :
    p.Proper reserved' w' := by
  cases p with
  | turn now report queued rest s =>
    refine ⟨hp.1, fun b hb => (hp.2 b hb).mono ?_ (hspare rfl)⟩
    cases s with
    | inside t b' => exact hretains _ _ _ _ _ _ rfl
    | asking => cases hb
    | waiting t => cases hb
    | parting key r => cases hb
  | removal botId conversationId s => exact hp
  | entering => trivial
  | timing => trivial
  | loading now => trivial
  | closing outcome => trivial
  | swept outcome => trivial
  | removed outcome => trivial

theorem Proper.of_unchanged (hp : p.Proper reserved w)
    (hsuspensions : w'.suspensions = w.suspensions) (hnextId : w.nextId.value ≤ w'.nextId.value) :
    p.Proper reserved w' := by
  refine hp.mono ?_ ?_
  · rintro now report queued rest t b - record ⟨hmem, hbot, hconversation⟩
    exact ⟨hsuspensions ▸ hmem, hbot, hconversation⟩
  · rintro - id ⟨hnew, hgiven, hunreserved⟩
    exact ⟨hsuspensions ▸ hnew, Nat.lt_of_lt_of_le hgiven hnextId, hunreserved⟩

theorem Proper.mem_records (hp : p.Proper reserved w) {record : Suspension}
    (h : p.record? = some record) :
    record ∈ w.suspensions.records := by
  cases p with
  | turn now report queued rest s =>
    obtain ⟨b, hb, hrecord⟩ := Option.bind_eq_some_iff.mp h
    exact ((hp.2 b hb).retains hrecord).mem
  | _ => cases h

def Handles (id : Identifier) (p : Worker) : Prop := ∃ record, p.record? = some record ∧
    record.id = id

theorem of_ran? {record : Suspension} (h : p.ran? = some record) (settings : Settings)
    (batch : Nat) :
    p.record? = some record ∧ ∃ next, p.view settings batch = .ask (.delete record.id) next := by
  unfold ran? at h
  split at h
  · cases h
    exact ⟨rfl, _, rfl⟩
  · cases h

theorem inside_of_handles {id : Identifier} (h : p.Handles id) : p.inside = true := by
  obtain ⟨record, hrecord, -⟩ := h
  cases p with
  | turn now report queued rest s => rfl
  | _ => cases hrecord

/-- The world is in good order, locks and the gate are held by one at a time, and all that is under
way is proper. -/
structure Coordinated (reserved : Identifier → Prop) (crowd : Crowd Worker) : Prop where
  orderly : crowd.world.Orderly reserved
  guarded : crowd.Guarded claim
  gated : crowd.Gated inside
  proper : ∀ p ∈ crowd.places, p.Proper reserved crowd.world

variable {crowd : Crowd Worker} {i j : Nat} {id : Identifier}

theorem coordinated_start (hfailing : w.failing = []) (hsound : w.suspensions.Sound w.nextId.value)
    (tasks : List Task) : Coordinated (fun _ => False) ⟨w, tasks.map Task.start⟩ := by
  refine ⟨⟨hfailing, hsound, nofun⟩, Crowd.guarded_of_none ?_, Crowd.gated_of_outside ?_, ?_⟩
  all_goals
    intro p hp
    obtain ⟨task, -, rfl⟩ := List.mem_map.mp hp
  · cases task <;> rfl
  · cases task <;> rfl
  · exact proper_start _ w task

/-- What is under way elsewhere stays proper: a removal next to it is at another conversation. -/
theorem Coordinated.other (h : Coordinated reserved crowd) (hp : crowd.places[i]? = some p)
    (hp' : crowd.places[j]? = some p') (hne : j ≠ i) (hview : p.view settings batch = .ask c next) :
    p'.Proper reserved (crowd.world.answer c).2 := by
  have hproper := h.proper p (List.mem_of_getElem? hp)
  have hproper' := h.proper p' (List.mem_of_getElem? hp')
  -- records are dealt with behind the gate, where only one is
  have houtside : p'.inside = true → p.inside = false := by
    intro hin
    by_contra hin'
    exact hne (h.gated.alone hp' hp hin (by simpa using hin'))
  refine hproper'.mono ?_ ?_
  · rintro now report queued rest t b rfl record ⟨hmem, hbot, hconversation⟩
    refine ⟨?_, hbot, hconversation⟩
    rw [suspensions_answer h.orderly.unfailing]
    rcases onSuspensions_of_outside hview (houtside rfl) with hsame |
      ⟨botId, conversationId, t', rfl, rfl⟩
    · rwa [hsame]
    · -- a removal of this record would hold the lock that is held here
      refine SuspensionStore.mem_records_cancel hmem fun howner => ?_
      have hkey : t'.key = t.key := by
        rw [hproper t' rfl, hproper'.1 t rfl, ← hbot, ← hconversation, howner.1, howner.2]
      exact hne (h.guarded.exclusive hp hp' rfl rfl hkey).symm
  · rintro hin id ⟨hnew, hgiven, hunreserved⟩
    refine ⟨?_, Nat.lt_of_lt_of_le hgiven (crowd.world.nextId_le_answer c), hunreserved⟩
    rw [suspensions_answer h.orderly.unfailing]
    rcases onSuspensions_of_outside hview (houtside hin) with hsame |
      ⟨botId, conversationId, t', -, rfl⟩
    · rwa [hsame]
    · exact fun hmem => hnew ((SuspensionStore.within_cancel _ _ _).keys.subset hmem)

theorem Coordinated.step (h : Coordinated reserved crowd) (settings : Settings) (batch : Nat)
    (e : Crowd.Event) :
    Coordinated reserved (crowd.step (view settings batch) e) := by
  have hguarded : (crowd.step (view settings batch) e).Guarded claim :=
    h.guarded.step (fun p hp c next hview answer => leads (h.proper p hp) hview answer) e
  have hgated : (crowd.step (view settings batch) e).Gated inside :=
    h.gated.step (fun p hp c next hview answer => passes (h.proper p hp) hview answer) e
  have hstep := Crowd.stepped_step (view settings batch) crowd e
  generalize crowd.step (view settings batch) e = crowd' at hguarded hgated hstep ⊢
  cases hstep with
  | idle i => exact h
  | clock t =>
    refine ⟨⟨h.orderly.unfailing, h.orderly.sound, h.orderly.given⟩, hguarded, hgated,
      fun p hp => ?_⟩
    exact (h.proper p hp).of_unchanged rfl (Nat.le_refl _)
  | @wait i p c next hplace hview hanswer =>
    obtain ⟨t, rfl⟩ := eq_await_of_answer hanswer
    refine ⟨h.orderly.answer nofun, hguarded, hgated, fun p hp => ?_⟩
    exact (h.proper p hp).of_unchanged rfl (Nat.le_refl _)
  | @go i p c next answer hplace hview hanswer =>
    have hproper := h.proper p (List.mem_of_getElem? hplace)
    refine ⟨h.orderly.answer ?_, hguarded, hgated, fun p' hp' => ?_⟩
    · rintro record rfl
      exact hproper.spare hview
    · obtain ⟨j, hj⟩ := List.mem_iff_getElem?.mp hp'
      rcases Crowd.getElem?_set_cases hj with ⟨-, rfl⟩ | ⟨hne, hj⟩
      · exact hproper.of_view h.orderly hview hanswer
      · exact h.other hplace hj hne hview

/-- The identifier of a record that is kept may be reserved. -/
theorem Coordinated.reserve (h : Coordinated reserved crowd) {record : Suspension}
    (hmem : record ∈ crowd.world.suspensions.records) : Coordinated (· = record.id) crowd := by
  refine ⟨⟨h.orderly.unfailing, h.orderly.sound, ?_⟩, h.guarded, h.gated, fun p hp => ?_⟩
  · rintro id rfl
    exact h.orderly.sound.fresh.ids record hmem
  · refine (h.proper p hp).mono (fun _ _ _ _ _ _ _ _ hretains => hretains) ?_
    rintro - id ⟨hnew, hgiven, -⟩
    refine ⟨hnew, hgiven, ?_⟩
    -- nothing is kept under a spare identifier
    rintro rfl
    exact hnew (h.orderly.sound.mem_keys hmem)

/-- What is reserved and not kept does not come to be kept. -/
theorem Coordinated.not_mem_keys_step (h : Coordinated reserved crowd) (hid : reserved id)
    (hgone : id.text ∉ crowd.world.suspensions.keys) (e : Crowd.Event) :
    id.text ∉ (crowd.step (view settings batch) e).world.suspensions.keys := by
  have hstep := Crowd.stepped_step (view settings batch) crowd e
  generalize crowd.step (view settings batch) e = crowd' at hstep ⊢
  cases hstep with
  | idle i => exact hgone
  | clock t => exact hgone
  | wait hplace hview hanswer =>
    obtain ⟨t, rfl⟩ := eq_await_of_answer hanswer
    exact hgone
  | go hplace hview hanswer =>
    refine h.orderly.not_mem_keys ?_ hid hgone
    rintro record rfl
    exact (h.proper _ (List.mem_of_getElem? hplace)).spare hview

theorem Coordinated.not_mem_keys_after (h : Coordinated reserved crowd) (hid : reserved id)
    (hgone : id.text ∉ crowd.world.suspensions.keys) (later : List Crowd.Event) :
    Coordinated reserved (crowd.after (view settings batch) later) ∧
      id.text ∉ (crowd.after (view settings batch) later).world.suspensions.keys := by
  refine Crowd.after_induction
    (I := fun crowd => Coordinated reserved crowd ∧ id.text ∉ crowd.world.suspensions.keys)
    ?_ ⟨h, hgone⟩ later
  rintro crowd e ⟨h, hgone⟩
  exact ⟨h.step settings batch e, h.not_mem_keys_step hid hgone e⟩

theorem Coordinated.not_handles (h : Coordinated reserved crowd)
    (hgone : id.text ∉ crowd.world.suspensions.keys) (hp : p ∈ crowd.places) : ¬ p.Handles id := by
  rintro ⟨record, hrecord, rfl⟩
  exact hgone (h.orderly.sound.mem_keys ((h.proper p hp).mem_records hrecord))

/-- What a removal takes from the store is not kept under its identifier any more. -/
theorem Coordinated.not_mem_keys_removal (h : Coordinated reserved crowd) {record : Suspension}
    (hp : crowd.places[i]? = some p) (hremoval : p.isRemoval = true)
    (hmem : record ∈ crowd.world.suspensions.records)
    (hgone : record ∉ (crowd.step (view settings batch) (.turn i)).world.suspensions.records) :
    record.id.text ∉ (crowd.step (view settings batch) (.turn i)).world.suspensions.keys := by
  have hstep := Crowd.stepped_step (view settings batch) crowd (.turn i)
  generalize crowd.step (view settings batch) (.turn i) = crowd' at hstep hgone ⊢
  cases hstep with
  | idle => exact absurd hmem hgone
  | wait hplace hview hanswer =>
    obtain ⟨t, rfl⟩ := eq_await_of_answer hanswer
    exact absurd hmem hgone
  | go hplace hview hanswer =>
    rw [hp] at hplace
    cases hplace
    have hout : p.inside = false := by
      cases p with
      | removal botId conversationId s => rfl
      | _ => cases hremoval
    simp only [suspensions_answer h.orderly.unfailing] at hgone ⊢
    rcases onSuspensions_of_outside hview hout with hsame | ⟨botId, conversationId, t, -, rfl⟩
    · rw [hsame] at hgone
      exact absurd hmem hgone
    · exact (SuspensionStore.within_cancel _ _ _).not_mem_keys h.orderly.sound hmem hgone

/-- A worker that is to delete a record does so in its next turn. -/
theorem Coordinated.delete_after (h : Coordinated reserved crowd) (hid : reserved id)
    {next : Except Failure Bool → Worker} (hp : crowd.places[i]? = some p)
    (hview : p.view settings batch = .ask (.delete id) next) (later : List Crowd.Event) :
    Coordinated reserved (crowd.after (view settings batch) later) ∧
      (.turn i ∉ later ∧ (crowd.after (view settings batch) later).places[i]? = some p ∨
        id.text ∉ (crowd.after (view settings batch) later).world.suspensions.keys) := by
  induction later generalizing crowd with
  | nil => exact ⟨h, .inl ⟨List.not_mem_nil, hp⟩⟩
  | cons e later ih =>
    have hnext := h.step settings batch e
    by_cases he : e = .turn i
    · subst he
      have hanswer :
          (crowd.world.answer (.delete id)).1 = some (.ok (crowd.world.suspensions.delete id).1) :=
        congrArg Prod.fst (serve_of_unfailing h.orderly.unfailing .delete _)
      have hgone :
          id.text ∉ (crowd.step (view settings batch) (.turn i)).world.suspensions.keys := by
        rw [Crowd.step_turn hp hview hanswer, suspensions_answer h.orderly.unfailing]
        exact SuspensionStore.not_mem_keys_delete _ _
      obtain ⟨hafter, hlost⟩ := hnext.not_mem_keys_after hid hgone later
      exact ⟨hafter, .inr hlost⟩
    · obtain ⟨hafter, hcases⟩ := ih hnext ((Crowd.getElem?_step_of_ne he).trans hp)
      refine ⟨hafter, hcases.imp_left ?_⟩
      rintro ⟨hlater, hkept⟩
      refine ⟨?_, hkept⟩
      rw [List.mem_cons, not_or]
      exact ⟨Ne.symm he, hlater⟩

/-- Sweeps and removals take turns in any order, call by call, and no store fails. Behind a removal
that takes a record from the store nobody deals with that record: no flow goes on from it, and it is
not kept again. When the run of a record has come to its end without an error, only the sweep that
had it run still deals with it, and that until its next turn, in which it deletes it. -/
theorem not_resumed_after (settings : Settings) (batch : Nat) (w : World)
    (hfailing : w.failing = []) (hsound : w.suspensions.Sound w.nextId.value) (tasks : List Task)
    (earlier : List Crowd.Event) :
    let crowd := (Crowd.mk w (tasks.map Task.start)).after (view settings batch) earlier
    (∀ later, (crowd.after (view settings batch) later).world =
        ((Crowd.mk w (tasks.map (Task.activity settings batch))).after Activity.view
          (earlier ++ later)).world) ∧
      (∀ (i : Nat) (p : Worker) (record : Suspension), crowd.places[i]? = some p →
        p.isRemoval = true →
        record ∈ crowd.world.suspensions.records →
        record ∉ (crowd.step (view settings batch) (.turn i)).world.suspensions.records →
        ∀ later,
          let behind :=
            (crowd.step (view settings batch) (.turn i)).after (view settings batch) later
          (∀ p ∈ behind.places, ¬ p.Handles record.id) ∧
            ∀ s ∈ behind.world.suspensions.records, s.id ≠ record.id) ∧
      ∀ (i : Nat) (p : Worker) (record : Suspension), crowd.places[i]? = some p →
        p.ran? = some record →
        ∀ (later : List Crowd.Event) (j : Nat) (p' : Worker),
          (crowd.after (view settings batch) later).places[j]? = some p' → p'.Handles record.id →
            .turn i ∉ later ∧ j = i ∧ p' = p := by
  intro crowd
  have hcrowd : Coordinated (fun _ => False) crowd :=
    Crowd.after_induction (fun _ e h => h.step settings batch e)
      (coordinated_start hfailing hsound tasks) earlier
  refine ⟨fun later => ?_, ?_, ?_⟩
  · rw [← Crowd.after_append]
    exact Crowd.world_after_eq (follows_start settings batch tasks) _
  · -- the identifier is reserved as long as the record is kept, so that it is not used again
    -- afterwards
    intro i p record hp hremoval hmem hgone later behind
    have hreserved := hcrowd.reserve hmem
    have hkeys := hreserved.not_mem_keys_removal hp hremoval hmem hgone
    obtain ⟨hbehind, hlost⟩ :=
      (hreserved.step settings batch (.turn i)).not_mem_keys_after rfl hkeys later
    refine ⟨fun p hp => hbehind.not_handles hlost hp, fun s hs heq => ?_⟩
    exact hlost (heq ▸ hbehind.orderly.sound.mem_keys hs)
  · -- the record is kept until it is deleted, and only one that is behind the gate deals with it
    intro i p record hp hran later j p' hp' hhandles
    obtain ⟨hrecord, next, hview⟩ := of_ran? hran settings batch
    have hmem := (hcrowd.proper p (List.mem_of_getElem? hp)).mem_records hrecord
    obtain ⟨hafter, ⟨hlater, hkept⟩ | hlost⟩ :=
      (hcrowd.reserve hmem).delete_after rfl hp hview later
    · have hin : p.inside = true := inside_of_handles ⟨record, hrecord, rfl⟩
      obtain rfl := hafter.gated.alone hp' hkept (inside_of_handles hhandles) hin
      rw [hkept] at hp'
      exact ⟨hlater, rfl, (Option.some.inj hp').symm⟩
    · exact absurd hhandles (hafter.not_handles hlost (List.mem_of_getElem? hp'))

def paused : Suspension :=
  ⟨⟨1⟩, "bot", "5511", "v1", "wait", .ofChannel "5511", ⟨1893488399, 0⟩, ⟨1893488000, 0⟩⟩

def overdue : World :=
  { World.start ⟨1893488400, 0⟩ (.memory []) (.memory [paused]) ⟨2⟩ with
    registry := Registry.empty.install "bot" (.ofFlow "v1"
      ⟨[⟨"wait", .delay, [("ms", .ofNat 1)]⟩, ⟨"agent", .humanTakeover, []⟩],
        [⟨none, "wait", "agent", none⟩]⟩) }

/-- The record is removed while a sweep that has loaded it waits for the lock, or else it is
resumed. -/
theorem not_resumed_after_overdue :
    let tasks := [Task.sweep, Task.cancel "bot" "5511"]
    let raced := (Crowd.mk overdue (tasks.map Task.start)).after (view ⟨.strict, 10, 15000⟩ 100)
      [.turn 1, .turn 1, .turn 0, .turn 0, .turn 0, .turn 0, .turn 0]
    let swept := (Crowd.mk overdue (tasks.map Task.start)).after (view ⟨.strict, 10, 15000⟩ 100)
      (List.replicate 9 (.turn 0))
    (overdue.failing = [] ∧ overdue.suspensions.Sound overdue.nextId.value) ∧
      (∀ later, ∀ p ∈ ((raced.step (view ⟨.strict, 10, 15000⟩ 100) (.turn 1)).after
        (view ⟨.strict, 10, 15000⟩ 100) later).places, ¬ p.Handles paused.id) ∧
      ∃ p, swept.places[0]? = some p ∧ p.ran? = some paused ∧
        ∀ (later : List Crowd.Event) (j : Nat) (p' : Worker),
          (swept.after (view ⟨.strict, 10, 15000⟩ 100) later).places[j]? = some p' →
            p'.Handles paused.id →
            .turn 0 ∉ later ∧ j = 0 ∧ p' = p := by
  intro tasks raced swept
  have hsound : overdue.suspensions.Sound overdue.nextId.value := by
    refine ⟨⟨List.nodup_singleton _, List.nodup_singleton _⟩, trivial,
      fun id hid hmem => ?_, by decide⟩
    rw [Identifier.text_injective (List.mem_singleton.mp hmem)] at hid
    exact absurd hid (by decide)
  have hraced := (not_resumed_after ⟨.strict, 10, 15000⟩ 100 overdue rfl hsound tasks
    [.turn 1, .turn 1, .turn 0, .turn 0, .turn 0, .turn 0, .turn 0]).2.1
  have hswept := (not_resumed_after ⟨.strict, 10, 15000⟩ 100 overdue rfl hsound tasks
    (List.replicate 9 (.turn 0))).2.2
  have hremoving : raced.places[1]?.any isRemoval = true := by decide +kernel
  have hrun : swept.places[0]?.bind ran? = some paused := by decide +kernel
  obtain ⟨p, hp, hremoval⟩ := (Option.any_eq_true _ _).mp hremoving
  obtain ⟨p', hp', hran⟩ := Option.bind_eq_some_iff.mp hrun
  refine ⟨⟨rfl, hsound⟩, fun later => ?_, p', hp', hran, hswept 0 p' paused hp' hran⟩
  exact (hraced 1 p paused hp hremoval (by decide +kernel) (by decide +kernel) later).1

end Worker

end ChatFlow
