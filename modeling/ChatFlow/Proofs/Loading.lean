import ChatFlow.Proofs.Rejection

namespace ChatFlow

namespace Archive

variable {archive : Archive} {botId version : String} {failure : Failure}

/-- The active version of the bot is in the archive, but cannot be read. -/
def Stuck (archive : Archive) (botId : String) (failure : Failure) : Prop :=
  ∃ version definition, archive.active? botId = some version ∧
    archive.definition? botId version = some definition ∧
      Flow.decoder.ofColumn definition = .error failure

/-- The bot is to run the flow: it is what the text of the bot's active version says, and the policy
lets it pass. -/
def Merits (policy : Policy) (archive : Archive) (botId : String) (active : ActiveFlow) : Prop :=
  ∃ version definition flow, archive.active? botId = some version ∧
    archive.definition? botId version = some definition ∧
      Flow.decoder.ofColumn definition = .ok flow ∧
    (policy = .strict → flow.issues = []) ∧ active = .ofFlow version flow

def stored? (archive : Archive) (e : String × String) : Option StoredFlow := do
  let definition ← archive.definition? e.1 e.2
  let flow ← (Flow.decoder.ofColumn definition).toOption
  return ⟨e.1, e.2, flow⟩

theorem stored?_eq_some_iff {e : String × String} {s : StoredFlow} :
    archive.stored? e = some s ↔ ∃ definition flow, archive.definition? e.1 e.2 = some definition ∧
      Flow.decoder.ofColumn definition = .ok flow ∧ s = ⟨e.1, e.2, flow⟩ := by
  unfold stored?
  cases archive.definition? e.1 e.2 with
  | none => simp
  | some definition =>
    cases hread : Flow.decoder.ofColumn definition with
    | error failure => simp [hread, Except.toOption]
    | ok flow => simp [hread, Except.toOption, eq_comm]

/-- Where all versions can be read, all that are there are. -/
theorem readActive_eq_ok {entries : Keyed String}
    (h : ∀ e ∈ entries, ∀ definition failure, archive.definition? e.1 e.2 = some definition →
      Flow.decoder.ofColumn definition ≠ .error failure) :
    archive.readActive entries = .ok (entries.filterMap archive.stored?) := by
  induction entries with
  | nil => rfl
  | cons e rest ih =>
    obtain ⟨botId, version⟩ := e
    obtain ⟨hfirst, hrest⟩ := List.forall_mem_cons.mp h
    rw [readActive, ih hrest]
    cases hdefinition : archive.definition? botId version with
    | none =>
      have hnone : archive.stored? (botId, version) = none := by simp [stored?, hdefinition]
      rw [List.filterMap_cons_none hnone]
    | some definition =>
      cases hread : Flow.decoder.ofColumn definition with
      | error failure => exact absurd hread (hfirst definition failure hdefinition)
      | ok flow =>
        have hsome : archive.stored? (botId, version) = some ⟨botId, version, flow⟩ :=
          stored?_eq_some_iff.mpr ⟨definition, flow, hdefinition, hread, rfl⟩
        rw [List.filterMap_cons_some hsome]
        simp only [hread]
        rfl

/-- Reading stops at the first version that cannot be read. -/
theorem readActive_eq_error {front rest : Keyed String} {definition : String}
    (h : ∀ e ∈ front, ∀ definition failure, archive.definition? e.1 e.2 = some definition →
      Flow.decoder.ofColumn definition ≠ .error failure)
    (hdefinition : archive.definition? botId version = some definition)
    (hread : Flow.decoder.ofColumn definition = .error failure) :
    archive.readActive (front ++ (botId, version) :: rest) = .error failure := by
  induction front with
  | nil =>
    rw [List.nil_append, readActive, hdefinition]
    simp only [hread]
    rfl
  | cons e front ih =>
    obtain ⟨other, otherVersion⟩ := e
    obtain ⟨hfirst, hfront⟩ := List.forall_mem_cons.mp h
    rw [List.cons_append, readActive, ih hfront]
    cases hother : archive.definition? other otherVersion with
    | none => rfl
    | some text =>
      cases htext : Flow.decoder.ofColumn text with
      | error failure => exact absurd htext (hfirst text failure hother)
      | ok flow =>
        simp only [htext]
        rfl

end Archive

namespace Registry

variable {policy : Policy} {r : Registry} {botId version : String} {flow : Flow}
    {active : ActiveFlow}

/-- A flow passes unless the policy is strict and it has issues. -/
theorem compile_toOption_eq_some_iff :
    (compile policy botId version flow).toOption = some active ↔
      (policy = .strict → flow.issues = []) ∧ active = .ofFlow version flow := by
  unfold compile
  dsimp only
  split
  · next hrefused =>
    have hissues : flow.issues ≠ [] := by simpa [ActiveFlow.ofFlow] using hrefused.2
    constructor
    · intro h
      cases h
    · rintro ⟨hpasses, -⟩
      exact absurd (hpasses hrefused.1) hissues
  · next hpasses =>
    have hissues : policy = .strict → flow.issues = [] := by
      intro hstrict
      simpa [ActiveFlow.ofFlow, hstrict] using hpasses
    rw [Except.toOption, Option.some.injEq, eq_comm]
    exact ⟨fun h => ⟨hissues, h⟩, And.right⟩

def passing (policy : Policy) (archive : Archive) : Keyed ActiveFlow :=
  (archive.active.filterMap archive.stored?).filterMap fun s =>
    (compile policy s.botId s.version s.flow).toOption.map fun active => (s.botId, active)

theorem sorted_passing {archive : Archive} (h : Keyed.Sorted archive.active) :
    Keyed.Sorted (passing policy archive) := by
  unfold passing
  rw [List.filterMap_filterMap]
  refine List.Pairwise.filterMap _ ?_ h
  intro e e' hlt a ha a' ha'
  -- each flow stands under the bot of the version that it was read from
  obtain ⟨s, hs, ha⟩ := Option.bind_eq_some_iff.mp ha
  obtain ⟨s', hs', ha'⟩ := Option.bind_eq_some_iff.mp ha'
  obtain ⟨_, _, -, -, rfl⟩ := Archive.stored?_eq_some_iff.mp hs
  obtain ⟨_, _, -, -, rfl⟩ := Archive.stored?_eq_some_iff.mp hs'
  obtain ⟨_, -, rfl⟩ := Option.map_eq_some_iff.mp ha
  obtain ⟨_, -, rfl⟩ := Option.map_eq_some_iff.mp ha'
  exact hlt

theorem mem_passing_iff {archive : Archive} (h : Keyed.Sorted archive.active) :
    (botId, active) ∈ passing policy archive ↔ archive.Merits policy botId active := by
  simp only [passing, List.mem_filterMap, Option.map_eq_some_iff, Archive.stored?_eq_some_iff,
    compile_toOption_eq_some_iff]
  constructor
  · rintro ⟨_, ⟨⟨bot, version⟩, hmem, definition, flow, hdefinition, hread, rfl⟩, _,
      ⟨hpasses, rfl⟩, heq⟩
    cases heq
    exact ⟨version, definition, flow, (Keyed.get?_eq_some_iff h).mpr hmem, hdefinition, hread,
      hpasses, rfl⟩
  · rintro ⟨version, definition, flow, hactive, hdefinition, hread, hpasses, rfl⟩
    exact ⟨⟨botId, version, flow⟩,
      ⟨(botId, version), Keyed.mem_of_get? hactive, definition, flow, hdefinition, hread, rfl⟩, _,
      ⟨hpasses, rfl⟩, rfl⟩

/-- Where each active version can be read, loading puts to use what passes. -/
theorem load_eq_ok (h : Keyed.Sorted r.archive.active)
    (hread : ∀ botId failure, ¬ r.archive.Stuck botId failure) :
    r.load policy = .ok { r with flows := passing policy r.archive } := by
  have hstored : r.archive.activeFlows = .ok (r.archive.active.filterMap r.archive.stored?) := by
    apply Archive.readActive_eq_ok
    intro e he definition failure hdefinition herror
    exact hread e.1 failure
      ⟨e.2, definition, (Keyed.get?_eq_some_iff h).mpr he, hdefinition, herror⟩
  unfold load
  rw [hstored]
  show Except.ok { r with flows := Keyed.ofList (passing policy r.archive) } = _
  rw [Keyed.ofList_of_sorted (sorted_passing h)]

/-- The load fails with what is wrong with the first bot that is stuck. -/
theorem load_eq_error {failure : Failure} (h : Keyed.Sorted r.archive.active)
    (hstuck : r.archive.Stuck botId failure) (hfirst : ∀ other < botId, ∀ failure,
      ¬ r.archive.Stuck other failure) : r.load policy = .error failure := by
  obtain ⟨version, definition, hactive, hdefinition, hread⟩ := hstuck
  obtain ⟨front, rest, hentries⟩ := List.append_of_mem (Keyed.mem_of_get? hactive)
  have hbefore : ∀ e ∈ front, e.1 < botId := by
    intro e he
    have hpairs := hentries ▸ h
    exact (List.pairwise_append.mp hpairs).2.2 e he _ List.mem_cons_self
  have hfails : r.archive.activeFlows = .error failure := by
    unfold Archive.activeFlows
    rw [hentries]
    refine Archive.readActive_eq_error ?_ hdefinition hread
    intro e he definition failure hdefinition herror
    have hmem : (e.1, e.2) ∈ r.archive.active := hentries ▸ List.mem_append_left _ he
    exact hfirst e.1 (hbefore e he) failure
      ⟨e.2, definition, (Keyed.get?_eq_some_iff h).mpr hmem, hdefinition, herror⟩
  unfold load
  rw [hfails]
  rfl

/-- Loading gives every bot exactly the flow that it is to run, and no flow to the others, if and
only if no bot is stuck with an active version that cannot be read; flows with issues never stand in
each other's way. If a bot is stuck, the load fails altogether, with what is wrong with the first
such bot. (There is one active version for each bot.) -/
theorem loads_each_iff (policy : Policy) (h : Keyed.Sorted r.archive.active) :
    ((∃ loaded, r.load policy = .ok loaded ∧
        ∀ botId active, loaded.active? botId = some active ↔ r.archive.Merits policy botId active) ↔
      ∀ botId failure, ¬ r.archive.Stuck botId failure) ∧
    ∀ botId failure, r.archive.Stuck botId failure →
      (∀ other < botId, ∀ failure, ¬ r.archive.Stuck other failure) →
        r.load policy = .error failure := by
  refine ⟨⟨?_, fun hread => ?_⟩, fun _ _ hstuck hfirst => load_eq_error h hstuck hfirst⟩
  · rintro ⟨loaded, hload, -⟩ botId failure ⟨version, definition, hactive, hdefinition, hread⟩
    obtain ⟨stored, hstored, -⟩ := Except.bind_eq_ok hload
    exact Archive.readActive_ne_ok (Keyed.mem_of_get? hactive) hdefinition hread hstored
  · refine ⟨_, load_eq_ok h hread, fun botId active => ?_⟩
    exact (Keyed.get?_eq_some_iff (sorted_passing h)).trans (mem_passing_iff h)

def plainNode : String := "\x7b\"nodes\":[[\"start\",\"trigger:newMessage\"]]\x7d"

def unknownNode : String := "\x7b\"nodes\":[[\"start\",\"trigger:newMail\"]]\x7d"

/-- The active versions of three bots: one without issues, one with an issue, and one that is not
there. -/
def uneven : Registry :=
  ⟨⟨[("a", [("v1", plainNode)]), ("b", [("v1", unknownNode)])],
    [("a", "v1"), ("b", "v1"), ("c", "v1")]⟩, []⟩

def plainFlow : Flow := ⟨[⟨"start", .newMessage, []⟩], []⟩

theorem loads_each_iff_uneven :
    Keyed.Sorted uneven.archive.active ∧ ∃ loaded, uneven.load .strict = .ok loaded ∧
      loaded.active? "a" = some (.ofFlow "v1" plainFlow) ∧ loaded.active? "b" = none := by
  have hsorted : Keyed.Sorted uneven.archive.active := by unfold Keyed.Sorted; decide
  have hread : ∀ e ∈ uneven.archive.active, ∀ definition, uneven.archive.definition? e.1 e.2 =
      some definition →
      (Flow.decoder.ofColumn definition).toOption.isSome := by decide +kernel
  have hstuck : ∀ botId failure, ¬ uneven.archive.Stuck botId failure := by
    rintro botId failure ⟨version, definition, hactive, hdefinition, herror⟩
    have h := hread (botId, version) (Keyed.mem_of_get? hactive) definition hdefinition
    rw [herror] at h
    cases h
  obtain ⟨loaded, hload, hactive⟩ := (loads_each_iff .strict hsorted).1.mpr hstuck
  refine ⟨hsorted, loaded, hload, (hactive "a" _).mpr ?_, ?_⟩
  · exact ⟨"v1", _, plainFlow, rfl, rfl, by decide +kernel, fun _ => by decide +kernel, rfl⟩
  · rw [Option.eq_none_iff_forall_ne_some]
    intro active hb
    obtain ⟨version, definition, flow, hversion, hdefinition, hflow, hpasses, -⟩ :=
      (hactive "b" active).mp hb
    cases hversion
    cases hdefinition
    have hissues : (Flow.decoder.ofColumn unknownNode).toOption.all fun flow =>
        !flow.issues.isEmpty := by decide +kernel
    rw [hflow] at hissues
    simp [Except.toOption, hpasses rfl] at hissues

/-- Two bots, and the active version of the second is a text that was cut off. -/
def torn : Registry :=
  ⟨⟨[("a", [("v1", plainNode)]), ("b", [("v1", "\x7b\"nodes\":[")])],
    [("a", "v1"), ("b", "v1")]⟩, []⟩

theorem not_loads_each_torn :
    torn.archive.Merits .strict "a" (.ofFlow "v1" plainFlow) ∧ torn.archive.Stuck "b" .undecodable ∧
      torn.load .strict = .error .undecodable := by
  refine ⟨⟨"v1", _, plainFlow, rfl, rfl, ?_, fun _ => ?_, rfl⟩, ⟨"v1", _, rfl, rfl, ?_⟩, ?_⟩
    <;> decide +kernel

end Registry

end ChatFlow
