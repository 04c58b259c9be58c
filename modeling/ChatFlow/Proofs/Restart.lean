import ChatFlow.Proofs.FlowText
import ChatFlow.Store.Registry
import Mathlib.Data.List.Perm.Basic

namespace ChatFlow

namespace Keyed

variable {α : Type} {key other : String} {entries : Keyed α}

theorem erase_sublist (key : String) (entries : Keyed α) : (erase key entries).Sublist entries := by
  induction entries with
  | nil => exact .slnil
  | cons e rest ih =>
    obtain ⟨k, v⟩ := e
    rw [erase]
    split
    · exact List.sublist_cons_self _ _
    · exact ih.cons_cons _

theorem sorted_erase (h : Sorted entries) (key : String) : Sorted (erase key entries) :=
  List.Pairwise.sublist (erase_sublist key entries) h

theorem get?_eq_some_iff (h : Sorted entries) {value : α} :
    get? key entries = some value ↔ (key, value) ∈ entries := by
  refine ⟨mem_of_get?, fun hmem => ?_⟩
  induction entries with
  | nil => cases hmem
  | cons e rest ih =>
    obtain ⟨k, v⟩ := e
    obtain ⟨hfirst, hrest⟩ := List.pairwise_cons.mp h
    rcases List.mem_cons.mp hmem with heq | hmem
    · cases heq
      simp [get?]
    · have hne : k ≠ key := fun heq => String.lt_irrefl key (heq ▸ hfirst _ hmem)
      rw [get?, if_neg hne, ih hrest hmem]

theorem get?_erase_self (h : Sorted entries) (key : String) :
    get? key (erase key entries) = none := by
  induction entries with
  | nil => rfl
  | cons e rest ih =>
    obtain ⟨k, v⟩ := e
    obtain ⟨hfirst, hrest⟩ := List.pairwise_cons.mp h
    rw [erase]
    split
    · next hk =>
      -- the names behind are greater
      rw [Option.eq_none_iff_forall_ne_some]
      intro value hvalue
      exact String.lt_irrefl k (hk ▸ hfirst _ (mem_of_get? hvalue))
    · next hk => rw [get?, if_neg hk, ih hrest]

/-- Collections in order are the same if they have the same entries. -/
theorem eq_of_mem_iff {a b : Keyed α} (ha : Sorted a) (hb : Sorted b) (h : ∀ e, e ∈ a ↔ e ∈ b) :
    a = b := by
  have hnodup : ∀ {entries : Keyed α}, Sorted entries → entries.Nodup := by
    intro entries hsorted
    apply List.Pairwise.imp _ hsorted
    rintro x y hlt rfl
    exact String.lt_irrefl _ hlt
  exact ((List.perm_ext_iff_of_nodup (hnodup ha) (hnodup hb)).mpr h).eq_of_pairwise
    (fun x y _ _ hxy hyx => absurd hyx (String.lt_asymm hxy)) ha hb

end Keyed

namespace Archive

variable {archive : Archive} {botId version : String} {flow : Flow}

theorem versionsOf_define (archive : Archive) (botId version definition other : String) :
    (archive.define botId version definition).versionsOf other =
      if other = botId then Keyed.insert version definition (archive.versionsOf botId)
      else archive.versionsOf other := by
  unfold define versionsOf
  split
  · next h => rw [h, Keyed.get?_insert_self, Option.getD_some]
  · next h => rw [Keyed.get?_insert_of_ne h]

/-- Of each version in the archive there is a flow that it is the text of and that is read
from it. -/
def Sound (archive : Archive) : Prop :=
  ∀ botId, ∀ e ∈ archive.versionsOf botId,
    ∃ flow : Flow, flow.Readable ∧ flow.Kept ∧ e.2 = flow.toJson.compact

/-- The version is in the archive, as the text of the flow, which is read from it. -/
structure Holds (archive : Archive) (botId version : String) (flow : Flow) : Prop where
  readable : flow.Readable
  kept : flow.Kept
  definition : archive.definition? botId version = some flow.toJson.compact

theorem Holds.ofColumn_eq (h : archive.Holds botId version flow) :
    Flow.decoder.ofColumn flow.toJson.compact = .ok flow := by
  rw [h.readable.ofColumn_compact, h.readable.reread_eq_iff.mpr h.kept]

theorem Holds.version?_eq (h : archive.Holds botId version flow) :
    archive.version? botId version = .ok (some flow) := by
  rw [version?, h.definition]
  exact congrArg (Except.map some) h.ofColumn_eq

theorem Holds.requireVersion_eq (h : archive.Holds botId version flow) :
    archive.requireVersion botId version = .ok flow := by
  rw [requireVersion, h.version?_eq]
  rfl

theorem Holds.setActive_eq (h : archive.Holds botId version flow) :
    archive.setActive botId version =
      .ok { archive with active := Keyed.insert botId version archive.active } := by
  rw [setActive, h.requireVersion_eq]
  rfl

/-- A version that can be read is one that the archive holds. -/
theorem Sound.holds (hsound : archive.Sound) (h : archive.requireVersion botId version = .ok flow) :
    archive.Holds botId version flow := by
  cases hdefinition : archive.definition? botId version with
  | none =>
    rw [requireVersion, version?, hdefinition] at h
    cases h
  | some definition =>
    obtain ⟨stored, hreadable, hkept, rfl⟩ := hsound botId _ (Keyed.mem_of_get? hdefinition)
    have hstored : archive.Holds botId version stored := ⟨hreadable, hkept, hdefinition⟩
    rw [hstored.requireVersion_eq] at h
    cases h
    exact hstored

theorem Sound.saveVersion (h : archive.Sound) (botId version : String) (hflow : flow.Readable)
    (hkept : flow.Kept) :
    (archive.saveVersion botId version flow).Sound := by
  intro other e he
  rw [Archive.saveVersion, versionsOf_define] at he
  split at he
  · rcases Keyed.eq_or_mem_of_mem_insert he with rfl | he
    · exact ⟨flow, hflow, hkept, rfl⟩
    · exact h botId e he
  · exact h other e he

theorem definition?_define (archive : Archive)
    (botId version definition other otherVersion : String) :
    (archive.define botId version definition).definition? other otherVersion =
      if other = botId ∧ otherVersion = version then some definition
      else archive.definition? other otherVersion := by
  rw [definition?, versionsOf_define]
  by_cases hbot : other = botId
  · subst hbot
    rw [if_pos rfl]
    by_cases hversion : otherVersion = version
    · rw [if_pos ⟨rfl, hversion⟩, hversion, Keyed.get?_insert_self]
    · rw [if_neg fun h => hversion h.2, Keyed.get?_insert_of_ne hversion]
      rfl
  · rw [if_neg hbot, if_neg fun h => hbot h.1]
    rfl

theorem definition?_define_self (archive : Archive) (botId version definition : String) :
    (archive.define botId version definition).definition? botId version = some definition := by
  rw [definition?_define, if_pos ⟨rfl, rfl⟩]

theorem definition?_saveVersion_self (archive : Archive) (botId version : String) (flow : Flow) :
    (archive.saveVersion botId version flow).definition? botId version = some flow.toJson.compact :=
  archive.definition?_define_self botId version flow.toJson.compact

theorem holds_saveVersion (archive : Archive) (botId version : String) (hflow : flow.Readable)
    (hkept : flow.Kept) : (archive.saveVersion botId version flow).Holds botId version flow :=
  ⟨hflow, hkept, definition?_saveVersion_self archive botId version flow⟩

/-- Storing a version leaves those of other bots as they are. -/
theorem definition?_saveVersion_of_ne {other : String} (hne : other ≠ botId) (archive : Archive)
    (version otherVersion : String) (flow : Flow) :
    (archive.saveVersion botId version flow).definition? other otherVersion =
      archive.definition? other otherVersion := by
  rw [saveVersion, definition?_define, if_neg fun h => hne h.1]

theorem active_of_deleteVersion {archive' : Archive} {deleted : Bool}
    (h : archive.deleteVersion botId version = .ok (deleted, archive')) :
    archive'.active = archive.active ∧ archive.active? botId ≠ some version := by
  unfold deleteVersion at h
  split at h
  · cases h
  · next hinactive =>
    cases h
    exact ⟨rfl, hinactive⟩

theorem definition?_of_deleteVersion {archive' : Archive} {deleted : Bool}
    (h : archive.deleteVersion botId version = .ok (deleted, archive'))
    {other otherVersion : String} (hne : (other, otherVersion) ≠ (botId, version)) :
    archive'.definition? other otherVersion = archive.definition? other otherVersion := by
  unfold deleteVersion at h
  split at h
  · cases h
  · cases h
    by_cases hbot : other = botId
    · subst hbot
      have hversion : otherVersion ≠ version := fun heq => hne (by rw [heq])
      simp only [definition?, versionsOf, Keyed.get?_insert_self, Option.getD_some,
        Keyed.get?_erase_of_ne hversion]
    · simp only [definition?, versionsOf, Keyed.get?_insert_of_ne hbot]

theorem Sound.deleteVersion {archive' : Archive} {deleted : Bool} (hsound : archive.Sound)
    (h : archive.deleteVersion botId version = .ok (deleted, archive')) : archive'.Sound := by
  unfold Archive.deleteVersion at h
  split at h
  · cases h
  · cases h
    intro other e he
    by_cases hbot : other = botId
    · subst hbot
      simp only [versionsOf, Keyed.get?_insert_self, Option.getD_some] at he
      exact hsound other e ((Keyed.erase_sublist version _).subset he)
    · simp only [versionsOf, Keyed.get?_insert_of_ne hbot] at he
      exact hsound other e he

structure Pointed (archive : Archive) : Prop where
  sorted : Keyed.Sorted archive.active
  stored : ∀ botId version, archive.active? botId = some version →
    ∃ definition, archive.definition? botId version = some definition

theorem pointed_empty : empty.Pointed where
  sorted := .nil
  stored := nofun

theorem Pointed.define (h : archive.Pointed) (botId version definition : String) :
    (archive.define botId version definition).Pointed where
  sorted := h.sorted
  stored other otherVersion hactive := by
    rw [definition?_define]
    split
    · exact ⟨definition, rfl⟩
    · exact h.stored other otherVersion hactive

theorem Pointed.setActive {archive' : Archive} (h : archive.Pointed)
    (hset : archive.setActive botId version = .ok archive') : archive'.Pointed := by
  obtain ⟨flow, hflow, hset⟩ := Except.bind_eq_ok hset
  cases hset
  refine ⟨Keyed.sorted_insert h.sorted botId version, fun other otherVersion hactive => ?_⟩
  by_cases hbot : other = botId
  · subst hbot
    obtain rfl : version = otherVersion :=
      Option.some.inj ((Keyed.get?_insert_self other version archive.active).symm.trans hactive)
    -- a version that can be read is there
    cases hdefinition : archive.definition? other version with
    | none =>
      rw [requireVersion, version?, hdefinition] at hflow
      cases hflow
    | some definition => exact ⟨definition, hdefinition⟩
  · exact h.stored other otherVersion ((Keyed.get?_insert_of_ne hbot _ _).symm.trans hactive)

theorem Pointed.clearActive (h : archive.Pointed) (botId : String) :
    (archive.clearActive botId).2.Pointed := by
  refine ⟨Keyed.sorted_erase h.sorted botId, fun other version hactive => ?_⟩
  by_cases hbot : other = botId
  · subst hbot
    cases (Keyed.get?_erase_self h.sorted other).symm.trans hactive
  · exact h.stored other version ((Keyed.get?_erase_of_ne hbot _).symm.trans hactive)

theorem Pointed.deleteVersion {archive' : Archive} {deleted : Bool} (h : archive.Pointed)
    (hdelete : archive.deleteVersion botId version = .ok (deleted, archive')) :
    archive'.Pointed := by
  obtain ⟨hactive, hne⟩ := active_of_deleteVersion hdelete
  refine ⟨hactive.symm ▸ h.sorted, fun other otherVersion hother => ?_⟩
  rw [active?, hactive] at hother
  rw [definition?_of_deleteVersion hdelete]
  · exact h.stored other otherVersion hother
  · rintro ⟨⟩
    exact hne hother

end Archive

namespace Registry

variable {policy : Policy} {r : Registry} {botId version : String} {flow : Flow}
    {active : ActiveFlow}

theorem eq_ofFlow_of_compile (h : compile policy botId version flow = .ok active) :
    active = .ofFlow version flow := by
  unfold compile at h
  dsimp only at h
  split at h
  · cases h
  · cases h
    rfl

/-- The bot runs a version that the archive holds and that passes the checks. -/
def Uses (policy : Policy) (r : Registry) (botId version : String) : Prop :=
  ∃ flow active, r.archive.Holds botId version flow ∧
    compile policy botId version flow = .ok active ∧
    r.active? botId = some active

def Agrees (policy : Policy) (r : Registry) (botId : String) : Prop :=
  match r.archive.active? botId with
  | none => r.active? botId = none
  | some version => r.Uses policy botId version

theorem Agrees.congr {r' : Registry} (h : r.Agrees policy botId)
    (hactive : r'.archive.active? botId = r.archive.active? botId)
    (hflow : r'.active? botId = r.active? botId)
    (hdefinition : ∀ version, r.archive.active? botId = some version →
      r'.archive.definition? botId version = r.archive.definition? botId version) : r'.Agrees policy
        botId := by
  unfold Agrees at h ⊢
  rw [hactive]
  cases hversion : r.archive.active? botId with
  | none =>
    rw [hversion] at h
    exact hflow.trans h
  | some version =>
    rw [hversion] at h
    obtain ⟨flow, active, hholds, hcompile, huses⟩ := h
    have hholds' : r'.archive.Holds botId version flow :=
      ⟨hholds.readable, hholds.kept, (hdefinition version hversion).trans hholds.definition⟩
    exact ⟨flow, active, hholds', hcompile, hflow.trans huses⟩

structure Consistent (policy : Policy) (r : Registry) : Prop where
  sound : r.archive.Sound
  active_sorted : Keyed.Sorted r.archive.active
  flows_sorted : Keyed.Sorted r.flows
  agrees : ∀ botId, r.Agrees policy botId

theorem consistent_empty (policy : Policy) : empty.Consistent policy where
  sound := by
    intro botId e he
    cases he
  active_sorted := .nil
  flows_sorted := .nil
  agrees _ := rfl

/-- A version that is held and passes is put to use, whatever the bot ran before. -/
theorem consistent_switchTo (hsound : r.archive.Sound) (hactive : Keyed.Sorted r.archive.active)
    (hflows : Keyed.Sorted r.flows) (hothers : ∀ other, other ≠ botId → r.Agrees policy other)
    (hholds : r.archive.Holds botId version flow)
    (hcompile : compile policy botId version flow = .ok active) :
    (r.switchTo botId version active).2.Consistent policy := by
  unfold switchTo
  rw [hholds.setActive_eq]
  refine ⟨hsound, Keyed.sorted_insert hactive botId version,
    Keyed.sorted_insert hflows botId active, ?_⟩
  intro other
  by_cases hbot : other = botId
  · subst hbot
    unfold Agrees
    simp only [install, Archive.active?, Keyed.get?_insert_self]
    exact ⟨flow, active, ⟨hholds.readable, hholds.kept, hholds.definition⟩, hcompile,
      Keyed.get?_insert_self other active r.flows⟩
  · exact (hothers other hbot).congr (Keyed.get?_insert_of_ne hbot _ _)
      (Keyed.get?_insert_of_ne hbot _ _)
      fun _ _ => rfl

theorem Consistent.publish (h : r.Consistent policy) (botId version : String)
    (hflow : flow.Readable) (hkept : flow.Kept) :
    (Registry.publish policy r botId version flow).2.Consistent policy := by
  unfold Registry.publish
  split
  · exact h
  · next active hcompile =>
    refine consistent_switchTo (h.sound.saveVersion botId version hflow hkept) h.active_sorted
      h.flows_sorted ?_ (Archive.holds_saveVersion r.archive botId version hflow hkept) hcompile
    intro other hne
    exact (h.agrees other).congr rfl rfl fun otherVersion _ =>
      Archive.definition?_saveVersion_of_ne hne r.archive version otherVersion flow

theorem Consistent.activate (h : r.Consistent policy) (botId version : String) :
    (Registry.activate policy r botId version).2.Consistent policy := by
  unfold Registry.activate
  split
  · exact h
  · next flow hflow =>
    split
    · exact h
    · next active hcompile =>
      exact consistent_switchTo h.sound h.active_sorted h.flows_sorted
        (fun other _ => h.agrees other)
        (h.sound.holds hflow) hcompile

theorem Consistent.deactivate (h : r.Consistent policy) (botId : String) :
    (r.deactivate botId).Consistent policy := by
  refine ⟨h.sound, Keyed.sorted_erase h.active_sorted botId,
    Keyed.sorted_erase h.flows_sorted botId, ?_⟩
  intro other
  by_cases hbot : other = botId
  · subst hbot
    unfold Agrees
    simp only [Registry.deactivate, Archive.clearActive, Archive.active?, active?,
      Keyed.get?_erase_self h.active_sorted, Keyed.get?_erase_self h.flows_sorted]
  · exact (h.agrees other).congr (Keyed.get?_erase_of_ne hbot _)
      (Keyed.get?_erase_of_ne hbot _) fun _ _ => rfl

theorem Consistent.deleteVersion (h : r.Consistent policy) {archive' : Archive} {deleted : Bool}
    (hdelete : r.archive.deleteVersion botId version = .ok (deleted, archive')) :
    Consistent policy { r with archive := archive' } := by
  have hactive := Archive.active_of_deleteVersion hdelete
  refine ⟨h.sound.deleteVersion hdelete, ?_, h.flows_sorted, fun other => ?_⟩
  · show Keyed.Sorted archive'.active
    rw [hactive.1]
    exact h.active_sorted
  · refine (h.agrees other).congr (congrArg (Keyed.get? other) hactive.1) rfl
      fun otherVersion hother => ?_
    apply Archive.definition?_of_deleteVersion hdelete
    rintro ⟨⟩
    exact hactive.2 hother

/-- Of versions that are in use all are read, and all pass. -/
theorem exists_readActive {entries : Keyed String} (h : ∀ e ∈ entries, r.Uses policy e.1 e.2) :
    ∃ stored, r.archive.readActive entries = .ok stored ∧
      (stored.filterMap fun s =>
        (compile policy s.botId s.version s.flow).toOption.map fun active => (s.botId, active)) =
          entries.filterMap fun e => (r.active? e.1).map fun active => (e.1, active) := by
  induction entries with
  | nil => exact ⟨[], rfl, rfl⟩
  | cons e rest ih =>
    obtain ⟨botId, version⟩ := e
    obtain ⟨huses, hrest⟩ := List.forall_mem_cons.mp h
    obtain ⟨flow, active, hholds, hcompile, hactive⟩ := huses
    obtain ⟨stored, hstored, hpassed⟩ := ih hrest
    refine ⟨⟨botId, version, flow⟩ :: stored, ?_, ?_⟩
    · rw [Archive.readActive, hholds.definition]
      simp only [hholds.ofColumn_eq, hstored]
      rfl
    · simp only [List.filterMap_cons, hcompile, hactive, hpassed]
      rfl

/-- Loading brings back what was in memory, whatever is there now. -/
theorem Consistent.load_eq (h : r.Consistent policy) (flows : Keyed ActiveFlow) :
    Registry.load policy ⟨r.archive, flows⟩ = .ok r := by
  have huses : ∀ e ∈ r.archive.active, r.Uses policy e.1 e.2 := by
    intro e he
    have hagrees := h.agrees e.1
    unfold Agrees at hagrees
    rwa [Archive.active?, (Keyed.get?_eq_some_iff h.active_sorted).mpr he] at hagrees
  obtain ⟨stored, hstored, hpassed⟩ := exists_readActive huses
  have hsorted : Keyed.Sorted
      (r.archive.active.filterMap fun e => (r.active? e.1).map fun active => (e.1, active)) := by
    refine List.Pairwise.filterMap _ ?_ h.active_sorted
    intro a a' hlt b hb b' hb'
    obtain ⟨_, -, rfl⟩ := Option.map_eq_some_iff.mp hb
    obtain ⟨_, -, rfl⟩ := Option.map_eq_some_iff.mp hb'
    exact hlt
  have hflows : (r.archive.active.filterMap fun e => (r.active? e.1).map fun active =>
      (e.1, active)) = r.flows := by
    refine Keyed.eq_of_mem_iff hsorted h.flows_sorted fun ⟨botId, active⟩ => ?_
    rw [← Keyed.get?_eq_some_iff h.flows_sorted]
    simp only [List.mem_filterMap, Option.map_eq_some_iff]
    constructor
    · rintro ⟨e, -, _, hactive, ⟨⟩⟩
      exact hactive
    · intro hactive
      have hagrees := h.agrees botId
      unfold Agrees at hagrees
      split at hagrees
      · next hnone =>
        -- without an active version nothing is in memory
        rw [active?, hactive] at hagrees
        cases hagrees
      · next version hversion =>
        exact ⟨(botId, version), Keyed.mem_of_get? hversion, active, hactive, rfl⟩
  unfold Registry.load Archive.activeFlows
  rw [hstored]
  show Except.ok (Registry.mk r.archive (Keyed.ofList _)) = _
  rw [hpassed, Keyed.ofList_of_sorted hsorted, hflows]

inductive Change
  /-- the flow of a text is put to use, if it is one -/
  | publish (botId version text : String)
  | activate (botId version : String)
  | deactivate (botId : String)
  | delete (botId version : String)
  deriving DecidableEq

def apply (policy : Policy) (r : Registry) : Change → Registry
  | .publish botId version text => match Flow.ofText text with
    | .error _ => r
    | .ok flow => (Registry.publish policy r botId version flow).2
  | .activate botId version => (Registry.activate policy r botId version).2
  | .deactivate botId => r.deactivate botId
  | .delete botId version => match r.archive.deleteVersion botId version with
    | .error _ => r
    | .ok (_, archive) => { r with archive }

def after (policy : Policy) (r : Registry) (changes : List Change) : Registry :=
  changes.foldl (apply policy) r

theorem pointed_switchTo (h : r.archive.Pointed) (botId version : String) (active : ActiveFlow) :
    (r.switchTo botId version active).2.archive.Pointed := by
  unfold switchTo
  split
  · exact h
  · next hset => exact h.setActive hset

/-- However a change ends, every active version is in the archive. -/
theorem pointed_apply (h : r.archive.Pointed) (change : Change) :
    (r.apply policy change).archive.Pointed := by
  cases change with
  | publish botId version text =>
    unfold Registry.apply Registry.publish
    dsimp only
    split
    · exact h
    · split
      · exact h
      · exact pointed_switchTo (h.define botId version _) botId version _
  | activate botId version =>
    unfold Registry.apply Registry.activate
    dsimp only
    split
    · exact h
    · split
      · exact h
      · exact pointed_switchTo h botId version _
  | deactivate botId => exact h.clearActive botId
  | delete botId version =>
    unfold Registry.apply
    dsimp only
    split
    · exact h
    · next hdelete => exact h.deleteVersion hdelete

theorem pointed_after (h : r.archive.Pointed) (changes : List Change) :
    (r.after policy changes).archive.Pointed := by
  induction changes generalizing r with
  | nil => exact h
  | cons change changes ih => exact ih (pointed_apply h change)

/-- Every number in a flow that is published is read back as it is printed. -/
def Change.Kept : Change → Prop
  | .publish _ _ text => ∀ flow ∈ (Flow.ofText text).toOption, flow.Kept
  | _ => True

instance : (change : Change) → Decidable change.Kept
  | .publish _ _ text =>
    inferInstanceAs (Decidable (∀ flow ∈ (Flow.ofText text).toOption, flow.Kept))
  | .activate _ _ | .deactivate _ | .delete _ _ => .isTrue trivial

theorem Consistent.apply (h : r.Consistent policy) {change : Change} (hkept : change.Kept) :
    (r.apply policy change).Consistent policy := by
  cases change with
  | publish botId version text =>
    unfold Registry.apply
    dsimp only
    split
    · exact h
    · next flow hflow =>
      have hread : flow ∈ (Flow.ofText text).toOption := by
        rw [hflow]
        rfl
      exact h.publish botId version (Flow.readable_of_ofText hflow) (hkept flow hread)
  | activate botId version => exact h.activate botId version
  | deactivate botId => exact h.deactivate botId
  | delete botId version =>
    unfold Registry.apply
    dsimp only
    split
    · exact h
    · next hdelete => exact h.deleteVersion hdelete

theorem Consistent.after (h : r.Consistent policy) {changes : List Change}
    (hkept : ∀ change ∈ changes, change.Kept) : (r.after policy changes).Consistent policy := by
  induction changes generalizing r with
  | nil => exact h
  | cons change changes ih =>
    obtain ⟨hchange, hchanges⟩ := List.forall_mem_cons.mp hkept
    exact ih (h.apply hchange) hchanges

/-- Whatever was done to the flows of bots, and however much of it failed: every active version is
in the archive. If the numbers in the flows are read back as they are printed, loading the archive
brings back what was in use, and every active version is the text of the flow that the bot runs. -/
theorem load_after (policy : Policy) (changes : List Change) :
    (∀ botId version, (empty.after policy changes).archive.active? botId = some version →
      ∃ definition, (empty.after policy changes).archive.definition? botId version =
        some definition) ∧
    ((∀ change ∈ changes, change.Kept) → ∀ flows : Keyed ActiveFlow,
      load policy ⟨(empty.after policy changes).archive, flows⟩ = .ok (empty.after policy changes) ∧
      ∀ botId version, (empty.after policy changes).archive.active? botId = some version →
        ∃ flow, (empty.after policy changes).archive.definition? botId version =
          some flow.toJson.compact ∧
          (empty.after policy changes).active? botId = some (.ofFlow version flow)) := by
  refine ⟨(pointed_after Archive.pointed_empty changes).stored, ?_⟩
  intro hkept flows
  have hconsistent := (consistent_empty policy).after hkept
  refine ⟨hconsistent.load_eq flows, ?_⟩
  intro botId version hversion
  have hagrees := hconsistent.agrees botId
  unfold Agrees at hagrees
  rw [hversion] at hagrees
  obtain ⟨flow, active, hholds, hcompile, hactive⟩ := hagrees
  rw [eq_ofFlow_of_compile hcompile] at hactive
  exact ⟨flow, hholds.definition, hactive⟩

/-- A version is published anew while another is in use, a text is no flow, and the active version
is not deleted. -/
def busyDay : List Change :=
  [.publish "bot" "v1" "[[[\"start\",\"trigger:newMessage\"]]]",
    .publish "bot" "v2"
      ("\x7b\"nodes\":[\x7b\"id\":\"a\",\"type\":\"trigger:newMessage\"," ++
        "\"data\":\x7b\"config\":\x7b\"x\":1.50\x7d\x7d\x7d]\x7d"),
    .publish "bot" "v1" "\x7b\"nodes\":[]\x7d", .publish "bot" "v3" "[", .activate "bot" "v2",
    .delete "bot" "v2", .delete "bot" "v1", .activate "bot" "v1"]

theorem load_after_busyDay :
    (∀ change ∈ busyDay, change.Kept) ∧
      (empty.after .strict busyDay).archive.active? "bot" = some "v2" ∧
      ∃ flow, (empty.after .strict busyDay).archive.definition? "bot" "v2" =
        some flow.toJson.compact ∧
        (empty.after .strict busyDay).active? "bot" = some (.ofFlow "v2" flow) := by
  have hactive : (empty.after .strict busyDay).archive.active? "bot" = some "v2" := by
    decide +kernel
  have hkept : ∀ change ∈ busyDay, change.Kept := by decide +kernel
  exact ⟨hkept, hactive, ((load_after .strict busyDay).2 hkept []).2 "bot" "v2" hactive⟩

end Registry

end ChatFlow
