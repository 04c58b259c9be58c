import ChatFlow.Flow.Component
import Mathlib.Data.List.Nodup
import Mathlib.Logic.Relation

namespace ChatFlow.Flow

open Relation

def addId (ids : List String) (id : String) : List String :=
  if ids.contains id then ids else ids ++ [id]

theorem mem_addId {ids : List String} {id x : String} : x ∈ addId ids id ↔ x ∈ ids ∨ x = id := by
  unfold addId
  split
  · next h =>
    rw [List.contains_iff_mem] at h
    exact ⟨Or.inl, fun hx => hx.elim (fun hx => hx) (fun hx => hx ▸ h)⟩
  · simp

theorem nodup_addId {ids : List String} (h : ids.Nodup) (id : String) : (addId ids id).Nodup := by
  unfold addId
  split
  · exact h
  · next hid =>
    rw [List.contains_iff_mem] at hid
    exact List.nodup_append.mpr ⟨h, by simp, by rintro x hx y hy rfl; exact hid (by simp_all)⟩

theorem mem_foldl_addId {ids more : List String} {x : String} :
    x ∈ more.foldl addId ids ↔ x ∈ ids ∨ x ∈ more := by
  induction more generalizing ids with
  | nil => simp
  | cons id rest ih => rw [List.foldl_cons, ih, mem_addId, List.mem_cons, or_assoc]

theorem nodup_foldl_addId {ids : List String} (h : ids.Nodup) (more : List String) :
    (more.foldl addId ids).Nodup := by
  induction more generalizing ids with
  | nil => exact h
  | cons id rest ih => exact ih (nodup_addId h id)

variable {flow : Flow}

theorem ids_eq (flow : Flow) : flow.ids = (flow.nodes.map (·.id)).foldl addId [] := by
  rw [List.foldl_map]
  rfl

theorem mem_ids {id : String} : id ∈ flow.ids ↔ flow.declares id = true := by
  rw [ids_eq, mem_foldl_addId, declares, List.any_eq_true]
  simp

theorem nodup_ids (flow : Flow) : flow.ids.Nodup := by
  rw [ids_eq]
  exact nodup_foldl_addId List.nodup_nil _

theorem length_ids_le (flow : Flow) : flow.ids.length ≤ flow.nodes.length := by
  rw [← @List.length_map _ _ flow.nodes (·.id)]
  refine (nodup_ids flow).length_le_of_subset fun id hid => ?_
  rw [mem_ids, declares, List.any_eq_true] at hid
  simpa using hid

def Leads (flow : Flow) (a b : String) : Prop := b ∈ flow.successors a

theorem leads_iff {a b : String} :
    flow.Leads a b ↔
      flow.declares a = true ∧ flow.declares b = true ∧ ∃ e ∈ flow.edges, e.source = a ∧
        e.target = b := by
  simp only [Leads, successors, List.mem_reverse, List.mem_map, List.mem_filter, Bool.and_eq_true,
    beq_iff_eq]
  constructor
  · rintro ⟨e, ⟨he, ⟨hs, ha⟩, ht⟩, rfl⟩
    exact ⟨ha, ht, e, he, hs, rfl⟩
  · rintro ⟨ha, hb, e, he, hs, rfl⟩
    exact ⟨e, ⟨he, ⟨hs, ha⟩, hb⟩, rfl⟩

theorem declares_of_reflTransGen {a b : String} (h : ReflTransGen flow.Leads a b)
    (ha : flow.declares a = true) : flow.declares b = true := by
  cases h with
  | refl => exact ha
  | tail _ h => exact (leads_iff.mp h).2.1

def spreadOnce (flow : Flow) (reached : List String) : List String :=
  (reached.flatMap flow.successors).foldl addId reached

theorem spread_succ (rounds : Nat) (reached : List String) :
    flow.spread (rounds + 1) reached = flow.spread rounds (flow.spreadOnce reached) := rfl

theorem mem_spreadOnce {reached : List String} {x : String} :
    x ∈ flow.spreadOnce reached ↔ x ∈ reached ∨ ∃ a ∈ reached, flow.Leads a x := by
  rw [spreadOnce, mem_foldl_addId, List.mem_flatMap]
  rfl

def Closed (flow : Flow) (reached : List String) : Prop :=
  ∀ a ∈ reached, ∀ b, flow.Leads a b → b ∈ reached

theorem Closed.mem_of_reflTransGen {reached : List String} (h : flow.Closed reached) {a b : String}
    (hab : ReflTransGen flow.Leads a b) (ha : a ∈ reached) : b ∈ reached := by
  induction hab with
  | refl => exact ha
  | tail _ hlast ih => exact h _ ih _ hlast

theorem subset_spread (rounds : Nat) (reached : List String) :
    reached ⊆ flow.spread rounds reached := by
  induction rounds generalizing reached with
  | zero => exact List.Subset.refl reached
  | succ rounds ih =>
    intro x hx
    exact ih _ (mem_spreadOnce.mpr (Or.inl hx))

theorem reflTransGen_of_mem_spread {rounds : Nat} {reached : List String} {x : String}
    (h : x ∈ flow.spread rounds reached) : ∃ a ∈ reached, ReflTransGen flow.Leads a x := by
  induction rounds generalizing reached with
  | zero => exact ⟨x, h, .refl⟩
  | succ rounds ih =>
    obtain ⟨b, hb, hbx⟩ := ih h
    rcases mem_spreadOnce.mp hb with hb | ⟨a, ha, hab⟩
    · exact ⟨b, hb, hbx⟩
    · exact ⟨a, ha, .head hab hbx⟩

theorem nodup_spread {reached : List String} (h : reached.Nodup) (rounds : Nat) :
    (flow.spread rounds reached).Nodup := by
  induction rounds generalizing reached with
  | zero => exact h
  | succ rounds ih => exact ih (nodup_foldl_addId h _)

theorem length_lt_spreadOnce {reached : List String} (hnodup : reached.Nodup)
    (h : ¬ flow.Closed reached) : reached.length < (flow.spreadOnce reached).length := by
  simp only [Closed, not_forall] at h
  obtain ⟨a, ha, b, hab, hb⟩ := h
  have hsub : b :: reached ⊆ flow.spreadOnce reached := by
    intro x hx
    rcases List.mem_cons.mp hx with rfl | hx
    · exact mem_spreadOnce.mpr (Or.inr ⟨a, ha, hab⟩)
    · exact mem_spreadOnce.mpr (Or.inl hx)
  exact (List.nodup_cons.mpr ⟨hb, hnodup⟩).length_le_of_subset hsub

theorem spread_of_closed {reached : List String} (h : flow.Closed reached) (rounds : Nat) :
    flow.Closed (flow.spread rounds reached) := by
  induction rounds generalizing reached with
  | zero => exact h
  | succ rounds ih =>
    refine ih fun a ha b hab => ?_
    have ha' : a ∈ reached := by
      rcases mem_spreadOnce.mp ha with ha | ⟨c, hc, hca⟩
      · exact ha
      · exact h c hc a hca
    exact mem_spreadOnce.mpr (Or.inl (h a ha' b hab))

/-- Every round adds an id as long as an edge leads further. -/
theorem closed_or_length_le_spread {reached : List String} (hnodup : reached.Nodup) (rounds : Nat) :
    flow.Closed (flow.spread rounds reached) ∨
      reached.length + rounds ≤ (flow.spread rounds reached).length := by
  induction rounds generalizing reached with
  | zero => exact Or.inr (Nat.le_refl _)
  | succ rounds ih =>
    by_cases h : flow.Closed reached
    · exact Or.inl (spread_of_closed h _)
    · have hlt := length_lt_spreadOnce hnodup h
      have hnodup' : (flow.spreadOnce reached).Nodup := nodup_foldl_addId hnodup _
      rw [spread_succ]
      exact (ih hnodup').imp_right fun hle => by omega

theorem closed_singleton {a : String} (ha : ¬ flow.declares a = true) : flow.Closed [a] := by
  intro x hx b hxb
  rw [List.mem_singleton.mp hx] at hxb
  exact absurd (leads_iff.mp hxb).1 ha

theorem closed_reachable (flow : Flow) (a : String) : flow.Closed (flow.reachable a) := by
  by_cases ha : flow.declares a = true
  · have hnodup : [a].Nodup := List.nodup_singleton a
    rcases @closed_or_length_le_spread flow _ hnodup flow.nodes.length with h | h
    · exact h
    · -- otherwise more ids were reached than are declared
      have hsub : flow.spread flow.nodes.length [a] ⊆ flow.ids := by
        intro x hx
        obtain ⟨b, hb, hbx⟩ := reflTransGen_of_mem_spread hx
        rw [List.mem_singleton] at hb
        subst hb
        exact mem_ids.mpr (declares_of_reflTransGen hbx ha)
      have hle := (@nodup_spread flow _ hnodup flow.nodes.length).length_le_of_subset hsub
      have hids := length_ids_le flow
      rw [List.length_singleton] at h
      omega
  · exact spread_of_closed (closed_singleton ha) _

theorem mem_reachable {a b : String} : b ∈ flow.reachable a ↔ ReflTransGen flow.Leads a b := by
  constructor
  · intro h
    obtain ⟨x, hx, hxb⟩ := reflTransGen_of_mem_spread h
    rwa [List.mem_singleton.mp hx] at hxb
  · intro h
    exact (closed_reachable flow a).mem_of_reflTransGen h
      (subset_spread _ _ (List.mem_singleton.mpr rfl))

theorem together_iff {a b : String} :
    flow.together a b = true ↔ ReflTransGen flow.Leads a b ∧ ReflTransGen flow.Leads b a := by
  rw [together, Bool.and_eq_true, List.contains_iff_mem, List.contains_iff_mem, mem_reachable,
    mem_reachable]

/-- Whatever a walk enters it leaves for good, and it forgets nothing. -/
structure Walk.Extends (walk later : Walk) : Prop where
  entered : walk.entered ⊆ later.entered
  left : walk.left ⊆ later.left
  done : ∀ x ∈ later.entered, x ∈ walk.entered ∨ x ∈ later.left

theorem Walk.Extends.refl (walk : Walk) : walk.Extends walk :=
  ⟨List.Subset.refl _, List.Subset.refl _, fun _ => Or.inl⟩

theorem Walk.Extends.trans {walk later last : Walk} (h : walk.Extends later)
    (h' : later.Extends last) :
    walk.Extends last := by
  refine ⟨List.Subset.trans h.entered h'.entered, List.Subset.trans h.left h'.left, fun x hx => ?_⟩
  rcases h'.done x hx with hx | hx
  · exact (h.done x hx).imp_right fun hx => h'.left hx
  · exact Or.inr hx

theorem Walk.extends_foldl {step : Walk → String → Walk}
    (hstep : ∀ (walk : Walk) (id : String), walk.Extends (step walk id)) (ids : List String)
    (walk : Walk) :
    walk.Extends (ids.foldl step walk) := by
  induction ids generalizing walk with
  | nil => exact .refl walk
  | cons id rest ih => exact (hstep walk id).trans (ih _)

theorem extends_visit (room : Nat) (walk : Walk) (id : String) :
    walk.Extends (flow.visit room walk id) := by
  induction room generalizing walk id with
  | zero => exact .refl walk
  | succ room ih =>
    rw [visit]
    split
    · exact .refl walk
    · have h :=
        Walk.extends_foldl ih (flow.successors id) { walk with entered := id :: walk.entered }
      refine ⟨fun x hx => h.entered (List.mem_cons_of_mem id hx), fun x hx => ?_, fun x hx => ?_⟩
      · exact List.mem_append_left _ (h.left hx)
      · rcases h.done x hx with hx | hx
        · rcases List.mem_cons.mp hx with rfl | hx
          · exact Or.inr (List.mem_append_right _ (List.mem_singleton.mpr rfl))
          · exact Or.inl hx
        · exact Or.inr (List.mem_append_left _ hx)

theorem mem_entered_visit (room : Nat) (walk : Walk) (id : String) :
    id ∈ (flow.visit (room + 1) walk id).entered := by
  rw [visit]
  split
  · next h => exact List.contains_iff_mem.mp h
  · exact (Walk.extends_foldl (extends_visit room) (flow.successors id) _).entered
      List.mem_cons_self

theorem mem_entered_foldl_visit {room : Nat} {ids : List String} {id : String} (h : id ∈ ids)
    (walk : Walk) : id ∈ (ids.foldl (flow.visit (room + 1)) walk).entered := by
  induction ids generalizing walk with
  | nil => cases h
  | cons first rest ih =>
    rcases List.mem_cons.mp h with rfl | h
    · exact (Walk.extends_foldl (extends_visit _) rest _).entered (mem_entered_visit room walk id)
    · exact ih h _

theorem mem_leavingOrder {id : String} (h : flow.declares id = true) : id ∈ flow.leavingOrder := by
  have hdone := (Walk.extends_foldl (@extends_visit flow (flow.nodes.length + 1)) flow.ids
    ⟨[], []⟩).done id (mem_entered_foldl_visit (mem_ids.mpr h) _)
  exact hdone.resolve_left List.not_mem_nil

theorem together_refl (id : String) : flow.together id id = true := together_iff.mpr ⟨.refl, .refl⟩

theorem together_symm {a b : String} (h : flow.together a b = true) : flow.together b a = true :=
  together_iff.mpr (together_iff.mp h).symm

theorem together_trans {a b c : String} (hab : flow.together a b = true)
    (hbc : flow.together b c = true) : flow.together a c = true := by
  rw [together_iff] at *
  exact ⟨hab.1.trans hbc.1, hbc.2.trans hab.2⟩

theorem exists_mem_lastOfComponents {order : List String} {id : String} (h : id ∈ order) :
    ∃ last ∈ flow.lastOfComponents order, flow.together last id = true := by
  induction order generalizing id with
  | nil => cases h
  | cons first rest ih =>
    rw [lastOfComponents]
    split
    · next hany =>
      rcases List.mem_cons.mp h with rfl | h
      · obtain ⟨x, hx, hidx⟩ := List.any_eq_true.mp hany
        obtain ⟨last, hlast, hx⟩ := ih hx
        exact ⟨last, hlast, together_trans hx (together_symm hidx)⟩
      · exact ih h
    · rcases List.mem_cons.mp h with rfl | h
      · exact ⟨id, List.mem_cons_self, together_refl id⟩
      · obtain ⟨last, hlast, hid⟩ := ih h
        exact ⟨last, List.mem_cons_of_mem _ hlast, hid⟩

theorem eq_of_together {a b : String} (h : flow.components = []) (ha : flow.declares a = true)
    (hb : flow.declares b = true) (hab : flow.together a b = true) : a = b := by
  obtain ⟨last, hlast, hlasta⟩ := exists_mem_lastOfComponents (mem_leavingOrder ha)
  have hmem {x : String} (hx : flow.declares x = true) (hax : flow.together a x = true) :
      x ∈ (flow.ids.filter (flow.together last)).mergeSort Text.le :=
    List.mem_mergeSort.mpr (List.mem_filter.mpr ⟨mem_ids.mpr hx, together_trans hlasta hax⟩)
  have hle := List.filter_eq_nil_iff.mp h _ (List.mem_map_of_mem hlast)
  by_contra hne
  -- the component of both would have two members and be listed
  have hsub : [a, b] ⊆ (flow.ids.filter (flow.together last)).mergeSort Text.le := by
    simp [hmem ha (together_refl a), hmem hb hab]
  have hlen :=
    (List.nodup_cons.mpr ⟨by simpa using hne, List.nodup_singleton b⟩).length_le_of_subset hsub
  simp only [List.length_cons, List.length_nil, decide_eq_true_eq] at hlen hle
  omega

theorem not_leads_self {a : String} (h : flow.selfLoops = []) : ¬ flow.Leads a a := by
  intro ha
  obtain ⟨hdecl, -, e, he, hsource, htarget⟩ := leads_iff.mp ha
  have hmem : a ∈ flow.selfLoops := by
    rw [selfLoops, List.mem_mergeSort, List.mem_filter, List.any_eq_true]
    exact ⟨mem_ids.mpr hdecl, e, he, by simp [hsource, htarget]⟩
  simp [h] at hmem

theorem not_transGen_self (h : flow.cycles = []) (a : String) : ¬ TransGen flow.Leads a a := by
  intro haa
  rw [cycles, List.append_eq_nil_iff, List.map_eq_nil_iff] at h
  obtain ⟨b, hab, hba⟩ := TransGen.head'_iff.mp haa
  obtain ⟨ha, hb, -⟩ := leads_iff.mp hab
  have heq := eq_of_together h.1 ha hb (together_iff.mpr ⟨.single hab, hba⟩)
  subst heq
  exact not_leads_self h.2 hab

end ChatFlow.Flow
