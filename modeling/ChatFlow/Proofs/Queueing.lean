import ChatFlow.Proofs.SuspensionAgreement

namespace ChatFlow

/-- What is mapped and told by a text is what is told by that text and can be mapped. -/
theorem map_filterMap_eq {α β γ : Type} {l : List α} {f : α → Option β} {g : β → γ} {k : α → γ}
    (h : ∀ a ∈ l, ∀ b, f a = some b → g b = k a) :
    (l.filterMap f).map g = (l.filter fun a => (f a).isSome).map k := by
  induction l with
  | nil => rfl
  | cons a rest ih =>
    have ih := ih fun b hb => h b (List.mem_cons_of_mem a hb)
    cases hf : f a with
    | none => rw [List.filterMap_cons_none hf, List.filter_cons_of_neg (by simp [hf]), ih]
    | some b =>
      have hsame := h a List.mem_cons_self b hf
      rw [List.filterMap_cons_some hf, List.filter_cons_of_pos (by simp [hf]), List.map_cons,
        List.map_cons, hsame, ih]

/-- What is not among the first of a list has its place behind them. -/
theorem idxOf_eq_add_idxOf_drop {l : List String} {a : String} {n : Nat} (hmem : a ∈ l)
    (h : a ∉ l.take n) :
    l.idxOf a = n + (l.drop n).idxOf a := by
  have hlater : n ≤ l.idxOf a := by
    rw [List.mem_take_iff_idxOf_lt hmem] at h
    exact Nat.le_of_not_lt h
  have hlong : l.idxOf a < l.length := List.idxOf_lt_length_of_mem hmem
  have hsplit : (l.take n ++ l.drop n).idxOf a = (l.take n).length + (l.drop n).idxOf a :=
    List.idxOf_append_of_notMem h
  rw [List.take_append_drop, List.length_take] at hsplit
  omega

section Sorting

variable {α : Type} {le : α → α → Bool} {p : α → Bool} {a : α}

/-- Around the place of an element those before it can be told from those behind it. -/
theorem filter_around (before behind : List α) (hbefore : ∀ b ∈ before, (!le a b) = true)
    (hbehind : ∀ b ∈ behind, le a b = true) :
    (before ++ behind).filter (fun b => !le a b) = before ∧
      (before ++ behind).filter (le a) = behind := by
  rw [List.filter_append, List.filter_append]
  constructor
  · have hnone : behind.filter (fun b => !le a b) = [] := by
      apply List.filter_eq_nil_iff.mpr
      intro b hb
      simp [hbehind b hb]
    rw [List.filter_eq_self.mpr hbefore, hnone, List.append_nil]
  · have hnone : before.filter (le a) = [] := by
      apply List.filter_eq_nil_iff.mpr
      intro b hb
      simpa using hbefore b hb
    rw [List.filter_eq_self.mpr hbehind, hnone, List.nil_append]

/-- Sorting keeps the order of equals, so that it makes no difference whether some are left out
before or behind. -/
theorem mergeSort_filter (htotal : ∀ a b, (le a b || le b a) = true)
    (htrans : ∀ a b c, le a b = true → le b c = true → le a c = true) (p : α → Bool) (l : List α) :
    (l.filter p).mergeSort le = (l.mergeSort le).filter p := by
  induction l with
  | nil => simp
  | cons a rest ih =>
    obtain ⟨before, behind, hsorted, hrest, hbefore⟩ := List.mergeSort_cons htrans htotal a rest
    rw [hsorted, List.filter_append]
    cases ha : p a with
    | false =>
      rw [List.filter_cons_of_neg (by simp [ha]), List.filter_cons_of_neg (by simp [ha]), ih, hrest,
        List.filter_append]
    | true =>
      rw [List.filter_cons_of_pos ha, List.filter_cons_of_pos ha]
      obtain ⟨before', behind', hsorted', hrest', hbefore'⟩ :=
        List.mergeSort_cons htrans htotal a (rest.filter p)
      have hbehind : ∀ b ∈ behind, le a b = true := by
        have hpairwise := List.pairwise_mergeSort htrans htotal (a :: rest)
        rw [hsorted] at hpairwise
        exact (List.pairwise_cons.mp (List.pairwise_append.mp hpairwise).2.1).1
      have hbehind' : ∀ b ∈ behind', le a b = true := by
        have hpairwise := List.pairwise_mergeSort htrans htotal (a :: rest.filter p)
        rw [hsorted'] at hpairwise
        exact (List.pairwise_cons.mp (List.pairwise_append.mp hpairwise).2.1).1
      -- both ways the others are the same, and the element goes to the same place among them
      have hsame : before' ++ behind' = before.filter p ++ behind.filter p := by
        rw [← hrest', ih, hrest, List.filter_append]
      obtain ⟨hleft', hright'⟩ := filter_around before' behind' hbefore' hbehind'
      obtain ⟨hleft, hright⟩ := filter_around (before.filter p) (behind.filter p)
        (fun b hb => hbefore b (List.mem_of_mem_filter hb))
          (fun b hb => hbehind b (List.mem_of_mem_filter hb))
      rw [hsame, hleft] at hleft'
      rw [hsame, hright] at hright'
      rw [hsorted', ← hleft', ← hright']

end Sorting

namespace SuspensionTable

theorem mergeSort_filter (p : Suspension → Bool) (l : List Suspension) :
    (l.filter p).mergeSort earlier = (l.mergeSort earlier).filter p :=
  ChatFlow.mergeSort_filter earlier_total (fun _ _ _ => earlier_trans) p l

end SuspensionTable

namespace SuspensionRow

theorem mergeSort_filter (p : SuspensionRow → Bool) (l : List SuspensionRow) :
    (l.filter p).mergeSort earlier = (l.mergeSort earlier).filter p :=
  ChatFlow.mergeSort_filter earlier_total (fun _ _ _ => earlier_trans) p l

theorem resumeAt_le_of_isDue {row : SuspensionRow} {s : Suspension} {now : Instant}
    (h : row.toSuspension? = some s) (hdue : s.isDue now = true) : row.resumeAt ≤ now.toMillis := by
  simp only [toSuspension?, Option.bind_eq_bind, Option.bind_eq_some_iff, Option.pure_def,
    Option.some.injEq] at h
  obtain ⟨id, -, context, -, resumeAt, hresumeAt, createdAt, -, rfl⟩ := h
  have hwhole : resumeAt.IsWhole := ⟨row.resumeAt, hresumeAt⟩
  have hle : resumeAt.toMillis ≤ now.toMillis := Instant.toMillis_le hwhole hdue
  rwa [Instant.toMillis_of_ofMillis? hresumeAt] at hle

/-- If those of the first rows that cannot be read go, of these the readable ones stay, and all
others. -/
theorem filter_purged {l : List SuspensionRow} (hids : (l.map (·.id)).Nodup) (limit : Nat) :
    (l.filter fun row => !((l.take limit).filter (·.toSuspension?.isNone)).any (·.id == row.id)) =
      (l.take limit).filter (·.toSuspension?.isSome) ++ l.drop limit := by
  let purged (row : SuspensionRow) : Bool :=
    ((l.take limit).filter (·.toSuspension?.isNone)).any (·.id == row.id)
  -- a row that goes has the key of one that cannot be read, and so it is that one
  have hpurged : ∀ row ∈ l, purged row = true ↔ row ∈ l.take limit ∧
      row.toSuspension?.isNone = true := by
    intro row hrow
    constructor
    · intro hany
      obtain ⟨other, hother, hid⟩ := List.any_eq_true.mp hany
      have hmem : other ∈ l := List.mem_of_mem_take (List.mem_of_mem_filter hother)
      have heq : other = row := List.inj_on_of_nodup_map hids hmem hrow (eq_of_beq hid)
      exact List.mem_filter.mp (heq ▸ hother)
    · intro hbroken
      exact List.any_eq_true.mpr ⟨row, List.mem_filter.mpr hbroken, beq_self_eq_true _⟩
  have htaken : (l.take limit).filter (fun row => !purged row) =
      (l.take limit).filter (·.toSuspension?.isSome) := by
    apply List.filter_congr
    intro row hrow
    rw [Bool.eq_iff_iff, Bool.not_eq_true', ← Bool.not_eq_true,
      hpurged row (List.mem_of_mem_take hrow)]
    simp [hrow, Option.isSome_iff_ne_none]
  have hleft : (l.drop limit).filter (fun row => !purged row) = l.drop limit := by
    apply List.filter_eq_self.mpr
    intro row hrow
    rw [Bool.not_eq_true', ← Bool.not_eq_true, hpurged row (List.mem_of_mem_drop hrow)]
    rintro ⟨htake, -⟩
    exact List.disjoint_take_drop (List.Nodup.of_map _ hids) (Nat.le_refl limit) htake hrow
  calc l.filter (fun row => !purged row)
      = (l.take limit ++ l.drop limit).filter (fun row => !purged row) := by
        rw [List.take_append_drop]
    _ = (l.take limit).filter (·.toSuspension?.isSome) ++ l.drop limit := by
      rw [List.filter_append, htaken, hleft]

end SuspensionRow

namespace SuspensionStore

/-- The keys of what is due, also of what cannot be read, in the order in which it is loaded. -/
def line (now : Instant) : SuspensionStore → List String
  | memory table =>
    ((table.filter (·.isDue now)).mergeSort SuspensionTable.earlier).map fun (s : Suspension) =>
      s.id.text
  | rows r =>
    ((r.filter (·.resumeAt ≤ now.toMillis)).mergeSort SuspensionRow.earlier).map
      fun (row : SuspensionRow) => row.id

variable {store : SuspensionStore} {n : Nat} {s : Suspension} {now : Instant} {limit : Nat}

theorem line_nodup (h : store.Distinct) (now : Instant) : (store.line now).Nodup := by
  cases store with
  | memory table =>
    apply ((List.mergeSort_perm _ _).map _).nodup_iff.mpr
    exact h.keys.sublist (List.filter_sublist.map _)
  | rows r =>
    apply ((List.mergeSort_perm _ _).map _).nodup_iff.mpr
    exact h.keys.sublist (List.filter_sublist.map _)

theorem mem_line (h : store.Sound n) (hs : s ∈ store.records) (hdue : s.isDue now = true) :
    s.id.text ∈ store.line now := by
  cases store with
  | memory table =>
    apply List.mem_map.mpr
    exact ⟨s, List.mem_mergeSort.mpr (List.mem_filter.mpr ⟨hs, hdue⟩), rfl⟩
  | rows r =>
    obtain ⟨row, hrow, hread⟩ := List.mem_filterMap.mp hs
    have hresumeAt : row.resumeAt ≤ now.toMillis := SuspensionRow.resumeAt_le_of_isDue hread hdue
    apply List.mem_map.mpr
    refine ⟨row, List.mem_mergeSort.mpr (List.mem_filter.mpr ⟨hrow, ?_⟩), h.tidy row hrow s hread⟩
    simpa using hresumeAt

/-- What is loaded are the records at the head of the line. -/
theorem mem_due_iff (h : store.Sound n) (hs : s ∈ store.records) :
    s ∈ (store.due now limit).1 ↔ s.id.text ∈ (store.line now).take limit := by
  cases store with
  | memory table =>
    show s ∈ table.due now limit ↔ _
    rw [line, ← List.map_take]
    constructor
    · intro hmem
      exact List.mem_map_of_mem hmem
    · intro hmem
      obtain ⟨s', hs', htext⟩ := List.mem_map.mp hmem
      have htable : s' ∈ table :=
        (List.mem_filter.mp (List.mem_mergeSort.mp (List.mem_of_mem_take hs'))).1
      have heq := Suspension.eq_of_id_eq h.distinct.ids htable hs (Identifier.text_injective htext)
      exact heq ▸ hs'
  | rows r =>
    show s ∈ (r.due now limit).1 ↔ _
    rw [line, ← List.map_take]
    constructor
    · intro hmem
      obtain ⟨row, hrow, hread⟩ := List.mem_filterMap.mp hmem
      have hrows : row ∈ r :=
        (List.mem_filter.mp (List.mem_mergeSort.mp (List.mem_of_mem_take hrow))).1
      exact List.mem_map.mpr ⟨row, hrow, h.tidy row hrows s hread⟩
    · intro hmem
      obtain ⟨row', hrow', htext⟩ := List.mem_map.mp hmem
      obtain ⟨row, hrow, hread⟩ := List.mem_filterMap.mp hs
      have hrows : row' ∈ r :=
        (List.mem_filter.mp (List.mem_mergeSort.mp (List.mem_of_mem_take hrow'))).1
      have heq : row' = row := List.inj_on_of_nodup_map h.distinct.keys hrows hrow
        (htext.trans (h.tidy row hrow s hread).symm)
      exact List.mem_filterMap.mpr ⟨row', hrow', heq ▸ hread⟩

/-- What is deleted leaves the line, and the others stay in their order. -/
theorem line_delete (store : SuspensionStore) (id : Identifier) (now : Instant) :
    (store.delete id).2.line now = (store.line now).filter (· != id.text) := by
  cases store with
  | memory table =>
    -- records are told apart by their ids, and the line by the texts of these
    have hkey : (fun (s : Suspension) => s.id != id) =
        (· != id.text) ∘ fun (s : Suspension) => s.id.text := by
      funext s
      have htext : s.id = id ↔ s.id.text = id.text :=
        ⟨congrArg _, fun h => Identifier.text_injective h⟩
      rw [Function.comp_apply, bne, bne, Bool.not_inj_iff, Bool.eq_iff_iff, beq_iff_eq,
        beq_iff_eq, htext]
    show ((((table.filter (·.id != id)).filter (·.isDue now)).mergeSort
        SuspensionTable.earlier).map _) = _
    rw [line, List.filter_map, ← hkey, List.filter_comm, SuspensionTable.mergeSort_filter]
  | rows r =>
    show ((((r.filter (·.id != id.text)).filter (·.resumeAt ≤ now.toMillis)).mergeSort
      SuspensionRow.earlier).map _) = _
    rw [line, List.filter_map, List.filter_comm, SuspensionRow.mergeSort_filter]
    rfl

/-- Behind loading what was loaded is at the head of the line; what cannot be read has left it. -/
theorem line_due (h : store.Sound n) :
    (store.due now limit).2.line now =
      (store.due now limit).1.map (·.id.text) ++ (store.line now).drop limit := by
  cases store with
  | memory table =>
    show line now (memory table) = (table.due now limit).map _ ++ _
    rw [line, SuspensionTable.due, ← List.map_drop, ← List.map_append, List.take_append_drop]
  | rows r =>
    let sorted := (r.filter (·.resumeAt ≤ now.toMillis)).mergeSort SuspensionRow.earlier
    have hpurged := SuspensionRow.filter_purged (line_nodup h.distinct now) limit
    have hread : ((sorted.take limit).filterMap (·.toSuspension?)).map (·.id.text) =
        ((sorted.take limit).filter (·.toSuspension?.isSome)).map (·.id) := by
      apply map_filterMap_eq
      intro row hrow s hread
      have hrows : row ∈ r :=
        (List.mem_filter.mp (List.mem_mergeSort.mp (List.mem_of_mem_take hrow))).1
      exact (h.tidy row hrows s hread).symm
    show ((((r.filter fun row =>
        !((sorted.take limit).filter (·.toSuspension?.isNone)).any (·.id == row.id)).filter
      (·.resumeAt ≤ now.toMillis)).mergeSort SuspensionRow.earlier).map _) =
        ((sorted.take limit).filterMap (·.toSuspension?)).map _ ++ (sorted.map _).drop limit
    rw [List.filter_comm, SuspensionRow.mergeSort_filter, hread, ← List.map_drop, ← List.map_append]
    exact congrArg _ hpurged

end SuspensionStore

end ChatFlow
