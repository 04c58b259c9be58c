import ChatFlow.Proofs.Exclusion
import ChatFlow.Proofs.Restart

namespace ChatFlow.LockTable

variable {locks : LockTable} {t : Ticket} {key : String}

/-- What holds of a table all of whose tickets it gave itself. -/
structure Sound (locks : LockTable) : Prop where
  sorted : Keyed.Sorted locks.entries
  used : ∀ {key mutex}, Keyed.get? key locks.entries = some mutex → mutex < locks.next
  /-- no two keys have one mutex -/
  apart : ∀ {key key' mutex}, Keyed.get? key locks.entries = some mutex →
    Keyed.get? key' locks.entries = some mutex → key = key'
  backs : ∀ {t}, t ∈ locks.referring → locks.Backs t
  referring_nodup : locks.referring.Nodup
  queue_nodup : locks.queue.Nodup
  queue_subset : locks.queue ⊆ locks.referring

theorem sound_empty : empty.Sound where
  sorted := .nil
  used := nofun
  apart := nofun
  backs := nofun
  referring_nodup := .nil
  queue_nodup := .nil
  queue_subset := nofun

theorem referring_take (locks : LockTable) (key : String) :
    (locks.take key).2.referring = locks.referring ++ [(locks.take key).1] := by
  unfold take
  split <;> rfl

theorem get?_take_self (locks : LockTable) (key : String) :
    Keyed.get? key (locks.take key).2.entries = some (locks.take key).1.mutex := by
  have h := (locks.backs_take_self key).entry
  rwa [key_take] at h

theorem get?_take_of_ne {key' : String} (h : key' ≠ key) (locks : LockTable) :
    Keyed.get? key' (locks.take key).2.entries = Keyed.get? key' locks.entries := by
  unfold take
  split
  · rfl
  · exact Keyed.get?_insert_of_ne h _ _

theorem get?_take {key' : String} {mutex : Nat} (h : Keyed.get? key' locks.entries = some mutex)
    (key : String) :
    Keyed.get? key' (locks.take key).2.entries = some mutex := by
  by_cases hkey : key' = key
  · unfold take
    split
    · exact h
    · next hnone =>
      rw [hkey, hnone] at h
      cases h
  · exact (get?_take_of_ne hkey locks).trans h

theorem sorted_take (h : Keyed.Sorted locks.entries) (key : String) :
    Keyed.Sorted (locks.take key).2.entries := by
  unfold take
  split
  · exact h
  · exact Keyed.sorted_insert h _ _

theorem next_lt_take (locks : LockTable) (key : String) : locks.next < (locks.take key).2.next := by
  unfold take
  split
  · exact Nat.lt_succ_self _
  · exact Nat.lt_of_lt_of_le (Nat.lt_succ_self _) (Nat.le_succ _)

/-- The mutex of a new ticket is the one of its key, or nobody's yet. -/
theorem mutex_take (locks : LockTable) (key : String) :
    Keyed.get? key locks.entries = some (locks.take key).1.mutex ∨
      (locks.take key).1.mutex = locks.next := by
  unfold take
  split
  · next hmutex => exact .inl hmutex
  · exact .inr rfl

theorem Sound.ne_of_get? (h : locks.Sound) {key' : String} {mutex : Nat}
    (hmutex : Keyed.get? key' locks.entries = some mutex) (hne : key' ≠ key) :
    mutex ≠ (locks.take key).1.mutex := by
  rintro rfl
  rcases mutex_take locks key with hold | hnew
  · exact hne (h.apart hmutex hold)
  · exact Nat.lt_irrefl _ (hnew ▸ h.used hmutex)

theorem Sound.take (h : locks.Sound) (key : String) : (locks.take key).2.Sound where
  sorted := sorted_take h.sorted key
  used := by
    intro key' mutex hmutex
    by_cases hkey : key' = key
    · subst hkey
      rw [get?_take_self] at hmutex
      cases hmutex
      rcases mutex_take locks key' with hold | hnew
      · exact Nat.lt_trans (h.used hold) (next_lt_take locks key')
      · exact hnew ▸ next_lt_take locks key'
    · rw [get?_take_of_ne hkey] at hmutex
      exact Nat.lt_trans (h.used hmutex) (next_lt_take locks key)
  apart := by
    intro key₁ key₂ mutex h₁ h₂
    -- only the entry of the key that is asked for can be new
    by_cases hkey₁ : key₁ = key <;> by_cases hkey₂ : key₂ = key
    · rw [hkey₁, hkey₂]
    · rw [hkey₁, get?_take_self] at h₁
      rw [get?_take_of_ne hkey₂] at h₂
      exact absurd (Option.some.inj h₁).symm (h.ne_of_get? h₂ hkey₂)
    · rw [get?_take_of_ne hkey₁] at h₁
      rw [hkey₂, get?_take_self] at h₂
      exact absurd (Option.some.inj h₂).symm (h.ne_of_get? h₁ hkey₁)
    · rw [get?_take_of_ne hkey₁] at h₁
      rw [get?_take_of_ne hkey₂] at h₂
      exact h.apart h₁ h₂
  backs := by
    intro t ht
    rw [referring_take, List.mem_append, List.mem_singleton] at ht
    rcases ht with ht | rfl
    · exact (h.backs ht).take key
    · exact locks.backs_take_self key
  referring_nodup := by
    rw [referring_take]
    refine List.nodup_append.mpr ⟨h.referring_nodup, List.nodup_singleton _, fun t ht t' ht' => ?_⟩
    -- a ticket that was there has a number that was given away before
    rintro rfl
    exact locks.not_backs_take key (List.mem_singleton.mp ht' ▸ h.backs ht)
  queue_nodup := by
    rw [World.queue_take]
    exact h.queue_nodup
  queue_subset := by
    rw [World.queue_take, referring_take]
    exact fun t ht => List.mem_append_left _ (h.queue_subset ht)

theorem referring_enqueue (locks : LockTable) (t : Ticket) :
    (locks.enqueue t).referring = locks.referring := by
  unfold enqueue
  split <;> rfl

theorem entries_enqueue (locks : LockTable) (t : Ticket) :
    (locks.enqueue t).entries = locks.entries := by
  unfold enqueue
  split <;> rfl

theorem next_enqueue (locks : LockTable) (t : Ticket) : (locks.enqueue t).next = locks.next := by
  unfold enqueue
  split <;> rfl

theorem mem_queue_enqueue {t' : Ticket} : t' ∈ (locks.enqueue t).queue ↔ t' ∈ locks.queue ∨
    t' = t := by
  unfold enqueue
  split
  · next h =>
    rw [List.contains_iff_mem] at h
    exact ⟨.inl, fun ht' => ht'.elim id fun heq => heq ▸ h⟩
  · simp

theorem nodup_queue_enqueue (h : locks.queue.Nodup) (t : Ticket) :
    (locks.enqueue t).queue.Nodup := by
  unfold enqueue
  split
  · exact h
  · next hnew =>
    rw [List.contains_iff_mem] at hnew
    refine List.nodup_append.mpr ⟨h, List.nodup_singleton _, fun t₁ ht₁ t₂ ht₂ => ?_⟩
    rintro rfl
    exact hnew (List.mem_singleton.mp ht₂ ▸ ht₁)

theorem Sound.enqueue (h : locks.Sound) (ht : t ∈ locks.referring) : (locks.enqueue t).Sound where
  sorted := by
    rw [entries_enqueue]
    exact h.sorted
  used := by
    rw [entries_enqueue, next_enqueue]
    exact h.used
  apart := by
    rw [entries_enqueue]
    exact h.apart
  backs := by
    rw [referring_enqueue]
    exact fun ht' => (h.backs ht').enqueue t
  referring_nodup := by
    rw [referring_enqueue]
    exact h.referring_nodup
  queue_nodup := nodup_queue_enqueue h.queue_nodup t
  queue_subset := by
    rw [referring_enqueue]
    intro t' ht'
    rcases mem_queue_enqueue.mp ht' with ht' | rfl
    · exact h.queue_subset ht'
    · exact ht

theorem find?_queue_enqueue (locks : LockTable) (t : Ticket) :
    (locks.enqueue t).queue.find? (·.mutex == t.mutex) =
      some ((locks.queue.find? (·.mutex == t.mutex)).getD t) := by
  unfold enqueue
  split
  · next hmem =>
    cases hfirst : locks.queue.find? (·.mutex == t.mutex) with
    | none => exact absurd (beq_self_eq_true t.mutex) (List.find?_eq_none.mp hfirst t
      (List.contains_iff_mem.mp hmem))
    | some first => rfl
  · rw [List.find?_append]
    cases locks.queue.find? (·.mutex == t.mutex) with
    | none => simp
    | some first => rfl

/-- Who comes to a mutex waits exactly if somebody else holds it. -/
theorem not_holds_enqueue_iff :
    ¬ (locks.enqueue t).holds t = true ↔ ∃ t', t' ≠ t ∧ t'.mutex = t.mutex ∧
      locks.holds t' = true := by
  rw [holds_iff, find?_queue_enqueue, Option.some_inj]
  constructor
  · intro h
    cases hfirst : locks.queue.find? (·.mutex == t.mutex) with
    | none => exact absurd (by rw [hfirst]; rfl) h
    | some t' =>
      rw [hfirst, Option.getD_some] at h
      have hmutex : t'.mutex = t.mutex := by simpa using List.find?_some hfirst
      exact ⟨t', h, hmutex, holds_iff.mpr (hmutex ▸ hfirst)⟩
  · rintro ⟨t', hne, hmutex, hholds⟩
    rw [← hmutex, holds_iff.mp hholds, Option.getD_some]
    exact hne

theorem Sound.mem_referring_of_holds (h : locks.Sound) (hholds : locks.holds t = true) :
    t ∈ locks.referring :=
  h.queue_subset (List.mem_of_find?_eq_some (holds_iff.mp hholds))

theorem holds_take (locks : LockTable) (key : String) (t : Ticket) :
    (locks.take key).2.holds t = locks.holds t := by
  rw [holds, holds, World.queue_take]

theorem Sound.mem_referring_leave (h : locks.Sound) {t' : Ticket} :
    t' ∈ (locks.leave t).referring ↔ t' ≠ t ∧ t' ∈ locks.referring :=
  h.referring_nodup.mem_erase_iff

theorem Sound.leave (h : locks.Sound) (t : Ticket) : (locks.leave t).Sound where
  sorted := h.sorted
  used := h.used
  apart := h.apart
  backs := by
    intro t' ht'
    obtain ⟨hne, ht'⟩ := h.mem_referring_leave.mp ht'
    exact (h.backs ht').leave hne
  referring_nodup := h.referring_nodup.erase t
  queue_nodup := h.queue_nodup.erase t
  queue_subset := by
    intro t' ht'
    obtain ⟨hne, ht'⟩ := h.queue_nodup.mem_erase_iff.mp ht'
    exact h.mem_referring_leave.mpr ⟨hne, h.queue_subset ht'⟩

theorem referring_forget (locks : LockTable) (key : String) :
    (locks.forget key).referring = locks.referring := by
  unfold forget
  split
  · split <;> rfl
  · rfl

theorem next_forget (locks : LockTable) (key : String) : (locks.forget key).next = locks.next := by
  unfold forget
  split
  · split <;> rfl
  · rfl

theorem sorted_forget (h : Keyed.Sorted locks.entries) (key : String) :
    Keyed.Sorted (locks.forget key).entries := by
  unfold forget
  split
  · split
    · exact h
    · exact Keyed.sorted_erase h key
  · exact h

theorem get?_forget_of_ne {key' : String} (h : key' ≠ key) (locks : LockTable) :
    Keyed.get? key' (locks.forget key).entries = Keyed.get? key' locks.entries := by
  unfold forget
  split
  · split
    · rfl
    · exact Keyed.get?_erase_of_ne h _
  · rfl

/-- Either a ticket refers to the mutex of the key, and nothing happens, or the key has none from
then on. -/
theorem Sound.forget_cases (h : locks.Sound) (key : String) :
    (∃ t ∈ locks.referring, Keyed.get? key locks.entries = some t.mutex ∧
      locks.forget key = locks) ∨
      (∀ t ∈ locks.referring, Keyed.get? key locks.entries ≠ some t.mutex) ∧
        Keyed.get? key (locks.forget key).entries = none := by
  unfold forget
  split
  · next mutex hmutex =>
    split
    · next hany =>
      obtain ⟨t, ht, heq⟩ := List.any_eq_true.mp hany
      exact .inl ⟨t, ht, by rw [hmutex, beq_iff_eq.mp heq], rfl⟩
    · next hany =>
      refine .inr ⟨fun t ht heq => hany (List.any_eq_true.mpr ⟨t, ht, ?_⟩),
        Keyed.get?_erase_self h.sorted key⟩
      rw [hmutex] at heq
      exact beq_iff_eq.mpr (Option.some.inj heq).symm
  · next hnone =>
    refine .inr ⟨fun t _ heq => ?_, hnone⟩
    rw [hnone] at heq
    cases heq

theorem Sound.get?_of_forget (h : locks.Sound) {key' : String} {mutex : Nat}
    (hmutex : Keyed.get? key' (locks.forget key).entries = some mutex) :
    Keyed.get? key' locks.entries = some mutex := by
  by_cases hkey : key' = key
  · subst hkey
    rcases h.forget_cases key' with ⟨t, -, -, heq⟩ | ⟨-, hnone⟩
    · rwa [heq] at hmutex
    · rw [hnone] at hmutex
      cases hmutex
  · rwa [get?_forget_of_ne hkey] at hmutex

theorem Sound.forget (h : locks.Sound) (key : String) : (locks.forget key).Sound where
  sorted := sorted_forget h.sorted key
  used := by
    rw [next_forget]
    exact fun hmutex => h.used (h.get?_of_forget hmutex)
  apart := fun hmutex hmutex' => h.apart (h.get?_of_forget hmutex) (h.get?_of_forget hmutex')
  backs := by
    rw [referring_forget]
    exact fun ht => (h.backs ht).forget key
  referring_nodup := by
    rw [referring_forget]
    exact h.referring_nodup
  queue_nodup := by
    rw [World.queue_forget]
    exact h.queue_nodup
  queue_subset := by
    rw [World.queue_forget, referring_forget]
    exact h.queue_subset

end ChatFlow.LockTable
