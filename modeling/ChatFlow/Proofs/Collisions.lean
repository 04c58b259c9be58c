import ChatFlow.Proofs.Visits
import ChatFlow.Run.Dispatch

namespace ChatFlow

/-- The first bot's name ends before a colon of the second one's, and what follows there is taken
for the beginning of the conversation's. -/
def Straddles (botId conversationId botId' conversationId' : String) : Prop :=
  ∃ s, botId' = botId ++ ":" ++ s ∧ conversationId = s ++ ":" ++ conversationId'

variable {botId conversationId botId' conversationId' : String}

theorem toList_lockKey (botId conversationId : String) :
    (lockKey botId conversationId).toList = botId.toList ++ ':' :: conversationId.toList := by
  simp [lockKey]

theorem Straddles.lockKey_eq (h : Straddles botId conversationId botId' conversationId') :
    lockKey botId conversationId = lockKey botId' conversationId' := by
  obtain ⟨s, rfl, rfl⟩ := h
  simp only [lockKey, String.append_assoc]

/-- Where one name is at least as long as the other, the rest of it begins with the colon behind the
other. -/
theorem straddles_of_append {s : List Char} (hbot : botId'.toList = botId.toList ++ s)
    (hrest : ':' :: conversationId.toList = s ++ ':' :: conversationId'.toList) :
    (botId = botId' ∧ conversationId = conversationId') ∨
      Straddles botId conversationId botId' conversationId' := by
  cases s with
  | nil =>
    rw [List.append_nil] at hbot
    exact .inl
      ⟨(String.toList_injective hbot).symm, String.toList_injective (List.cons.inj hrest).2⟩
  | cons c s =>
    obtain rfl := (List.cons.inj hrest).1
    refine .inr ⟨String.ofList s, String.toList_injective ?_, String.toList_injective ?_⟩
    · simp [hbot]
    · simpa using hrest

theorem lockKey_eq_iff : lockKey botId conversationId = lockKey botId' conversationId' ↔
    (botId = botId' ∧ conversationId = conversationId') ∨
      Straddles botId conversationId botId' conversationId' ∨
      Straddles botId' conversationId' botId conversationId := by
  constructor
  · intro h
    have htoList := congrArg String.toList h
    rw [toList_lockKey, toList_lockKey, List.append_eq_append_iff] at htoList
    -- one bot's name is the beginning of the other's
    rcases htoList with ⟨s, hbot, hrest⟩ | ⟨s, hbot, hrest⟩
    · exact (straddles_of_append hbot hrest).imp_right .inl
    · exact (straddles_of_append hbot hrest).imp (fun h => ⟨h.1.symm, h.2.symm⟩) .inr
  · rintro (⟨rfl, rfl⟩ | h | h)
    · rfl
    · exact h.lockKey_eq
    · exact h.lockKey_eq.symm

/-- As long as bots' names have no colon, different conversations have different keys. -/
theorem lockKey_inj_of_not_mem (hbot : ':' ∉ botId.toList) (hbot' : ':' ∉ botId'.toList)
    (h : lockKey botId conversationId = lockKey botId' conversationId') :
    botId = botId' ∧ conversationId = conversationId' := by
  rcases lockKey_eq_iff.mp h with heq | ⟨s, rfl, -⟩ | ⟨s, rfl, -⟩
  · exact heq
  · simp at hbot'
  · simp at hbot

/-- What is done under a lock does not come about just where the lock has to be waited for. -/
theorem World.attempt_locked_eq_none_iff {α : Type} {w w₁ : World} {body : Activity α} {a : α}
    (h : (w.hold (lockKey botId conversationId)).Runs body a w₁) :
    (w.attempt (Activity.locked botId conversationId body)).1 = none ↔
      ¬ (w.hold (lockKey botId conversationId)).locks.holds
        (w.ticket (lockKey botId conversationId)) = true := by
  constructor
  · intro hnone hholds
    rw [attempt, show perform _ w = _ from runs_locked_of_holds hholds h] at hnone
    cases hnone
  · intro hholds
    obtain ⟨rest, hwaiting⟩ := perform_locked_of_not_holds hholds body
    rw [attempt, hwaiting]

namespace Visitor

variable {crowd : Crowd Visitor}

/-- To have the mutex: already at hand, or as the first of those who wait. -/
def hasLock (locks : LockTable) (v : Visitor) : Bool :=
  match v.stage with
  | .holding _ => true
  | .waiting t => locks.holds t
  | .asking | .parting _ | .gone => false

theorem Attended.hasLock_iff (h : Attended crowd) {i : Nat} {v : Visitor}
    (hv : crowd.places[i]? = some v) :
    v.hasLock crowd.world.locks = true ↔ ∃ t, v.ticket? = some t ∧
      crowd.world.locks.holds t = true := by
  constructor
  · intro hlock
    cases hstage : v.stage with
    | holding t =>
      exact ⟨t, ticket?_of_holding hstage, h.guarded.holds hv (claim_of_holding hstage)⟩
    | waiting t =>
      rw [hasLock, hstage] at hlock
      exact ⟨t, ticket?_of_waiting hstage, hlock⟩
    | _ =>
      rw [hasLock, hstage] at hlock
      cases hlock
  · rintro ⟨t, ht, hholds⟩
    rcases stage_of_ticket? ht with hstage | hstage <;> rw [hasLock, hstage]
    exact hholds

theorem Attended.exists_hasLock (h : Attended crowd) {t : Ticket}
    (hholds : crowd.world.locks.holds t = true) :
    ∃ (j : Nat) (v : Visitor), crowd.places[j]? = some v ∧ v.ticket? = some t ∧
      v.hasLock crowd.world.locks = true := by
  obtain ⟨j, v, hv, ht⟩ := h.covered (h.sound.mem_referring_of_holds hholds)
  exact ⟨j, v, hv, ht, (h.hasLock_iff hv).mpr ⟨t, ht, hholds⟩⟩

/-- Who waits is kept waiting by just the other one who has the mutex of the key. -/
theorem Attended.keeps_waiting_iff (h : Attended crowd) {i : Nat} {v : Visitor} {t : Ticket}
    (hv : crowd.places[i]? = some v) (ht : v.ticket? = some t) :
    ¬ (crowd.world.locks.enqueue t).holds t = true ↔
      ∃ (j : Nat) (v' : Visitor), crowd.places[j]? = some v' ∧ j ≠ i ∧
        v'.hasLock crowd.world.locks = true ∧
        v'.key = v.key := by
  rw [LockTable.not_holds_enqueue_iff]
  constructor
  · rintro ⟨t', hne, hmutex, hholds⟩
    obtain ⟨j, v', hv', ht', hlock⟩ := h.exists_hasLock hholds
    -- no two keys have one mutex
    refine ⟨j, v', hv', ?_, hlock, h.sound.apart (h.entry hv' ht') (hmutex ▸ h.entry hv ht)⟩
    rintro rfl
    rw [hv] at hv'
    cases hv'
    exact hne (Option.some.inj (ht'.symm.trans ht))
  · rintro ⟨j, v', hv', hj, hlock, hkey⟩
    obtain ⟨t', ht', hholds⟩ := (h.hasLock_iff hv').mp hlock
    refine ⟨t', ?_, ?_, hholds⟩
    · rintro rfl
      exact hj (h.guarded.alone hv' hv ht' ht)
    · have hmutex := h.entry hv' ht'
      rw [hkey, h.entry hv ht] at hmutex
      exact (Option.some.inj hmutex).symm

/-- Who comes has to wait for just the one who has the mutex of the key. -/
theorem Attended.has_to_wait_iff (h : Attended crowd) (key : String) :
    ¬ (crowd.world.hold key).locks.holds (crowd.world.ticket key) = true ↔
      ∃ v ∈ crowd.places, v.hasLock crowd.world.locks = true ∧ v.key = key := by
  show ¬ ((crowd.world.locks.take key).2.enqueue _).holds (crowd.world.locks.take key).1 = true ↔ _
  rw [LockTable.not_holds_enqueue_iff]
  constructor
  · rintro ⟨t', -, hmutex, hholds⟩
    rw [LockTable.holds_take] at hholds
    obtain ⟨j, v, hv, ht', hlock⟩ := h.exists_hasLock hholds
    refine ⟨v, List.mem_of_getElem? hv, hlock, ?_⟩
    by_contra hkey
    exact h.sound.ne_of_get? (h.entry hv ht') hkey hmutex
  · rintro ⟨v, hv, hlock, rfl⟩
    obtain ⟨j, hv⟩ := List.mem_iff_getElem?.mp hv
    obtain ⟨t', ht', hholds⟩ := (h.hasLock_iff hv).mp hlock
    refine ⟨t', ?_, ?_, (LockTable.holds_take _ _ _).trans hholds⟩
    · rintro rfl
      exact LockTable.not_backs_take _ _ (h.guarded.backs hv ht')
    · have hmutex := LockTable.get?_take (h.entry hv ht') v.key
      rw [LockTable.get?_take_self] at hmutex
      exact (Option.some.inj hmutex).symm

/-- To be at the lock of the bot's conversation, or of one whose key is the same by a colon in a
name. -/
def Meets (v : Visitor) (botId conversationId : String) : Prop :=
  (v.botId = botId ∧ v.conversationId = conversationId) ∨
    Straddles v.botId v.conversationId botId conversationId ∨
      Straddles botId conversationId v.botId v.conversationId

theorem meets_iff {v : Visitor} : v.Meets botId conversationId ↔
    v.key = lockKey botId conversationId :=
  lockKey_eq_iff.symm

/-- At any time, somebody who waits for a lock goes on waiting exactly if another one has the mutex
of the same conversation or of one with which it shares the key. Just so, whatever would come to its
end under a lock does not begin if it comes at that time. -/
theorem waits_iff_meets (w : World) (conversations : List (String × String)) (events : List Event) :
    let crowd := after (arrivals w conversations) events
    let locks := crowd.world.locks
    (∀ (i : Nat) (v : Visitor) (t : Ticket), crowd.places[i]? = some v → v.stage = .waiting t →
      ((crowd.world.answer (.await t)).1 = none ↔
        ∃ (j : Nat) (v' : Visitor), crowd.places[j]? = some v' ∧ j ≠ i ∧
        v'.hasLock locks = true ∧ v'.Meets v.botId v.conversationId)) ∧
    ∀ (α : Type) (botId conversationId : String) (body : Activity α) (a : α) (w₁ : World),
      (crowd.world.hold (lockKey botId conversationId)).Runs body a w₁ →
        ((crowd.world.attempt (Activity.locked botId conversationId body)).1 = none ↔
          ∃ v ∈ crowd.places, v.hasLock locks = true ∧ v.Meets botId conversationId) := by
  intro crowd locks
  have h : Attended crowd := attended_after w conversations events
  constructor
  · intro i v t hv hstage
    have hwaits : (crowd.world.answer (.await t)).1 = none ↔
        ¬ (locks.enqueue t).holds t = true := by
      rw [answer_await]
      simp [locks]
    rw [hwaits, h.keeps_waiting_iff hv (ticket?_of_waiting hstage)]
    simp only [meets_iff, key, locks]
  · intro α botId conversationId body a w₁ hbody
    rw [World.attempt_locked_eq_none_iff hbody, h.has_to_wait_iff]
    simp only [meets_iff, locks]

/-- A bot with a colon in its name holds the lock of a conversation, and another bot has one with a
colon. -/
def strangers : Crowd Visitor :=
  after
    (arrivals (.start ⟨1893488400, 0⟩ (.memory []) (.memory []) ⟨1⟩) [("a:b", "c"), ("a", "b:c")])
    [.turn 0, .turn 0, .turn 1]

theorem waits_iff_meets_strangers : (strangers.world.answer (.await ⟨2, "a:b:c", 0⟩)).1 = none := by
  have hsecond : strangers.places[1]? = some ⟨"a", "b:c", .waiting ⟨2, "a:b:c", 0⟩⟩ := by
    decide +kernel
  have hfirst : strangers.places[0]? = some ⟨"a:b", "c", .holding ⟨1, "a:b:c", 0⟩⟩ := by
    decide +kernel
  refine ((waits_iff_meets _ [("a:b", "c"), ("a", "b:c")] [.turn 0, .turn 0, .turn 1]).1 1 _ _
    hsecond rfl).mpr ?_
  exact ⟨0, _, hfirst, nofun, rfl, .inr (.inr ⟨"b", rfl, rfl⟩)⟩

/-- Who holds the only lock is at another bot's other conversation, and still nothing can be
cancelled. -/
theorem strangers_block_cancel :
    (strangers.world.attempt (Dispatch.cancel "a" "b:c")).1.isNone = true ∧
      ∀ v ∈ strangers.places, v.hasLock strangers.world.locks = true →
        v.botId ≠ "a" ∧ v.conversationId ≠ "b:c" := by
  decide +kernel

end Visitor

end ChatFlow
