import ChatFlow.Proofs.Interleaving
import ChatFlow.Proofs.Pausing

namespace ChatFlow

def Call.onLocks : Call → LockTable → LockTable
  | .takeTicket key, locks => (locks.take key).2
  | .await t, locks => locks.enqueue t
  | .leave t, locks => locks.leave t
  | .forget key, locks => locks.forget key
  | _, locks => locks

theorem World.locks_answer (w : World) (c : Call) : (w.answer c).2.locks = c.onLocks w.locks := by
  cases c with
  | send request => exact (talked_send w request).locks
  | _ => first | rfl | exact serve_snd_of_forall (R := fun w' => w'.locks = w.locks) rfl rfl

namespace LockTable

variable {locks : LockTable} {t t' : Ticket}

/-- The table knows a ticket: it counts for the mutex of its key, and its number is not given
again. -/
structure Backs (locks : LockTable) (t : Ticket) : Prop where
  mem : t ∈ locks.referring
  entry : Keyed.get? t.key locks.entries = some t.mutex
  number : t.number < locks.next

theorem key_take (locks : LockTable) (key : String) : (locks.take key).1.key = key := by
  unfold take
  split <;> rfl

theorem backs_take_self (locks : LockTable) (key : String) :
    (locks.take key).2.Backs (locks.take key).1 := by
  unfold take
  split
  · next mutex hmutex => exact ⟨by simp, hmutex, Nat.lt_succ_self _⟩
  · exact ⟨by simp, Keyed.get?_insert_self _ _ _, Nat.lt_succ_self _⟩

theorem not_backs_take (locks : LockTable) (key : String) : ¬ locks.Backs (locks.take key).1 := by
  intro h
  have hnumber := h.number
  unfold take at hnumber
  split at hnumber <;> dsimp only at hnumber <;> omega

theorem Backs.take (h : locks.Backs t) (key : String) : (locks.take key).2.Backs t := by
  obtain ⟨hmem, hentry, hnumber⟩ := h
  unfold LockTable.take
  split
  · exact ⟨List.mem_append_left _ hmem, hentry, Nat.lt_succ_of_lt hnumber⟩
  · next hnone =>
    have hne : t.key ≠ key := by
      rintro rfl
      rw [hnone] at hentry
      cases hentry
    exact ⟨List.mem_append_left _ hmem, (Keyed.get?_insert_of_ne hne _ _).trans hentry,
      Nat.lt_succ_of_lt (Nat.lt_succ_of_lt hnumber)⟩

theorem Backs.enqueue (h : locks.Backs t) (t' : Ticket) : (locks.enqueue t').Backs t := by
  unfold LockTable.enqueue
  split
  · exact h
  · exact ⟨h.mem, h.entry, h.number⟩

theorem Backs.leave (h : locks.Backs t) (hne : t ≠ t') : (locks.leave t').Backs t :=
  ⟨(List.mem_erase_of_ne hne).mpr h.mem, h.entry, h.number⟩

theorem Backs.forget (h : locks.Backs t) (key : String) : (locks.forget key).Backs t := by
  unfold LockTable.forget
  split
  · next mutex hmutex =>
    split
    · exact h
    · next hunused =>
      have hne : t.key ≠ key := by
        rintro rfl
        -- the ticket itself counts for the mutex, so it is not unused
        rw [h.entry] at hmutex
        cases hmutex
        exact hunused (List.any_eq_true.mpr ⟨t, h.mem, beq_self_eq_true _⟩)
      exact ⟨h.mem, (Keyed.get?_erase_of_ne hne _).trans h.entry, h.number⟩
  · exact h

theorem Backs.onLocks (h : locks.Backs t) {c : Call} (hc : c ≠ .leave t) :
    (c.onLocks locks).Backs t := by
  cases c with
  | takeTicket key => exact h.take key
  | await t' => exact h.enqueue t'
  | leave t' => exact h.leave fun heq => hc (by rw [heq])
  | forget key => exact h.forget key
  | _ => exact h

theorem holds_iff : locks.holds t = true ↔ locks.queue.find? (·.mutex == t.mutex) = some t :=
  beq_iff_eq

theorem find?_erase {α : Type} [BEq α] [LawfulBEq α] {p : α → Bool} {l : List α} {a b : α}
    (h : l.find? p = some a) (hne : b ≠ a) : (l.erase b).find? p = some a := by
  induction l with
  | nil => cases h
  | cons x rest ih =>
    by_cases hx : p x = true
    · rw [List.find?_cons_of_pos hx] at h
      cases h
      rw [List.erase_cons_tail (by simpa using Ne.symm hne), List.find?_cons_of_pos hx]
    · rw [List.find?_cons_of_neg hx] at h
      by_cases hxb : x = b
      · rw [hxb, List.erase_cons_head]
        exact h
      · rw [List.erase_cons_tail (by simpa using hxb), List.find?_cons_of_neg hx]
        exact ih h

theorem holds_onLocks (h : locks.holds t = true) {c : Call} (hc : c ≠ .leave t) :
    (c.onLocks locks).holds t = true := by
  rw [holds_iff] at *
  cases c with
  | takeTicket key => rwa [Call.onLocks, World.queue_take]
  | await t' =>
    show (locks.enqueue t').queue.find? _ = _
    unfold enqueue
    split
    · exact h
    · rw [List.find?_append, h, Option.some_or]
  | leave t' => exact find?_erase h fun heq => hc (by rw [heq])
  | forget key => rwa [Call.onLocks, World.queue_forget]
  | _ => exact h

theorem Backs.eq_of_holds (h : locks.Backs t) (h' : locks.Backs t') (hkey : t.key = t'.key)
    (hholds : locks.holds t = true) (hholds' : locks.holds t' = true) : t = t' := by
  have hmutex : t.mutex = t'.mutex := by
    have hentry := h.entry
    rw [hkey, h'.entry] at hentry
    exact (Option.some.inj hentry).symm
  rw [holds_iff] at hholds hholds'
  rw [hmutex, hholds'] at hholds
  exact (Option.some.inj hholds).symm

end LockTable

inductive Claim
  | none
  | waiting (t : Ticket)
  | holding (t : Ticket)

def Call.IsClaim : Call → Prop
  | .takeTicket _ | .await _ | .leave _ => True
  | _ => False

namespace Claim

def ticket? : Claim → Option Ticket
  | none => .none
  | waiting t | holding t => some t

/-- What an activity has of a lock before and behind an answer. It has one lock at a time, waits for
it, and gives it up itself. -/
inductive Leads : Claim → (c : Call) → c.Answer → Claim → Prop
  | take (key : String) (t : Ticket) : Leads none (.takeTicket key) t (waiting t)
  | grant (t : Ticket) : Leads (waiting t) (.await t) () (holding t)
  | leave (t : Ticket) : Leads (holding t) (.leave t) () none
  | stay {claim : Claim} {c : Call} {answer : c.Answer} (hc : ¬ c.IsClaim) :
    Leads claim c answer claim

variable {claim claim' : Claim} {c : Call} {answer : c.Answer} {w : World} {t : Ticket}

theorem Leads.ticket?_of_leave {answer : Unit} (h : claim.Leads (.leave t) answer claim') :
    claim.ticket? = some t := by
  cases h with
  | leave t => rfl
  | stay hc => exact absurd trivial hc

/-- A ticket is known, and nobody had it before it was given. -/
theorem Leads.backs (h : claim.Leads c answer claim') (hanswer : (w.answer c).1 = some answer)
    (hbacks : ∀ t, claim.ticket? = some t → w.locks.Backs t) (ht : claim'.ticket? = some t) :
    (w.answer c).2.locks.Backs t ∧ (claim.ticket? = some t ∨ ¬ w.locks.Backs t) := by
  rw [World.locks_answer]
  cases h with
  | take key t' =>
    cases ht
    cases hanswer
    exact ⟨w.locks.backs_take_self key, .inr (w.locks.not_backs_take key)⟩
  | grant t' => exact ⟨(hbacks t ht).onLocks nofun, .inl ht⟩
  | leave t' => cases ht
  | stay hc => exact ⟨(hbacks t ht).onLocks fun heq => hc (heq ▸ trivial), .inl ht⟩

theorem Leads.holds (h : claim.Leads c answer claim') (hanswer : (w.answer c).1 = some answer)
    (hholds : ∀ t, claim = .holding t → w.locks.holds t = true) (ht : claim' = .holding t) :
    (w.answer c).2.locks.holds t = true := by
  cases h with
  | take key t' => cases ht
  | grant t' =>
    cases ht
    simpa [World.answer] using hanswer
  | leave t' => cases ht
  | stay hc =>
    rw [World.locks_answer]
    exact LockTable.holds_onLocks (hholds t ht) fun heq => hc (heq ▸ trivial)

end Claim

namespace Crowd

variable {σ α : Type} {view : σ → Move σ α} {crowd : Crowd σ} {claim : σ → Claim}
    {inside : σ → Bool}

/-- The table knows all tickets, those who take it that they have a lock have it, and no ticket is
had twice. -/
structure Guarded (claim : σ → Claim) (crowd : Crowd σ) : Prop where
  backs : ∀ {i : Nat} {s t}, crowd.places[i]? = some s → (claim s).ticket? = some t →
    crowd.world.locks.Backs t
  holds : ∀ {i : Nat} {s t}, crowd.places[i]? = some s → claim s = .holding t →
    crowd.world.locks.holds t = true
  alone : ∀ {i j : Nat} {s s' t}, crowd.places[i]? = some s → crowd.places[j]? = some s' →
    (claim s).ticket? = some t →
    (claim s').ticket? = some t → i = j

theorem guarded_of_none (h : ∀ s ∈ crowd.places, claim s = .none) : Guarded claim crowd := by
  constructor
  · intro i s t hs ht
    rw [h s (List.mem_of_getElem? hs)] at ht
    cases ht
  · intro i s t hs ht
    rw [h s (List.mem_of_getElem? hs)] at ht
    cases ht
  · intro i j s s' t hs _ ht _
    rw [h s (List.mem_of_getElem? hs)] at ht
    cases ht

theorem Guarded.wait (h : Guarded claim crowd) {c : Call} (hc : ∀ t, c ≠ .leave t) :
    Guarded claim ⟨(crowd.world.answer c).2, crowd.places⟩ := by
  refine ⟨fun hs ht => ?_, fun hs ht => ?_, h.alone⟩
  · rw [World.locks_answer]
    exact (h.backs hs ht).onLocks (hc _)
  · rw [World.locks_answer]
    exact LockTable.holds_onLocks (h.holds hs ht) (hc _)

theorem Guarded.go (h : Guarded claim crowd) {i : Nat} {s s₁ : σ} {c : Call} {answer : c.Answer}
    (hplace : crowd.places[i]? = some s) (hleads : (claim s).Leads c answer (claim s₁))
    (hanswer : (crowd.world.answer c).1 = some answer) :
    Guarded claim ⟨(crowd.world.answer c).2, crowd.places.set i s₁⟩ := by
  have hmover : ∀ {t}, (claim s₁).ticket? = some t →
      (crowd.world.answer c).2.locks.Backs t ∧
        ((claim s).ticket? = some t ∨ ¬ crowd.world.locks.Backs t) :=
    fun ht => hleads.backs hanswer (fun t => h.backs hplace) ht
  -- who does not move keeps the ticket: only its owner gives it up
  have hother : ∀ {j : Nat} {s' t}, j ≠ i → crowd.places[j]? = some s' →
      (claim s').ticket? = some t → c ≠ .leave t := by
    rintro j s' t hj hs' ht rfl
    exact hj (h.alone hs' hplace ht hleads.ticket?_of_leave)
  -- a ticket of the one that moved is its own from before, or was known to nobody
  have hmoved : ∀ {j : Nat} {s' t}, j ≠ i → crowd.places[j]? = some s' →
      (claim s₁).ticket? = some t → (claim s').ticket? = some t → False := by
    intro j s' t hj hs' ht ht'
    rcases (hmover ht).2 with hold | hnew
    · exact hj (h.alone hs' hplace ht' hold)
    · exact hnew (h.backs hs' ht')
  constructor
  · intro j s' t hs' ht
    rcases getElem?_set_cases hs' with ⟨-, rfl⟩ | ⟨hj, hs'⟩
    · exact (hmover ht).1
    · rw [World.locks_answer]
      exact (h.backs hs' ht).onLocks (hother hj hs' ht)
  · intro j s' t hs' ht
    rcases getElem?_set_cases hs' with ⟨-, rfl⟩ | ⟨hj, hs'⟩
    · exact hleads.holds hanswer (fun t => h.holds hplace) ht
    · rw [World.locks_answer]
      exact LockTable.holds_onLocks (h.holds hs' ht) (hother hj hs' (by rw [ht]; rfl))
  · intro j k s₁ s₂ t hs₁ hs₂ ht₁ ht₂
    rcases getElem?_set_cases hs₁ with ⟨rfl, rfl⟩ | ⟨hj, hj₁⟩ <;>
      rcases getElem?_set_cases hs₂ with ⟨rfl, rfl⟩ | ⟨hk, hk₂⟩
    · rfl
    · exact (hmoved hk hk₂ ht₁ ht₂).elim
    · exact (hmoved hj hj₁ ht₂ ht₁).elim
    · exact h.alone hj₁ hk₂ ht₁ ht₂

theorem Guarded.step (hlawful : ∀ s ∈ crowd.places, ∀ c next, view s = .ask c next →
      ∀ answer, (claim s).Leads c answer (claim (next answer)))
    (h : Guarded claim crowd) (e : Event) : Guarded claim (crowd.step view e) := by
  have hstep := stepped_step view crowd e
  generalize crowd.step view e = crowd' at hstep ⊢
  cases hstep with
  | idle i => exact h
  | clock t => exact ⟨h.backs, h.holds, h.alone⟩
  | @wait i s c next hplace hview hanswer =>
    refine h.wait ?_
    rintro t rfl
    cases hanswer
  | @go i s c next answer hplace hview hanswer =>
    exact h.go hplace (hlawful s (List.mem_of_getElem? hplace) c next hview answer) hanswer

theorem Guarded.exclusive (h : Guarded claim crowd) {i j : Nat} {s s' : σ} {t t' : Ticket}
    (hs : crowd.places[i]? = some s) (hs' : crowd.places[j]? = some s') (ht : claim s = .holding t)
    (ht' : claim s' = .holding t') (hkey : t.key = t'.key) : i = j := by
  have hticket : (claim s).ticket? = some t := by rw [ht]; rfl
  have hticket' : (claim s').ticket? = some t' := by rw [ht']; rfl
  have heq : t = t' :=
    (h.backs hs hticket).eq_of_holds (h.backs hs' hticket') hkey (h.holds hs ht) (h.holds hs' ht')
  exact h.alone hs hs' hticket (heq ▸ hticket')

end Crowd

/-- Whether an activity is behind the gate, before and behind an answer. -/
inductive Passes : Bool → (c : Call) → c.Answer → Bool → Prop
  | enter : Passes false .tryGate true true
  | refused : Passes false .tryGate false false
  | leave : Passes true .leaveGate () false
  | stay {inside : Bool} {c : Call} {answer : c.Answer} (htry : c ≠ .tryGate)
    (hleave : c ≠ .leaveGate) :
      Passes inside c answer inside

/-- What only talks does not pass the gate and changes nothing of a lock. -/
theorem Call.IsTalk.not_isClaim {c : Call} (h : c.IsTalk) : ¬ c.IsClaim ∧ c ≠ .tryGate ∧
    c ≠ .leaveGate := by
  cases c <;> first | exact h.elim | exact ⟨id, nofun, nofun⟩

theorem World.sweeping_answer (w : World) {c : Call} (htry : c ≠ .tryGate)
    (hleave : c ≠ .leaveGate) :
    (w.answer c).2.sweeping = w.sweeping := by
  cases c with
  | send request => exact (talked_send w request).sweeping
  | tryGate => exact absurd rfl htry
  | leaveGate => exact absurd rfl hleave
  | _ => first | rfl | exact serve_snd_of_forall (R := fun w' => w'.sweeping = w.sweeping) rfl rfl

namespace Passes

variable {before behind : Bool} {c : Call} {answer : c.Answer} {w : World}

theorem of_behind (h : Passes before c answer behind) (hanswer : (w.answer c).1 = some answer)
    (hsweeping : before = true → w.sweeping = true) (hbehind : behind = true) :
    (w.answer c).2.sweeping = true ∧ (before = true ∨ w.sweeping = false) := by
  cases h with
  | enter => exact ⟨rfl, .inr (by simpa [World.answer] using hanswer)⟩
  | refused => cases hbehind
  | leave => cases hbehind
  | stay htry hleave =>
    exact ⟨(w.sweeping_answer htry hleave).trans (hsweeping hbehind), .inl hbehind⟩

theorem sweeping (h : Passes false c answer behind) (hsweeping : w.sweeping = true) :
    (w.answer c).2.sweeping = true := by
  cases h with
  | enter => rfl
  | refused => rfl
  | stay htry hleave => exact (w.sweeping_answer htry hleave).trans hsweeping

end Passes

namespace Crowd

variable {σ α : Type} {view : σ → Move σ α} {crowd : Crowd σ} {inside : σ → Bool}

/-- One activity at most is behind the gate, and the gate knows. -/
structure Gated (inside : σ → Bool) (crowd : Crowd σ) : Prop where
  sweeping : ∀ {i : Nat} {s}, crowd.places[i]? = some s → inside s = true →
    crowd.world.sweeping = true
  alone : ∀ {i j : Nat} {s s'}, crowd.places[i]? = some s → crowd.places[j]? = some s' →
    inside s = true →
    inside s' = true → i = j

theorem gated_of_outside (h : ∀ s ∈ crowd.places, inside s = false) : Gated inside crowd := by
  constructor
  · intro i s hs hin
    rw [h s (List.mem_of_getElem? hs)] at hin
    cases hin
  · intro i j s s' hs _ hin
    rw [h s (List.mem_of_getElem? hs)] at hin
    cases hin

theorem Gated.step (hlawful : ∀ s ∈ crowd.places, ∀ c next, view s = .ask c next →
      ∀ answer, Passes (inside s) c answer (inside (next answer)))
    (h : Gated inside crowd) (e : Event) : Gated inside (crowd.step view e) := by
  have hstep := stepped_step view crowd e
  generalize crowd.step view e = crowd' at hstep ⊢
  cases hstep with
  | idle i => exact h
  | clock t => exact ⟨h.sweeping, h.alone⟩
  | @wait i s c next hplace hview hanswer =>
    refine ⟨fun hs hin => ?_, h.alone⟩
    rw [World.sweeping_answer]
    · exact h.sweeping hs hin
    · rintro rfl
      cases hanswer
    · rintro rfl
      cases hanswer
  | @go i s c next answer hplace hview hanswer =>
    have hpasses := hlawful s (List.mem_of_getElem? hplace) c next hview answer
    have hmover := hpasses.of_behind hanswer (h.sweeping hplace)
    constructor
    · intro j s' hs' hin
      rcases getElem?_set_cases hs' with ⟨-, rfl⟩ | ⟨hj, hs'⟩
      · exact (hmover hin).1
      · have hout : inside s = false := by
          by_contra hs
          exact hj (h.alone hs' hplace hin (by simpa using hs))
        rw [hout] at hpasses
        exact hpasses.sweeping (h.sweeping hs' hin)
    · have hmoved : ∀ {j : Nat} {s'}, j ≠ i → crowd.places[j]? = some s' →
          inside (next answer) = true →
          inside s' = true → False := by
        intro j s' hj hs' hin hin'
        rcases (hmover hin).2 with hs | hsweeping
        · exact hj (h.alone hs' hplace hin' hs)
        · rw [h.sweeping hs' hin'] at hsweeping
          cases hsweeping
      intro j k s₁ s₂ hs₁ hs₂ hin₁ hin₂
      rcases getElem?_set_cases hs₁ with ⟨rfl, rfl⟩ | ⟨hj, hj₁⟩ <;>
        rcases getElem?_set_cases hs₂ with ⟨rfl, rfl⟩ | ⟨hk, hk₂⟩
      · rfl
      · exact (hmoved hk hk₂ hin₁ hin₂).elim
      · exact (hmoved hj hj₁ hin₂ hin₁).elim
      · exact h.alone hj₁ hk₂ hin₁ hin₂

end Crowd

end ChatFlow
