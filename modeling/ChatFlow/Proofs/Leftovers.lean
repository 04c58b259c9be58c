import ChatFlow.Proofs.Visits

namespace ChatFlow

theorem Keyed.eq_nil_iff {α : Type} {entries : Keyed α} : entries = [] ↔
    ∀ key, get? key entries = none := by
  constructor
  · rintro rfl key
    rfl
  · intro h
    match entries with
    | [] => rfl
    | (key, value) :: rest =>
      have hfirst := h key
      rw [get?, if_pos rfl] at hfirst
      cases hfirst

namespace Visitor

variable {crowd : Crowd Visitor} {key : String}

/-- How somebody goes from a lock: having looked whether the table may forget it, or not. -/
inductive Leaving
  | settled
  | abandoned
  deriving DecidableEq

def Parts (key : String) (v : Visitor) : Prop := v.stage = .parting key

def WaitsAt (key : String) (v : Visitor) : Prop := ∃ t, v.stage = .waiting t ∧ t.key = key

instance (key : String) (v : Visitor) : Decidable (v.Parts key) :=
  inferInstanceAs (Decidable (_ = _))

instance (key : String) (v : Visitor) : Decidable (v.WaitsAt key) :=
  match h : v.stage with
  | .waiting t => decidable_of_iff (t.key = key) (by simp [WaitsAt, h])
  | .asking | .holding _ | .parting _ | .gone => .isFalse (by simp [WaitsAt, h])

def leaving? (key : String) (crowd : Crowd Visitor) : Event → Option Leaving
  | .turn i => if ∃ v ∈ crowd.places[i]?, v.Parts key then some .settled else none
  | .abandon i => if ∃ v ∈ crowd.places[i]?, v.WaitsAt key then some .abandoned else none

/-- How the last one went from the lock of the key; `last` tells it of the time before. -/
def lastLeaving? (key : String) (last : Option Leaving) (crowd : Crowd Visitor) :
    List Event → Option Leaving
  | [] => last
  | e :: events => lastLeaving? key ((leaving? key crowd e).or last) (step crowd e) events

def IsAway (v : Visitor) : Prop := v.stage = .asking ∨ v.stage = .gone

instance (v : Visitor) : Decidable v.IsAway := inferInstanceAs (Decidable (_ ∨ _))

/-- Why the table may have a mutex for the key: somebody refers to it or is to look whether the
table may forget it, or the last one to go had given up. -/
def Explained (key : String) (last : Option Leaving) (crowd : Crowd Visitor) : Prop :=
  (∃ t ∈ crowd.world.locks.referring, t.key = key) ∨ (∃ v ∈ crowd.places, v.Parts key) ∨
    last = some .abandoned

/-- If the table has a mutex for the key, that is explained, and if the last one to go had given up,
it has one. -/
structure Accounted (key : String) (last : Option Leaving) (crowd : Crowd Visitor) : Prop where
  attended : Attended crowd
  present : Keyed.get? key crowd.world.locks.entries ≠ none → Explained key last crowd
  absent : Keyed.get? key crowd.world.locks.entries = none → last ≠ some .abandoned

theorem accounted_arrivals (w : World) (conversations : List (String × String)) (key : String) :
    Accounted key none (arrivals w conversations) :=
  ⟨attended_arrivals w conversations, fun h => absurd rfl h, nofun⟩

/-- The explanation stands if the one that moves was not to look, and the tickets for the key
stay. -/
theorem Explained.mono {last : Option Leaving} {crowd' : Crowd Visitor}
    (h : Explained key last crowd) {i : Nat} {v v' : Visitor} (hv : crowd.places[i]? = some v)
    (hparts : ¬ v.Parts key) (hplaces : crowd'.places = crowd.places.set i v')
    (hreferring : ∀ t ∈ crowd.world.locks.referring, t.key = key →
      t ∈ crowd'.world.locks.referring) :
    Explained key last crowd' := by
  rcases h with ⟨t, ht, hkey⟩ | ⟨u, hu, hu'⟩ | hlast
  · exact .inl ⟨t, hreferring t ht hkey, hkey⟩
  · obtain ⟨j, hu⟩ := List.mem_iff_getElem?.mp hu
    have hj : i ≠ j := by
      rintro rfl
      rw [hv] at hu
      cases hu
      exact hparts hu'
    refine .inr (.inl ⟨u, List.mem_of_getElem? (i := j) ?_, hu'⟩)
    rw [hplaces, List.getElem?_set_ne hj]
    exact hu
  · exact .inr (.inr hlast)

theorem leaving?_turn {i : Nat} {v : Visitor} (hv : crowd.places[i]? = some v) :
    leaving? key crowd (.turn i) = if v.Parts key then some .settled else none := by
  simp [leaving?, hv]

theorem leaving?_abandon {i : Nat} {v : Visitor} (hv : crowd.places[i]? = some v) :
    leaving? key crowd (.abandon i) = if v.WaitsAt key then some .abandoned else none := by
  simp [leaving?, hv]

theorem not_parts {v : Visitor} {stage : Stage} (hstage : v.stage = stage)
    (hne : stage ≠ .parting key) :
    ¬ v.Parts key := fun hparts => hne (hstage.symm.trans hparts)

theorem leaving?_rest {i : Nat} (hgone : ∀ v ∈ crowd.places[i]?, v.stage = .gone) :
    leaving? key crowd (.turn i) = none := by
  refine if_neg ?_
  rintro ⟨v, hv, hparts⟩
  exact not_parts (hgone v hv) nofun hparts

theorem leaving?_keep {i : Nat} (hkeeps : ∀ v ∈ crowd.places[i]?, ∀ t, v.stage ≠ .waiting t) :
    leaving? key crowd (.abandon i) = none := by
  refine if_neg ?_
  rintro ⟨v, hv, t, hstage, -⟩
  exact hkeeps v hv t hstage

/-- Who moves without looking leaves the account as it is, if the table keeps the mutex and the
tickets for the key. -/
theorem Accounted.mono {last : Option Leaving} {crowd' : Crowd Visitor}
    (h : Accounted key last crowd) (hattended : Attended crowd') {i : Nat} {v v' : Visitor}
    (hv : crowd.places[i]? = some v) (hparts : ¬ v.Parts key)
    (hplaces : crowd'.places = crowd.places.set i v')
    (hentries : Keyed.get? key crowd'.world.locks.entries =
      Keyed.get? key crowd.world.locks.entries)
    (hreferring : ∀ t ∈ crowd.world.locks.referring, t.key = key →
      t ∈ crowd'.world.locks.referring) :
    Accounted key last crowd' := by
  refine ⟨hattended, fun hpresent => ?_, fun habsent => h.absent (hentries.symm.trans habsent)⟩
  rw [hentries] at hpresent
  exact (h.present hpresent).mono hv hparts hplaces hreferring

section

variable {last : Option Leaving} {i : Nat} {v : Visitor} {t : Ticket}

theorem Accounted.take (h : Accounted key last crowd) (hv : crowd.places[i]? = some v)
    (hstage : v.stage = .asking)
    (hattended : Attended ⟨{ crowd.world with locks := (crowd.world.locks.take v.key).2 },
      crowd.places.set i (v.goOn (.waiting (crowd.world.locks.take v.key).1))⟩) :
    Accounted key last ⟨{ crowd.world with locks := (crowd.world.locks.take v.key).2 },
      crowd.places.set i (v.goOn (.waiting (crowd.world.locks.take v.key).1))⟩ := by
  by_cases hkey : key = v.key
  · -- the ticket that is handed out refers to the mutex
    refine ⟨hattended, fun _ => .inl ⟨(crowd.world.locks.take v.key).1, ?_, ?_⟩,
      fun habsent => h.absent ?_⟩
    · rw [LockTable.referring_take]
      exact List.mem_append_right _ (List.mem_singleton.mpr rfl)
    · exact (LockTable.key_take _ _).trans hkey.symm
    · cases hmutex : Keyed.get? key crowd.world.locks.entries with
      | none => rfl
      | some mutex => rw [LockTable.get?_take hmutex] at habsent; cases habsent
  · refine h.mono hattended hv (not_parts hstage nofun) rfl (LockTable.get?_take_of_ne hkey _)
      fun t ht _ => ?_
    rw [LockTable.referring_take]
    exact List.mem_append_left _ ht

theorem Accounted.wait (h : Accounted key last crowd)
    (hattended : Attended
      ⟨{ crowd.world with locks := crowd.world.locks.enqueue t }, crowd.places⟩) :
    Accounted key last
      ⟨{ crowd.world with locks := crowd.world.locks.enqueue t }, crowd.places⟩ := by
  refine ⟨hattended, ?_, ?_⟩ <;> rw [LockTable.entries_enqueue]
  · unfold Explained
    rw [LockTable.referring_enqueue]
    exact h.present
  · exact h.absent

theorem Accounted.grant (h : Accounted key last crowd) (hv : crowd.places[i]? = some v)
    (hstage : v.stage = .waiting t)
    (hattended : Attended ⟨{ crowd.world with locks := crowd.world.locks.enqueue t },
      crowd.places.set i (v.goOn (.holding t))⟩) :
    Accounted key last ⟨{ crowd.world with locks := crowd.world.locks.enqueue t },
      crowd.places.set i (v.goOn (.holding t))⟩ := by
  have hentries := congrArg (Keyed.get? key) (LockTable.entries_enqueue crowd.world.locks t)
  refine h.mono hattended hv (not_parts hstage nofun) rfl hentries fun t' ht' _ => ?_
  rw [LockTable.referring_enqueue]
  exact ht'

theorem Accounted.unlock (h : Accounted key last crowd) (hv : crowd.places[i]? = some v)
    (hstage : v.stage = .holding t)
    (hattended : Attended ⟨{ crowd.world with locks := crowd.world.locks.leave t },
      crowd.places.set i (v.goOn (.parting t.key))⟩) :
    Accounted key last ⟨{ crowd.world with locks := crowd.world.locks.leave t },
      crowd.places.set i (v.goOn (.parting t.key))⟩ := by
  by_cases hkey : t.key = key
  · -- the one that lets go is to look next
    have hself :=
      List.getElem?_set_self (a := v.goOn (.parting t.key)) (List.getElem?_eq_some_iff.mp hv).1
    refine ⟨hattended, fun _ => .inr (.inl ?_), h.absent⟩
    exact ⟨_, List.mem_of_getElem? hself, congrArg Stage.parting hkey⟩
  · refine h.mono hattended hv (not_parts hstage nofun) rfl rfl fun t' ht' hkey' => ?_
    refine h.attended.sound.mem_referring_leave.mpr ⟨?_, ht'⟩
    rintro rfl
    exact hkey hkey'

theorem Accounted.settle {key' : String} (h : Accounted key last crowd)
    (hv : crowd.places[i]? = some v) (hstage : v.stage = .parting key')
    (hattended : Attended ⟨{ crowd.world with locks := crowd.world.locks.forget key' },
      crowd.places.set i (v.goOn .gone)⟩) :
    Accounted key ((if v.Parts key then some .settled else none).or last)
      ⟨{ crowd.world with locks := crowd.world.locks.forget key' },
        crowd.places.set i (v.goOn .gone)⟩ := by
  by_cases hkey : key' = key
  · subst hkey
    have hparts : v.Parts key' := hstage
    rw [if_pos hparts, Option.some_or]
    refine ⟨hattended, fun hpresent => .inl ?_, nofun⟩
    -- the table keeps the mutex for a ticket only
    rcases h.attended.sound.forget_cases key' with ⟨t, ht, hmutex, -⟩ | ⟨-, hnone⟩
    · rw [LockTable.referring_forget]
      exact ⟨t, ht, h.attended.sound.apart (h.attended.sound.backs ht).entry hmutex⟩
    · exact absurd hnone hpresent
  · have hparts : ¬ v.Parts key := not_parts hstage fun heq => hkey (Stage.parting.inj heq)
    rw [if_neg hparts, Option.none_or]
    refine h.mono hattended hv hparts rfl (LockTable.get?_forget_of_ne (Ne.symm hkey) _)
      fun t ht _ => ?_
    rw [LockTable.referring_forget]
    exact ht

theorem Accounted.abandon (h : Accounted key last crowd) (hv : crowd.places[i]? = some v)
    (hstage : v.stage = .waiting t)
    (hattended : Attended ⟨{ crowd.world with locks := crowd.world.locks.leave t },
      crowd.places.set i (v.goOn .gone)⟩) :
    Accounted key ((if v.WaitsAt key then some .abandoned else none).or last)
      ⟨{ crowd.world with locks := crowd.world.locks.leave t },
        crowd.places.set i (v.goOn .gone)⟩ := by
  have hsound := h.attended.sound
  by_cases hkey : t.key = key
  · rw [if_pos ⟨t, hstage, hkey⟩, Option.some_or]
    refine ⟨hattended, fun _ => .inr (.inr rfl), fun habsent => ?_⟩
    -- the ticket that is given up refers to a mutex of the table
    have hentry := (hsound.backs (h.attended.mem_referring hv (ticket?_of_waiting hstage))).entry
    rw [hkey] at hentry
    exact absurd (hentry.symm.trans habsent) nofun
  · have hwaits : ¬ v.WaitsAt key := by
      rintro ⟨t', hstage', hkey'⟩
      rw [hstage] at hstage'
      cases hstage'
      exact hkey hkey'
    rw [if_neg hwaits, Option.none_or]
    refine h.mono hattended hv (not_parts hstage nofun) rfl rfl fun t' ht' hkey' => ?_
    refine hsound.mem_referring_leave.mpr ⟨?_, ht'⟩
    rintro rfl
    exact hkey hkey'

end

theorem Accounted.step {last : Option Leaving} (h : Accounted key last crowd) (e : Event) :
    Accounted key ((leaving? key crowd e).or last) (step crowd e) := by
  have hattended := h.attended.step e
  have hmoved := moved_step crowd e
  generalize Visitor.step crowd e = crowd' at hattended hmoved ⊢
  cases hmoved with
  | rest hgone => rwa [leaving?_rest hgone, Option.none_or]
  | keep hkeeps => rwa [leaving?_keep hkeeps, Option.none_or]
  | take hv hstage =>
    rw [leaving?_turn hv, if_neg (not_parts hstage nofun), Option.none_or]
    exact h.take hv hstage hattended
  | wait hv hstage =>
    rw [leaving?_turn hv, if_neg (not_parts hstage nofun), Option.none_or]
    exact h.wait hattended
  | grant hv hstage =>
    rw [leaving?_turn hv, if_neg (not_parts hstage nofun), Option.none_or]
    exact h.grant hv hstage hattended
  | unlock hv hstage =>
    rw [leaving?_turn hv, if_neg (not_parts hstage nofun), Option.none_or]
    exact h.unlock hv hstage hattended
  | settle hv hstage =>
    rw [leaving?_turn hv]
    exact h.settle hv hstage hattended
  | abandon hv hstage =>
    rw [leaving?_abandon hv]
    exact h.abandon hv hstage hattended

theorem Accounted.after {last : Option Leaving} (h : Accounted key last crowd)
    (events : List Event) :
    Accounted key (lastLeaving? key last crowd events) (after crowd events) := by
  induction events generalizing crowd last with
  | nil => exact h
  | cons e events ih => exact ih (h.step e)

/-- When nobody is at the locks, only what was given up is left. -/
theorem Accounted.get?_ne_none_iff {last : Option Leaving} (h : Accounted key last crowd)
    (haway : ∀ v ∈ crowd.places, v.IsAway) :
    Keyed.get? key crowd.world.locks.entries ≠ none ↔ last = some .abandoned := by
  constructor
  · intro hpresent
    rcases h.present hpresent with ⟨t, ht, -⟩ | ⟨v, hv, hparts⟩ | hlast
    · obtain ⟨i, v, hv, hticket⟩ := h.attended.covered ht
      rcases haway v (List.mem_of_getElem? hv) with hstage | hstage <;>
        rcases stage_of_ticket? hticket with hstage' | hstage' <;> rw [hstage] at hstage'
          <;> cases hstage'
    · rcases haway v hv with hstage | hstage <;> rw [Parts, hstage] at hparts <;> cases hparts
    · exact hlast
  · exact fun hlast habsent => h.absent habsent hlast

/-- When everybody is gone from the locks, the table has a mutex for a key exactly if the last one
to go from it had given up. It is empty exactly if there is no such key. -/
theorem leftover_iff (w : World) (conversations : List (String × String)) (events : List Event)
    (haway : ∀ v ∈ (after (arrivals w conversations) events).places, v.IsAway) :
    let locks := (after (arrivals w conversations) events).world.locks
    let last? := fun key => lastLeaving? key none (arrivals w conversations) events
    (∀ key, Keyed.contains key locks.entries = true ↔ last? key = some .abandoned) ∧
      (locks.size = 0 ↔ ∀ key, last? key ≠ some .abandoned) := by
  intro locks last?
  have hiff : ∀ key, Keyed.get? key locks.entries ≠ none ↔ last? key = some .abandoned := fun key =>
    ((accounted_arrivals w conversations key).after events).get?_ne_none_iff haway
  constructor
  · intro key
    rw [← hiff key, Keyed.contains, Option.isSome_iff_ne_none]
  · rw [LockTable.size, List.length_eq_zero_iff, Keyed.eq_nil_iff]
    exact forall_congr' fun key => not_not.symm.trans (not_congr (hiff key))

def rivals : Crowd Visitor :=
  arrivals (.start ⟨1893488400, 0⟩ (.memory []) (.memory []) ⟨1⟩) [("bot", "5511"), ("bot", "5511")]

/-- The second gives up while the first is still there, who then looks and has the table forget the
mutex. -/
def patience : List Event := [.turn 0, .turn 0, .turn 1, .turn 1, .abandon 1, .turn 0, .turn 0]

theorem leftover_iff_rivals :
    (∀ v ∈ (after rivals patience).places, v.IsAway) ∧
      lastLeaving? "bot:5511" none rivals patience = some .settled ∧
      ¬ Keyed.contains "bot:5511" (after rivals patience).world.locks.entries = true := by
  have haway : ∀ v ∈ (after rivals patience).places, v.IsAway := by decide +kernel
  have hlast : lastLeaving? "bot:5511" none rivals patience = some .settled := by decide +kernel
  refine ⟨haway, hlast, fun hleft => ?_⟩
  have habandoned :=
    ((leftover_iff _ [("bot", "5511"), ("bot", "5511")] patience haway).1 "bot:5511").mp hleft
  exact Leaving.noConfusion (Option.some.inj (hlast.symm.trans habandoned))

/-- The first lets the lock go and finds the second waiting, so it leaves the mutex to that one, who
gives up. -/
theorem rivals_leave_mutex :
    let crowd := after rivals [.turn 0, .turn 0, .turn 1, .turn 1, .turn 0, .turn 0, .abandon 1]
    (∀ v ∈ crowd.places, v.stage = .gone) ∧ crowd.world.locks.size ≠ 0 := by
  decide +kernel

end Visitor

end ChatFlow
