import ChatFlow.Proofs.LockTable

namespace ChatFlow

open Crowd (Follows)

inductive Visitor.Stage
  | asking
  /-- to wait for the mutex, to which the ticket refers -/
  | waiting (t : Ticket)
  /-- with the mutex -/
  | holding (t : Ticket)
  /-- without the mutex, and to look whether the table may forget it -/
  | parting (key : String)
  | gone
  deriving DecidableEq

structure Visitor where
  botId : String
  conversationId : String
  stage : Visitor.Stage
  deriving DecidableEq

namespace Visitor

def key (v : Visitor) : String := lockKey v.botId v.conversationId

def goOn (v : Visitor) (stage : Stage) : Visitor := { v with stage }

def view (v : Visitor) : Move Visitor Unit :=
  match v.stage with
  | .asking => .ask (.takeTicket v.key) fun t => v.goOn (.waiting t)
  | .waiting t => .ask (.await t) fun _ => v.goOn (.holding t)
  | .holding t => .ask (.leave t) fun _ => v.goOn (.parting t.key)
  | .parting key => .ask (.forget key) fun _ => v.goOn .gone
  | .gone => .rest ()

def claim (v : Visitor) : Claim :=
  match v.stage with
  | .waiting t => .waiting t
  | .holding t => .holding t
  | .asking | .parting _ | .gone => .none

def ticket? (v : Visitor) : Option Ticket := v.claim.ticket?

/-- A visitor takes the steps of an activity under a lock apart from those of what is done there. -/
theorem follows_locked (botId conversationId : String) :
    Follows view ⟨botId, conversationId, .asking⟩
      (Activity.locked botId conversationId (.done ())) :=
  .ask rfl fun _ => .ask rfl fun _ => .ask rfl fun _ => .ask rfl fun _ => .rest rfl

theorem leads {v : Visitor} {c : Call} {next : c.Answer → Visitor} (h : v.view = .ask c next)
    (answer : c.Answer) :
    v.claim.Leads c answer (next answer).claim := by
  obtain ⟨botId, conversationId, stage⟩ := v
  cases stage with
  | asking =>
    cases h
    exact .take _ answer
  | waiting t =>
    cases h
    exact .grant t
  | holding t =>
    cases h
    exact .leave t
  | parting key =>
    cases h
    exact .stay id
  | gone => cases h

/-- What happens next: somebody takes the next step, or gives up. -/
inductive Event
  | turn (i : Nat)
  | abandon (i : Nat)
  deriving DecidableEq

def step (crowd : Crowd Visitor) : Event → Crowd Visitor
  | .turn i => crowd.step view (.turn i)
  | .abandon i =>
    match crowd.places[i]? with
    -- who gives up does not look at the table
    | some ⟨botId, conversationId, .waiting t⟩ =>
      ⟨crowd.world.abandon (Activity.ask (.await t)),
        crowd.places.set i ⟨botId, conversationId, .gone⟩⟩
    | _ => crowd

def after (crowd : Crowd Visitor) (events : List Event) : Crowd Visitor := events.foldl step crowd

def arrivals (w : World) (conversations : List (String × String)) : Crowd Visitor :=
  ⟨{ w with locks := .empty }, conversations.map fun c => ⟨c.1, c.2, .asking⟩⟩

@[simp] theorem after_nil (crowd : Crowd Visitor) : after crowd [] = crowd := rfl

@[simp] theorem after_cons (crowd : Crowd Visitor) (e : Event) (events : List Event) :
    after crowd (e :: events) = after (step crowd e) events := rfl

def stepCourses (crowd : Crowd (Activity Unit)) : Event → Crowd (Activity Unit)
  | .turn i => crowd.step Activity.view (.turn i)
  | .abandon i =>
    match crowd.places[i]? with
    | some (.call (.await t) next) =>
      ⟨crowd.world.abandon (.call (.await t) next), crowd.places.set i (.done ())⟩
    | _ => crowd

variable {crowd : Crowd Visitor}

theorem follows_step {courses : List (Activity Unit)}
    (h : List.Forall₂ (Follows view) crowd.places courses) (e : Event) :
    ∃ courses', stepCourses ⟨crowd.world, courses⟩ e = ⟨(step crowd e).world, courses'⟩ ∧
      List.Forall₂ (Follows view) (step crowd e).places courses' := by
  cases e with
  | turn i => exact Crowd.follows_step h (.turn i)
  | abandon i =>
    cases hv : crowd.places[i]? with
    | none =>
      have hcourse : courses[i]? = none := by
        rw [List.getElem?_eq_none_iff, ← h.length_eq, ← List.getElem?_eq_none_iff]
        exact hv
      refine ⟨courses, by simp only [stepCourses, step, hv, hcourse], ?_⟩
      simpa only [step, hv] using h
    | some v =>
      obtain ⟨course, hcourse, hfollows⟩ := Crowd.exists_of_getElem? h hv
      obtain ⟨botId, conversationId, stage⟩ := v
      cases stage with
      | waiting t =>
        cases hfollows with
        | rest hview => cases hview
        | ask hview hnext =>
          cases hview
          refine ⟨courses.set i (.done ()), ?_, ?_⟩
          · simp only [stepCourses, step, hv, hcourse, World.abandon, Activity.ask]
          · simpa only [step, hv] using Crowd.forall₂_set h (.rest rfl) i
      | _ =>
        refine ⟨courses, ?_, by simpa only [step, hv] using h⟩
        cases hfollows with
        | rest hview => simp only [stepCourses, step, hv, hcourse]
        | ask hview hnext =>
          cases hview <;> simp only [stepCourses, step, hv, hcourse]

/-- The world behind visitors is the one behind the activities that they stand for. -/
theorem world_after_eq {courses : List (Activity Unit)}
    (h : List.Forall₂ (Follows view) crowd.places courses) (events : List Event) :
    (after crowd events).world = (events.foldl stepCourses ⟨crowd.world, courses⟩).world := by
  induction events generalizing crowd courses with
  | nil => rfl
  | cons e events ih =>
    obtain ⟨courses', hstep, hfollows⟩ := follows_step h e
    rw [after_cons, List.foldl_cons, hstep]
    exact ih hfollows

def courses (conversations : List (String × String)) : List (Activity Unit) :=
  conversations.map fun c => Activity.locked c.1 c.2 (.done ())

theorem follows_arrivals (w : World) (conversations : List (String × String)) :
    List.Forall₂ (Follows view) (arrivals w conversations).places (courses conversations) := by
  rw [arrivals, courses, List.forall₂_map_left_iff, List.forall₂_map_right_iff, List.forall₂_same]
  exact fun c _ => follows_locked c.1 c.2

inductive Moved (crowd : Crowd Visitor) : Event → Crowd Visitor → Prop
  | rest {i : Nat} (hgone : ∀ v ∈ crowd.places[i]?, v.stage = .gone) : Moved crowd (.turn i) crowd
  | keep {i : Nat} (hkeeps : ∀ v ∈ crowd.places[i]?, ∀ t, v.stage ≠ .waiting t) :
    Moved crowd (.abandon i) crowd
  | take {i : Nat} {v : Visitor} (hv : crowd.places[i]? = some v) (hstage : v.stage = .asking) :
      Moved crowd (.turn i) ⟨{ crowd.world with locks := (crowd.world.locks.take v.key).2 },
        crowd.places.set i (v.goOn (.waiting (crowd.world.locks.take v.key).1))⟩
  | wait {i : Nat} {v : Visitor} {t : Ticket} (hv : crowd.places[i]? = some v)
    (hstage : v.stage = .waiting t)
      (hholds : ¬ (crowd.world.locks.enqueue t).holds t = true) :
      Moved crowd (.turn i)
        ⟨{ crowd.world with locks := crowd.world.locks.enqueue t }, crowd.places⟩
  | grant {i : Nat} {v : Visitor} {t : Ticket} (hv : crowd.places[i]? = some v)
    (hstage : v.stage = .waiting t)
      (hholds : (crowd.world.locks.enqueue t).holds t = true) :
      Moved crowd (.turn i) ⟨{ crowd.world with locks := crowd.world.locks.enqueue t },
        crowd.places.set i (v.goOn (.holding t))⟩
  | unlock {i : Nat} {v : Visitor} {t : Ticket} (hv : crowd.places[i]? = some v)
    (hstage : v.stage = .holding t) :
      Moved crowd (.turn i) ⟨{ crowd.world with locks := crowd.world.locks.leave t },
        crowd.places.set i (v.goOn (.parting t.key))⟩
  | settle {i : Nat} {v : Visitor} {key : String} (hv : crowd.places[i]? = some v)
    (hstage : v.stage = .parting key) :
      Moved crowd (.turn i) ⟨{ crowd.world with locks := crowd.world.locks.forget key },
        crowd.places.set i (v.goOn .gone)⟩
  | abandon {i : Nat} {v : Visitor} {t : Ticket} (hv : crowd.places[i]? = some v)
    (hstage : v.stage = .waiting t) :
      Moved crowd (.abandon i) ⟨{ crowd.world with locks := crowd.world.locks.leave t },
        crowd.places.set i (v.goOn .gone)⟩

theorem answer_await (w : World) (t : Ticket) : w.answer (.await t) =
    (if (w.locks.enqueue t).holds t then some () else none,
      { w with locks := w.locks.enqueue t }) := rfl

theorem moved_step (crowd : Crowd Visitor) (e : Event) : Moved crowd e (step crowd e) := by
  cases e with
  | abandon i =>
    unfold step
    dsimp only
    split
    · next botId conversationId t hv => exact .abandon hv rfl
    · next hkeeps =>
      refine .keep fun v hv t hstage => ?_
      obtain ⟨botId, conversationId, stage⟩ := v
      subst hstage
      exact hkeeps botId conversationId t hv
  | turn i =>
    show Moved crowd _ (crowd.step view (.turn i))
    -- how the step goes depends on the stage, and on the table only for who waits
    cases hv : crowd.places[i]? with
    | none =>
      have hrest : crowd.step view (.turn i) = crowd := by
        simp only [Crowd.step, hv, Option.map_none]
      rw [hrest]
      refine .rest fun v hv' => ?_
      rw [hv] at hv'
      cases hv'
    | some v =>
      cases hstage : v.stage with
      | asking =>
        have hview : v.view = .ask (.takeTicket v.key) fun t => v.goOn (.waiting t) := by
          rw [view, hstage]
        rw [Crowd.step_turn hv hview rfl]
        exact .take hv hstage
      | waiting t =>
        have hview : v.view = .ask (.await t) fun _ => v.goOn (.holding t) := by rw [view, hstage]
        by_cases hholds : (crowd.world.locks.enqueue t).holds t = true
        · rw [Crowd.step_turn hv hview (if_pos hholds)]
          exact .grant hv hstage hholds
        · have hwait : crowd.step view (.turn i) =
              ⟨{ crowd.world with locks := crowd.world.locks.enqueue t }, crowd.places⟩ := by
            simp only [Crowd.step, hv, Option.map_some, hview, answer_await, if_neg hholds]
          rw [hwait]
          exact .wait hv hstage hholds
      | holding t =>
        have hview : v.view = .ask (.leave t) fun _ => v.goOn (.parting t.key) := by
          rw [view, hstage]
        rw [Crowd.step_turn hv hview rfl]
        exact .unlock hv hstage
      | parting key =>
        have hview : v.view = .ask (.forget key) fun _ => v.goOn .gone := by rw [view, hstage]
        rw [Crowd.step_turn hv hview rfl]
        exact .settle hv hstage
      | gone =>
        have hrest : crowd.step view (.turn i) = crowd := by
          simp only [Crowd.step, hv, Option.map_some, view, hstage]
        rw [hrest]
        refine .rest fun v' hv' => ?_
        rw [hv] at hv'
        cases hv'
        exact hstage

section Stage

variable {v : Visitor} {t : Ticket}

theorem claim_of_waiting (h : v.stage = .waiting t) : v.claim = .waiting t := by rw [claim, h]

theorem claim_of_holding (h : v.stage = .holding t) : v.claim = .holding t := by rw [claim, h]

theorem ticket?_of_waiting (h : v.stage = .waiting t) : v.ticket? = some t := by
  rw [ticket?, claim_of_waiting h]
  rfl

theorem ticket?_of_holding (h : v.stage = .holding t) : v.ticket? = some t := by
  rw [ticket?, claim_of_holding h]
  rfl

theorem ticket?_of_asking (h : v.stage = .asking) : v.ticket? = none := by
  rw [ticket?, claim, h]
  rfl

theorem ticket?_of_parting {key : String} (h : v.stage = .parting key) : v.ticket? = none := by
  rw [ticket?, claim, h]
  rfl

theorem stage_of_ticket? (h : v.ticket? = some t) : v.stage = .waiting t ∨
    v.stage = .holding t := by
  obtain ⟨botId, conversationId, stage⟩ := v
  cases stage with
  | waiting t' =>
    cases h
    exact .inl rfl
  | holding t' =>
    cases h
    exact .inr rfl
  | _ => cases h

end Stage

/-- The table counts exactly the tickets of those who wait and hold, each of whom has one of its own
for its own key, and those who take it that they have a mutex have it. -/
structure Attended (crowd : Crowd Visitor) : Prop where
  sound : crowd.world.locks.Sound
  guarded : crowd.Guarded claim
  covered : ∀ {t}, t ∈ crowd.world.locks.referring →
    ∃ (i : Nat) (v : Visitor), crowd.places[i]? = some v ∧ v.ticket? = some t
  key : ∀ {i : Nat} {v t}, crowd.places[i]? = some v → v.ticket? = some t → t.key = v.key

theorem attended_arrivals (w : World) (conversations : List (String × String)) :
    Attended (arrivals w conversations) := by
  have hnone : ∀ v ∈ (arrivals w conversations).places, v.claim = .none := by
    intro v hv
    obtain ⟨c, -, rfl⟩ := List.mem_map.mp hv
    rfl
  refine ⟨LockTable.sound_empty, Crowd.guarded_of_none hnone, nofun, fun hv ht => ?_⟩
  rw [ticket?, hnone _ (List.mem_of_getElem? hv)] at ht
  cases ht

/-- Who had a ticket has one still if the one that moved keeps its own. -/
theorem exists_of_set {places : List Visitor} {i : Nat} {v v' : Visitor} {t : Ticket}
    (hv : places[i]? = some v)
    (h : ∃ (j : Nat) (u : Visitor), places[j]? = some u ∧ u.ticket? = some t)
    (hkeeps : v.ticket? = some t → v'.ticket? = some t) :
    ∃ (j : Nat) (u : Visitor), (places.set i v')[j]? = some u ∧ u.ticket? = some t := by
  obtain ⟨j, u, hu, ht⟩ := h
  by_cases hj : j = i
  · subst hj
    rw [hv] at hu
    cases hu
    exact ⟨j, v', List.getElem?_set_self (List.getElem?_eq_some_iff.mp hv).1, hkeeps ht⟩
  · exact ⟨j, u, (List.getElem?_set_ne (Ne.symm hj)).trans hu, ht⟩

theorem guarded_leave (h : crowd.Guarded claim) {i : Nat} {v v' : Visitor} {t : Ticket}
    (hv : crowd.places[i]? = some v) (ht : v.ticket? = some t) (hv' : v'.claim = .none) :
    Crowd.Guarded claim
      ⟨{ crowd.world with locks := crowd.world.locks.leave t }, crowd.places.set i v'⟩ := by
  -- who has a ticket behind the event is another one and had it before
  have hother : ∀ {j : Nat} {u : Visitor} {t' : Ticket}, (crowd.places.set i v')[j]? = some u →
      u.ticket? = some t' →
      j ≠ i ∧ crowd.places[j]? = some u := by
    intro j u t' hu ht'
    rcases Crowd.getElem?_set_cases hu with ⟨-, rfl⟩ | hold
    · rw [ticket?, hv'] at ht'
      cases ht'
    · exact hold
  have hne : ∀ {j : Nat} {u : Visitor} {t' : Ticket}, j ≠ i → crowd.places[j]? = some u →
      u.ticket? = some t' →
      t' ≠ t := by
    rintro j u t' hj hu ht' rfl
    exact hj (h.alone hu hv ht' ht)
  refine ⟨fun hu ht' => ?_, fun {j u t'} hu ht' => ?_, fun hu₁ hu₂ ht₁ ht₂ => ?_⟩
  · obtain ⟨hj, hu⟩ := hother hu ht'
    exact (h.backs hu ht').leave (hne hj hu ht')
  · have hticket : u.ticket? = some t' := by
      rw [ticket?, ht']
      rfl
    obtain ⟨hj, hu⟩ := hother hu hticket
    refine LockTable.holds_onLocks (c := .leave t) (h.holds hu ht') fun heq => ?_
    cases heq
    exact hne hj hu hticket rfl
  · exact h.alone (hother hu₁ ht₁).2 (hother hu₂ ht₂).2 ht₁ ht₂

theorem Attended.mem_referring (h : Attended crowd) {i : Nat} {v : Visitor} {t : Ticket}
    (hv : crowd.places[i]? = some v) (ht : v.ticket? = some t) : t ∈ crowd.world.locks.referring :=
  (h.guarded.backs hv ht).mem

theorem guarded_step (h : crowd.Guarded claim) (e : Event) : (step crowd e).Guarded claim := by
  cases e with
  | turn i => exact h.step (fun v _ c next hview answer => leads hview answer) (.turn i)
  | abandon i =>
    have hmoved := moved_step crowd (.abandon i)
    generalize step crowd (.abandon i) = crowd' at hmoved ⊢
    cases hmoved with
    | keep => exact h
    | abandon hv hstage => exact guarded_leave h hv (ticket?_of_waiting hstage) rfl

theorem Attended.key_set (h : Attended crowd) {i : Nat} {v' : Visitor}
    (hv' : ∀ {t}, v'.ticket? = some t → t.key = v'.key) {j : Nat} {u : Visitor} {t : Ticket}
    (hu : (crowd.places.set i v')[j]? = some u) (ht : u.ticket? = some t) : t.key = u.key := by
  rcases Crowd.getElem?_set_cases hu with ⟨-, rfl⟩ | ⟨-, hu⟩
  · exact hv' ht
  · exact h.key hu ht

/-- All is in order behind one that let its ticket go, be it one that held or one that waited. -/
theorem Attended.leave (h : Attended crowd) {i : Nat} {v v' : Visitor} {t : Ticket}
    (hv : crowd.places[i]? = some v) (ht : v.ticket? = some t) (hv' : v'.claim = .none) :
    Attended ⟨{ crowd.world with locks := crowd.world.locks.leave t }, crowd.places.set i v'⟩ := by
  refine ⟨h.sound.leave t, guarded_leave h.guarded hv ht hv', fun {t'} ht' => ?_,
    h.key_set fun hnone => ?_⟩
  · obtain ⟨hne, ht'⟩ := h.sound.mem_referring_leave.mp ht'
    refine exists_of_set hv (h.covered ht') fun hkeeps => ?_
    rw [ht] at hkeeps
    exact absurd (Option.some.inj hkeeps).symm hne
  · rw [ticket?, hv'] at hnone
    cases hnone

theorem Attended.step (h : Attended crowd) (e : Event) : Attended (step crowd e) := by
  have hguarded := guarded_step h.guarded e
  have hmoved := moved_step crowd e
  generalize Visitor.step crowd e = crowd' at hguarded hmoved ⊢
  cases hmoved with
  | rest => exact h
  | keep => exact h
  | @take i v hv hstage =>
    refine ⟨h.sound.take v.key, hguarded, fun {t} ht => ?_, h.key_set fun ht => ?_⟩
    · rw [LockTable.referring_take, List.mem_append, List.mem_singleton] at ht
      rcases ht with ht | rfl
      · refine exists_of_set hv (h.covered ht) fun hticket => ?_
        rw [ticket?_of_asking hstage] at hticket
        cases hticket
      · exact ⟨i, _, List.getElem?_set_self (List.getElem?_eq_some_iff.mp hv).1, rfl⟩
    · cases ht
      exact LockTable.key_take _ _
  | @wait i v t hv hstage hholds =>
    have hmem := h.mem_referring hv (ticket?_of_waiting hstage)
    refine ⟨h.sound.enqueue hmem, hguarded, fun ht => ?_, h.key⟩
    rw [LockTable.referring_enqueue] at ht
    exact h.covered ht
  | @grant i v t hv hstage hholds =>
    have hticket := ticket?_of_waiting hstage
    refine ⟨h.sound.enqueue (h.mem_referring hv hticket), hguarded,
      fun ht => ?_, h.key_set fun ht => ?_⟩
    · rw [LockTable.referring_enqueue] at ht
      exact exists_of_set hv (h.covered ht) fun hkeeps => hticket.symm.trans hkeeps
    · cases ht
      show t.key = v.key
      exact h.key hv hticket
  | @unlock i v t hv hstage => exact h.leave hv (ticket?_of_holding hstage) rfl
  | @settle i v key hv hstage =>
    refine ⟨h.sound.forget key, hguarded, fun {t'} ht' => ?_, h.key_set fun ht' => ?_⟩
    · rw [LockTable.referring_forget] at ht'
      refine exists_of_set hv (h.covered ht') fun hkeeps => ?_
      rw [ticket?_of_parting hstage] at hkeeps
      cases hkeeps
    · cases ht'
  | @abandon i v t hv hstage => exact h.leave hv (ticket?_of_waiting hstage) rfl

theorem Attended.after (h : Attended crowd) (events : List Event) :
    Attended (after crowd events) := by
  induction events generalizing crowd with
  | nil => exact h
  | cons e events ih => exact ih (h.step e)

theorem attended_after (w : World) (conversations : List (String × String)) (events : List Event) :
    Attended (Visitor.after (arrivals w conversations) events) :=
      (attended_arrivals w conversations).after events

/-- The mutex of somebody who waits for it or holds it is the one of its key. -/
theorem Attended.entry (h : Attended crowd) {i : Nat} {v : Visitor} {t : Ticket}
    (hv : crowd.places[i]? = some v) (ht : v.ticket? = some t) :
    Keyed.get? v.key crowd.world.locks.entries = some t.mutex := by
  rw [← h.key hv ht]
  exact (h.guarded.backs hv ht).entry

/-- An event takes a mutex from the table only when nobody waits for it or holds it. -/
theorem Attended.ne_of_removed (h : Attended crowd) {e : Event} {key : String} {mutex : Nat}
    (hmutex : Keyed.get? key crowd.world.locks.entries = some mutex)
    (hremoved : Keyed.get? key (Visitor.step crowd e).world.locks.entries ≠ some mutex)
    {v : Visitor} {t : Ticket} (hv : v ∈ crowd.places) (ht : v.ticket? = some t) :
    t.mutex ≠ mutex := by
  obtain ⟨i, hv⟩ := List.mem_iff_getElem?.mp hv
  have hmem := h.mem_referring hv ht
  have hmoved := moved_step crowd e
  generalize Visitor.step crowd e = crowd' at hremoved hmoved
  cases hmoved with
  | rest => exact absurd hmutex hremoved
  | keep => exact absurd hmutex hremoved
  | @take j u => exact absurd (LockTable.get?_take hmutex u.key) hremoved
  | wait =>
    rw [LockTable.entries_enqueue] at hremoved
    exact absurd hmutex hremoved
  | grant =>
    rw [LockTable.entries_enqueue] at hremoved
    exact absurd hmutex hremoved
  | unlock => exact absurd hmutex hremoved
  | abandon => exact absurd hmutex hremoved
  | @settle j u key' hu hstage =>
    -- the table forgets no mutex to which a ticket refers, and the visitor's does
    by_cases hkey : key = key'
    · subst hkey
      rcases h.sound.forget_cases key with ⟨t', -, -, heq⟩ | ⟨hunused, -⟩
      · rw [heq] at hremoved
        exact absurd hmutex hremoved
      · rintro rfl
        exact hunused t hmem hmutex
    · rw [LockTable.get?_forget_of_ne hkey] at hremoved
      exact absurd hmutex hremoved

/-- Activities that take the locks of any conversations and let them go, in any order of steps and
given up at will while they wait, as visitors tell it. Of those who hold the lock of one
conversation there is never more than one; the mutex that somebody waits for or holds is the one
that the table has for its key; and whenever a mutex is taken from the table, nobody waits for it or
holds it. -/
theorem exclusive_after (w : World) (conversations : List (String × String)) (events : List Event) :
    let crowd := after (arrivals w conversations) events
    crowd.world =
      (events.foldl stepCourses ⟨{ w with locks := .empty }, courses conversations⟩).world ∧
    (∀ (i j : Nat) (v v' : Visitor) (t t' : Ticket), crowd.places[i]? = some v →
      crowd.places[j]? = some v' →
      v.stage = .holding t → v'.stage = .holding t' → v.botId = v'.botId →
        v.conversationId = v'.conversationId → i = j) ∧
    (∀ v ∈ crowd.places, ∀ t, v.ticket? = some t →
      Keyed.get? (lockKey v.botId v.conversationId) crowd.world.locks.entries = some t.mutex) ∧
    ∀ e key mutex, Keyed.get? key crowd.world.locks.entries = some mutex →
      Keyed.get? key (step crowd e).world.locks.entries ≠ some mutex →
        ∀ v ∈ crowd.places, ∀ t, v.ticket? = some t → t.mutex ≠ mutex := by
  intro crowd
  have h : Attended crowd := attended_after w conversations events
  refine ⟨world_after_eq (follows_arrivals w conversations) events, ?_, ?_, ?_⟩
  · intro i j v v' t t' hv hv' hstage hstage' hbot hconversation
    have hkey : t.key = t'.key := by
      rw [h.key hv (ticket?_of_holding hstage), h.key hv' (ticket?_of_holding hstage'), key, key,
        hbot, hconversation]
    exact h.guarded.exclusive hv hv' (claim_of_holding hstage) (claim_of_holding hstage') hkey
  · intro v hv t ht
    obtain ⟨i, hv⟩ := List.mem_iff_getElem?.mp hv
    exact h.entry hv ht
  · intro e key mutex hmutex hremoved v hv t ht
    exact h.ne_of_removed hmutex hremoved hv ht

end Visitor

end ChatFlow
