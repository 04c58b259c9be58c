import ChatFlow.Proofs.Activity
import Mathlib.Data.List.Forall2

namespace ChatFlow

/-- What comes next at a place: nothing more but a result, or a call. -/
inductive Move (σ α : Type)
  | rest (a : α)
  | ask (c : Call) (next : c.Answer → σ)

/-- What an activity does next; its places are what is left of it. -/
def Activity.view {α : Type} : Activity α → Move (Activity α) α
  | .done a => .rest a
  | .call c next => .ask c next

/-- A world and the places that the activities in it have got to. -/
structure Crowd (σ : Type) where
  world : World
  places : List σ

namespace Crowd

/-- What happens next: an activity has its turn, or the clock is set. -/
inductive Event
  | turn (i : Nat)
  | clock (t : Instant)
  deriving DecidableEq, Repr

variable {σ τ α β : Type}

def step (view : σ → Move σ α) (crowd : Crowd σ) : Event → Crowd σ
  | .clock t => { crowd with world := { crowd.world with clock := t } }
  | .turn i =>
    match crowd.places[i]?.map view with
    | some (.ask c next) =>
      match crowd.world.answer c with
      | (some answer, w) => ⟨w, crowd.places.set i (next answer)⟩
      | (none, w) => ⟨w, crowd.places⟩
    | _ => crowd

def after (view : σ → Move σ α) (crowd : Crowd σ) (events : List Event) : Crowd σ :=
  events.foldl (step view) crowd

variable {view : σ → Move σ α} {crowd : Crowd σ}

@[simp] theorem after_nil : crowd.after view [] = crowd := rfl

@[simp] theorem after_cons (e : Event) (events : List Event) :
    crowd.after view (e :: events) = (crowd.step view e).after view events := rfl

theorem after_append (earlier later : List Event) :
    crowd.after view (earlier ++ later) = (crowd.after view earlier).after view later :=
  List.foldl_append

theorem after_concat (events : List Event) (e : Event) :
    crowd.after view (events ++ [e]) = (crowd.after view events).step view e := by
  rw [after_append]
  rfl

/-- All that an event can be: nobody does anything but the clock, or one call is made at one place,
which is left for another place if there is an answer. -/
inductive Stepped (view : σ → Move σ α) (crowd : Crowd σ) : Event → Crowd σ → Prop
  | idle (i : Nat) : Stepped view crowd (.turn i) crowd
  | clock (t : Instant) :
    Stepped view crowd (.clock t) { crowd with world := { crowd.world with clock := t } }
  | wait {i : Nat} {s : σ} {c : Call} {next : c.Answer → σ} (hplace : crowd.places[i]? = some s)
      (hview : view s = .ask c next) (hanswer : (crowd.world.answer c).1 = none) :
      Stepped view crowd (.turn i) ⟨(crowd.world.answer c).2, crowd.places⟩
  | go {i : Nat} {s : σ} {c : Call} {next : c.Answer → σ} {answer : c.Answer}
    (hplace : crowd.places[i]? = some s)
      (hview : view s = .ask c next) (hanswer : (crowd.world.answer c).1 = some answer) :
      Stepped view crowd (.turn i) ⟨(crowd.world.answer c).2, crowd.places.set i (next answer)⟩

theorem stepped_step (view : σ → Move σ α) (crowd : Crowd σ) (e : Event) :
    Stepped view crowd e (crowd.step view e) := by
  cases e with
  | clock t => exact .clock t
  | turn i =>
    unfold step
    dsimp only
    split
    · next c next hmove =>
      obtain ⟨s, hplace, hview⟩ := Option.map_eq_some_iff.mp hmove
      split
      · next answer w hanswer =>
        obtain rfl : (crowd.world.answer c).2 = w := by rw [hanswer]
        exact .go hplace hview (by rw [hanswer])
      · next w hanswer =>
        obtain rfl : (crowd.world.answer c).2 = w := by rw [hanswer]
        exact .wait hplace hview (by rw [hanswer])
    · exact .idle i

theorem step_turn {i : Nat} {s : σ} {c : Call} {next : c.Answer → σ} {answer : c.Answer}
    (hplace : crowd.places[i]? = some s) (hview : view s = .ask c next)
    (hanswer : (crowd.world.answer c).1 = some answer) :
    crowd.step view (.turn i) = ⟨(crowd.world.answer c).2, crowd.places.set i (next answer)⟩ := by
  have hworld : crowd.world.answer c = (some answer, (crowd.world.answer c).2) :=
    Prod.ext hanswer rfl
  simp only [step, hplace, Option.map_some, hview]
  rw [hworld]

theorem getElem?_step_of_ne {i : Nat} {e : Event} (h : e ≠ .turn i) :
    (crowd.step view e).places[i]? = crowd.places[i]? := by
  have hstep := stepped_step view crowd e
  generalize crowd.step view e = crowd' at hstep ⊢
  cases hstep with
  | go => exact List.getElem?_set_ne fun heq => h (by rw [heq])
  | _ => rfl

/-- Who is where behind a turn: the one whose turn it was, or another where it was before. -/
theorem getElem?_set_cases {places : List σ} {i j : Nat} {s s' : σ}
    (h : (places.set i s')[j]? = some s) :
    j = i ∧ s = s' ∨ j ≠ i ∧ places[j]? = some s := by
  rw [List.getElem?_set] at h
  split at h
  · next hij =>
    split at h
    · exact .inl ⟨hij.symm, (Option.some.inj h).symm⟩
    · cases h
  · next hij => exact .inr ⟨fun heq => hij heq.symm, h⟩

theorem after_induction {I : Crowd σ → Prop} (hstep : ∀ crowd e, I crowd → I (crowd.step view e))
    (h : I crowd) (events : List Event) : I (crowd.after view events) := by
  induction events generalizing crowd with
  | nil => exact h
  | cons e events ih => exact ih (hstep crowd e h)

inductive Follows (view : σ → Move σ α) : σ → Activity α → Prop
  | rest {s : σ} {a : α} (hview : view s = .rest a) : Follows view s (.done a)
  | ask {s : σ} {c : Call} {next : c.Answer → σ} {course : c.Answer → Activity α}
    (hview : view s = .ask c next)
      (hnext : ∀ answer, Follows view (next answer) (course answer)) :
        Follows view s (.call c course)

theorem follows_self (x : Activity α) : Follows Activity.view x x := by
  induction x with
  | done a => exact .rest rfl
  | call c next ih => exact .ask rfl ih

/-- Places that tell an activity are part of places that tell it and what comes behind it. -/
theorem Follows.bind {view' : τ → Move τ β} {f : σ → τ} {k : α → Activity β} {s : σ}
    {x : Activity α} (h : Follows view s x)
    (hask : ∀ s c next, view s = .ask c next → view' (f s) = .ask c fun answer => f (next answer))
    (hrest : ∀ s a, view s = .rest a → Follows view' (f s) (k a)) :
    Follows view' (f s) (x.bind k) := by
  induction h with
  | rest hview => exact hrest _ _ hview
  | ask hview hnext ih => exact .ask (hask _ _ _ hview) ih

section Forall2

variable {R : α → β → Prop} {as : List α} {bs : List β}

theorem forall₂_set (h : List.Forall₂ R as bs) {a : α} {b : β} (hab : R a b) (i : Nat) :
    List.Forall₂ R (as.set i a) (bs.set i b) := by
  induction h generalizing i with
  | nil => exact .nil
  | cons hfirst hrest ih =>
    cases i with
    | zero => exact .cons hab hrest
    | succ i => exact .cons hfirst (ih i)

theorem exists_of_getElem? (h : List.Forall₂ R as bs) {i : Nat} {a : α} (ha : as[i]? = some a) :
    ∃ b, bs[i]? = some b ∧ R a b := by
  induction h generalizing i with
  | nil => cases ha
  | cons hfirst hrest ih =>
    cases i with
    | zero =>
      cases ha
      exact ⟨_, rfl, hfirst⟩
    | succ i => exact ih ha

end Forall2

variable {courses : List (Activity α)}

/-- Turn by turn, the places tell what the activities themselves do. -/
theorem follows_step (h : List.Forall₂ (Follows view) crowd.places courses) (e : Event) :
    ∃ courses', (Crowd.mk crowd.world courses).step Activity.view e =
      ⟨(crowd.step view e).world, courses'⟩ ∧
      List.Forall₂ (Follows view) (crowd.step view e).places courses' := by
  cases e with
  | clock t => exact ⟨courses, rfl, h⟩
  | turn i =>
    cases hplace : crowd.places[i]? with
    | none =>
      have hcourse : courses[i]? = none := by
        rw [List.getElem?_eq_none_iff, ← h.length_eq, ← List.getElem?_eq_none_iff]
        exact hplace
      refine ⟨courses, ?_, ?_⟩
      · simp only [step, hplace, hcourse, Option.map_none]
      · simpa only [step, hplace, Option.map_none] using h
    | some s =>
      obtain ⟨course, hcourse, hfollows⟩ := exists_of_getElem? h hplace
      cases hfollows with
      | rest hview =>
        refine ⟨courses, ?_, ?_⟩
        · simp only [step, hplace, hcourse, hview, Option.map_some, Activity.view]
        · simpa only [step, hplace, hview, Option.map_some] using h
      | ask hview hnext =>
        simp only [step, hplace, hcourse, hview, Option.map_some, Activity.view]
        split
        · next answer w hanswer => exact ⟨_, rfl, forall₂_set h (hnext answer) i⟩
        · exact ⟨_, rfl, h⟩

/-- The world of a crowd is the world of the activities that its places tell. -/
theorem world_after_eq (h : List.Forall₂ (Follows view) crowd.places courses)
    (events : List Event) :
    (crowd.after view events).world =
      ((Crowd.mk crowd.world courses).after Activity.view events).world := by
  induction events generalizing crowd courses with
  | nil => rfl
  | cons e events ih =>
    obtain ⟨courses', hstep, hfollows⟩ := follows_step h e
    rw [after_cons, after_cons, hstep]
    exact ih hfollows

end Crowd

end ChatFlow
