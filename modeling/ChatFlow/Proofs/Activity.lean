import ChatFlow.Run.World

namespace ChatFlow

namespace Activity

variable {α β : Type}

/-- Every call is in `P` and every result in `Q`, whatever the answers are. -/
def Only (P : Call → Prop) (Q : α → Prop) : Activity α → Prop
  | done a => Q a
  | call c next => P c ∧ ∀ answer, Only P Q (next answer)

variable {P P' : Call → Prop} {Q Q' : α → Prop} {R : β → Prop}

@[simp] theorem only_done (a : α) : (done a).Only P Q ↔ Q a := Iff.rfl

@[simp] theorem only_call (c : Call) (next : c.Answer → Activity α) :
    (call c next).Only P Q ↔ P c ∧ ∀ answer, (next answer).Only P Q := Iff.rfl

@[simp] theorem ask_bind (c : Call) (f : c.Answer → Activity α) : (ask c).bind f = call c f := rfl

theorem Only.mono {x : Activity α} (hx : x.Only P Q) (hP : ∀ c, P c → P' c) (hQ : ∀ a, Q a → Q' a) :
    x.Only P' Q' := by
  induction x with
  | done a => exact hQ a hx
  | call c next ih => exact ⟨hP c hx.1, fun answer => ih answer (hx.2 answer)⟩

theorem Only.bind {x : Activity α} {f : α → Activity β} (hx : x.Only P Q)
    (hf : ∀ a, Q a → (f a).Only P R) : (x.bind f).Only P R := by
  induction x with
  | done a => exact hf a hx
  | call c next ih => exact ⟨hx.1, fun answer => ih answer (hx.2 answer)⟩

theorem Only.and {x : Activity α} (h : x.Only P Q) (h' : x.Only P' Q') :
    x.Only (fun c => P c ∧ P' c) (fun a => Q a ∧ Q' a) := by
  induction x with
  | done a => exact ⟨h, h'⟩
  | call c next ih => exact ⟨⟨h.1, h'.1⟩, fun answer => ih answer (h.2 answer) (h'.2 answer)⟩

end Activity

/-- What activities are carried out in: in every state it answers a call, or leaves it waiting, and
goes on to another state. -/
abbrev Environment (σ : Type) := σ → (c : Call) → Option c.Answer × σ

namespace Environment

variable {σ α β : Type}

/-- The activity comes to its end there, with a result and in a state. -/
inductive Runs (env : Environment σ) : σ → Activity α → α → σ → Prop
  | done (s : σ) (a : α) : Runs env s (.done a) a s
  | call {s s₁ s' : σ} {c : Call} {next : c.Answer → Activity α} {answer : c.Answer} {a : α} :
    env s c = (some answer, s₁) → Runs env s₁ (next answer) a s' → Runs env s (.call c next) a s'

def perform (env : Environment σ) : Activity α → σ → World.Progress α × σ
  | .done a, s => (.finished a, s)
  | .call c next, s =>
    match env s c with
    | (some a, s) => perform env (next a) s
    | (none, s) => (.waiting (.call c next), s)

variable {env : Environment σ} {s s' : σ}

theorem Runs.of_done {a b : α} (h : env.Runs s (.done a) b s') : b = a ∧ s' = s := by
  cases h
  exact ⟨rfl, rfl⟩

theorem Runs.of_call {c : Call} {next : c.Answer → Activity α} {a : α}
    (h : env.Runs s (.call c next) a s') :
    ∃ answer s₁, env s c = (some answer, s₁) ∧ env.Runs s₁ (next answer) a s' := by
  cases h with
  | call hanswer h => exact ⟨_, _, hanswer, h⟩

theorem Runs.bind {s₁ : σ} {x : Activity α} {f : α → Activity β} {a : α} {b : β}
    (hx : env.Runs s x a s₁) (hf : env.Runs s₁ (f a) b s') : env.Runs s (x.bind f) b s' := by
  induction hx with
  | done => exact hf
  | call hanswer _ ih => exact .call hanswer (ih hf)

theorem Runs.of_bind {x : Activity α} {f : α → Activity β} {b : β}
    (h : env.Runs s (x.bind f) b s') :
    ∃ a s₁, env.Runs s x a s₁ ∧ env.Runs s₁ (f a) b s' := by
  induction x generalizing s with
  | done a => exact ⟨a, s, .done s a, h⟩
  | call c next ih =>
    obtain ⟨answer, s₁, hanswer, h⟩ := h.of_call
    obtain ⟨a, s₂, hx, hf⟩ := ih answer h
    exact ⟨a, s₂, .call hanswer hx, hf⟩

theorem runs_iff_perform {x : Activity α} {a : α} :
    env.Runs s x a s' ↔ env.perform x s = (.finished a, s') := by
  induction x generalizing s with
  | done b =>
    constructor
    · rintro ⟨⟩
      rfl
    · rintro ⟨⟩
      exact .done _ _
  | call c next ih =>
    rw [perform]
    constructor
    · intro h
      obtain ⟨answer, s₁, hanswer, h⟩ := h.of_call
      rw [hanswer]
      exact (ih answer).mp h
    · intro h
      split at h
      · next answer s₁ hanswer => exact .call hanswer ((ih answer).mpr h)
      · cases h

theorem perform_of_answer {s₁ : σ} {c : Call} {next : c.Answer → Activity α} {answer : c.Answer}
    (h : env s c = (some answer, s₁)) :
    env.perform (.call c next) s = env.perform (next answer) s₁ := by
  rw [perform, h]

/-- What holds between the states before and after every call that is made holds between the states
before and after an activity, also of one that is left waiting. -/
theorem rel_perform {R : σ → σ → Prop} (hrefl : ∀ s, R s s)
    (htrans : ∀ {s₀ s₁ s₂}, R s₀ s₁ → R s₁ s₂ → R s₀ s₂) {P : Call → Prop} {Q : α → Prop}
    (hP : ∀ c s, P c → R s (env s c).2) {x : Activity α} (hx : x.Only P Q) (s : σ) :
    R s (env.perform x s).2 := by
  induction x generalizing s with
  | done a => exact hrefl s
  | call c next ih =>
    have hc := hP c s hx.1
    rcases h : env s c with ⟨_ | a, s₁⟩
    · simpa [perform, h] using hc
    · simp only [perform, h]
      rw [h] at hc
      exact htrans hc (ih a (hx.2 a) s₁)

theorem Runs.rel {R : σ → σ → Prop} (hrefl : ∀ s, R s s)
    (htrans : ∀ {s₀ s₁ s₂}, R s₀ s₁ → R s₁ s₂ → R s₀ s₂) {P : Call → Prop} {Q : α → Prop}
    (hP : ∀ c s, P c → R s (env s c).2) {x : Activity α} (hx : x.Only P Q) {a : α}
    (h : env.Runs s x a s') : R s s' := by
  have hR := rel_perform hrefl htrans hP hx s
  rwa [runs_iff_perform.mp h] at hR

/-- What every result of an activity satisfies, the result of a run of it does. -/
theorem Runs.result {P : Call → Prop} {Q : α → Prop} {x : Activity α} {a : α}
    (h : env.Runs s x a s') (hx : x.Only P Q) : Q a := by
  induction h with
  | done => exact hx
  | call _ _ ih => exact ih (hx.2 _)

/-- An activity all of whose calls are answered at once comes to its end. -/
theorem exists_runs {P : Call → Prop} {Q : α → Prop}
    (hP : ∀ (c : Call) (s : σ), P c → (env s c).1.isSome) {x : Activity α} (hx : x.Only P Q)
    (s : σ) : ∃ a s', env.Runs s x a s' ∧ Q a := by
  induction x generalizing s with
  | done a => exact ⟨a, s, .done s a, hx⟩
  | call c next ih =>
    obtain ⟨answer, h⟩ := Option.isSome_iff_exists.mp (hP c s hx.1)
    obtain ⟨a, s', hnext, ha⟩ := ih answer (hx.2 answer) (env s c).2
    exact ⟨a, s', .call (Prod.ext h rfl) hnext, ha⟩

end Environment

namespace World

variable {α β : Type}

/-- The activity comes to its end in the world `w`: it returns `a` and leaves the world `w'`. -/
def Runs (w : World) (x : Activity α) (a : α) (w' : World) : Prop := perform x w = (.finished a, w')

theorem perform_bind (x : Activity α) (f : α → Activity β) (w : World) :
    perform (x.bind f) w =
      match perform x w with
      | (.finished a, w) => perform (f a) w
      | (.waiting rest, w) => (.waiting (rest.bind f), w) := by
  induction x generalizing w with
  | done a => rfl
  | call c next ih =>
    simp only [Activity.call_bind, perform]
    rcases w.answer c with ⟨_ | a, w₁⟩
    · rfl
    · exact ih a w₁

theorem serve_of_mem (w : World) {op : Operation} (h : op ∈ w.failing)
    (act : Except Failure α × World) :
    w.serve op act = (some (.error (.unavailable op.name)), w) :=
  if_pos (List.contains_iff_mem.mpr h)

theorem serve_of_not_mem (w : World) {op : Operation} (h : op ∉ w.failing)
    (act : Except Failure α × World) : w.serve op act = (some act.1, act.2) :=
  if_neg fun hcontains => h (List.contains_iff_mem.mp hcontains)

theorem runs_done (w : World) (a : α) : w.Runs (.done a) a w := rfl

theorem perform_of_answer {w w₁ : World} {c : Call} {next : c.Answer → Activity α}
    {answer : c.Answer} (h : w.answer c = (some answer, w₁)) :
    perform (.call c next) w = perform (next answer) w₁ := by
  simp only [perform, h]

theorem perform_of_no_answer {w w₁ : World} {c : Call} {next : c.Answer → Activity α}
    (h : w.answer c = (none, w₁)) : perform (.call c next) w = (.waiting (.call c next), w₁) := by
  simp only [perform, h]

theorem runs_call {w w₁ w₂ : World} {c : Call} {next : c.Answer → Activity α}
    {answer : c.Answer} {a : α} (h : w.answer c = (some answer, w₁))
    (hnext : w₁.Runs (next answer) a w₂) :
    w.Runs (.call c next) a w₂ := (perform_of_answer h).trans hnext

theorem Runs.of_call {w w₂ : World} {c : Call} {next : c.Answer → Activity α} {a : α}
    (h : w.Runs (.call c next) a w₂) :
    ∃ answer w₁, w.answer c = (some answer, w₁) ∧ w₁.Runs (next answer) a w₂ := by
  unfold Runs perform at h
  split at h
  · next answer w₁ hanswer => exact ⟨answer, w₁, hanswer, h⟩
  · cases h

theorem Runs.bind {w w₁ w₂ : World} {x : Activity α} {f : α → Activity β} {a : α} {b : β}
    (hx : w.Runs x a w₁) (hf : w₁.Runs (f a) b w₂) : w.Runs (x.bind f) b w₂ := by
  unfold Runs at *
  rw [perform_bind, hx]
  exact hf

theorem Runs.of_bind {w w₂ : World} {x : Activity α} {f : α → Activity β} {b : β}
    (h : w.Runs (x.bind f) b w₂) : ∃ a w₁, w.Runs x a w₁ ∧ w₁.Runs (f a) b w₂ := by
  unfold Runs at h
  rw [perform_bind] at h
  rcases hx : perform x w with ⟨a | rest, w₁⟩
  · rw [hx] at h
    exact ⟨a, w₁, hx, h⟩
  · simp [hx] at h

theorem Runs.of_done {w w₁ : World} {a b : α} (h : w.Runs (.done a) b w₁) : b = a ∧ w₁ = w := by
  simpa [Runs, perform, eq_comm] using h

theorem Runs.unique {w w₁ w₂ : World} {x : Activity α} {a b : α} (h : w.Runs x a w₁)
    (h' : w.Runs x b w₂) : b = a ∧ w₂ = w₁ := by
  simpa [Runs] using h'.symm.trans h

theorem Runs.attempt {w w₁ : World} {x : Activity α} {a : α} (h : w.Runs x a w₁) :
    w.attempt x = (some a, w₁) := by
  unfold Runs at h
  simp [World.attempt, h]

theorem runs_of_attempt {w : World} {x : Activity α} {a : α} (h : (w.attempt x).1 = some a) :
    w.Runs x a (w.attempt x).2 := by
  unfold attempt at *
  rcases hx : perform x w with ⟨b | rest, w₁⟩
  · rw [hx] at h
    cases h
    exact hx
  · rw [hx] at h
    cases h

theorem perform_answer (x : Activity α) (w : World) :
    Environment.perform answer x w = perform x w := by
  induction x generalizing w with
  | done a => rfl
  | call c next ih =>
    rw [Environment.perform, perform]
    rcases w.answer c with ⟨_ | a, w₁⟩
    · rfl
    · exact ih a w₁

/-- The world is an environment. -/
theorem runs_iff {w w' : World} {x : Activity α} {a : α} :
    w.Runs x a w' ↔ Environment.Runs answer w x a w' := by
  rw [Environment.runs_iff_perform, perform_answer]
  rfl

theorem rel_perform {R : World → World → Prop} (hrefl : ∀ w, R w w)
    (htrans : ∀ {w₀ w₁ w₂}, R w₀ w₁ → R w₁ w₂ → R w₀ w₂) {P : Call → Prop} {Q : α → Prop}
    (hP : ∀ c w, P c → R w (w.answer c).2) {x : Activity α} (hx : x.Only P Q) (w : World) :
    R w (perform x w).2 := by
  rw [← perform_answer]
  exact Environment.rel_perform hrefl htrans hP hx w

theorem exists_runs {P : Call → Prop} {Q : α → Prop}
    (hP : ∀ (c : Call) (w : World), P c → (w.answer c).1.isSome)
    {x : Activity α} (hx : x.Only P Q) (w : World) : ∃ a w₁, w.Runs x a w₁ ∧ Q a := by
  obtain ⟨a, w₁, hruns, ha⟩ := Environment.exists_runs hP hx w
  exact ⟨a, w₁, runs_iff.mpr hruns, ha⟩

theorem Runs.rel {R : World → World → Prop} (hrefl : ∀ w, R w w)
    (htrans : ∀ {w₀ w₁ w₂}, R w₀ w₁ → R w₁ w₂ → R w₀ w₂) {P : Call → Prop} {Q : α → Prop}
    (hP : ∀ c w, P c → R w (w.answer c).2) {x : Activity α} (hx : x.Only P Q) {w w₁ : World} {a : α}
    (h : w.Runs x a w₁) : R w w₁ :=
  (runs_iff.mp h).rel hrefl htrans hP hx

end World

end ChatFlow
