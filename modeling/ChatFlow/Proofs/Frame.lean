import ChatFlow.Proofs.Activity

namespace ChatFlow

/-- The time, what is said and noted in conversations, and requests to services. -/
def Call.IsTalk : Call → Prop
  | .now | .append _ _ | .touch _ _ | .setStatus _ _ _ | .send _ => True
  | _ => False

namespace World

/-- At most the conversations and the traffic with services differ. -/
def Talked (w w' : World) : Prop :=
  w' = { w with conversations := w'.conversations, replies := w'.replies, sent := w'.sent }

theorem Talked.refl (w : World) : w.Talked w := rfl

theorem Talked.trans {w w₁ w₂ : World} (h : w.Talked w₁) (h' : w₁.Talked w₂) : w.Talked w₂ := by
  unfold Talked at *
  rw [h'] at *
  rw [h]

theorem Talked.clock {w w' : World} (h : w.Talked w') : w'.clock = w.clock := by rw [h]

theorem Talked.failing {w w' : World} (h : w.Talked w') : w'.failing = w.failing := by rw [h]

theorem Talked.suspensions {w w' : World} (h : w.Talked w') :
    w'.suspensions = w.suspensions := by rw [h]

theorem Talked.registry {w w' : World} (h : w.Talked w') : w'.registry = w.registry := by rw [h]

theorem Talked.collected {w w' : World} (h : w.Talked w') : w'.collected = w.collected := by rw [h]

theorem Talked.locks {w w' : World} (h : w.Talked w') : w'.locks = w.locks := by rw [h]

theorem Talked.sweeping {w w' : World} (h : w.Talked w') : w'.sweeping = w.sweeping := by rw [h]

theorem Talked.nextId {w w' : World} (h : w.Talked w') : w'.nextId = w.nextId := by rw [h]

@[simp] theorem serve_fst_isSome {α : Type} (w : World) (op : Operation)
    (act : Except Failure α × World) :
    (w.serve op act).1.isSome := by
  unfold serve
  split <;> rfl

theorem serve_snd_of_forall {α : Type} {R : World → Prop} {w : World} {op : Operation}
    {act : Except Failure α × World} (hw : R w) (hact : R act.2) : R (w.serve op act).2 := by
  unfold serve
  split
  · exact hw
  · exact hact

theorem answer_isSome_of_isTalk {c : Call} (w : World) (hc : c.IsTalk) : (w.answer c).1.isSome := by
  cases c <;> simp_all [Call.IsTalk, answer]

theorem talked_send (w : World) (request : Request) : w.Talked (w.send request).2 := by
  unfold send
  split <;> rfl

theorem failing_answer (w : World) (c : Call) : (w.answer c).2.failing = w.failing := by
  cases c with
  | send request => exact (talked_send w request).failing
  | _ => first | rfl | exact serve_snd_of_forall (R := fun w' => w'.failing = w.failing) rfl rfl

theorem talked_answer {c : Call} (w : World) (hc : c.IsTalk) : w.Talked (w.answer c).2 := by
  cases c with
  | now => rfl
  | append id m => exact serve_snd_of_forall (Talked.refl w) rfl
  | touch id at_ => exact serve_snd_of_forall (Talked.refl w) rfl
  | setStatus id status at_ => exact serve_snd_of_forall (Talked.refl w) rfl
  | send request => exact talked_send w request
  | _ => exact hc.elim

/-- What only talks comes to its end, and nothing else happens. -/
theorem exists_runs_of_isTalk {α : Type} {Q : α → Prop} {x : Activity α} (hx : x.Only Call.IsTalk Q)
    (w : World) : ∃ a w', w.Runs x a w' ∧ Q a ∧ w.Talked w' := by
  obtain ⟨a, w', h, ha⟩ := exists_runs (fun _ => answer_isSome_of_isTalk) hx w
  exact ⟨a, w', h, ha, h.rel Talked.refl Talked.trans (fun _ => talked_answer) hx⟩

end World

end ChatFlow
