import ChatFlow.Proofs.Pausing
import ChatFlow.Proofs.Suspensions

namespace ChatFlow

open World

namespace Activity

variable {α β : Type}

/-- An activity talks, takes identifiers, and saves a record only under the one that it took last,
which was `held` before, and only once. -/
inductive Mints : Option Identifier → Activity α → Prop
  | done {held : Option Identifier} {a : α} : Mints held (.done a)
  | take {held : Option Identifier} {next : Identifier → Activity α}
    (hnext : ∀ id, Mints (some id) (next id)) :
      Mints held (.call .freshId next)
  | save {held : Option Identifier} {record : Suspension} {next : Except Failure Unit → Activity α}
      (hheld : held = some record.id) (hnext : ∀ answer, Mints none (next answer)) :
      Mints held (.call (.save record) next)
  | talk {held : Option Identifier} {c : Call} {next : c.Answer → Activity α} (hc : c.IsTalk)
      (hnext : ∀ answer, Mints held (next answer)) : Mints held (.call c next)

variable {held : Option Identifier} {x : Activity α}

theorem Mints.of_none (h : x.Mints none) (held : Option Identifier) : x.Mints held := by
  generalize hnone : none = held' at h
  induction h with
  | done => exact .done
  | take hnext ih => exact .take hnext
  | save hheld hnext ih =>
    subst hnone
    cases hheld
  | talk hc hnext ih => exact .talk hc fun answer => ih answer hnone

theorem Mints.bind {f : α → Activity β} (h : x.Mints held) (hf : ∀ a, (f a).Mints none) :
    (x.bind f).Mints held := by
  induction h with
  | done => exact (hf _).of_none _
  | take hnext ih => exact .take ih
  | save hheld hnext ih => exact .save hheld ih
  | talk hc hnext ih => exact .talk hc ih

theorem mints_of_isTalk {Q : α → Prop} (h : x.Only Call.IsTalk Q) : x.Mints held := by
  induction x with
  | done a => exact .done
  | call c next ih => exact .talk h.1 fun answer => ih answer (h.2 answer)

end Activity

section Mints

variable {settings : Settings} {botId conversationId version : String}

theorem Node.visit_mints (node : Node) (resuming : Bool) (context : Context) :
    (node.visit settings (.writer botId conversationId version) resuming context).Mints none := by
  unfold Node.visit
  split
  · exact .done
  · by_cases hs : node.Suspends
    · rw [Node.run_of_suspends hs]
      refine .talk trivial fun now => .talk trivial fun at_ => .take fun id =>
        .save rfl fun saved => ?_
      cases saved <;> exact .done
    · have honly := Node.run_only hs settings (.writer botId conversationId version) context
      exact Activity.mints_of_isTalk (honly.mono (fun _ h => h.isTalk) fun _ h => h)

theorem Flow.traverse_mints (index : Flow.Index) (start : String) (room : Nat) (resuming : Bool)
    (path : List String) (context : Context) (id : String) :
    (Flow.traverse settings (.writer botId conversationId version) index start room resuming path
      context id).Mints
      none := by
  induction room generalizing resuming path context id with
  | zero =>
    cases hid : index.contains id with
    | false =>
      rw [Flow.traverse_of_not_contains hid]
      exact .done
    | true =>
      rw [Flow.traverse_zero_of_contains hid]
      exact .done
  | succ room ih =>
    cases hnode : index.node? id with
    | none =>
      rw [Flow.traverse_of_node?_eq_none hnode]
      exact .done
    | some node =>
      rw [Flow.traverse_of_node? hnode]
      refine (Node.visit_mints node resuming context).bind ?_
      rintro (e | ⟨handle | resumeAt, context'⟩)
      · exact .done
      · rw [Flow.goOn]
        cases Flow.next settings.policy index node.id handle with
        | nowhere => exact .done
        | failure e => exact .done
        | node target => exact ih false (path ++ [id]) context' target
      · exact .done

/-- A resumed run saves what it asks to be kept under fresh identifiers. -/
theorem Flow.execute_resume_mints (flow : Flow) (node : String) (context : Context) :
    (flow.execute settings (.writer botId conversationId version) (.resume node) context).Mints
      none := by
  rw [Flow.execute_resume]
  exact (Flow.traverse_mints _ _ _ _ _ _ _).bind fun _ => .done

end Mints

def Call.onSuspensions : Call → SuspensionStore → SuspensionStore
  | .save record, store => store.save record
  | .loadDue at_ limit, store => (store.due at_ limit).2
  | .delete id, store => (store.delete id).2
  | .cancel botId conversationId, store => (store.cancel botId conversationId).2
  | _, store => store

theorem Call.onSuspensions_within {c : Call} (hc : ∀ record, c ≠ .save record)
    (store : SuspensionStore) :
    (c.onSuspensions store).Within store := by
  cases c with
  | save record => exact absurd rfl (hc record)
  | loadDue at_ limit => exact store.within_due at_ limit
  | delete id => exact store.within_delete id
  | cancel botId conversationId => exact store.within_cancel botId conversationId
  | _ => exact store.within_refl

namespace World

variable {w : World} {reserved : Identifier → Prop}

theorem nextId_le_answer (w : World) (c : Call) : w.nextId.value ≤ (w.answer c).2.nextId.value := by
  cases c with
  | send request =>
    exact Nat.le_of_eq (congrArg Identifier.value (talked_send w request).nextId).symm
  | freshId => exact Nat.le_succ _
  | _ =>
    first
      | exact Nat.le_refl _
      | exact serve_snd_of_forall (R := fun w' => w.nextId.value ≤ w'.nextId.value)
          (Nat.le_refl _) (Nat.le_refl _)

theorem serve_of_unfailing {α : Type} (h : w.failing = []) (op : Operation)
    (act : Except Failure α × World) :
    w.serve op act = (some act.1, act.2) := by
  unfold serve
  rw [h]
  rfl

theorem suspensions_serve {α : Type} (h : w.failing = []) (op : Operation)
    (act : Except Failure α × World) :
    (w.serve op act).2.suspensions = act.2.suspensions := by
  rw [serve_of_unfailing h]

theorem suspensions_answer (h : w.failing = []) (c : Call) :
    (w.answer c).2.suspensions = c.onSuspensions w.suspensions := by
  cases c with
  | send request => exact (talked_send w request).suspensions
  | _ => first | rfl | exact suspensions_serve h _ _

theorem eq_await_of_answer {c : Call} (h : (w.answer c).1 = none) : ∃ t, c = .await t := by
  cases c with
  | await t => exact ⟨t, rfl⟩
  | _ => simp [answer, ← Option.not_isSome_iff_eq_none] at h

/-- The stores are in service and in good order, and the identifiers that are reserved were
given. -/
structure Orderly (reserved : Identifier → Prop) (w : World) : Prop where
  unfailing : w.failing = []
  sound : w.suspensions.Sound w.nextId.value
  given : ∀ id, reserved id → id.value < w.nextId.value

/-- An identifier that was given, is not reserved, and under which nothing is kept yet. -/
structure Spare (reserved : Identifier → Prop) (w : World) (id : Identifier) : Prop where
  new : id.text ∉ w.suspensions.keys
  given : id.value < w.nextId.value
  unreserved : ¬ reserved id

/-- A record is kept, and belongs where the one belongs that was loaded. -/
structure Retains (w : World) (queued record : Suspension) : Prop where
  mem : record ∈ w.suspensions.records
  botId : record.botId = queued.botId
  conversationId : record.conversationId = queued.conversationId

theorem Orderly.answer (h : w.Orderly reserved) {c : Call}
    (hsave : ∀ record, c = .save record → w.Spare reserved record.id) :
    (w.answer c).2.Orderly reserved := by
  have hnextId := w.nextId_le_answer c
  refine ⟨(w.failing_answer c).trans h.unfailing, ?_,
    fun id hid => Nat.lt_of_lt_of_le (h.given id hid) hnextId⟩
  rw [suspensions_answer h.unfailing]
  refine SuspensionStore.Sound.mono ?_ hnextId
  by_cases hc : ∃ record, c = .save record
  · obtain ⟨record, rfl⟩ := hc
    have hspare := hsave record rfl
    exact h.sound.save hspare.new hspare.given
  · exact h.sound.within (Call.onSuspensions_within (fun record heq => hc ⟨record, heq⟩) _)

/-- Under an identifier that is reserved nothing comes to be kept. -/
theorem Orderly.not_mem_keys (h : w.Orderly reserved) {c : Call}
    (hsave : ∀ record, c = .save record → w.Spare reserved record.id) {id : Identifier}
    (hid : reserved id) (hgone : id.text ∉ w.suspensions.keys) :
    id.text ∉ (w.answer c).2.suspensions.keys := by
  rw [suspensions_answer h.unfailing]
  by_cases hc : ∃ record, c = .save record
  · obtain ⟨record, rfl⟩ := hc
    have hspare := hsave record rfl
    show id.text ∉ (w.suspensions.save record).keys
    rw [SuspensionStore.keys_save hspare.new, List.mem_append, List.mem_singleton]
    rintro (hmem | htext)
    · exact hgone hmem
    · exact hspare.unreserved (Identifier.text_injective htext ▸ hid)
  · intro hmem
    exact hgone
      ((Call.onSuspensions_within (fun record heq => hc ⟨record, heq⟩) _).keys.subset hmem)

end World

end ChatFlow
