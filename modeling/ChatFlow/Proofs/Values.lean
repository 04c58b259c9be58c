import ChatFlow.Proofs.Invariant
import ChatFlow.Proofs.Parsing

namespace ChatFlow

namespace Path

open Json

theorem wellFormed_get? {members : Keyed Json} (h : (object members).WellFormed) {key : String}
    {v : Json} (hv : Keyed.get? key members = some v) : v.WellFormed :=
  wellFormedMembers_iff.mp h.2 _ (Keyed.mem_of_get? hv)

theorem wellFormed_step {v w : Json} (h : v.WellFormed) {segment : String}
    (hw : step v segment = some w) :
    w.WellFormed := by
  cases v with
  | object members => exact wellFormed_get? h hw
  | list items =>
    obtain ⟨i, -, hi⟩ := Option.bind_eq_some_iff.mp hw
    exact wellFormedItems_iff.mp h w (List.mem_of_getElem? hi)
  | _ => cases hw

theorem wellFormed_follow {v w : Json} (h : v.WellFormed) {segments : List String}
    (hw : follow v segments = some w) : w.WellFormed := by
  induction segments generalizing v with
  | nil =>
    cases hw
    exact h
  | cons segment rest ih =>
    obtain ⟨u, hu, hw⟩ := Option.bind_eq_some_iff.mp hw
    exact ih (wellFormed_step h hu) hw

theorem wellFormed_membersOf {root : Keyed Json} (h : (object root).WellFormed) (key : String) :
    (object (membersOf (Keyed.get? key root))).WellFormed := by
  unfold membersOf
  split
  · next hmembers => exact wellFormed_get? h hmembers
  · exact wellFormed_nil

theorem wellFormed_assign {value : Json} (hvalue : value.WellFormed) (segments : List String)
    {root : Keyed Json} (h : (object root).WellFormed) :
    (object (assign value segments root)).WellFormed := by
  induction segments generalizing root with
  | nil => exact h
  | cons segment rest ih =>
    cases rest with
    | nil => exact wellFormed_insert h segment hvalue
    | cons => exact wellFormed_insert h segment (ih (wellFormed_membersOf h segment))

end Path

namespace Context

def Proper (c : Context) : Prop := c.toJson.WellFormed

theorem Proper.set {c : Context} (h : c.Proper) (path : String) {value : Json}
    (hvalue : value.WellFormed) :
    (c.set path value).Proper := by
  show (Json.object (Path.set c.root path value)).WellFormed
  unfold Path.set
  split
  · exact h
  · exact Path.wellFormed_assign hvalue _ h

theorem proper_ofMembers {root : Keyed Json} (h : (Json.object root).WellFormed) :
    (ofMembers root).Proper := by
  have hensure : ∀ (name : String) (root : Keyed Json), (Json.object root).WellFormed →
      (Json.object (ensureObject name root)).WellFormed := by
    intro name root hroot
    unfold ensureObject
    split
    · exact hroot
    · exact Json.wellFormed_insert hroot name Json.wellFormed_nil
  exact hensure meta_ _ (hensure vars _ (hensure contact _ h))

theorem proper_ofChannel (channel : String) : (ofChannel channel).Proper :=
  (proper_ofMembers Json.wellFormed_nil).set _ trivial

end Context

def Call.record? : Call → Option Suspension
  | .save record => some record
  | _ => none

theorem Call.IsTalk.record?_eq_none {c : Call} (h : c.IsTalk) : c.record? = none := by
  cases c with
  | save record => exact h.elim
  | _ => rfl

def Call.SavesProper (c : Call) : Prop := ∀ s, c.record? = some s → s.context.Proper

theorem Call.IsTalk.savesProper {c : Call} (h : c.IsTalk) : c.SavesProper := by
  intro s hs
  rw [h.record?_eq_none] at hs
  cases hs

namespace Node

def LeavesProper : NodeResult → Prop := NodeResult.Within Context.Proper fun _ => True

variable {settings : Settings} {node : Node} {context : Context}
    {botId conversationId version : String}

theorem proper_takeReply (h : context.Proper) {view : Json} (hview : view.WellFormed) :
    (node.takeReply context view).Proper := by
  unfold takeReply
  generalize Template.mappings (node.field? "mapResponse") = mappings
  induction mappings generalizing context with
  | nil => exact h
  | cons m rest ih =>
    refine ih (h.set m.target ?_)
    cases hvalue : Path.get? view m.source with
    | none => trivial
    | some value => exact Path.wellFormed_follow hview hvalue

theorem wellFormed_replyView (status : UInt16) {data : Json} (h : data.WellFormed) :
    (replyView status data).WellFormed := by
  have hstatus : (Json.ofNat status.toNat).WellFormed := by
    have hlt := status.toNat_lt
    simp only [Json.ofNat, Json.WellFormed, Number.Valid, maxSignedWord, maxWord]
    omega
  refine Json.wellFormed_ofMembers fun m hm => ?_
  simp only [List.mem_cons, List.not_mem_nil, or_false] at hm
  rcases hm with rfl | rfl | rfl
  · exact h
  · exact h
  · exact hstatus

theorem wellFormed_replyData {headers : List (String × String)} {body : String} {data : Json}
    (h : node.replyData headers body = .ok data) : data.WellFormed := by
  unfold replyData at h
  split at h
  · split at h
    · next hparse =>
      cases h
      exact Json.wellFormed_of_parse hparse
    · cases h
  · cases h
    trivial

theorem leavesProper_replied (h : context.Proper) (status : UInt16)
    (headers : List (String × String)) (body : String) :
    LeavesProper ((node.replyData headers body).bind fun data =>
      pass (node.takeReply context (replyView status data))) := by
  cases hdata : node.replyData headers body with
  | error e => trivial
  | ok data => exact proper_takeReply h (wellFormed_replyView status (wellFormed_replyData hdata))

theorem apiRequest_leavesProper (h : context.Proper) :
    (node.apiRequest settings context).Only (fun _ => True) LeavesProper := by
  unfold apiRequest
  cases node.request settings context with
  | error e => trivial
  | ok request =>
    dsimp only
    split
    · trivial
    · refine ⟨trivial, fun reply => ?_⟩
      cases reply with
      | answered status headers body => exact leavesProper_replied h status headers body
      | _ => trivial

theorem leavesProper_setVariable (h : context.Proper) :
    LeavesProper (node.setVariable context) := by
  have htext : (Json.text (Template.applyValue context (node.field? "value"))).WellFormed := trivial
  show (context.set _ _).Proper
  exact h.set _ htext

/-- A node that writes to nothing leaves the context as it was. -/
theorem proper_of_written (hwrites : node.writes = []) {context' : Context} (h : context.Proper)
    (hwritten : context.Written node.writes context') : context'.Proper := by
  induction hwritten with
  | refl => exact h
  | set value _ hpath _ =>
    rw [hwrites] at hpath
    cases hpath

theorem run_leavesProper (hs : ¬ node.Suspends) (sink : Sink) (h : context.Proper) :
    (node.run settings sink context).Only Call.IsTalk LeavesProper := by
  have honly := (run_only hs settings sink context).mono (fun _ hc => hc.isTalk) fun _ hr => hr
  -- what a node does to the context when it goes on is told from its kind
  suffices hleaves : (node.run settings sink context).Only (fun _ => True) LeavesProper from
    (honly.and hleaves).mono (fun _ hc => hc.1) fun _ hr => hr.2
  by_cases hwrites : node.writes = []
  · refine honly.mono (fun _ _ => trivial) fun r hr => ?_
    rcases r with e | ⟨handle | resumeAt, context'⟩
    · trivial
    · exact proper_of_written hwrites h hr
    · exact hr.elim
  · cases hr : node.refusal? with
    | some e =>
      rw [run_of_refused hr]
      cases settings.policy with
      | strict => trivial
      | permissive => exact h
    | none =>
      simp only [run, hr, handle]
      cases hkind : node.kind with
      | apiRequest => exact apiRequest_leavesProper h
      | setVariable => exact leavesProper_setVariable h
      | _ =>
        rw [writes, hkind] at hwrites
        exact absurd rfl hwrites

theorem delay_savesProper (h : context.Proper) :
    (node.delay (.writer botId conversationId version) context).Only Call.SavesProper
      LeavesProper := by
  refine ⟨nofun, fun now => ⟨nofun, fun _ => ⟨nofun, fun id => ⟨?_, fun saved => ?_⟩⟩⟩⟩
  · rintro _ ⟨⟩
    exact h
  · cases saved with
    | error failure => trivial
    | ok _ => exact h

end Node

/-- What a run of a flow from a proper context saves has a proper context. -/
theorem Flow.upholds_proper (settings : Settings) (flow : Flow)
    (botId conversationId version : String) :
    Upholds settings (.writer botId conversationId version) flow Call.SavesProper Context.Proper
      fun _ => True where
  visit node _ resuming context h := by
    unfold Node.visit
    split
    · exact h
    · by_cases hs : node.Suspends
      · rw [Node.run_of_suspends hs]
        exact Node.delay_savesProper h
      · exact (Node.run_leavesProper hs _ h).mono (fun _ hc => hc.savesProper) fun _ hr => hr
  next _ _ _ _ := trivial
  limit _ := trivial

end ChatFlow
