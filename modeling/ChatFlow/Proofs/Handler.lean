import ChatFlow.Flow.Issue
import ChatFlow.Proofs.Frame
import ChatFlow.Run.Handler

namespace ChatFlow

/-- Calls of a node whose context has this channel: nothing else is written to, messages go out, and
the only status that is set is that of a human in charge. -/
def Call.Addresses (channel : Option String) : Call → Prop
  | .now | .send _ => True
  | .append id m => channel = some id ∧ m.direction = .outgoing
  | .touch id _ => channel = some id
  | .setStatus id status _ => channel = some id ∧ status = .humanTakeover
  | _ => False

theorem Call.Addresses.isTalk {channel : Option String} {c : Call} (h : c.Addresses channel) :
    c.IsTalk := by
  cases c <;> trivial

def Call.Notes (channel : Option String) (c : Call) : Prop :=
  c.Addresses channel ∧ ∀ request, c ≠ .send request

/-- One context comes from another by writing to some of the given paths. -/
inductive Context.Written (paths : List String) (context : Context) : Context → Prop
  | refl : Written paths context context
  | set {context' : Context} {path : String} (value : Json) :
    Written paths context context' → path ∈ paths → Written paths context (context'.set path value)

def FlowError.IsMistake : FlowError → Prop
  | .unknownKind _ _ | .invalidConfig _ _ _ | .unknownOperator _ _ | .danglingEdge _ _ |
    .stepLimit _ _ =>
    True
  | _ => False

namespace Node

def variablePath (node : Node) : String :=
  (if node.textField? "scope" =
    some Context.contact then Context.contact else Context.vars) ++ "." ++
    Text.trim (((node.field? "name").map Coercion.text).getD "")

def writes (node : Node) : List String :=
  match node.kind with
  | .setVariable => [node.variablePath]
  | .apiRequest => (Template.mappings (node.field? "mapResponse")).map (·.target)
  | _ => []

/-- The node asks its sink to suspend the run: a delay that is not refused. -/
def Suspends (node : Node) : Prop := node.kind = .delay ∧ node.refusal? = none

instance (node : Node) : Decidable node.Suspends := inferInstanceAs (Decidable (_ ∧ _))

def Yields (policy : Policy) (node : Node) (context : Context) : NodeResult → Prop
  | .ok (.proceed _, context') => context.Written node.writes context'
  | .ok (.suspend _, _) => False
  | .error e => e.IsMistake → policy = .strict ∧ node.issues ≠ []

variable {settings : Settings} {policy : Policy} {node : Node} {context : Context}

theorem yields_pass : node.Yields policy context (pass context) := Context.Written.refl

theorem yields_error {e : FlowError} (h : ¬ e.IsMistake) : node.Yields policy context (.error e) :=
  fun h' => absurd h' h

theorem refusal?_eq_none_of_issues (h : node.issues = []) : node.refusal? = none := by
  unfold issues at h
  unfold refusal?
  cases hkind : node.kind with
  | unknown name => simp [hkind] at h
  | _ =>
    simp only [hkind, List.append_eq_nil_iff, Option.toList_eq_nil_iff, Option.map_eq_none_iff] at h
    simp [h.1]

theorem run_of_refused {e : FlowError} (h : node.refusal? = some e) (settings : Settings)
    (sink : Sink) (context : Context) :
    node.run settings sink context =
      .done (match settings.policy with | .strict => .error e | .permissive => pass context) := by
  simp only [run, h]
  cases settings.policy <;> rfl

theorem run_of_suspends (h : node.Suspends) (settings : Settings) (sink : Sink)
    (context : Context) :
    node.run settings sink context = node.delay sink context := by
  simp only [run, h.2, handle, h.1]

theorem sendMessage_only :
    (node.sendMessage context).Only (Call.Notes context.channel?) (node.Yields policy context) := by
  unfold sendMessage
  cases hchannel : context.channel? with
  | none => exact yields_pass
  | some channel =>
    refine ⟨⟨trivial, nofun⟩, fun now => ⟨⟨⟨rfl, rfl⟩, nofun⟩, fun appended => ?_⟩⟩
    cases appended with
    | error failure => exact yields_error (fun h => h)
    | ok _ =>
      refine ⟨⟨rfl, nofun⟩, fun touched => ?_⟩
      cases touched with
      | error failure => exact yields_error (fun h => h)
      | ok _ => exact yields_pass

theorem takeOver_only :
    (node.takeOver context).Only (Call.Notes context.channel?) (node.Yields policy context) := by
  unfold takeOver
  cases hchannel : context.channel? with
  | none => exact yields_pass
  | some channel =>
    refine ⟨⟨trivial, nofun⟩, fun now => ⟨⟨⟨rfl, rfl⟩, nofun⟩, fun written => ?_⟩⟩
    cases written with
    | error failure => exact yields_error (fun h => h)
    | ok _ => exact yields_pass

theorem yields_setVariable (hkind : node.kind = .setVariable) :
    node.Yields policy context (node.setVariable context) := by
  have hpath : node.variablePath ∈ node.writes := by simp [writes, hkind]
  exact Context.Written.set _ .refl hpath

theorem written_takeReply (hkind : node.kind = .apiRequest) (view : Json) :
    context.Written node.writes (node.takeReply context view) := by
  have hwrites : ∀ m ∈ Template.mappings (node.field? "mapResponse"), m.target ∈ node.writes := by
    intro m hm
    rw [writes, hkind]
    exact List.mem_map_of_mem hm
  unfold takeReply
  generalize Template.mappings (node.field? "mapResponse") = mappings at hwrites
  -- the fold starts with any context that was written so far
  suffices ∀ context', context.Written node.writes context' → context.Written node.writes
      (mappings.foldl (fun c m => c.set m.target ((Path.get? view m.source).getD .null))
        context') from
    this context .refl
  induction mappings with
  | nil => exact fun _ h => h
  | cons m rest ih =>
    intro context' h
    exact ih (fun m hm => hwrites m (List.mem_cons_of_mem _ hm)) _
      (.set _ h (hwrites m List.mem_cons_self))

theorem not_isMistake_of_request {e : FlowError} (h : node.request settings context = .error e) :
    ¬ e.IsMistake := by
  unfold request at h
  dsimp only at h
  split at h
  · cases h
    exact fun h => h
  · cases hurl : Url.ofText (Text.trim (Template.applyValue context (node.field? "url"))) with
    | ok url => simp [hurl, bind, Except.bind, pure, Except.pure] at h
    | error defect =>
      simp only [hurl, bind, Except.bind, throw, throwThe, MonadExceptOf.throw] at h
      cases h
      exact fun h => h

theorem yields_replied (hkind : node.kind = .apiRequest) (status : UInt16)
    (headers : List (String × String)) (body : String) :
    node.Yields policy context ((node.replyData headers body).bind fun data =>
      pass (node.takeReply context (replyView status data))) := by
  unfold replyData
  split
  · cases Json.parse body with
    | ok data => exact written_takeReply hkind _
    | error b => exact yields_error (fun h => h)
  · exact written_takeReply hkind _

theorem apiRequest_congr {settings' : Settings} (h : settings.timeout = settings'.timeout) :
    node.apiRequest settings context = node.apiRequest settings' context := by
  have htimeout : timeoutMillis settings node = timeoutMillis settings' node := by
    rw [timeoutMillis, timeoutMillis, h]
  simp only [apiRequest, request, htimeout]

theorem apiRequest_only (hkind : node.kind = .apiRequest) :
    (node.apiRequest settings context).Only (Call.Addresses context.channel?)
      (node.Yields policy context) := by
  unfold apiRequest
  cases hrequest : node.request settings context with
  | error e => exact yields_error (not_isMistake_of_request hrequest)
  | ok request =>
    dsimp only
    split
    · exact yields_error (fun h => h)
    · refine ⟨trivial, fun reply => ?_⟩
      cases reply with
      | answered status headers body => exact yields_replied hkind status headers body
      | closed => exact yields_error (fun h => h)
      | unreachable => exact yields_error (fun h => h)
      | silent => exact yields_error (fun h => h)

theorem yields_branch (hkind : node.kind = .branch) (policy : Policy) :
    node.Yields policy context (node.branch policy context) := by
  unfold branch
  dsimp only
  split
  · next c hc =>
    refine fun _ => ⟨rfl, fun hissues => ?_⟩
    have hmem := List.mem_filter.mpr ⟨List.mem_of_find?_eq_some hc, List.find?_some hc⟩
    simp only [issues, hkind, List.append_eq_nil_iff, if_pos, List.map_eq_nil_iff] at hissues
    rw [hissues.2] at hmem
    cases hmem
  · exact Context.Written.refl

/-- Nothing is called where a node is refused, and then it has an issue. -/
theorem run_only_of_refused {P : Call → Prop} {e : FlowError} (hr : node.refusal? = some e)
    (settings : Settings) (sink : Sink) (context : Context) :
    (node.run settings sink context).Only P (node.Yields settings.policy context) := by
  rw [run_of_refused hr]
  cases hpolicy : settings.policy with
  | permissive => exact yields_pass
  | strict =>
    refine fun _ => ⟨rfl, fun hissues => ?_⟩
    rw [refusal?_eq_none_of_issues hissues] at hr
    cases hr

/-- A node that neither suspends nor is there for requests talks on its channel and goes on unless
it fails. -/
theorem run_only_notes (h : ¬ node.Suspends) (hrequest : node.kind ≠ .apiRequest)
    (settings : Settings) (sink : Sink) (context : Context) :
    (node.run settings sink context).Only (Call.Notes context.channel?)
      (node.Yields settings.policy context) := by
  cases hr : node.refusal? with
  | some e => exact run_only_of_refused hr settings sink context
  | none =>
    simp only [run, hr, handle]
    cases hkind : node.kind with
    | sendMessage => exact sendMessage_only
    | apiRequest => exact absurd hkind hrequest
    | setVariable => exact yields_setVariable hkind
    | branch => exact yields_branch hkind settings.policy
    | delay => exact absurd ⟨hkind, hr⟩ h
    | humanTakeover => exact takeOver_only
    | newMessage => exact yields_pass
    | scheduled => exact yields_pass
    | unknown name => exact yields_pass

/-- A node that does not suspend talks on its channel and to services, and goes on unless it
fails. -/
theorem run_only (h : ¬ node.Suspends) (settings : Settings) (sink : Sink) (context : Context) :
    (node.run settings sink context).Only (Call.Addresses context.channel?)
      (node.Yields settings.policy context) := by
  by_cases hkind : node.kind = .apiRequest
  · cases hr : node.refusal? with
    | none =>
      simp only [run, hr, handle, hkind]
      exact @apiRequest_only settings settings.policy node context hkind
    | some e => exact run_only_of_refused hr settings sink context
  · exact (run_only_notes h hkind settings sink context).mono
      (fun _ hcall => hcall.1) fun _ hr => hr

theorem run_sink (h : ¬ node.Suspends) (settings : Settings) (sink sink' : Sink)
    (context : Context) :
    node.run settings sink context = node.run settings sink' context := by
  cases hr : node.refusal? with
  | some e => rw [run_of_refused hr, run_of_refused hr]
  | none =>
    simp only [run, hr, handle]
    cases hkind : node.kind with
    | delay => exact absurd ⟨hkind, hr⟩ h
    | _ => rfl

end Node

end ChatFlow
