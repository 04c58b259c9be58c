import ChatFlow.Condition
import ChatFlow.FlowError
import ChatFlow.Policy
import ChatFlow.Run.Activity

namespace ChatFlow

structure Settings where
  policy : Policy
  /-- how many nodes one traversal may visit -/
  maxSteps : Nat
  /-- how long requests may take, in milliseconds, where the node does not say -/
  timeout : Nat
  deriving DecidableEq, Repr

inductive Outcome
  /-- go on along the edge of a handle -/
  | proceed (handle : Handle)
  /-- stop here until a time -/
  | suspend (resumeAt : Instant)
  deriving DecidableEq, Repr

abbrev NodeResult := Except FlowError (Outcome × Context)

namespace Node

def pass (context : Context) : NodeResult := .ok (.proceed Handle.out, context)

/-- A field as a text that is not blank, blanks around it aside, or else the text given. -/
def wordOr (node : Node) (key fallback : String) : String :=
  match (node.textField? key).map Text.trim with
  | some word => if word.isEmpty then fallback else word
  | none => fallback

/-- Appends a message to the conversation of the context, if it has one. -/
def sendMessage (node : Node) (context : Context) : Activity NodeResult :=
  match context.channel? with
  | none => return pass context
  | some channel => do
    let text := Template.applyValue context (node.field? "text")
    let now ← Activity.ask .now
    match ← Activity.ask (.append channel (.outgoing (node.wordOr "type" "text") text now)) with
    | .error failure => return .error (.store node.id failure)
    | .ok () =>
      match ← Activity.ask (.touch channel now) with
      | .error failure => return .error (.store node.id failure)
      | .ok () => return pass context

def takeOver (node : Node) (context : Context) : Activity NodeResult :=
  match context.channel? with
  | none => return pass context
  | some channel => do
    let now ← Activity.ask .now
    match ← Activity.ask (.setStatus channel .humanTakeover now) with
    | .error failure => return .error (.store node.id failure)
    | .ok () => return pass context

/-- Writes a text with its placeholders replaced below `contact` or `vars`. -/
def setVariable (node : Node) (context : Context) : NodeResult :=
  let name := Text.trim (((node.field? "name").map Coercion.text).getD "")
  let scope :=
    if node.textField? "scope" = some Context.contact then Context.contact else Context.vars
  let value := Template.applyValue context (node.field? "value")
  pass (context.set (scope ++ "." ++ name) (.text value))

/-- Takes one of two ways. An operator that is not known makes a strict run fail, and a condition
false otherwise. -/
def branch (policy : Policy) (node : Node) (context : Context) : NodeResult :=
  let conditions := Condition.ofBlock (node.field? "conditions")
  let holds := Condition.holdTogether conditions (.ofName (node.textField? "mode")) context
  let taken : NodeResult := .ok (.proceed (if holds then Handle.yes else Handle.no), context)
  match policy, conditions.find? (·.operator?.isNone) with
  | .strict, some c => .error (.unknownOperator node.id c.op)
  | _, _ => taken

def unitMillis (unit : String) : Nat :=
  match Text.trim unit with
  | "minutes" => 60000
  | "hours" => 3600000
  | "days" => 86400000
  | _ => 1000

/-- How long a delay takes, in milliseconds; not at all where the product is no positive number. -/
def delayMillis (node : Node) : Nat :=
  let amount := Coercion.optionalNumber (node.field? "ms")
  let unit := (node.textField? "unit").getD "seconds"
  let product := amount.mul (.ofInt (unitMillis unit))
  if product.isFinite then min product.truncate.toNat maxSignedWord else 0

def delay (sink : Sink) (node : Node) (context : Context) : Activity NodeResult := do
  let now ← Activity.ask .now
  let resumeAt := now.after node.delayMillis
  match ← sink ⟨node.id, resumeAt, context⟩ with
  | .error failure => return .error (.suspend node.id failure)
  | .ok () => return .ok (.suspend resumeAt, context)

def timeoutMillis (settings : Settings) (node : Node) : Nat :=
  let asked := Coercion.optionalNumber (node.field? "timeoutMs")
  if asked.isFinite && 1 ≤ asked.truncate then min asked.truncate.toNat maxWord
  else settings.timeout

/-- The body and the headers of a request. A body without a content type is said to be JSON. -/
def bodyAndHeaders (method : String) (node : Node) (context : Context) :
    String × List (String × String) :=
  let headers := Template.pairs context (node.field? "headers")
  if Request.carriesBody method && !Coercion.isBlank (node.field? "body") then
    let body := Template.applyValue context (node.field? "body")
    if headers.any fun (name, _) => name == "content-type" then (body, headers)
    else (body, headers ++ [("content-type", "application/json")])
  else ("", headers)

/-- The request of a node. Proofs only ask whether there is one, so it is not to be computed
there. -/
@[irreducible]
def request (settings : Settings) (node : Node) (context : Context) : Except FlowError Request := do
  let method := Text.toUpper (node.wordOr "method" "GET")
  if !Request.isToken method then throw (.invalidMethod node.id method)
  let spelled := Template.applyValue context (node.field? "url")
  let url ← match Url.ofText (Text.trim spelled) with
    | .ok url => pure url
    | .error defect => throw (.invalidUrl node.id spelled defect)
  let (body, headers) := bodyAndHeaders method node context
  return {
    method := method
    url := url.withPairs (Template.pairs context (node.field? "query"))
    headers := headers
    body := body
    timeout := timeoutMillis settings node }

/-- The value that a reply carries: JSON where it is announced, and otherwise a text. -/
def replyData (node : Node) (headers : List (String × String)) (body : String) :
    Except FlowError Json :=
  if Reply.announcesJson headers then
    match Json.parse body with
    | .ok data => .ok data
    | .error _ => .error (.invalidResponse node.id)
  else .ok (.text body)

def replyView (status : UInt16) (data : Json) : Json :=
  .ofMembers [("data", data), ("response", data), ("status", .ofNat status.toNat)]

/-- Copies values of a reply into the context, one mapping after the other. -/
def takeReply (node : Node) (context : Context) (view : Json) : Context :=
  (Template.mappings (node.field? "mapResponse")).foldl
    (fun context m => context.set m.target ((Path.get? view m.source).getD .null)) context

/-- Sends the request of a node and takes values from the reply. -/
def apiRequest (settings : Settings) (node : Node) (context : Context) : Activity NodeResult :=
  match node.request settings context with
  | .error e => return .error e
  | .ok request =>
    if !request.isSendable then return .error (.http node.id)
    else do
      match ← Activity.ask (.send request) with
      | .closed | .unreachable => return .error (.http node.id)
      | .silent => return .error (.timeout node.id request.timeout)
      | .answered status headers body =>
        return (node.replyData headers body).bind fun data =>
          pass (node.takeReply context (replyView status data))

def handle (settings : Settings) (sink : Sink) (node : Node) (context : Context) :
    Activity NodeResult :=
  match node.kind with
  | .newMessage | .scheduled | .unknown _ => return pass context
  | .sendMessage => node.sendMessage context
  | .apiRequest => node.apiRequest settings context
  | .setVariable => return node.setVariable context
  | .branch => return node.branch settings.policy context
  | .delay => node.delay sink context
  | .humanTakeover => node.takeOver context

/-- Why a strict run refuses a node before anything is done: its kind is not known, or a required
field is missing. -/
def refusal? (node : Node) : Option FlowError :=
  match node.kind with
  | .unknown name => some (.unknownKind node.id name)
  | kind => node.missingField?.map (.invalidConfig node.id kind.name)

/-- Runs a node. A permissive run passes by what a strict one refuses. -/
def run (settings : Settings) (sink : Sink) (node : Node) (context : Context) :
    Activity NodeResult :=
  match node.refusal?, settings.policy with
  | none, _ => node.handle settings sink context
  | some e, .strict => return .error e
  | some _, .permissive => return pass context

end Node

end ChatFlow
