import ChatFlow.Coercion
import ChatFlow.Flow.Basic

namespace ChatFlow

structure FieldSpec where
  key : String
  /-- the node does not run without it -/
  required : Bool
  /-- its value in a fresh node -/
  initial : Option Json

namespace NodeKind

def fields : NodeKind → List FieldSpec
  | newMessage =>
    [⟨"matchMode", false, some (.text "any")⟩, ⟨"keywords", false, none⟩, ⟨"regex", false, none⟩]
  | scheduled =>
    [⟨"scheduleType", false, some (.text "once")⟩, ⟨"dateTime", false, none⟩, ⟨"cron", false, none⟩]
  | sendMessage =>
    [⟨"type", false, some (.text "text")⟩,
      ⟨"text", true, some (.text "Hello \x7b\x7bcontact.name\x7d\x7d!")⟩]
  | apiRequest =>
    [⟨"method", false, some (.text "GET")⟩, ⟨"url", true, none⟩, ⟨"headers", false, none⟩,
      ⟨"query", false, none⟩, ⟨"body", false, none⟩, ⟨"mapResponse", false, none⟩,
      ⟨"timeoutMs", false, some (.ofNat 15000)⟩]
  | setVariable =>
    [⟨"scope", false, some (.text "contact")⟩, ⟨"name", true, none⟩, ⟨"value", false, none⟩]
  | branch =>
    [⟨"mode", false, some (.text "ALL")⟩, ⟨"conditions", true, some (.text "contact.name EXISTS")⟩]
  | delay => [⟨"ms", true, some (.ofNat 5)⟩, ⟨"unit", false, some (.text "minutes")⟩]
  | humanTakeover | unknown _ => []

def initialConfig (kind : NodeKind) : Keyed Json :=
  .ofList (kind.fields.filterMap fun spec => spec.initial.map fun value => (spec.key, value))

end NodeKind

def Node.fresh (id : String) (kind : NodeKind) : Node := ⟨id, kind, kind.initialConfig⟩

/-- The first required field that the node lacks: it is absent, `null`, blank text or an empty
list. -/
def Node.missingField? (node : Node) : Option String :=
  (node.kind.fields.find? fun spec => spec.required && Coercion.isBlank (node.field? spec.key)).map
    (·.key)

end ChatFlow
