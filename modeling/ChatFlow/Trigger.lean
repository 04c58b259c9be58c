import ChatFlow.Flow.Index
import ChatFlow.Pattern.Reader

namespace ChatFlow

namespace Trigger

/-- The keywords of a field, separated by commas or listed; trimmed, in lower case, none of them
empty. -/
def keywords (field : Option Json) : List String :=
  let raw := match field with
    | some (.text s) => (Text.pieces ',' s.toList).map String.ofList
    | some (.list items) => items.filterMap Json.asText?
    | _ => []
  (raw.map fun keyword => Text.toLower (Text.trim keyword)).filter (!·.isEmpty)

def hasKeyword (field : Option Json) (text : String) : Bool :=
  let folded := (Text.toLower text).toList
  (keywords field).any fun keyword => Text.contains keyword.toList folded

/-- Whether a pattern occurs in a text. A blank pattern does not, nor does one that cannot be
read. -/
def hasPattern (field : Option String) (text : String) : Bool :=
  match field with
  | none => false
  | some spelled =>
    !Text.allBlank spelled && match Pattern.ofText? spelled with
      | some p => p.occursIn text
      | none => false

end Trigger

def Node.letsThrough (trigger : Node) (text : String) : Bool :=
  match (trigger.textField? "matchMode").map Text.trim with
  | some "keywords" => Trigger.hasKeyword (trigger.field? "keywords") text
  | some "regex" => Trigger.hasPattern (trigger.textField? "regex") text
  | _ => true

def Flow.accepts (flow : Flow) (text : String) : Bool :=
  let triggers := (Index.ofFlow flow).starts.filter fun node => node.kind == .newMessage
  triggers.isEmpty || triggers.any fun trigger => trigger.letsThrough text

end ChatFlow
