import ChatFlow.Flow.Basic
import ChatFlow.Json.Decoder

namespace ChatFlow

open Json.Decoder (required defaulted)

namespace NodeKind

def decoder : Json.Decoder NodeKind := fun room o => (Json.Decoder.text room o).map ofName

def toJson (kind : NodeKind) : Json := .text kind.name

end NodeKind

namespace Node

/-- A node under construction; the second level of `nested` is there where `data` is. -/
structure Draft where
  id : String
  kind : NodeKind
  config : Option (Keyed Json)
  nested : Option (Option (Keyed Json))

/-- The finished node. Fields in `config` come before those in `data`, and without either there are
none. -/
def Draft.toNode (d : Draft) : Node := ⟨d.id, d.kind, (d.config.or d.nested.join).getD []⟩

def configDecoder : Json.Decoder (Option (Keyed Json)) := .optional .members

def nestedDecoder : Json.Decoder (Option (Keyed Json)) :=
  .record [defaulted "config" configDecoder fun config _ => config] none

def draftDecoder : Json.Decoder Draft :=
  .record
    [required "id" .text fun id d => { d with id },
      required "type" NodeKind.decoder fun kind d => { d with kind },
      defaulted "config" configDecoder fun config d => { d with config },
      defaulted "data" (.optional nestedDecoder) fun nested d => { d with nested }]
    ⟨"", .unknown "", none, none⟩

def decoder : Json.Decoder Node := fun room o => (draftDecoder room o).map Draft.toNode

def toJson (node : Node) : Json :=
  .ofMembers [("id", .text node.id), ("type", node.kind.toJson), ("config", .object node.config)]

end Node

namespace Edge

def decoder : Json.Decoder Edge :=
  .record
    [defaulted "id" (.optional .text) fun id? e => { e with id? },
      required "source" .text fun source e => { e with source },
      required "target" .text fun target e => { e with target },
      defaulted "sourceHandle" (.optional .text) fun handle? e => { e with handle? }]
    ⟨none, "", "", none⟩

def toJson (edge : Edge) : Json :=
  .ofMembers <|
    (edge.id?.map fun id => ("id", .text id)).toList ++
      [("source", .text edge.source), ("target", .text edge.target)] ++
      (edge.handle?.map fun handle => ("sourceHandle", .text handle)).toList

end Edge

namespace Flow

def decoder : Json.Decoder Flow :=
  .record
    [defaulted "nodes" (.list Node.decoder) fun nodes f => { f with nodes },
      defaulted "edges" (.list Edge.decoder) fun edges f => { f with edges }]
    ⟨[], []⟩

def toJson (flow : Flow) : Json :=
  .ofMembers
    [("nodes", .list (flow.nodes.map Node.toJson)), ("edges", .list (flow.edges.map Edge.toJson))]

def ofText (text : String) : Except Json.Break Flow := decoder.ofText text

end Flow

end ChatFlow
