import ChatFlow.Json.Decoder

namespace ChatFlow

/-- What becomes of mistakes in a flow: a permissive run degrades and goes on, a strict one
fails. -/
inductive Policy
  | permissive
  | strict
  deriving DecidableEq, Repr

namespace Policy

def name : Policy → String
  | permissive => "permissive"
  | strict => "strict"

def ofName? (name : String) : Option Policy := [permissive, strict].find? (·.name == name)

def decoder : Json.Decoder Policy := .variant ofName?

def toJson (policy : Policy) : Json := .text policy.name

end Policy

end ChatFlow
