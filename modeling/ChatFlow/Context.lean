import ChatFlow.Json.Decoder
import ChatFlow.Text.Blank

namespace ChatFlow

namespace Path

/-- The index that a segment denotes: digits, perhaps after a plus sign, below `2 ^ 64`. -/
def index? (segment : String) : Option Nat := Decimal.natural? maxWord segment.toList

/-- One step into a value: a member of an object or an item of a list. -/
def step (v : Json) (segment : String) : Option Json :=
  match v with
  | .object members => Keyed.get? segment members
  | .list items => (index? segment).bind fun i => items[i]?
  | _ => none

def follow (v : Json) : List String → Option Json
  | [] => some v
  | segment :: rest => (step v segment).bind (follow · rest)

def get? (root : Json) (path : String) : Option Json := follow root (Text.segments path)

/-- The value at a dotted path below the members of an object. -/
def getIn? (root : Keyed Json) (path : String) : Option Json :=
  match Text.cutAt (· == '.') path.toList with
  | some (head, rest) => (Keyed.get? (.ofList head) root).bind (get? · (.ofList rest))
  | none => Keyed.get? path root

/-- The members of a value if it is an object, and no members otherwise. -/
def membersOf : Option Json → Keyed Json
  | some (.object members) => members
  | _ => []

/-- Writes a value at the end of some steps below an object. A step that does not lead to an object
gets a new one in its place. -/
def assign (value : Json) : List String → Keyed Json → Keyed Json
  | [], root => root
  | [leaf], root => Keyed.insert leaf value root
  | segment :: rest, root =>
    Keyed.insert segment (.object (assign value rest (membersOf (Keyed.get? segment root)))) root

/-- Writes a value at a dotted path; the empty path changes nothing. -/
def set (root : Keyed Json) (path : String) (value : Json) : Keyed Json :=
  if path.isEmpty then root else assign value (Text.segments path) root

end Path

/-- The working state of a flow: an object with the namespaces `contact`, `vars` and `meta`, read
and written through dotted paths. -/
structure Context where
  root : Keyed Json
  deriving DecidableEq

namespace Context

def contact : String := "contact"

def vars : String := "vars"

def meta_ : String := "meta"

/-- The field of `contact` with the channel identifier of the conversation. -/
def channelField : String := "wa_id"

def ensureObject (name : String) (root : Keyed Json) : Keyed Json :=
  match Keyed.get? name root with
  | some (.object _) => root
  | _ => Keyed.insert name (.object []) root

/-- The context with the given members; a namespace that is missing or no object becomes empty. -/
def ofMembers (root : Keyed Json) : Context :=
  ⟨ensureObject meta_ (ensureObject vars (ensureObject contact root))⟩

def empty : Context := ofMembers []

/-- The context with the members of a value; a value that is no object has none. -/
def ofJson : Json → Context
  | .object members => ofMembers members
  | _ => empty

def toJson (c : Context) : Json := .object c.root

def decoder : Json.Decoder Context := fun room o => (Json.Decoder.members room o).map ofMembers

def get? (c : Context) (path : String) : Option Json := Path.getIn? c.root path

def set (c : Context) (path : String) (value : Json) : Context := ⟨Path.set c.root path value⟩

def ofChannel (channel : String) : Context :=
  empty.set (contact ++ "." ++ channelField) (.text channel)

def «namespace» (c : Context) (name : String) : Keyed Json :=
  Path.membersOf (Keyed.get? name c.root)

/-- The channel identifier: a text that is not empty, or a number. -/
def channel? (c : Context) : Option String :=
  match Keyed.get? channelField (c.namespace contact) with
  | some (.text id) => if id.isEmpty then none else some id
  | some (.number n) => some (.ofList n.jsonText)
  | _ => none

/-- Copies fields into a namespace, each written at the path of its name. -/
def seed (c : Context) (name : String) (fields : Keyed Json) : Context :=
  fields.foldl (fun c (key, value) => c.set (name ++ "." ++ key) value) c

end Context

end ChatFlow
