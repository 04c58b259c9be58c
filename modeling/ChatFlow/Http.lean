import ChatFlow.Url.Reader

namespace ChatFlow

structure Request where
  method : String
  url : Url
  /-- names in lower case, in the order in which they were set -/
  headers : List (String × String)
  body : String
  /-- how long to wait for the reply, in milliseconds -/
  timeout : Nat
  deriving DecidableEq, Repr

inductive Reply
  | answered (status : UInt16) (headers : List (String × String)) (body : String)
  /-- the connection was closed without an answer -/
  | closed
  /-- no answer came in time -/
  | silent
  /-- the service could not be reached -/
  | unreachable
  deriving DecidableEq, Repr

namespace Request

def isTokenChar (c : Char) : Bool := c.isAlphanum || "!#$%&'*+-.^_`|~".toList.contains c

def isToken (s : String) : Bool := !s.isEmpty && s.toList.all isTokenChar

/-- Whether a text can be the value of a header: no controls other than tabs. -/
def isHeaderValue (s : String) : Bool :=
  s.toList.all fun c => c == '\t' || (0x20 ≤ c.toNat && c.toNat ≠ 0x7F)

def isSendable (r : Request) : Bool :=
  (r.url.scheme == "http" || r.url.scheme == "https") &&
    r.headers.all fun (name, value) => isToken name && isHeaderValue value

def carriesBody (method : String) : Bool := ["POST", "PUT", "PATCH", "DELETE"].contains method

end Request

namespace Reply

def isPlain (value : String) : Bool :=
  value.toList.all fun c => c == '\t' || (0x20 ≤ c.toNat && c.toNat < 0x7F)

/-- Whether headers announce JSON; of several content types the first counts. -/
def announcesJson (headers : List (String × String)) : Bool :=
  match headers.find? fun (name, _) => name.toLower == "content-type" with
  | some (_, value) => isPlain value && Text.contains "application/json".toList value.toList
  | none => false

end Reply

end ChatFlow
