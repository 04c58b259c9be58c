import ChatFlow.Url.Form
import ChatFlow.Url.Host

namespace ChatFlow

structure Url where
  /-- in lower case, without the colon -/
  scheme : String
  user : String
  password : String
  /-- an address without one has no authority -/
  host? : Option Host
  /-- the port, unless it is the usual one of the scheme -/
  port? : Option Nat
  path : String
  query? : Option String
  fragment? : Option String
  deriving DecidableEq, Repr

namespace Url

def usualPort? : String → Option Nat
  | "http" | "ws" => some 80
  | "https" | "wss" => some 443
  | "ftp" => some 21
  | _ => none

/-- Whether a scheme is one of those whose addresses always have an authority and a path. -/
def isSpecial (scheme : String) : Bool := (usualPort? scheme).isSome || scheme == "file"

def userText (url : Url) : String :=
  if url.user.isEmpty && url.password.isEmpty then ""
  else url.user ++ (if url.password.isEmpty then "" else ":" ++ url.password) ++ "@"

def authorityText (url : Url) : String :=
  match url.host? with
  | none => if url.path.startsWith "//" then "/." else ""
  | some host =>
    "//" ++ url.userText ++ host.text ++ ((url.port?.map fun port => ":" ++ toString port).getD "")

def requestText (url : Url) : String :=
  url.scheme ++ ":" ++ url.authorityText ++ url.path ++ ((url.query?.map ("?" ++ ·)).getD "")

def text (url : Url) : String := url.requestText ++ ((url.fragment?.map ("#" ++ ·)).getD "")

def pairs (url : Url) : List (String × String) := (url.query?.map Form.read).getD []

/-- The address with keys of its query set; earlier values of these keys go. Without any the query
stays as it is. -/
def withPairs (url : Url) (new : List (String × String)) : Url :=
  if new.isEmpty then url else { url with query? := some (Form.print (Form.merge url.pairs new)) }

end Url

end ChatFlow
