namespace ChatFlow

inductive Failure
  /-- stored JSON does not have the expected shape -/
  | undecodable
  /-- the database refuses a statement -/
  | database
  /-- anything else, in words -/
  | other (message : String)
  deriving DecidableEq, Repr

namespace Failure

def unavailable (operation : String) : Failure := other (operation ++ " unavailable")

def message : Failure → String
  | undecodable => "stored JSON cannot be read"
  | database => "the database refused the statement"
  | other message => message

end Failure

end ChatFlow
