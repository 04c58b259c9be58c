import ChatFlow.Json.Basic

namespace ChatFlow.Json

def hexDigit (n : Nat) : Char := Nat.digitChar n

/-- How a character is written inside a text: quotation mark, backslash and control characters are
escaped, everything else stands for itself. -/
def escape (c : Char) : List Char :=
  match c with
  | '"' => ['\\', '"']
  | '\\' => ['\\', '\\']
  | '\n' => ['\\', 'n']
  | '\r' => ['\\', 'r']
  | '\t' => ['\\', 't']
  | c =>
    if c.toNat = 8 then ['\\', 'b']
    else if c.toNat = 12 then ['\\', 'f']
    else if c.toNat < 32 then
      ['\\', 'u', '0', '0', hexDigit (c.toNat / 16), hexDigit (c.toNat % 16)]
    else [c]

def quote (s : String) : List Char := '"' :: s.toList.flatMap escape ++ ['"']

mutual

def print : Json → List Char → List Char
  | null, tail => 'n' :: 'u' :: 'l' :: 'l' :: tail
  | bool true, tail => 't' :: 'r' :: 'u' :: 'e' :: tail
  | bool false, tail => 'f' :: 'a' :: 'l' :: 's' :: 'e' :: tail
  | number n, tail => n.jsonText ++ tail
  | text s, tail => quote s ++ tail
  | list [], tail => '[' :: ']' :: tail
  | list (v :: rest), tail => '[' :: print v (printItems rest (']' :: tail))
  | object [], tail => '\x7b' :: '\x7d' :: tail
  | object ((k, v) :: rest), tail =>
    '\x7b' :: quote k ++ ':' :: print v (printMembers rest ('\x7d' :: tail))

def printItems : List Json → List Char → List Char
  | [], tail => tail
  | v :: rest, tail => ',' :: print v (printItems rest tail)

def printMembers : List (String × Json) → List Char → List Char
  | [], tail => tail
  | (k, v) :: rest, tail => ',' :: quote k ++ ':' :: print v (printMembers rest tail)

end

def compact (v : Json) : String := .ofList (print v [])

end ChatFlow.Json
