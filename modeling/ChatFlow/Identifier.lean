import ChatFlow.Json.Decoder

namespace ChatFlow

/-- A record identifier: a number of 128 bits, written as 32 hexadecimal digits in five groups. -/
structure Identifier where
  value : Nat
  deriving DecidableEq, Repr, Inhabited

namespace Identifier

def digits (id : Identifier) : List Char :=
  let ds := Text.hexDigits id.value
  List.replicate (32 - ds.length) '0' ++ ds

/-- The text of an identifier, in groups of 8, 4, 4, 4 and 12 digits. -/
def text (id : Identifier) : String :=
  let ds := id.digits
  .ofList (ds.take 8 ++ '-' :: (ds.drop 8).take 4 ++ '-' :: (ds.drop 12).take 4 ++
    '-' :: (ds.drop 16).take 4 ++ '-' :: ds.drop 20)

def ofDigits? (ds : List Char) : Option Identifier :=
  if ds.length = 32 && ds.all Text.isHex then
    some ⟨Text.hexNumber ds⟩
  else none

def ofGroups? (cs : List Char) : Option Identifier :=
  if cs.length = 36 && [8, 13, 18, 23].all fun i => cs[i]? == some '-' then
    ofDigits? (cs.take 8 ++ (cs.drop 9).take 4 ++ (cs.drop 14).take 4 ++ (cs.drop 19).take 4 ++
      cs.drop 24)
  else none

def ofText? (s : String) : Option Identifier :=
  let cs := s.toList
  match cs.length with
  | 32 => ofDigits? cs
  | 36 => ofGroups? cs
  | 38 =>
    if cs.head? = some '\x7b' ∧ cs.getLast? = some '\x7d' then ofGroups? ((cs.drop 1).take 36)
      else none
  | 45 => if "urn:uuid:".toList.isPrefixOf cs then ofGroups? (cs.drop 9) else none
  | _ => none

def decoder : Json.Decoder Identifier := Json.Decoder.text.refine ofText?

end Identifier

end ChatFlow
