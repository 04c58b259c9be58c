import ChatFlow.Text.Blank
import ChatFlow.Url.Percent

namespace ChatFlow.Form

/-- The bytes that are written as they are: letters, digits and `*-._`. -/
def isPlain (b : Nat) : Bool :=
  (0x30 ≤ b && b ≤ 0x39) || (0x41 ≤ b && b ≤ 0x5A) || (0x61 ≤ b && b ≤ 0x7A) ||
    b == 0x2A || b == 0x2D || b == 0x2E || b == 0x5F

def encodeByte (b : Nat) : List Char :=
  if isPlain b then [Char.ofNat b] else if b = 0x20 then ['+'] else Percent.escape b

def encode (s : String) : List Char := (Text.toUtf8 s.toList).flatMap encodeByte

def decode (cs : List Char) : String :=
  .ofList (Text.ofUtf8 (Percent.decode (cs.map fun c => if c = '+' then ' ' else c)))

def encodePair (pair : String × String) : List Char := encode pair.1 ++ '=' :: encode pair.2

def print (pairs : List (String × String)) : String :=
  .ofList (['&'].intercalate (pairs.map encodePair))

/-- The pair that was written; without an equals sign the value is empty. -/
def decodePair (cs : List Char) : String × String :=
  match Text.cutAt (· == '=') cs with
  | some (key, value) => (decode key, decode value)
  | none => (decode cs, "")

def read (query : String) : List (String × String) :=
  ((Text.pieces '&' query.toList).filter (!·.isEmpty)).map decodePair

/-- Sets the value of a key: earlier pairs of that key go, and the new one comes last. -/
def set (pairs : List (String × String)) (pair : String × String) : List (String × String) :=
  pairs.filter (fun old => old.1 != pair.1) ++ [pair]

def merge (pairs new : List (String × String)) : List (String × String) := new.foldl set pairs

end ChatFlow.Form
