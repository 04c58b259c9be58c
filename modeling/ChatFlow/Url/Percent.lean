import ChatFlow.Text.Hex
import ChatFlow.Text.Utf8

namespace ChatFlow.Percent

def digit (n : Nat) : Char := Char.ofNat (if n < 10 then 0x30 + n else 0x37 + n)

def escape (b : Nat) : List Char := ['%', digit (b / 16), digit (b % 16)]

/-- The bytes that are written as they are: ASCII without controls, and without the given
characters. -/
def plain (but : String) (b : Nat) : Bool :=
  0x20 ≤ b && b < 0x7F && !but.toList.contains (Char.ofNat b)

def encodeChar (isPlain : Nat → Bool) (c : Char) : List Char :=
  (Text.utf8Of c.toNat).flatMap fun b => if isPlain b then [Char.ofNat b] else escape b

def encode (isPlain : Nat → Bool) (cs : List Char) : List Char := cs.flatMap (encodeChar isPlain)

/-- The bytes of a text, with what percent signs stand for. A percent sign without two digits stands
for itself. -/
def decode : List Char → List Nat
  | [] => []
  | '%' :: a :: b :: rest =>
    match Text.hexValue? a, Text.hexValue? b with
    | some high, some low => (high * 16 + low) :: decode rest
    | _, _ => 0x25 :: decode (a :: b :: rest)
  | c :: rest => Text.utf8Of c.toNat ++ decode rest

def inOpaque : Nat → Bool := plain ""

def inFragment : Nat → Bool := plain " \"<>`"

def inPath : Nat → Bool := plain " \"<>`#?\x7b\x7d"

def inUser : Nat → Bool := plain " \"<>`#?\x7b\x7d/:;=@[\\]^|"

def inQuery : Nat → Bool := plain " \"#<>"

/-- What may stand in the query of an address of one of the well-known schemes. -/
def inSpecialQuery : Nat → Bool := plain " \"#<>'"

end ChatFlow.Percent
