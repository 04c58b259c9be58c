import ChatFlow.Text.Category
import ChatFlow.Text.Hex

namespace ChatFlow.Text

/-- The characters beside the marks `Mn` and `Me` that merge with the one before them. -/
def extendingOthers : List Nat := [
  0x9BE, 0x9D7, 0xB3E, 0xB57, 0xBBE, 0xBD7, 0xCC2, 0xCD5, 0xCD6, 0xD3E, 0xD57, 0xDCF, 0xDDF, 0x1B35,
  0x302E, 0x302F, 0xFF9E, 0xFF9F, 0x1133E, 0x11357, 0x114B0, 0x114BD, 0x115AF, 0x11930, 0x1D165,
  0x1D16E, 0x1D16F, 0x1D170, 0x1D171, 0x1D172]

/-- The categories of characters that do not show, or merge with the one before. -/
def hiddenCategories : List String := ["Cc", "Cf", "Cs", "Co", "Cn", "Zl", "Zp", "Zs", "Mn", "Me"]

/-- Whether a character shows as itself: it is no control, format, private or unassigned character,
no separator other than the blank, and does not merge with the one before it. -/
def isVisible (c : Char) : Bool :=
  c == ' ' ||
    (!hiddenCategories.contains (category c.toNat) && !extendingOthers.contains c.toNat)

def escaped (c : Char) : List Char :=
  match c with
  | '\x00' => ['\\', '0']
  | '\t' => ['\\', 't']
  | '\n' => ['\\', 'n']
  | '\r' => ['\\', 'r']
  | '"' => ['\\', '"']
  | '\\' => ['\\', '\\']
  | c => if isVisible c then [c] else ['\\', 'u', '\x7b'] ++ hexDigits c.toNat ++ ['\x7d']

def quoted (s : String) : String := .ofList ('"' :: s.toList.flatMap escaped ++ ['"'])

def quotedList (items : List String) : String := "[" ++ ", ".intercalate (items.map quoted) ++ "]"

end ChatFlow.Text
