import ChatFlow.Json.Printer
import ChatFlow.Json.Outline
import ChatFlow.Text.Blank

namespace ChatFlow.Coercion

/-- A value as running text. Lists and objects are written as compact JSON. -/
def text : Json → String
  | .text s => s
  | .null => "null"
  | .bool true => "true"
  | .bool false => "false"
  | .number (.real x) => x.plainText
  | .number n => .ofList n.jsonText
  | v => v.compact

def optionalText : Option Json → String
  | some v => text v
  | none => "undefined"

/-- Whether a text is `0x` or `0X` and one or more hexadecimal digits. -/
def isHexLiteral : List Char → Bool
  | '0' :: x :: digits =>
    (x == 'x' || x == 'X') && !digits.isEmpty && digits.all Text.isHex
  | _ => false

def hexNumber (digits : List Char) : Binary64 :=
  let n := Text.hexNumber digits
  if n ≤ maxSignedWord then .ofInt n else .nan

def isForeignLetter (c : Char) : Bool :=
  c.isAlpha && !(c == 'e' || c == 'E' || c == 'x' || c == 'X')

/-- The number that a text spells, blanks around it aside; no text at all is zero. -/
def numeral (s : String) : Binary64 :=
  let cs := Text.trimBoth s.toList
  if cs.isEmpty then .zero false
  else if cs = "Infinity".toList ∨ cs = "+Infinity".toList then .infinity false
  else if cs = "-Infinity".toList then .infinity true
  else if isHexLiteral cs then hexNumber (cs.drop 2)
  else if cs.any isForeignLetter then .nan
  else match Decimal.read? cs with
    | some d => .ofDecimal d
    | none => .nan

def number : Json → Binary64
  | .null => .zero false
  | .bool b => .ofInt (if b then 1 else 0)
  | .number n => n.toBinary64
  | .text s => numeral s
  | .list [] => .zero false
  | .list [v] => number v
  | .list (_ :: _ :: _) => .nan
  | .object _ => .nan

def optionalNumber : Option Json → Binary64
  | some v => number v
  | none => .nan

def isTruthy : Option Json → Bool
  | none | some .null => false
  | some (.bool b) => b
  | some (.number n) => !n.toBinary64.isZero && n.toBinary64 != .nan
  | some (.text s) => !s.isEmpty
  | some (.list _) | some (.object _) => true

/-- Whether a field counts as left out: absent, `null`, white space only, or an empty list. -/
def isBlank : Option Json → Bool
  | none | some .null => true
  | some (.text s) => Text.allBlank s
  | some (.list items) => items.isEmpty
  | some _ => false

/-- The value that a text denotes as JSON, or the text itself. -/
def parseOrText (s : String) : Json :=
  match Json.parse s with
  | .ok v => v
  | .error _ => .text s

end ChatFlow.Coercion
