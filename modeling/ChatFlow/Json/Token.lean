import ChatFlow.Json.Basic
import ChatFlow.Text.Hex

namespace ChatFlow.Json

/-- Why a text cannot be read as a value of the wanted kind. -/
inductive Break
  /-- the text ends too early -/
  | early
  /-- the text is not JSON -/
  | malformed
  /-- the text is JSON, but not of the wanted shape -/
  | mismatch
  deriving DecidableEq, Repr

/-- A place that cannot be read: what a reader that wants the value meets there, and what a reader
that passes over it meets. -/
structure Fault where
  strict : Break
  loose : Break
  deriving DecidableEq, Repr

def Fault.both (b : Break) : Fault := ⟨b, b⟩

/-- A token of a JSON text. Only the last token of a text can be one of the last three. A number too
large for a double, or half of a surrogate pair, is refused only by who wants the value. -/
inductive Token
  | openList
  | closeList
  | openObject
  | closeObject
  | comma
  | colon
  | null
  | bool (b : Bool)
  | number (value : Except Break Number)
  | text (value : Except Break String)
  | brokenText (fault : Fault)
  | brokenScalar (fault : Fault)
  | stray
  deriving Repr

namespace Token

def isSpace (c : Char) : Bool := c = ' ' || c = '\t' || c = '\n' || c = '\r'

/-- The number that is read from digits after `n`, as far as it fits a word, and how many digits are
left. -/
def gather (n : Nat) : List Char → Nat × Nat
  | [] => (n, 0)
  | c :: rest =>
    let next := 10 * n + Decimal.digitValue c
    if next ≤ maxWord then gather next rest else (n, rest.length + 1)

/-- The decimal that digits in front of the point and behind it denote, as far as they fit a word:
the digits that are left of those in front count as zeros, and those that are left of the others do
not count. -/
def decimal (negative : Bool) (whole fraction : List Char) (e : Int) : Decimal :=
  let (n, left) := gather 0 whole
  let (n, left') := gather n fraction
  ⟨negative, n, left + left' - fraction.length + e⟩

/-- The integer that a sign and digits denote; a double where no integer is in range. Negative zero
is a double. -/
def integer (negative : Bool) (digits : List Char) : Number :=
  let n := Decimal.valueOf digits
  if negative then
    if n = 0 then .real (.zero true)
    else if n ≤ maxSignedWord + 1 then .whole (-n)
    else .real (.scale (decimal true digits [] 0))
  else if n ≤ maxWord then .whole n
  else .real (.scale (decimal false digits [] 0))

def bounded : Number → Except Break Number
  | .real x => if x.isFinite then .ok (.real x) else .error .malformed
  | n => .ok n

def cutShort (rest : List Char) : Token :=
  .brokenScalar ⟨if rest.isEmpty then .early else .malformed, .malformed⟩

/-- The exponent of a number: its digits' value, and how many characters it takes. -/
def scanExponent (rest : List Char) : Except Token (Int × Nat) :=
  let (negative, more) := Decimal.takeSign rest
  let digits := more.takeWhile Decimal.isDigit
  if digits.isEmpty then .error (cutShort more)
  else .ok ((if negative then -(Decimal.valueOf digits : Int) else Decimal.valueOf digits),
    rest.length - more.length + digits.length)

/-- An exponent may stand here: the number with it, or `plain` without one, and how many characters
the number takes, where `size` were taken before. -/
def scanExponentPart (plain : Token) (value : Int → Token) (size : Nat) : List Char → Token × Nat
  | [] => (plain, size)
  | c :: rest =>
    if c = 'e' ∨ c = 'E' then match scanExponent rest with
      | .error t => (t, size)
      | .ok (e, n) => (value e, size + 1 + n)
    else (plain, size)

/-- The number with the given digits in front of the point, and how many characters it takes. -/
def scanBehind (negative : Bool) (whole rest : List Char) : Token × Nat :=
  let value (fraction : List Char) (e : Int) : Token :=
    .number (bounded (.real (.scale (decimal negative whole fraction e))))
  let size := negative.toNat + whole.length
  match rest with
  | '.' :: rest =>
    let (fraction, rest) := Decimal.spanDigits rest
    let size := size + 1 + fraction.length
    if fraction.isEmpty then (cutShort rest, size)
    else scanExponentPart (value fraction 0) (value fraction) size rest
  | rest => scanExponentPart (.number (bounded (integer negative whole))) (value []) size rest

/-- The number behind its sign, and how many characters it takes with the sign. -/
def scanUnsigned (negative : Bool) (cs : List Char) : Token × Nat :=
  let (whole, rest) := Decimal.spanDigits cs
  match whole with
  | [] => (cutShort rest, negative.toNat)
  | '0' :: _ :: _ => (.brokenScalar (.both .malformed), negative.toNat)
  | whole => scanBehind negative whole rest

/-- The number at the front of a list, and how many characters it takes. -/
def scanNumber : List Char → Token × Nat
  | '-' :: rest => scanUnsigned true rest
  | cs => scanUnsigned false cs

def hexValue4? (a b c d : Char) : Option Nat := do
  let a ← Text.hexValue? a
  let b ← Text.hexValue? b
  let c ← Text.hexValue? c
  let d ← Text.hexValue? d
  return ((a * 16 + b) * 16 + c) * 16 + d

/-- A text as far as it was read: its characters, last first, and the first half of a surrogate pair
whose second half is due; or why the text has no value. -/
abbrev Partial := Except Break (List Char × Option Nat)

def Partial.push (c : Char) : Partial → Partial
  | .ok (done, none) => .ok (c :: done, none)
  | .ok (_, some _) => .error .malformed
  | .error b => .error b

def Partial.pushUnit (n : Nat) : Partial → Partial
  | .ok (done, none) =>
    if 0xDC00 ≤ n ∧ n ≤ 0xDFFF then .error .malformed
    else if 0xD800 ≤ n ∧ n ≤ 0xDBFF then .ok (done, some n)
    else .ok (Char.ofNat n :: done, none)
  | .ok (done, some high) =>
    if 0xDC00 ≤ n ∧ n ≤ 0xDFFF then
      .ok (Char.ofNat (0x10000 + (high - 0xD800) * 0x400 + (n - 0xDC00)) :: done, none)
    else .error .malformed
  | .error b => .error b

def Partial.close : Partial → Except Break String
  | .ok (done, none) => .ok (.ofList done.reverse)
  | .ok (_, some _) => .error .malformed
  | .error b => .error b

def Partial.breakOff (b : Break) : Partial → Token
  | .ok _ => .brokenText (.both b)
  | .error strict => .brokenText ⟨strict, b⟩

def simpleEscape? : Char → Option Char
  | '"' => some '"'
  | '\\' => some '\\'
  | '/' => some '/'
  | 'b' => some (Char.ofNat 8)
  | 'f' => some (Char.ofNat 12)
  | 'n' => some '\n'
  | 'r' => some '\r'
  | 't' => some '\t'
  | _ => none

/-- The text whose characters start here, up to its closing quotation mark, and how many characters
it takes in all, where `size` were taken before. -/
def scanText (before : Partial) (size : Nat) : List Char → Token × Nat
  | [] => (before.breakOff .early, size)
  | '"' :: _ => (.text before.close, size + 1)
  | ['\\'] => (before.breakOff .early, size)
  | '\\' :: 'u' :: a :: b :: c :: d :: rest =>
    match hexValue4? a b c d with
    | some n => scanText (before.pushUnit n) (size + 6) rest
    | none => (before.breakOff .malformed, size)
  | '\\' :: 'u' :: short =>
    let bytes := short.foldl (fun n c => n + c.utf8Size) 0
    (before.breakOff (if bytes < 4 then .early else .malformed), size)
  | '\\' :: e :: rest =>
    match simpleEscape? e with
    | some c => scanText (before.push c) (size + 2) rest
    | none => (before.breakOff .malformed, size)
  | c :: rest =>
    if c.toNat < 32 then (before.breakOff .malformed, size)
    else scanText (before.push c) (size + 1) rest

def scanWord (word : List Char) (token : Token) (cs : List Char) : Token × Nat :=
  if word.isPrefixOf cs then (token, word.length)
  else if cs.isPrefixOf word then (.brokenScalar (.both .early), 0)
  else (.brokenScalar (.both .malformed), 0)

/-- The token at the front of a list that starts with no white space, and how many characters it
takes. -/
def scan (c : Char) (rest : List Char) : Token × Nat :=
  match c with
  | '[' => (.openList, 1)
  | ']' => (.closeList, 1)
  | '\x7b' => (.openObject, 1)
  | '\x7d' => (.closeObject, 1)
  | ',' => (.comma, 1)
  | ':' => (.colon, 1)
  | '"' => scanText (.ok ([], none)) 1 rest
  | 'n' => scanWord ['n', 'u', 'l', 'l'] .null (c :: rest)
  | 't' => scanWord ['t', 'r', 'u', 'e'] (.bool true) (c :: rest)
  | 'f' => scanWord ['f', 'a', 'l', 's', 'e'] (.bool false) (c :: rest)
  | c => if c = '-' ∨ Decimal.isDigit c then scanNumber (c :: rest) else (.stray, 1)

def isLast : Token → Bool
  | brokenText _ | brokenScalar _ | stray => true
  | _ => false

/-- The tokens of a text whose first `skip` characters are already part of a token. -/
def allAfter : Nat → List Char → List Token
  | _, [] => []
  | skip + 1, _ :: rest => allAfter skip rest
  | 0, c :: rest =>
    if isSpace c then allAfter 0 rest
    else
      let (token, size) := scan c rest
      if token.isLast then [token] else token :: allAfter (size - 1) rest

def all (cs : List Char) : List Token := allAfter 0 cs

end Token

end ChatFlow.Json
